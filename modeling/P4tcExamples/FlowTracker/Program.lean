import P4tcExamples.Library.ExactMatch
import P4tcExamples.Pna.Rewrite

/-! # The flow trackers

`flowtracker` and `flowtracker_ipv6` are one program over two network headers. The
control looks up a key in `ct_flow_table` without asking which headers are valid,
and a miss adds the key. A frame therefore acts on the table only through the key
that the control builds from it, `sought`.
-/
namespace P4tcExamples.FlowTracker
open BitFields

/-- What the two programs differ in: the ethertype they select on and the header
behind it, with its contribution to the key. -/
class Network (α : Type) [Layout α] where
  etherType : BitVec 16
  addrBits : ℕ
  srcAddr : α → BitVec addrBits
  dstAddr : α → BitVec addrBits
  protocol : α → BitVec 8

instance : Network Ipv4T where
  etherType := 0x0800
  addrBits := 32
  srcAddr := Ipv4T.srcAddr
  dstAddr := Ipv4T.dstAddr
  protocol := Ipv4T.protocol

instance : Network Ipv6T where
  etherType := 0x86DD
  addrBits := 128
  srcAddr := Ipv6T.srcAddr
  dstAddr := Ipv6T.dstAddr
  protocol := Ipv6T.nextHdr

structure FlowKey (addrBits : ℕ) where
  inputPort : Dev
  srcAddr : BitVec addrBits
  dstAddr : BitVec addrBits
  protocol : BitVec 8
  srcPort : BitVec 16
  dstPort : BitVec 16
deriving DecidableEq, Repr

inductive FlowAction
  | noAction
deriving DecidableEq, Repr

structure Metadata where
  srcPort : BitVec 16
  dstPort : BitVec 16

def Metadata.init : Metadata := ⟨0,0⟩

abbrev IP_PROTO_TCP : BitVec 8 := 0x6
abbrev IP_PROTO_UDP : BitVec 8 := 0x11

/-- The number of entries the table template reserves. -/
def tentries : ℕ := 2048

structure Headers (α : Type) where
  eth : Header EthernetT
  ip : Header α
  tcp : Header TcpT
  udp : Header UdpT

section Program
variable (α : Type) [Layout α] [Network α]

abbrev Key := FlowKey (Network.addrBits α)

abbrev FlowTable := ExactMatch.Table (Key α) FlowAction

abbrev Context := Ctx (Headers α) Metadata

def Headers.init : Headers α := ⟨.absent EthernetT,.absent α,.absent TcpT,.absent UdpT⟩

variable {α}

def parseTcp (pkt : Frame) : Transition (Headers α) :=
  extract pkt (fun h x => {h with tcp := x}) accept

def parseUdp (pkt : Frame) : Transition (Headers α) :=
  extract pkt (fun h x => {h with udp := x}) accept

def parseIp (pkt : Frame) : Transition (Headers α) :=
  extract pkt (fun h x => {h with ip := x}) fun c =>
    if Network.protocol c.hdr.ip.fields = IP_PROTO_TCP then parseTcp pkt c
    else if Network.protocol c.hdr.ip.fields = IP_PROTO_UDP then parseUdp pkt c
    else reject c

def start (pkt : Frame) : Transition (Headers α) :=
  extract pkt (fun h x => {h with eth := x}) fun c =>
    if c.hdr.eth.fields.etherType = Network.etherType α then parseIp pkt c else reject c

def parser (pkt : Frame) : Option (Parsed (Headers α)) := start pkt ⟨Headers.init α,0⟩

def setPorts (c : Context α) : Context α :=
  if c.hdr.tcp.isValid then
    {c with usermeta := ⟨c.hdr.tcp.fields.srcPort,c.hdr.tcp.fields.dstPort⟩}
  else if c.hdr.udp.isValid then
    {c with usermeta := ⟨c.hdr.udp.fields.srcPort,c.hdr.udp.fields.dstPort⟩}
  else c

def keyOf (istd : MainInput) (c : Context α) : Key α :=
  { inputPort := istd.inputPort
    srcAddr := Network.srcAddr c.hdr.ip.fields
    dstAddr := Network.dstAddr c.hdr.ip.fields
    protocol := Network.protocol c.hdr.ip.fields
    srcPort := c.usermeta.srcPort
    dstPort := c.usermeta.dstPort }

def ctFlowMiss (key : Key α) (t : FlowTable α) : FlowTable α :=
  ExactMatch.add tentries key .noAction t

def ctFlowTable (key : Key α) (t : FlowTable α) : FlowTable α :=
  match ExactMatch.lookup t key with
  | some .noAction => t
  | none => ctFlowMiss key t

def main (t : FlowTable α) (istd : MainInput) (c : Context α) : FlowTable α × Context α :=
  let c := setPorts c
  (ctFlowTable (keyOf istd c) t,c)

def deparser (h : Headers α) (_ : Metadata) : List Byte :=
  emit h.eth ++ emit h.ip ++ emit h.tcp ++ emit h.udp

def tcIngressFunc (t : FlowTable α) (port : Dev) (pkt : Frame) : FlowTable α × Verdict :=
  match parser pkt with
  | none => (t,.shot)
  | some p =>
    let r := main t ⟨port,p.parserError⟩ ⟨p.hdr,Metadata.init,GlobalMeta.init⟩
    (r.1,dispatch pkt p.offset (deparser r.2.hdr r.2.usermeta) r.2.out)

abbrev flowtracker := tcIngressFunc (α := Ipv4T)
abbrev flowtrackerIpv6 := tcIngressFunc (α := Ipv6T)

variable (α)

/-- What can happen to a table: a frame arrives, an entry's idle timer runs out,
or the control plane deletes an entry. -/
inductive Event
  | frame (port : Dev) (pkt : Frame)
  | idleTimeout (key : Key α)
  | delete (key : Key α)

variable {α}

def step (t : FlowTable α) : Event α → FlowTable α
  | .frame port pkt => (tcIngressFunc t port pkt).1
  | .idleTimeout key => ExactMatch.remove key t
  | .delete key => ExactMatch.remove key t

def run (events : List (Event α)) : FlowTable α := events.foldl step []

theorem run_concat (events : List (Event α)) (e : Event α) :
    run (events ++ [e]) = step (run events) e := by
  rw [run, List.foldl_append]
  rfl

/-- The key a frame is looked up by, if it reaches the control. -/
def sought (port : Dev) (pkt : Frame) : Option (Key α) :=
  (parser pkt).map fun p =>
    keyOf ⟨port,p.parserError⟩ (setPorts ⟨p.hdr,Metadata.init,GlobalMeta.init⟩)

def hitEntry (t : FlowTable α) (port : Dev) (pkt : Frame) : Option ℕ :=
  (sought port pkt).bind (ExactMatch.position t)

theorem ctFlowTable_eq (key : Key α) (t : FlowTable α) :
    ctFlowTable key t = ExactMatch.addOnMiss tentries key .noAction t := by
  unfold ctFlowTable ExactMatch.addOnMiss
  cases hl : ExactMatch.lookup t key with
  | none => rw [if_neg (ExactMatch.lookup_eq_none.mp hl), ctFlowMiss]
  | some a =>
    have hk : key ∈ ExactMatch.keys t := by
      by_contra hn
      rw [ExactMatch.lookup_eq_none.mpr hn] at hl
      cases hl
    rw [if_pos hk]

theorem step_frame (t : FlowTable α) (port : Dev) (pkt : Frame) :
    step t (.frame port pkt) =
      (sought port pkt).elim t fun key => ExactMatch.addOnMiss tentries key .noAction t := by
  cases hp : parser (α := α) pkt with
  | none => simp only [step, tcIngressFunc, sought, hp, Option.map_none, Option.elim_none]
  | some p =>
    simp only [step, tcIngressFunc, sought, hp, Option.map_some, Option.elim_some, main]
    exact ctFlowTable_eq _ t

end Program

end P4tcExamples.FlowTracker
