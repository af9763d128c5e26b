import P4tcExamples.Generated.Tables
import P4tcExamples.FlowTracker.Transparency

/-! # The flow trackers as generated

`flowtracker` and `flowtracker_ipv6` differ in the network header and in how its
addresses reach the key. How the kernel keeps the table is not in this repository: it
is any kernel whose lookups and whose entries created on a miss are those of the P4
program's table under the octets of the keys.
-/
namespace P4tcExamples.FlowTracker
open BitFields Generated

/-- What the two `Main_ct_flow_table_key` structs take from the network header. -/
class NetworkStruct (α : Type) [Layout α] [Network α] [Compiled α] where
  addrOctets : ℕ
  srcAddr : ByteOrder → Compiled.Struct α → List Byte
  dstAddr : ByteOrder → Compiled.Struct α → List Byte
  protocol : Compiled.Struct α → BitVec 8
  addrBits_eq : Network.addrBits α = 8*addrOctets
  srcAddr_eq : ∀ {o : ByteOrder} {c : Compiled.Struct α} {h : α}, Compiled.Represents o c h →
    srcAddr o c = toBytes addrOctets (Network.srcAddr h)
  dstAddr_eq : ∀ {o : ByteOrder} {c : Compiled.Struct α} {h : α}, Compiled.Represents o c h →
    dstAddr o c = toBytes addrOctets (Network.dstAddr h)
  protocol_eq : ∀ {o : ByteOrder} {c : Compiled.Struct α} {h : α}, Compiled.Represents o c h →
    protocol c = Network.protocol h

instance : NetworkStruct Ipv4T where
  addrOctets := 4
  srcAddr o c := o.store 4 (Ipv4Struct.srcAddr c)
  dstAddr o c := o.store 4 (Ipv4Struct.dstAddr c)
  protocol := Ipv4Struct.protocol
  addrBits_eq := rfl
  srcAddr_eq h := Ipv4Struct.Represents.srcAddr h
  dstAddr_eq h := Ipv4Struct.Represents.dstAddr h
  protocol_eq h := Ipv4Struct.Represents.protocol h

instance : NetworkStruct Ipv6T where
  addrOctets := 16
  srcAddr _ c := (Ipv6Struct.srcAddr c).toList
  dstAddr _ c := (Ipv6Struct.dstAddr c).toList
  protocol := Ipv6Struct.nextHdr
  addrBits_eq := rfl
  srcAddr_eq h := Ipv6Struct.Represents.srcAddr h
  dstAddr_eq h := Ipv6Struct.Represents.dstAddr h
  protocol_eq h := Ipv6Struct.Represents.nextHdr h

/-- `struct headers_t`. -/
structure HeadersStruct (α : Type) [Layout α] [Compiled α] where
  eth : HeaderStruct EthernetT
  ip : HeaderStruct α
  tcp : HeaderStruct TcpT
  udp : HeaderStruct UdpT

structure HeadersStruct.Represents {α : Type} [Layout α] [Compiled α] (o : ByteOrder)
    (c : HeadersStruct α) (h : Headers α) : Prop where
  eth : c.eth.Represents o h.eth
  ip : c.ip.Represents o h.ip
  tcp : c.tcp.Represents o h.tcp
  udp : c.udp.Represents o h.udp

abbrev MAIN_CT_FLOW_TABLE_ACT_NOACTION : BitVec 32 := 0
abbrev MAIN_CT_FLOW_TABLE_ACT_MAIN_CT_FLOW_MISS : BitVec 32 := 1

/-- The table as the kernel keeps it in `σ`. -/
structure Kernel (σ : Type) where
  entries : σ → Entries
  entryCreateOnMiss : List Byte → ActBpf → σ → σ
  remove : List Byte → σ → σ

/-- `default_miss_action` of the template. -/
def ctFlowMissAct : ActBpf := ⟨MAIN_CT_FLOW_TABLE_ACT_MAIN_CT_FLOW_MISS,[]⟩

def noActionAct : ActBpf := ⟨MAIN_CT_FLOW_TABLE_ACT_NOACTION,[]⟩

section Code
variable {σ α : Type} [Layout α] [Network α] [Compiled α] [NetworkStruct α] (o : ByteOrder)
  (kernel : Kernel σ)

def parseTcpBlock (pkt : Frame) : Code (HeadersStruct α) :=
  extractBlock o pkt (·.tcp) (fun h x => {h with tcp := x}) acceptLabel

def parseUdpBlock (pkt : Frame) : Code (HeadersStruct α) :=
  extractBlock o pkt (·.udp) (fun h x => {h with udp := x}) acceptLabel

def parseIpBlock (pkt : Frame) : Code (HeadersStruct α) :=
  extractBlock o pkt (·.ip) (fun h x => {h with ip := x}) fun l =>
    if NetworkStruct.protocol l.hdr.ip.fields = 0x6 then parseTcpBlock o pkt l
    else if NetworkStruct.protocol l.hdr.ip.fields = 0x11 then parseUdpBlock o pkt l
    else defaultCase (NetworkStruct.protocol l.hdr.ip.fields) (rejectLabel NoError) l

def startBlock (pkt : Frame) : Code (HeadersStruct α) :=
  extractBlock o pkt (·.eth) (fun h x => {h with eth := x}) fun l =>
    if l.hdr.eth.fields.etherType = Network.etherType α then parseIpBlock o pkt l
    else defaultCase l.hdr.eth.fields.etherType (rejectLabel NoError) l

def setPortsBlock (c : ControlState (HeadersStruct α) Metadata) :
    ControlState (HeadersStruct α) Metadata :=
  if c.hdr.tcp.ebpfValid ≠ 0 then
    {c with usermeta := ⟨c.hdr.tcp.fields.srcPort,c.hdr.tcp.fields.dstPort⟩}
  else if c.hdr.udp.ebpfValid ≠ 0 then
    {c with usermeta := ⟨c.hdr.udp.fields.srcPort,c.hdr.udp.fields.dstPort⟩}
  else c

/-- The fields of `Main_ct_flow_table_key` behind `keysz` and `maskid`. -/
def keyBlock (ifindex : BitVec 32) (c : ControlState (HeadersStruct α) Metadata) : List Byte :=
  o.store 4 ifindex ++ NetworkStruct.srcAddr o c.hdr.ip.fields ++
    NetworkStruct.dstAddr o c.hdr.ip.fields ++ [NetworkStruct.protocol c.hdr.ip.fields] ++
    o.store 2 (bpfHtons o c.usermeta.srcPort) ++ o.store 2 (bpfHtons o c.usermeta.dstPort)

/-- `bpf_p4tc_tbl_read`. -/
def ctFlowTableRead (s : σ) (key : List Byte) : Option ActBpf :=
  tblRead (kernel.entries s) (some ctFlowMissAct) key

/-- The `switch` over the action of the lookup. -/
def ctFlowTableBlock (key : List Byte) (value : Option ActBpf) (s : σ) : σ :=
  match value with
  | none => s
  | some value =>
    if value.actId = MAIN_CT_FLOW_TABLE_ACT_NOACTION then s
    else if value.actId = MAIN_CT_FLOW_TABLE_ACT_MAIN_CT_FLOW_MISS then
      kernel.entryCreateOnMiss key noActionAct s
    else s

def mainBlock (ifindex : BitVec 32) (s : σ) (c : ControlState (HeadersStruct α) Metadata) :
    σ × ControlState (HeadersStruct α) Metadata :=
  let c := setPortsBlock c
  let key := keyBlock o ifindex c
  (ctFlowTableBlock kernel key (ctFlowTableRead kernel s key) s,c)

variable (α)

def generated : Program σ (HeadersStruct α) Metadata where
  hdr := ⟨.zero EthernetT,.zero α,.zero TcpT,.zero UdpT⟩
  usermeta := ⟨0,0⟩
  start := startBlock o
  control := mainBlock o kernel
  deparser h _ := [emission o h.eth,emission o h.ip,emission o h.tcp,emission o h.udp]

end Code

section Source
variable {α : Type} [Layout α] [Network α]

def source : Source (FlowTable α) (Headers α) Metadata where
  parser := parser
  usermeta := Metadata.init
  main := main
  deparser := deparser

theorem run_source (t : FlowTable α) (port : Dev) (pkt : Frame) :
    source.run t port pkt = tcIngressFunc t port pkt := by
  unfold tcIngressFunc
  cases hp : parser (α := α) pkt with
  | none => simp only [Source.run, source, hp]
  | some p => simp only [Source.run, source, hp, Source.control, Source.emitted]

theorem parser_laid {pkt : Frame} {p : Parsed (Headers α)} (hp : parser pkt = some p) :
    pkt.length < 14 ∧ p = ⟨Headers.init α,0,.packetTooShort⟩ ∨
      Laid 14 (deparser · Metadata.init) pkt p.hdr p.offset := by
  rw [parser, start] at hp
  refine laid_or_short (fun x => ?_) ?_ hp
  · simp [deparser, Headers.init, Header.absent]
  · refine .select ?_ .reject
    refine .extract (R := fun c => Laid 14 (deparser · Metadata.init) pkt c.hdr c.offset ∧
      c.hdr.tcp = .absent TcpT ∧ c.hdr.udp = .absent UdpT) (fun c hc => hc.1.1) ?_ ?_
    · rintro c ⟨⟨hl,y,hy⟩,_⟩ hfit
      refine ⟨hl.extract hfit ?_,by rw [hy]; rfl,by rw [hy]; rfl⟩
      simp [hy, deparser, Headers.init, Header.absent]
    · refine .select (.laid_accept (fun c hc => hc.1.1) fun c x hc => ?_)
        (.select (.laid_accept (fun c hc => hc.1.1.1) fun c x hc => ?_) .reject)
      · obtain ⟨⟨_,ht,hu⟩,_⟩ := hc
        simp [ht, hu, deparser, Header.absent]
      · obtain ⟨⟨⟨_,ht,hu⟩,_⟩,_⟩ := hc
        simp [ht, hu, deparser, Header.absent]

theorem length_emitted (t : FlowTable α) (port : Dev) (p : Parsed (Headers α)) :
    (source.emitted t port p).length = (deparser p.hdr Metadata.init).length := by
  have hh := (main_keeps t ⟨port,p.parserError⟩ ⟨p.hdr,Metadata.init,GlobalMeta.init⟩).1
  simp only [Source.emitted, Source.control, source, deparser, hh]

end Source

section Refinement
variable {α : Type} [Layout α] [Network α] [Compiled α] [NetworkStruct α] (o : ByteOrder)

/-- The octets by which the kernel knows a key. -/
def keyImage (key : Key α) : List Byte :=
  o.store 4 key.inputPort.val ++ toBytes (NetworkStruct.addrOctets α) key.srcAddr ++
    toBytes (NetworkStruct.addrOctets α) key.dstAddr ++ [key.protocol] ++ toBytes 2 key.srcPort ++
    toBytes 2 key.dstPort

theorem keyImage_injective : Function.Injective (keyImage (α := α) o) := by
  intro k l h
  have hw : Network.addrBits α = 8*NetworkStruct.addrOctets α := NetworkStruct.addrBits_eq
  obtain ⟨h,h5⟩ := List.append_inj' h (by simp)
  obtain ⟨h,h4⟩ := List.append_inj' h (by simp)
  obtain ⟨h,h3⟩ := List.append_inj' h (by simp)
  obtain ⟨h,h2⟩ := List.append_inj' h (by simp)
  obtain ⟨h0,h1⟩ := List.append_inj' h (by simp)
  obtain ⟨port,src,dst,proto,sp,dp⟩ := k
  obtain ⟨port',src',dst',proto',sp',dp'⟩ := l
  obtain rfl : port = port' := Subtype.ext (store_injective o (show 32 = 8*4 from rfl) h0)
  obtain rfl : src = src' := store_injective .big hw h1
  obtain rfl : dst = dst' := store_injective .big hw h2
  obtain rfl : sp = sp' := store_injective .big (show 16 = 8*2 from rfl) h4
  obtain rfl : dp = dp' := store_injective .big (show 16 = 8*2 from rfl) h5
  cases h3
  rfl

def FlowAction.Holds (v : ActBpf) : FlowAction → Prop
  | .noAction => v.actId = MAIN_CT_FLOW_TABLE_ACT_NOACTION

/-- What the kernel promises of tables that hold `S` the entries of the P4 program. An
entry that is already there, or a full table, stays as it is. -/
structure Kernel.Keeps {σ : Type} (kernel : Kernel σ) (S : σ → FlowTable α → Prop) : Prop where
  entries : ∀ {s t}, S s t →
    Holds (keyImage o) FlowAction.Holds (kernel.entries s) (ExactMatch.lookup t)
  entryCreateOnMiss : ∀ {s t} (key : Key α), S s t →
    S (kernel.entryCreateOnMiss (keyImage o key) noActionAct s)
      (ExactMatch.addOnMiss tentries key .noAction t)

/-- The same with entries that timers or the control plane take out. -/
structure Kernel.Tracks {σ : Type} (kernel : Kernel σ) (S : σ → FlowTable α → Prop) : Prop
    extends Kernel.Keeps o kernel S where
  remove : ∀ {s t} (key : Key α), S s t →
    S (kernel.remove (keyImage o key) s) (ExactMatch.remove key t)

/-- A kernel that keeps its entries in the order of insertion. -/
def listKernel : Kernel (ExactMatch.Table (List Byte) ActBpf) where
  entries := ExactMatch.lookup
  entryCreateOnMiss := ExactMatch.addOnMiss tentries
  remove := ExactMatch.remove

def FlowAction.act : FlowAction → ActBpf
  | .noAction => noActionAct

/-- The table of the P4 program in such a kernel. -/
def tableImage (t : FlowTable α) : ExactMatch.Table (List Byte) ActBpf :=
  ExactMatch.mapEntries (keyImage o) FlowAction.act t

theorem listKernel_tracks : listKernel.Tracks o fun s (t : FlowTable α) => s = tableImage o t where
  entries := by
    rintro _ t rfl key
    have hl : listKernel.entries (tableImage o t) (keyImage o key) =
        (ExactMatch.lookup t key).map FlowAction.act :=
      ExactMatch.lookup_mapEntries (keyImage_injective o) _ t key
    rw [hl]
    cases ExactMatch.lookup t key with
    | none => exact .none
    | some a =>
      cases a with
      | noAction => exact .some rfl
  entryCreateOnMiss := by
    rintro _ t key rfl
    exact (ExactMatch.addOnMiss_mapEntries (keyImage_injective o) FlowAction.act t key tentries
      .noAction).symm
  remove := by
    rintro _ t key rfl
    exact (ExactMatch.remove_mapEntries (keyImage_injective o) FlowAction.act t key).symm

section Lookup
variable {o : ByteOrder} {σ : Type} {kernel : Kernel σ} {S : σ → FlowTable α → Prop}
  (hk : kernel.Keeps o S) {s : σ} {t : FlowTable α} (hs : S s t) (key : Key α)
include hk hs

theorem Kernel.Keeps.read : ∃ v, ctFlowTableRead kernel s (keyImage o key) = some v ∧
    v.actId = if key ∈ ExactMatch.keys t then MAIN_CT_FLOW_TABLE_ACT_NOACTION
      else MAIN_CT_FLOW_TABLE_ACT_MAIN_CT_FLOW_MISS := by
  rw [ctFlowTableRead, tblRead]
  rcases (hk.entries hs).lookup_cases key with ⟨he,ht⟩ | ⟨a,v,he,ht,hv⟩
  · rw [he, Option.none_or, if_neg (ExactMatch.lookup_eq_none.mp ht)]
    exact ⟨_,rfl,rfl⟩
  · have hmem : key ∈ ExactMatch.keys t := by
      by_contra hn
      rw [ExactMatch.lookup_eq_none.mpr hn] at ht
      cases ht
    rw [he, Option.some_or, if_pos hmem]
    cases v with
    | noAction => exact ⟨a,rfl,hv⟩

/-- One lookup of the generated control, on a table that nobody else changes. -/
theorem Kernel.Keeps.ctFlowTable :
    S (ctFlowTableBlock kernel (keyImage o key) (ctFlowTableRead kernel s (keyImage o key)) s)
      (ctFlowTable key t) := by
  obtain ⟨v,hv,ha⟩ := hk.read hs key
  rw [hv, ctFlowTable_eq, ctFlowTableBlock]
  by_cases hmem : key ∈ ExactMatch.keys t
  · rw [if_pos hmem] at ha
    rw [if_pos ha, ExactMatch.addOnMiss, if_pos hmem]
    exact hs
  · rw [if_neg hmem] at ha
    rw [if_neg (by rw [ha]; decide), if_pos ha]
    exact hk.entryCreateOnMiss key hs

end Lookup

theorem simulates_parseIp (pkt : Frame) :
    Simulates (HeadersStruct.Represents (α := α) o) pkt (parseIpBlock o pkt) (parseIp pkt) := by
  refine .extract (fun _ _ _ _ hr hx => ⟨hr.eth,hx,hr.tcp,hr.udp⟩)
    (.select ?_ (.extract (fun _ _ _ _ hr hx => ⟨hr.eth,hr.ip,hx,hr.udp⟩) .accept)
      (.select ?_ (.extract (fun _ _ _ _ hr hx => ⟨hr.eth,hr.ip,hr.tcp,hx⟩) .accept)
        (.default .reject)))
  · intro l c hr
    rw [NetworkStruct.protocol_eq hr.ip.fields]
  · intro l c hr
    rw [NetworkStruct.protocol_eq hr.ip.fields]

theorem simulates_start (pkt : Frame) :
    Simulates (HeadersStruct.Represents (α := α) o) pkt (startBlock o pkt) (start pkt) := by
  refine .extract (fun _ _ _ _ hr hx => ⟨hx,hr.ip,hr.tcp,hr.udp⟩)
    (.select ?_ (simulates_parseIp o pkt) (.default .reject))
  intro l c hr
  rw [hr.eth.fields.etherType]

theorem represents_init {σ : Type} (kernel : Kernel σ) :
    HeadersStruct.Represents o (generated α o kernel).hdr (Headers.init α) :=
  ⟨HeaderStruct.represents_zero o,HeaderStruct.represents_zero o,HeaderStruct.represents_zero o,
    HeaderStruct.represents_zero o⟩

theorem emits_deparser {o : ByteOrder} {σ : Type} (kernel : Kernel σ) {c : HeadersStruct α}
    {h : Headers α} (hr : c.Represents o h) (m : Metadata) :
    ∃ bss, List.Forall₂ Emits ((generated α o kernel).deparser c m) bss ∧
      bss.flatten = deparser h m := by
  refine ⟨_,.cons (emits_emission hr.eth) (.cons (emits_emission hr.ip)
    (.cons (emits_emission hr.tcp) (.cons (emits_emission hr.udp) .nil))),?_⟩
  simp [deparser]

omit [Network α] [NetworkStruct α] in
theorem setPortsBlock_spec {o : ByteOrder} {hdr : HeadersStruct α} {h : Headers α}
    (hr : hdr.Represents o h) (u : Metadata) (m : CompilerMeta) (out : GlobalMeta) :
    setPortsBlock ⟨hdr,u,m⟩ = ⟨hdr,(setPorts ⟨h,u,out⟩).usermeta,m⟩ := by
  have ht : hdr.tcp.fields = ⟨h.tcp.fields.srcPort,h.tcp.fields.dstPort⟩ := hr.tcp.fields
  have hu : hdr.udp.fields = ⟨h.udp.fields.srcPort,h.udp.fields.dstPort⟩ := hr.udp.fields
  unfold setPortsBlock setPorts
  by_cases hv : h.tcp.isValid = true
  · simp only [if_pos hv, if_pos (hr.tcp.isValid.mpr hv), ht]
  · simp only [if_neg hv, if_neg (mt hr.tcp.isValid.mp hv)]
    by_cases hw : h.udp.isValid = true
    · simp only [if_pos hw, if_pos (hr.udp.isValid.mpr hw), hu]
    · simp only [if_neg hw, if_neg (mt hr.udp.isValid.mp hw)]

theorem keyBlock_eq {o : ByteOrder} {hdr : HeadersStruct α} {x : Context α}
    (hr : hdr.Represents o x.hdr) (m : CompilerMeta) (istd : MainInput) :
    keyBlock o istd.inputPort.val ⟨hdr,x.usermeta,m⟩ = keyImage o (keyOf istd x) := by
  rw [keyBlock, keyImage, NetworkStruct.srcAddr_eq hr.ip.fields,
    NetworkStruct.dstAddr_eq hr.ip.fields, NetworkStruct.protocol_eq hr.ip.fields, store_htons,
    store_htons]
  rfl

section Delivery
variable {o : ByteOrder} {σ : Type} {kernel : Kernel σ} {S : σ → FlowTable α → Prop}
  (hk : kernel.Keeps o S)
include hk

theorem Kernel.Keeps.controlledAs {s : σ} {t : FlowTable α} (hs : S s t) {hdr : HeadersStruct α}
    {h : Headers α} (hr : hdr.Represents o h) {m : CompilerMeta} {out : GlobalMeta}
    (hm : MetaAs m out) (istd : MainInput) :
    ControlledAs (generated α o kernel) source S
      (mainBlock o kernel istd.inputPort.val s ⟨hdr,Metadata.init,m⟩)
      (main t istd ⟨h,Metadata.init,out⟩) := by
  obtain ⟨hh,ho⟩ := main_keeps t istd ⟨h,Metadata.init,out⟩
  have hr' : hdr.Represents o (main t istd ⟨h,Metadata.init,out⟩).2.hdr := by
    rw [hh]
    exact hr
  have hp : setPortsBlock ⟨hdr,Metadata.init,m⟩ =
      ⟨hdr,(main t istd ⟨h,Metadata.init,out⟩).2.usermeta,m⟩ := setPortsBlock_spec hr _ m out
  have hkey : keyBlock o istd.inputPort.val
      ⟨hdr,(main t istd ⟨h,Metadata.init,out⟩).2.usermeta,m⟩ = keyImage o _ :=
    keyBlock_eq hr' m istd
  unfold mainBlock
  simp only [hp, hkey]
  refine ⟨hk.ctFlowTable hs _,emits_deparser kernel hr' _,?_,?_⟩
  · rw [ho]
    exact hm.drop
  · rw [ho]
    exact hm.egressPort

theorem Kernel.Keeps.refines :
    RefinesInPlace (generated α o kernel) source S (HeadersStruct.Represents o) where
  parses pkt m := simulates_start o pkt ⟨_,0,0,m⟩ ⟨Headers.init α,0⟩
    ⟨represents_init o kernel,rfl,rfl,Nat.zero_le _⟩
  controls port _ _ _ hs hr hd he := hk.controlledAs hs hr ⟨hd,he⟩ ⟨port,_⟩
  framed t port hp := (framed_of_laid (parser_laid hp) rfl (length_emitted t port _)).1
  again t port pkt f hf hn := by
    rw [run_source] at hf
    rcases verdict_cases pkt t port with hv | hv
    · rw [hv] at hf
      cases hf
    · rw [hv] at hf
      cases hf
      have hp : source.parser pkt = parser (α := α) pkt := rfl
      rw [tcIngressFunc, ← hp, hn] at hv
      cases hv
  unresized t port hp := (framed_of_laid (parser_laid hp) rfl (length_emitted t port _)).2

/-- On either kind of host, and whatever `bpf_skb_adjust_room` does, the generated
program delivers what the flow tracker says and leaves the kernel its table. -/
theorem flowTracker_delivers (adjustRoom : AdjustRoom) {s : σ} {t : FlowTable α} (hs : S s t)
    {skb : Skb} {port : Dev} (ha : Arrives skb port) :
    (Runt skb → deliver (generated α o kernel) adjustRoom s skb = (s,.shot)) ∧
    (¬Runt skb →
      S (deliver (generated α o kernel) adjustRoom s skb).1 (tcIngressFunc t port skb.data).1 ∧
      (deliver (generated α o kernel) adjustRoom s skb).2 =
        (tcIngressFunc t port skb.data).2) := by
  have h := hk.refines.deliver adjustRoom ha hs
  rw [run_source] at h
  constructor
  · intro hr
    exact hk.refines.deliver_runt adjustRoom ha hr
  · intro hr
    rw [if_neg hr, if_neg hr] at h
    exact h

end Delivery

end Refinement

def sampleFlow : Frame :=
  encode (⟨0x101011111111,0x020304050601,0x86dd⟩ : EthernetT) ++
    (encode (⟨6,0,0,20,6,64,0xfd00 <<< 112,(0xfd00 <<< 112) + 1⟩ : Ipv6T) ++
    (encode (⟨4242,443⟩ : TcpT) ++ List.replicate 16 0))

theorem flowTracker_delivers_first :
    (deliver (generated Ipv6T .big listKernel) (fun _ _ => none) []
        ⟨sampleFlow,[],dev1.val,.zero⟩).2 = .kernel sampleFlow ∧
      (deliver (generated Ipv6T .big listKernel) (fun _ _ => none) []
        ⟨sampleFlow,[],dev1.val,.zero⟩).1.length = 1 := by
  have hk := (listKernel_tracks (α := Ipv6T) .big).toKeeps
  obtain ⟨ht,hv⟩ := (flowTracker_delivers hk (fun _ _ => none) (s := []) (t := []) rfl
    (arrives_bare sampleFlow dev1)).2 (not_runt_bare sampleFlow dev1)
  rw [ht, hv]
  exact ⟨by decide +kernel,by decide +kernel⟩

end P4tcExamples.FlowTracker
