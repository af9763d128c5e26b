import P4tcExamples.Pna.Rewrite

/-! # The arp_respond program

`arp_respond_parser.p4` and `arp_respond.p4`. The parser lets every frame that is
not ARP through, and the control looks `arp_table` up without asking whether
`arp_ipv4` was extracted: the key of a frame without that header is the zeroed
`tpa`, the address 0.0.0.0.
-/
namespace P4tcExamples.ArpRespond
open BitFields

structure ArpT where
  htype : BitVec 16
  ptype : BitVec 16
  hlen : BitVec 8
  plen : BitVec 8
  oper : BitVec 16
deriving DecidableEq, Repr

instance : Layout ArpT where
  widths := [16,16,8,8,16]
  size := 8
  aligned := rfl
  fields :=
    { toFun := fun h => (h.htype,h.ptype,h.hlen,h.plen,h.oper,())
      invFun := fun (t,p,h,l,o,_) => ⟨t,p,h,l,o⟩
      left_inv := fun _ => rfl
      right_inv := fun _ => rfl }

structure ArpIpv4T where
  sha : BitVec 48
  spa : BitVec 32
  tha : BitVec 48
  tpa : BitVec 32
deriving DecidableEq, Repr

instance : Layout ArpIpv4T where
  widths := [48,32,48,32]
  size := 20
  aligned := rfl
  fields :=
    { toFun := fun h => (h.sha,h.spa,h.tha,h.tpa,())
      invFun := fun (s,p,t,q,_) => ⟨s,p,t,q⟩
      left_inv := fun _ => rfl
      right_inv := fun _ => rfl }

@[simp] theorem size_arp : Layout.size ArpT = 8 := rfl
@[simp] theorem size_arpIpv4 : Layout.size ArpIpv4T = 20 := rfl

theorem ArpT.encode_eq (h : ArpT) :
    encode h = toBytes 2 h.htype ++ (toBytes 2 h.ptype ++ (toBytes 1 h.hlen ++
      (toBytes 1 h.plen ++ toBytes 2 h.oper))) := by
  change toBytes (2 + (2 + (1 + (1 + 2))))
    (h.htype ++ (h.ptype ++ (h.hlen ++ (h.plen ++ (h.oper ++ 0#0))))) = _
  rw [toBytes_append _ _ 2 _ rfl, toBytes_append _ _ 2 _ rfl, toBytes_append _ _ 1 _ rfl,
    toBytes_append _ _ 1 _ rfl, toBytes_append_nil]

theorem ArpIpv4T.encode_eq (h : ArpIpv4T) :
    encode h = toBytes 6 h.sha ++ (toBytes 4 h.spa ++ (toBytes 6 h.tha ++ toBytes 4 h.tpa)) := by
  change toBytes (6 + (4 + (6 + 4))) (h.sha ++ (h.spa ++ (h.tha ++ (h.tpa ++ 0#0)))) = _
  rw [toBytes_append _ _ 6 _ rfl, toBytes_append _ _ 4 _ rfl, toBytes_append _ _ 6 _ rfl,
    toBytes_append_nil]

theorem headerAt_arp {f : Frame} {off : ℕ} (h : off + 8 ≤ f.length) :
    headerAt ArpT f off =
      ⟨be 16 f off,be 16 f (off + 2),be 8 f (off + 4),be 8 f (off + 5),be 16 f (off + 6)⟩ := by
  apply encode_injective
  rw [encode_headerAt h, ArpT.encode_eq]
  simp (disch := omega) only [toBytes_be, slice_append_slice, Nat.reduceAdd, size_arp]

theorem headerAt_arpIpv4 {f : Frame} {off : ℕ} (h : off + 20 ≤ f.length) :
    headerAt ArpIpv4T f off =
      ⟨be 48 f off,be 32 f (off + 6),be 48 f (off + 10),be 32 f (off + 16)⟩ := by
  apply encode_injective
  rw [encode_headerAt h, ArpIpv4T.encode_eq]
  simp (disch := omega) only [toBytes_be, slice_append_slice, Nat.reduceAdd, size_arpIpv4]

structure Headers where
  ethernet : Header EthernetT
  arp : Header ArpT
  arpIpv4 : Header ArpIpv4T

def Headers.init : Headers := ⟨.absent EthernetT,.absent ArpT,.absent ArpIpv4T⟩

abbrev ETHERTYPE_ARP : BitVec 16 := 0x0806
abbrev ARP_HTYPE : BitVec 16 := 0x0001
abbrev ARP_PTYPE : BitVec 16 := 0x0800
abbrev ARP_HLEN : BitVec 8 := 6
abbrev ARP_PLEN : BitVec 8 := 4
abbrev ARP_REQ : BitVec 16 := 1
abbrev ARP_REPLY : BitVec 16 := 2

def parseArp (pkt : Frame) : Transition Headers :=
  extract pkt (fun h x => {h with arp := x}) <|
  extract pkt (fun h x => {h with arpIpv4 := x}) fun c =>
    if c.hdr.arp.fields.oper = ARP_REQ then accept c else reject c

def parseEthernet (pkt : Frame) : Transition Headers :=
  extract pkt (fun h x => {h with ethernet := x}) fun c =>
    if c.hdr.ethernet.fields.etherType = ETHERTYPE_ARP then parseArp pkt c else accept c

def parser (pkt : Frame) : Option (Parsed Headers) := parseEthernet pkt ⟨Headers.init,0⟩

inductive ArpAction
  | arpReply (rmac : BitVec 48)
  | drop
deriving DecidableEq, Repr

/-- The entries, keyed on `hdr.arp_ipv4.tpa`. -/
abbrev ArpTable := BitVec 32 → Option ArpAction

abbrev Context := Ctx Headers Unit

/-- The assignments of the action in their order: `tha` and `dstAddr` take the
values that `sha` and `srcAddr` had before they are overwritten. -/
def arpReply (istd : MainInput) (rmac : BitVec 48) (c : Context) : Context :=
  let c := {c with hdr.arp.fields.oper := ARP_REPLY}
  let c := {c with hdr.arpIpv4.fields.tha := c.hdr.arpIpv4.fields.sha}
  let c := {c with hdr.arpIpv4.fields.sha := rmac}
  let c := {c with hdr.arpIpv4.fields.spa := c.hdr.arpIpv4.fields.tpa}
  let c := {c with hdr.ethernet.fields.dstAddr := c.hdr.ethernet.fields.srcAddr}
  let c := {c with hdr.ethernet.fields.srcAddr := rmac}
  {c with out := sendToPort istd.inputPort c.out}

def drop (c : Context) : Context := {c with out := dropPacket c.out}

def ArpAction.apply (istd : MainInput) : ArpAction → Context → Context
  | .arpReply rmac => ArpRespond.arpReply istd rmac
  | .drop => ArpRespond.drop

def arpTable (t : ArpTable) (tpa : BitVec 32) : ArpAction := (t tpa).getD .drop

def ingress (t : ArpTable) (istd : MainInput) (c : Context) : Context :=
  (arpTable t c.hdr.arpIpv4.fields.tpa).apply istd c

def deparser (h : Headers) (_ : Unit) : List Byte :=
  emit h.ethernet ++ (emit h.arp ++ emit h.arpIpv4)

def tcIngressFunc (t : ArpTable) (port : Dev) (pkt : Frame) : Verdict :=
  runPipeline parser () (ingress t) deparser port pkt

abbrev arpOf (f : Frame) : ArpT := headerAt ArpT f 14

abbrev arpIpv4Of (f : Frame) : ArpIpv4T := headerAt ArpIpv4T f 22

/-- Both ARP headers are announced by the ethertype and complete. -/
structure ArpFrame (f : Frame) : Prop where
  etherType : be 16 f 12 = ETHERTYPE_ARP
  length : 42 ≤ f.length

theorem parser_arpFrame {f : Frame} (h : ArpFrame f) :
    parser f = if (arpOf f).oper = ARP_REQ then
      some ⟨⟨⟨true,ethernetOf f⟩,⟨true,arpOf f⟩,⟨true,arpIpv4Of f⟩⟩,42,.noError⟩ else none := by
  have hl := h.length
  have he : (ethernetOf f).etherType = ETHERTYPE_ARP :=
    (etherType_ethernetOf (by omega)).trans h.etherType
  unfold parser parseEthernet
  rw [extract_fits f _ _ (by simp only [size_ethernet]; omega)]
  simp only [he, ↓reduceIte, parseArp]
  rw [extract_fits f _ _ (by simp only [size_ethernet, size_arp]; omega),
    extract_fits f _ _ (by simp only [size_ethernet, size_arp, size_arpIpv4]; omega)]
  rfl

theorem parser_other {f : Frame} (hl : 14 ≤ f.length) (he : be 16 f 12 ≠ ETHERTYPE_ARP) :
    parser f =
      some ⟨⟨⟨true,ethernetOf f⟩,.absent ArpT,.absent ArpIpv4T⟩,14,.noError⟩ := by
  have ht : (ethernetOf f).etherType ≠ ETHERTYPE_ARP := by rwa [etherType_ethernetOf hl]
  unfold parser parseEthernet
  rw [extract_fits f _ _ (by simpa using hl), if_neg ht]
  rfl

/-- Whatever stops the parser short of `arp_ipv4`, the control runs with that
header as it was zeroed. -/
theorem parser_incomplete {f : Frame} (h : ¬ArpFrame f) :
    ∃ p, parser f = some p ∧ p.hdr.arpIpv4 = .absent ArpIpv4T := by
  unfold parser parseEthernet
  by_cases hl : f.length < 14
  · rw [extract_short f _ _ (by simpa using hl)]
    exact ⟨_,rfl,rfl⟩
  · have h14 : 14 ≤ f.length := Nat.not_lt.mp hl
    by_cases ht : be 16 f 12 = ETHERTYPE_ARP
    · have he : (ethernetOf f).etherType = ETHERTYPE_ARP := (etherType_ethernetOf h14).trans ht
      have hs : f.length < 42 := by
        by_contra hc
        exact h ⟨ht,Nat.not_lt.mp hc⟩
      rw [extract_fits f _ _ (by simpa using h14)]
      simp only [he, ↓reduceIte, parseArp]
      by_cases hm : f.length < 22
      · rw [extract_short f _ _ (by simpa using hm)]
        exact ⟨_,rfl,rfl⟩
      · rw [extract_fits f _ _ (by simpa using hm), extract_short f _ _ (by simpa using hs)]
        exact ⟨_,rfl,rfl⟩
    · exact ⟨_,parser_other h14 ht,rfl⟩

/-- The answer on the wire, octet by octet. -/
def reply (rmac : BitVec 48) (f : Frame) : Frame :=
  slice f 6 6 ++ (toBytes 6 rmac ++ (slice f 12 8 ++ (toBytes 2 ARP_REPLY ++
    (toBytes 6 rmac ++ (slice f 38 4 ++ (slice f 22 6 ++ (slice f 38 4 ++ f.drop 42)))))))

theorem deparser_arpReply {f : Frame} (h : ArpFrame f) (istd : MainInput) (rmac : BitVec 48)
    (out : GlobalMeta) :
    deparser (arpReply istd rmac
      ⟨⟨⟨true,ethernetOf f⟩,⟨true,arpOf f⟩,⟨true,arpIpv4Of f⟩⟩,(),out⟩).hdr () ++ f.drop 42 =
        reply rmac f := by
  have hl := h.length
  change encode (⟨_,_,_⟩ : EthernetT) ++ (encode (⟨_,_,_,_,_⟩ : ArpT) ++
    encode (⟨_,_,_,_⟩ : ArpIpv4T)) ++ f.drop 42 = _
  rw [EthernetT.encode_eq, ArpT.encode_eq, ArpIpv4T.encode_eq, ethernetOf,
    headerAt_ethernet (by omega), arpOf, headerAt_arp (by omega), arpIpv4Of,
    headerAt_arpIpv4 (by omega)]
  have hs : slice f 12 8 =
      slice f 12 2 ++ (slice f 14 2 ++ (slice f 16 2 ++ (slice f 18 1 ++ slice f 19 1))) := by
    rw [slice_append_slice f 18 1 1, slice_append_slice f 16 2 2, slice_append_slice f 14 2 4,
      slice_append_slice f 12 2 6]
  simp (disch := omega) only [toBytes_be, Nat.reduceAdd, List.append_assoc, reply, hs]

/-- The verdict on a frame whose key selects an action, given what is sent. -/
def outcome (port : Dev) (sent : BitVec 48 → Frame) : ArpAction → Verdict
  | .arpReply rmac => .redirect port.val (sent rmac)
  | .drop => .shot

theorem tcIngressFunc_parsed {f : Frame} {p : Parsed Headers} (hp : parser f = some p)
    (t : ArpTable) (port : Dev) :
    tcIngressFunc t port f = outcome port (fun rmac => deparser (arpReply ⟨port,p.parserError⟩ rmac
      ⟨p.hdr,(),GlobalMeta.init⟩).hdr () ++ f.drop p.offset)
      (arpTable t p.hdr.arpIpv4.fields.tpa) := by
  simp only [tcIngressFunc, runPipeline, hp, ingress]
  cases arpTable t p.hdr.arpIpv4.fields.tpa with
  | drop => simp only [ArpAction.apply, drop, dispatch_drop, outcome]
  | arpReply rmac => exact dispatch_send f p.offset _ port GlobalMeta.init

theorem tcIngressFunc_arpFrame {f : Frame} (h : ArpFrame f) (t : ArpTable) (port : Dev) :
    tcIngressFunc t port f =
      if (arpOf f).oper = ARP_REQ then
        outcome port (fun rmac => reply rmac f) (arpTable t (arpIpv4Of f).tpa)
      else .shot := by
  have hp := parser_arpFrame h
  by_cases ho : (arpOf f).oper = ARP_REQ
  · rw [if_pos ho] at hp ⊢
    simp only [tcIngressFunc_parsed hp, deparser_arpReply h]
  · rw [if_neg ho] at hp ⊢
    simp only [tcIngressFunc, runPipeline, hp]

theorem tcIngressFunc_other {f : Frame} (hl : 14 ≤ f.length) (he : be 16 f 12 ≠ ETHERTYPE_ARP)
    (t : ArpTable) (port : Dev) :
    tcIngressFunc t port f = outcome port (fun rmac =>
      encode {ethernetOf f with dstAddr := (ethernetOf f).srcAddr, srcAddr := rmac} ++ f.drop 14)
      (arpTable t 0) := by
  have hk : (Header.absent ArpIpv4T).fields.tpa = 0 := rfl
  rw [tcIngressFunc_parsed (parser_other hl he), hk]
  simp only [arpReply, deparser, Header.absent, emit_valid, emit_invalid, List.append_nil]

theorem tcIngressFunc_incomplete {f : Frame} (h : ¬ArpFrame f) (t : ArpTable) (port : Dev) :
    ∃ sent, tcIngressFunc t port f = outcome port sent (arpTable t 0) := by
  obtain ⟨p,hp,hz⟩ := parser_incomplete h
  have hk : p.hdr.arpIpv4.fields.tpa = 0 := by
    rw [hz]
    rfl
  rw [tcIngressFunc_parsed hp, hk]
  exact ⟨_,rfl⟩

end P4tcExamples.ArpRespond
