import P4tcExamples.FlowTracker.Program

/-! # The key of a frame, by its octets

For each exit of the parser the key that the control looks up is given by the
octets of the frame: the six components of a complete TCP or UDP frame, the same
with zeros for what did not fit on a frame that is too short, and no key on an
explicit reject.
-/
namespace P4tcExamples.FlowTracker
open BitFields

/-- Where the key fields of a network header stand on the wire. -/
class Located (α : Type) [Layout α] [Network α] where
  srcAt : ℕ
  dstAt : ℕ
  protocolAt : ℕ
  srcAddr_eq : ∀ {f : Frame} {off : ℕ}, off + Layout.size α ≤ f.length →
    Network.srcAddr (headerAt α f off) = be (Network.addrBits α) f (off + srcAt)
  dstAddr_eq : ∀ {f : Frame} {off : ℕ}, off + Layout.size α ≤ f.length →
    Network.dstAddr (headerAt α f off) = be (Network.addrBits α) f (off + dstAt)
  protocol_eq : ∀ {f : Frame} {off : ℕ}, off + Layout.size α ≤ f.length →
    Network.protocol (headerAt α f off) = be 8 f (off + protocolAt)
  srcAddr_zeroed : Network.srcAddr (zeroed α) = 0
  dstAddr_zeroed : Network.dstAddr (zeroed α) = 0
  protocol_zeroed : Network.protocol (zeroed α) = 0

instance : Located Ipv4T where
  srcAt := 12
  dstAt := 16
  protocolAt := 9
  srcAddr_eq := fun h => by rw [headerAt_ipv4 h]; rfl
  dstAddr_eq := fun h => by rw [headerAt_ipv4 h]; rfl
  protocol_eq := fun h => by rw [headerAt_ipv4 h]; rfl
  srcAddr_zeroed := by decide +kernel
  dstAddr_zeroed := by decide +kernel
  protocol_zeroed := by decide +kernel

instance : Located Ipv6T where
  srcAt := 8
  dstAt := 24
  protocolAt := 6
  srcAddr_eq := fun h => by rw [headerAt_ipv6 h]; rfl
  dstAddr_eq := fun h => by rw [headerAt_ipv6 h]; rfl
  protocol_eq := fun h => by rw [headerAt_ipv6 h]; rfl
  srcAddr_zeroed := by decide +kernel
  dstAddr_zeroed := by decide +kernel
  protocol_zeroed := by decide +kernel

section Octets
variable (α : Type) [Layout α] [Network α] [Located α]

abbrev transportAt : ℕ := 14 + Layout.size α

omit [Network α] [Located α] in
theorem le_transportAt : 14 ≤ transportAt α := Nat.le_add_right 14 _

def Transport (f : Frame) : Prop :=
  be 8 f (14 + Located.protocolAt α) = IP_PROTO_TCP ∨
    be 8 f (14 + Located.protocolAt α) = IP_PROTO_UDP

structure Complete (f : Frame) : Prop where
  etherType : be 16 f 12 = Network.etherType α
  transport : Transport α f
  length : transportAt α + 4 ≤ f.length

/-- The frame ends inside a header that the octets before it announce. -/
def TooShort (f : Frame) : Prop :=
  f.length < 14 ∨ be 16 f 12 = Network.etherType α ∧
    (f.length < transportAt α ∨ Transport α f ∧ f.length < transportAt α + 4)

def Foreign (f : Frame) : Prop :=
  14 ≤ f.length ∧ (be 16 f 12 ≠ Network.etherType α ∨ transportAt α ≤ f.length ∧ ¬Transport α f)

/-- The six components of a complete frame. -/
def flowKey (port : Dev) (f : Frame) : Key α :=
  { inputPort := port
    srcAddr := be (Network.addrBits α) f (14 + Located.srcAt α)
    dstAddr := be (Network.addrBits α) f (14 + Located.dstAt α)
    protocol := be 8 f (14 + Located.protocolAt α)
    srcPort := be 16 f (transportAt α)
    dstPort := be 16 f (transportAt α + 2) }

/-- The key of a frame that is too short: ports, and perhaps more, are missing. -/
def partialKey (port : Dev) (f : Frame) : Key α :=
  if f.length < transportAt α then ⟨port,0,0,0,0,0⟩
  else { flowKey α port f with srcPort := 0, dstPort := 0 }

theorem frame_cases (f : Frame) : Complete α f ∨ TooShort α f ∨ Foreign α f := by
  by_cases hl : f.length < 14
  · exact Or.inr (Or.inl (Or.inl hl))
  by_cases he : be 16 f 12 = Network.etherType α
  · by_cases hs : f.length < transportAt α
    · exact Or.inr (Or.inl (Or.inr ⟨he,Or.inl hs⟩))
    by_cases ht : Transport α f
    · by_cases hp : f.length < transportAt α + 4
      · exact Or.inr (Or.inl (Or.inr ⟨he,Or.inr ⟨ht,hp⟩⟩))
      · exact Or.inl ⟨he,ht,Nat.not_lt.mp hp⟩
    · exact Or.inr (Or.inr ⟨Nat.not_lt.mp hl,Or.inr ⟨Nat.not_lt.mp hs,ht⟩⟩)
  · exact Or.inr (Or.inr ⟨Nat.not_lt.mp hl,Or.inl he⟩)

variable {α} {f : Frame}

omit [Located α] in
theorem parser_start (h : 14 ≤ f.length) : parser (α := α) f =
    if be 16 f 12 = Network.etherType α then
      parseIp f ⟨{Headers.init α with eth := ⟨true,ethernetOf f⟩},14⟩
    else none := by
  rw [parser, start, extract_fits f _ _ (by simpa using h), ← etherType_ethernetOf h]
  rfl

theorem parseIp_fits (h : transportAt α ≤ f.length) (hd : Headers α) : parseIp f ⟨hd,14⟩ =
    if be 8 f (14 + Located.protocolAt α) = IP_PROTO_TCP then
      parseTcp f ⟨{hd with ip := ⟨true,headerAt α f 14⟩},transportAt α⟩
    else if be 8 f (14 + Located.protocolAt α) = IP_PROTO_UDP then
      parseUdp f ⟨{hd with ip := ⟨true,headerAt α f 14⟩},transportAt α⟩
    else none := by
  rw [parseIp, extract_fits f _ _ h, ← Located.protocol_eq h]
  rfl

theorem parser_complete (h : Complete α f) : ∃ tcp udp,
    parser (α := α) f = some ⟨⟨⟨true,ethernetOf f⟩,⟨true,headerAt α f 14⟩,tcp,udp⟩,
      transportAt α + 4,.noError⟩ ∧
    (tcp = ⟨true,headerAt TcpT f (transportAt α)⟩ ∨
      tcp.isValid = false ∧ udp = ⟨true,headerAt UdpT f (transportAt α)⟩) := by
  have hl := h.length
  have h14 := le_transportAt α
  rw [parser_start (by omega), if_pos h.etherType, parseIp_fits (by omega)]
  by_cases ht : be 8 f (14 + Located.protocolAt α) = IP_PROTO_TCP
  · rw [if_pos ht, parseTcp, extract_fits f _ _ hl]
    exact ⟨_,_,rfl,Or.inl rfl⟩
  · rw [if_neg ht, if_pos (h.transport.resolve_left ht), parseUdp, extract_fits f _ _ hl]
    exact ⟨_,_,rfl,Or.inr ⟨rfl,rfl⟩⟩

theorem parser_tooShort (h : TooShort α f) : ∃ p, parser (α := α) f = some p ∧
    p.parserError = .packetTooShort ∧ p.hdr.tcp.isValid = false ∧ p.hdr.udp.isValid = false ∧
    p.hdr.ip.fields = if f.length < transportAt α then zeroed α else headerAt α f 14 := by
  by_cases hl : f.length < 14
  · have hip : f.length < transportAt α := hl.trans_le (le_transportAt α)
    rw [parser, start, extract_short f _ _ (by simpa using hl), if_pos hip]
    exact ⟨_,rfl,rfl,rfl,rfl,rfl⟩
  obtain ⟨he,hs⟩ := h.resolve_left hl
  rw [parser_start (Nat.not_lt.mp hl), if_pos he]
  by_cases hip : f.length < transportAt α
  · rw [parseIp, extract_short f _ _ hip, if_pos hip]
    exact ⟨_,rfl,rfl,rfl,rfl,rfl⟩
  obtain ⟨ht,hp⟩ := hs.resolve_left hip
  rw [parseIp_fits (Nat.not_lt.mp hip), if_neg hip]
  by_cases htcp : be 8 f (14 + Located.protocolAt α) = IP_PROTO_TCP
  · rw [if_pos htcp, parseTcp, extract_short f _ _ hp]
    exact ⟨_,rfl,rfl,rfl,rfl,rfl⟩
  · rw [if_neg htcp, if_pos (ht.resolve_left htcp), parseUdp, extract_short f _ _ hp]
    exact ⟨_,rfl,rfl,rfl,rfl,rfl⟩

theorem parser_foreign (h : Foreign α f) : parser (α := α) f = none := by
  rw [parser_start h.1]
  rcases h.2 with he | ⟨hl,ht⟩
  · rw [if_neg he]
  · by_cases he : be 16 f 12 = Network.etherType α
    · rw [if_pos he, parseIp_fits hl, if_neg (fun hc => ht (Or.inl hc)),
        if_neg (fun hc => ht (Or.inr hc))]
    · rw [if_neg he]

theorem parserError_iff : (parser (α := α) f).map Parsed.parserError = some .packetTooShort ↔
    TooShort α f := by
  constructor
  · intro h
    rcases frame_cases α f with hc | hs | hf
    · obtain ⟨tcp,udp,hp,_⟩ := parser_complete hc
      rw [hp] at h
      cases h
    · exact hs
    · rw [parser_foreign hf] at h
      cases h
  · intro h
    obtain ⟨p,hp,he,_⟩ := parser_tooShort h
    rw [hp, Option.map_some, he]

theorem sought_complete (h : Complete α f) (port : Dev) :
    sought port f = some (flowKey α port f) := by
  have hl : transportAt α + 4 ≤ f.length := h.length
  have hip : 14 + Layout.size α ≤ f.length := (Nat.le_add_right _ 4).trans hl
  obtain ⟨tcp,udp,hp,ht⟩ := parser_complete h
  rw [sought, hp, Option.map_some, flowKey, ← Located.srcAddr_eq hip, ← Located.dstAddr_eq hip,
    ← Located.protocol_eq hip]
  rcases ht with rfl | ⟨htcp,rfl⟩
  · simp only [setPorts, keyOf, ↓reduceIte, headerAt_tcp hl]
  · simp only [setPorts, keyOf, htcp, Bool.false_eq_true, ↓reduceIte, headerAt_udp hl]

theorem sought_tooShort (h : TooShort α f) (port : Dev) :
    sought port f = some (partialKey α port f) := by
  obtain ⟨p,hp,_,htcp,hudp,hip⟩ := parser_tooShort h
  rw [sought, hp, Option.map_some]
  simp only [setPorts, keyOf, htcp, hudp, hip, Bool.false_eq_true, ↓reduceIte, Metadata.init]
  unfold partialKey
  split
  · rw [Located.srcAddr_zeroed, Located.dstAddr_zeroed, Located.protocol_zeroed]
  · rename_i hl
    have hfit : 14 + Layout.size α ≤ f.length := Nat.not_lt.mp hl
    rw [Located.srcAddr_eq hfit, Located.dstAddr_eq hfit, Located.protocol_eq hfit]
    rfl

theorem sought_foreign (h : Foreign α f) (port : Dev) : sought (α := α) port f = none := by
  rw [sought, parser_foreign h, Option.map_none]

theorem step_complete (h : Complete α f) (t : FlowTable α) (port : Dev) :
    step t (.frame port f) = ExactMatch.addOnMiss tentries (flowKey α port f) .noAction t := by
  rw [step_frame, sought_complete h, Option.elim_some]

theorem step_tooShort (h : TooShort α f) (t : FlowTable α) (port : Dev) :
    step t (.frame port f) = ExactMatch.addOnMiss tentries (partialKey α port f) .noAction t := by
  rw [step_frame, sought_tooShort h, Option.elim_some]

theorem step_foreign (h : Foreign α f) (t : FlowTable α) (port : Dev) :
    step t (.frame port f) = t := by
  rw [step_frame, sought_foreign h, Option.elim_none]

end Octets

end P4tcExamples.FlowTracker
