import P4tcExamples.Pna.Headers

/-! # Ethernet/IPv4 frames, their parsing and in-place rewriting

A frame with both headers complete is their wire images followed by the payload.
Replacing header fields that fill whole octets is then the same as overwriting
those octets of the frame, at an offset that does not depend on the frame.
-/
namespace P4tcExamples
open BitFields

abbrev ethernetOf (f : Frame) : EthernetT := headerAt EthernetT f 0

abbrev ipOf (f : Frame) : Ipv4T := headerAt Ipv4T f 14

structure Ipv4Frame (f : Frame) : Prop where
  etherType : be 16 f 12 = 0x0800
  length : 34 ≤ f.length

instance (f : Frame) : Decidable (Ipv4Frame f) :=
  decidable_of_iff (be 16 f 12 = 0x0800 ∧ 34 ≤ f.length)
    ⟨fun h => ⟨h.1,h.2⟩,fun h => ⟨h.etherType,h.length⟩⟩

/-- A frame that ends inside its Ethernet header, or inside the IPv4 header that
its ethertype announces. -/
def Truncated (f : Frame) : Prop := f.length < 14 ∨ be 16 f 12 = 0x0800 ∧ f.length < 34

theorem not_ipv4Frame_cases {f : Frame} (h : ¬Ipv4Frame f) :
    Truncated f ∨ 14 ≤ f.length ∧ be 16 f 12 ≠ 0x0800 := by
  by_cases hl : f.length < 14
  · exact Or.inl (Or.inl hl)
  · by_cases ht : be 16 f 12 = 0x0800
    · refine Or.inl (Or.inr ⟨ht,?_⟩)
      by_contra hc
      exact h ⟨ht,Nat.not_lt.mp hc⟩
    · exact Or.inr ⟨Nat.not_lt.mp hl,ht⟩

theorem encode_ipOf {f : Frame} (h : 34 ≤ f.length) : encode (ipOf f) = slice f 14 20 :=
  encode_headerAt (show 14 + 20 ≤ f.length by omega)

theorem encode_ethernetOf {f : Frame} (h : 14 ≤ f.length) :
    encode (ethernetOf f) = slice f 0 14 :=
  encode_headerAt (show 0 + 14 ≤ f.length by omega)

theorem ethernet_append_drop {f : Frame} (h : 14 ≤ f.length) :
    encode (ethernetOf f) ++ f.drop 14 = f := by
  rw [encode_ethernetOf h]
  exact slice_append_drop f 0 14

theorem frame_eq {f : Frame} (h : 34 ≤ f.length) :
    encode (ethernetOf f) ++ (encode (ipOf f) ++ f.drop 34) = f := by
  rw [encode_ipOf h, slice_append_drop f 14 20]
  exact ethernet_append_drop (by omega)

theorem etherType_ethernetOf {f : Frame} (h : 14 ≤ f.length) :
    (ethernetOf f).etherType = be 16 f 12 := by
  rw [ethernetOf, headerAt_ethernet (by omega)]

theorem etherType_of_ipv4Frame {f : Frame} (h : Ipv4Frame f) : (ethernetOf f).etherType = 0x0800 := by
  have hl := h.length
  exact (etherType_ethernetOf (by omega)).trans h.etherType

section Octets
variable {f : Frame} (h : 34 ≤ f.length)
include h

theorem ttl_ipOf : (ipOf f).ttl = be 8 f 22 := by
  rw [ipOf, headerAt_ipv4 (by omega)]

theorem protocol_ipOf : (ipOf f).protocol = be 8 f 23 := by
  rw [ipOf, headerAt_ipv4 (by omega)]

theorem srcAddr_ipOf : (ipOf f).srcAddr = be 32 f 26 := by
  rw [ipOf, headerAt_ipv4 (by omega)]

theorem dstAddr_ipOf : (ipOf f).dstAddr = be 32 f 30 := by
  rw [ipOf, headerAt_ipv4 (by omega)]

end Octets

theorem encode_setMacs {f : Frame} (h : 14 ≤ f.length) (dmac smac : BitVec 48) :
    encode {ethernetOf f with dstAddr := dmac, srcAddr := smac} =
      toBytes 6 dmac ++ (toBytes 6 smac ++ slice f 12 2) := by
  rw [EthernetT.encode_eq, ethernetOf, headerAt_ethernet (by omega)]
  simp (disch := omega) only [toBytes_be, Nat.reduceAdd]

/-- Where a program keeps the headers of the two states that the IPv4 parsers
start with. -/
structure ParserFront (H : Type) where
  setEthernet : H → Header EthernetT → H
  setIp : H → Header Ipv4T → H
  etherTypeOf : H → BitVec 16
  etherTypeOf_setEthernet : ∀ h x, etherTypeOf (setEthernet h x) = x.fields.etherType

namespace ParserFront
variable {H : Type} (p : ParserFront H)

def run (pkt : Frame) (next : Transition H) : Transition H :=
  extract pkt p.setEthernet fun c =>
    if p.etherTypeOf c.hdr = 0x0800 then extract pkt p.setIp next c else reject c

variable (next : Transition H) (init : H) {f : Frame}

theorem run_ipv4 (h : Ipv4Frame f) : p.run f next ⟨init,0⟩ =
    next ⟨p.setIp (p.setEthernet init ⟨true,ethernetOf f⟩) ⟨true,ipOf f⟩,34⟩ := by
  have hl := h.length
  have he : p.etherTypeOf (p.setEthernet init ⟨true,ethernetOf f⟩) = 0x0800 :=
    (p.etherTypeOf_setEthernet _ _).trans (etherType_of_ipv4Frame h)
  rw [run, extract_fits f _ _ (by simp only [size_ethernet]; omega), if_pos he,
    extract_fits f _ _ (by simp only [size_ethernet, size_ipv4]; omega)]
  rfl

theorem run_rejected (hl : 14 ≤ f.length) (ht : be 16 f 12 ≠ 0x0800) :
    p.run f next ⟨init,0⟩ = none := by
  have he : p.etherTypeOf (p.setEthernet init ⟨true,ethernetOf f⟩) ≠ 0x0800 := by
    rw [p.etherTypeOf_setEthernet, etherType_ethernetOf hl]
    exact ht
  rw [run, extract_fits f _ _ (by simpa using hl), if_neg he]
  rfl

theorem run_truncated (h : Truncated f) :
    p.run f next ⟨init,0⟩ = some ⟨init,0,.packetTooShort⟩ ∨
    14 ≤ f.length ∧ p.run f next ⟨init,0⟩ =
      some ⟨p.setEthernet init ⟨true,ethernetOf f⟩,14,.packetTooShort⟩ := by
  by_cases hl : f.length < 14
  · left
    rw [run, extract_short f _ _ (by simpa using hl)]
  · right
    have h14 : 14 ≤ f.length := Nat.not_lt.mp hl
    obtain ⟨ht,hs⟩ := h.resolve_left hl
    have he : p.etherTypeOf (p.setEthernet init ⟨true,ethernetOf f⟩) = 0x0800 :=
      (p.etherTypeOf_setEthernet _ _).trans ((etherType_ethernetOf h14).trans ht)
    refine ⟨h14,?_⟩
    rw [run, extract_fits f _ _ (by simpa using h14), if_pos he,
      extract_short f _ _ (by simpa using hs)]
    rfl

end ParserFront

def setDst (dmac : BitVec 48) (f : Frame) : Frame := splice 0 (toBytes 6 dmac) f

def setTtl (ttl : BitVec 8) (f : Frame) : Frame := splice 22 (toBytes 1 ttl) f

def setChecksum (hdrChecksum : BitVec 16) (f : Frame) : Frame :=
  splice 24 (toBytes 2 hdrChecksum) f

theorem splice_skip {v m off : ℕ} (y : BitVec v) (bs b : List Byte) (h : m ≤ off) :
    splice off bs (toBytes m y ++ b) = toBytes m y ++ splice (off - m) bs b := by
  rw [splice_append_right (by rwa [length_toBytes]), length_toBytes]

theorem splice_head {u v n : ℕ} (x : BitVec u) (y : BitVec v) (b : List Byte) :
    splice 0 (toBytes n x) (toBytes n y ++ b) = toBytes n x ++ b :=
  splice_zero (by rw [length_toBytes, length_toBytes])

theorem splice_encode_dstAddr (h : EthernetT) (dmac : BitVec 48) :
    splice 0 (toBytes 6 dmac) (encode h) = encode {h with dstAddr := dmac} := by
  rw [EthernetT.encode_eq, EthernetT.encode_eq, splice_head]

theorem setDst_emitted (e : EthernetT) (rest : Frame) (dmac : BitVec 48) :
    setDst dmac (encode e ++ rest) = encode {e with dstAddr := dmac} ++ rest := by
  rw [setDst, splice_append_left (by simp), splice_encode_dstAddr]

theorem setDst_eq {f : Frame} (h : 34 ≤ f.length) (dmac : BitVec 48) : setDst dmac f =
    encode {ethernetOf f with dstAddr := dmac} ++ (encode (ipOf f) ++ f.drop 34) := by
  rw [← setDst_emitted, frame_eq h]

theorem splice_encode_ttl (h : Ipv4T) (ttl : BitVec 8) :
    splice 8 (toBytes 1 ttl) (encode h) = encode {h with ttl := ttl} := by
  rw [Ipv4T.encode_eq, Ipv4T.encode_eq]
  simp (disch := decide) only [splice_skip, splice_head, Nat.reduceSub]

theorem splice_encode_hdrChecksum (h : Ipv4T) (hdrChecksum : BitVec 16) :
    splice 10 (toBytes 2 hdrChecksum) (encode h) = encode {h with hdrChecksum := hdrChecksum} := by
  rw [Ipv4T.encode_eq, Ipv4T.encode_eq]
  simp (disch := decide) only [splice_skip, splice_head, Nat.reduceSub]

/-- Emitting changed headers in front of the old payload overwrites octets 0 to
5, 22, 24 and 25 of the frame. -/
theorem rewrite_eq {f : Frame} (h : 34 ≤ f.length) (dmac : BitVec 48) (ttl : BitVec 8)
    (hdrChecksum : BitVec 16) :
    encode {ethernetOf f with dstAddr := dmac} ++
      (encode {ipOf f with ttl := ttl, hdrChecksum := hdrChecksum} ++ f.drop 34) =
    setChecksum hdrChecksum (setTtl ttl (setDst dmac f)) := by
  have ht : setTtl ttl (setDst dmac f) = encode {ethernetOf f with dstAddr := dmac} ++
      (encode {ipOf f with ttl := ttl} ++ f.drop 34) := by
    rw [setDst_eq h, setTtl, splice_append_right (by simp), length_encode, size_ethernet,
      splice_append_left (by simp)]
    rw [splice_encode_ttl]
  rw [ht, setChecksum, splice_append_right (by simp), length_encode, size_ethernet,
    splice_append_left (by simp)]
  rw [splice_encode_hdrChecksum]

def rewritten : Set ℕ := {i | i < 6 ∨ i = 22 ∨ i = 24 ∨ i = 25}

theorem agreeOff_rewrite {f : Frame} (h : 34 ≤ f.length) (dmac : BitVec 48) (ttl : BitVec 8)
    (hdrChecksum : BitVec 16) :
    AgreeOff rewritten (setChecksum hdrChecksum (setTtl ttl (setDst dmac f))) f := by
  have hd : AgreeOff rewritten (setDst dmac f) f := by
    apply agreeOff_splice
    · rw [length_toBytes]
      omega
    · intro i _ hi
      rw [length_toBytes] at hi
      exact Or.inl (by omega)
  have ht : AgreeOff rewritten (setTtl ttl (setDst dmac f)) (setDst dmac f) := by
    apply agreeOff_splice
    · rw [length_toBytes, hd.length_eq]
      omega
    · intro i hl hi
      rw [length_toBytes] at hi
      exact Or.inr (Or.inl (by omega))
  refine AgreeOff.trans (agreeOff_splice ?_ ?_) (ht.trans hd)
  · rw [length_toBytes, ht.length_eq, hd.length_eq]
    omega
  · intro i hl hi
    rw [length_toBytes] at hi
    exact Or.inr (Or.inr (by omega))

section Emitted
variable (e : EthernetT) (ip : Ipv4T) (rest : Frame)

@[simp] theorem ethernetOf_emitted : ethernetOf (encode e ++ rest) = e := headerAt_encode e rest

@[simp] theorem ipOf_emitted : ipOf (encode e ++ (encode ip ++ rest)) = ip := by
  rw [ipOf, headerAt_append_right (by simp)]
  exact headerAt_encode ip rest

theorem length_emitted : (encode e ++ (encode ip ++ rest)).length = 34 + rest.length := by
  simp only [List.length_append, length_encode, size_ethernet, size_ipv4]
  omega

theorem drop_emitted : (encode e ++ (encode ip ++ rest)).drop 34 = rest := by
  have hl : (encode e ++ encode ip).length = 34 := by simp
  rw [← List.append_assoc, ← hl, List.drop_left]

theorem ipv4Frame_emitted (h : e.etherType = 0x0800) :
    Ipv4Frame (encode e ++ (encode ip ++ rest)) where
  etherType := by
    rw [← etherType_ethernetOf (by rw [length_emitted]; omega), ethernetOf_emitted, h]
  length := by rw [length_emitted]; omega

end Emitted

/-- Where the header says that its payload starts. The programs always take it to
start at 34. -/
def payloadAt (f : Frame) : ℕ := 14 + 4*(ipOf f).ihl.toNat

/-- An unfragmented IPv4 packet whose header, options included, is complete and
has at least `n` octets behind it. -/
structure Ipv4Packet (n : ℕ) (f : Frame) : Prop where
  etherType : be 16 f 12 = 0x0800
  version : (ipOf f).version = 4
  ihl : 5 ≤ (ipOf f).ihl
  moreFragments : (ipOf f).flags.getLsbD 0 = false
  fragOffset : (ipOf f).fragOffset = 0
  length : payloadAt f + n ≤ f.length

instance (n : ℕ) (f : Frame) : Decidable (Ipv4Packet n f) :=
  decidable_of_iff (be 16 f 12 = 0x0800 ∧ (ipOf f).version = 4 ∧ 5 ≤ (ipOf f).ihl ∧
      (ipOf f).flags.getLsbD 0 = false ∧ (ipOf f).fragOffset = 0 ∧ payloadAt f + n ≤ f.length)
    ⟨fun ⟨ht,hv,hi,hm,ho,hl⟩ => ⟨ht,hv,hi,hm,ho,hl⟩,
      fun h => ⟨h.etherType,h.version,h.ihl,h.moreFragments,h.fragOffset,h.length⟩⟩

theorem payloadAt_eq_iff (f : Frame) : payloadAt f = 34 ↔ (ipOf f).ihl = 5 := by
  have ht : (ipOf f).ihl = 5 ↔ (ipOf f).ihl.toNat = 5 := BitVec.toNat_eq
  rw [payloadAt, ht]
  omega

theorem Ipv4Packet.le_payloadAt {n : ℕ} {f : Frame} (h : Ipv4Packet n f) : 34 ≤ payloadAt f := by
  have hi : 5 ≤ (ipOf f).ihl.toNat := h.ihl
  rw [payloadAt]
  omega

theorem Ipv4Packet.ipv4Frame {n : ℕ} {f : Frame} (h : Ipv4Packet n f) : Ipv4Frame f := by
  have hp := h.le_payloadAt
  have hl := h.length
  exact ⟨h.etherType,by omega⟩

end P4tcExamples
