import P4tcExamples.Ipip.Encapsulation

/-! # What decapsulation removes

Invalidating the outer header removes the 20 octets that were extracted for it.
On a packet whose outer header has options these are not the whole header.
-/
namespace P4tcExamples.Ipip
open BitFields

/-- A whole IPv4 packet that carries a second IPv4 header. -/
structure IpInIp (f : Frame) : Prop extends Ipv4Packet 20 f where
  protocol : (ipOf f).protocol = 4

instance (f : Frame) : Decidable (IpInIp f) :=
  decidable_of_iff (Ipv4Packet 20 f ∧ (ipOf f).protocol = 4)
    ⟨fun h => ⟨h.1,h.2⟩,fun h => ⟨h.toIpv4Packet,h.protocol⟩⟩

theorem IpInIp.carriesInner {f : Frame} (h : IpInIp f) : CarriesInner f := by
  have hp := h.le_payloadAt
  have hl := h.length
  exact ⟨h.protocol,by omega⟩

/-- The Ethernet header with a new destination, followed by the octets from `n` on. -/
def popped (dmac : BitVec 48) (n : ℕ) (f : Frame) : Frame :=
  toBytes 6 dmac ++ (slice f 6 8 ++ f.drop n)

theorem setDst_decap {f : Frame} (h : 14 ≤ f.length) (dmac : BitVec 48) :
    setDst dmac (decap f) = popped dmac 34 f := by
  have ht : (f.take 14).length = 14 := List.length_take_of_le h
  rw [setDst, decap, splice, length_toBytes, List.drop_append_of_le_length (by omega),
    List.drop_take, popped]
  rfl

theorem popped_eq_iff {f : Frame} {m n : ℕ} (hm : m ≤ f.length) (hn : n ≤ f.length)
    (dmac : BitVec 48) : popped dmac m f = popped dmac n f ↔ m = n := by
  constructor
  · intro he
    have hl := congrArg List.length he
    simp only [popped, List.length_append, List.length_drop] at hl
    omega
  · rintro rfl
    rfl

theorem tcIngressFunc_setNh {f : Frame} (h : IpInIp f) {t : FwdTable} {port : Dev}
    {dmac : BitVec 48} {p : Dev} (ht : t port = some (.setNh dmac p)) :
    tcIngressFunc t port f = .redirect p.val (popped dmac 34 f) := by
  have hl := h.ipv4Frame.length
  rw [tcIngressFunc_inner h.ipv4Frame h.carriesInner, fwdTable_eq ht, ← setDst_decap (by omega)]

/-- Exactly the outer header is removed if and only if it has no options. -/
theorem decapsulates_iff {f : Frame} (h : IpInIp f) {t : FwdTable} {port : Dev}
    {dmac : BitVec 48} {p : Dev} (ht : t port = some (.setNh dmac p)) :
    tcIngressFunc t port f = .redirect p.val (popped dmac (payloadAt f) f) ↔ (ipOf f).ihl = 5 := by
  have hp := h.le_payloadAt
  have hl := h.length
  rw [tcIngressFunc_setNh h ht, Verdict.redirect.injEq, popped_eq_iff (by omega) (by omega),
    ← payloadAt_eq_iff]
  exact ⟨fun he => he.2.symm,fun he => ⟨rfl,he.symm⟩⟩

theorem ipInIp_testpktIpip : IpInIp testpktIpip := by decide +kernel

theorem decapsulates_testpktIpip :
    tcIngressFunc readmeTable port1 testpktIpip =
      .redirect port0.val (popped 0x663334354601 (payloadAt testpktIpip) testpktIpip) :=
  (decapsulates_iff ipInIp_testpktIpip (show readmeTable port1 = _ from rfl)).mpr (by decide +kernel)

/-- `testpktIpip` with one word of options behind its outer header. -/
def optionsIpip : Frame :=
  encode testEthernet ++
    (encode {plainHeader 52 4 0x0a000001 0x0a630001 with ihl := 6, hdrChecksum := 0x6360} ++
    ([0x01,0x01,0x01,0x00] ++ (encode (plainHeader 28 17 0x01010101 0x01030307) ++ testUdp)))

theorem ipInIp_optionsIpip : IpInIp optionsIpip := by decide +kernel

theorem optionsIpip_keeps_options :
    IpInIp optionsIpip ∧ readmeTable port1 = some (.setNh 0x663334354601 port0) ∧
    tcIngressFunc readmeTable port1 optionsIpip =
      .redirect port0.val (popped 0x663334354601 34 optionsIpip) ∧
    tcIngressFunc readmeTable port1 optionsIpip ≠
      .redirect port0.val (popped 0x663334354601 (payloadAt optionsIpip) optionsIpip) := by
  have ht : readmeTable port1 = some (.setNh 0x663334354601 port0) := rfl
  have hv := tcIngressFunc_setNh ipInIp_optionsIpip ht
  refine ⟨ipInIp_optionsIpip,ht,hv,?_⟩
  rw [hv]
  decide +kernel

end P4tcExamples.Ipip
