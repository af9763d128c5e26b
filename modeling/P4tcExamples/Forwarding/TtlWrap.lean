import P4tcExamples.Routing.Path
import P4tcExamples.Ipip.TunnelHeader

/-! # The ttl of frames that pass ip_ttl_dec

routing and ipip share the decrement but not the guard in front of it. routing
tests the ttl in its control; ipip decrements the inner ttl of every frame it
pushes a header on, so that a received ttl of zero wraps.
-/
namespace P4tcExamples
open BitFields

def Verdict.emitted : Verdict → Option Frame
  | .shot => none
  | .kernel g => some g
  | .redirect _ g => some g

theorem toNat_pred_add_one_iff {t : BitVec 8} : (t - 1).toNat + 1 = t.toNat ↔ 1 ≤ t.toNat := by
  constructor
  · intro h
    omega
  · intro h
    rw [toNat_pred h]
    omega

namespace Routing

theorem emitted_iff {t : Tables} {port : Dev} {f g : Frame} :
    (tcIngressFunc t port f).emitted = some g ↔ ∃ q, tcIngressFunc t port f = .redirect q g := by
  by_cases h : Ipv4Frame f
  · rw [tcIngressFunc_ipv4 h]
    split
    · cases nhTable t (fibTable t (ipOf f).dstAddr) with
      | drop => simp [Verdict.emitted]
      | setNh dmac p => simp [Verdict.emitted]
    · simp [Verdict.emitted]
  · simp [tcIngressFunc_other h, Verdict.emitted]

def TtlExact (t : Tables) (port : Dev) (f : Frame) : Prop :=
  ∀ g, (tcIngressFunc t port f).emitted = some g →
    (ipOf g).ttl.toNat + 1 = (ipOf f).ttl.toNat

theorem ttlExact (t : Tables) (port : Dev) (f : Frame) : TtlExact t port f := by
  intro g hg
  obtain ⟨q,hq⟩ := emitted_iff.mp hg
  obtain ⟨h,ht,dmac,p,_,_,rfl⟩ := forwards_iff.mp hq
  exact (after_hop h ht dmac).ttl

end Routing

namespace Ipip

/-- Whether the deparser takes its push branch, where `ip_ttl_dec` runs. -/
def pushes (t : FwdTable) (port : Dev) (pkt : Frame) : Bool :=
  match parser pkt with
  | none => false
  | some p =>
    let c := main t ⟨port,p.parserError⟩ ⟨p.hdr,Metadata.init,GlobalMeta.init⟩
    c.usermeta.push && c.hdr.outer.isValid

theorem pushes_plain {f : Frame} (h : Ipv4Frame f) (hi : ¬CarriesInner f) (t : FwdTable)
    (port : Dev) : pushes t port f = true ↔ ∃ src dst p, fwdTable t port = .setIpip src dst p := by
  obtain ⟨e,hp⟩ := parser_plain h hi
  simp only [pushes, hp, main, ↓reduceIte]
  cases fwdTable t port with
  | setIpip src dst p => simp [FwdAction.apply, setIpip, Header.absent]
  | setNh dmac p => simp [FwdAction.apply, setNh, Header.absent, Metadata.init]
  | drop => simp [FwdAction.apply, drop, Header.absent, Metadata.init]

theorem pushes_inner {f : Frame} (h : Ipv4Frame f) (hi : CarriesInner f) (t : FwdTable)
    (port : Dev) : pushes t port f = false := by
  simp only [pushes, parser_inner h hi, main, ↓reduceIte]
  cases fwdTable t port with
  | setIpip src dst p => simp [FwdAction.apply, setIpip, Header.setInvalid]
  | setNh dmac p => simp [FwdAction.apply, setNh, Metadata.init]
  | drop => simp [FwdAction.apply, drop, Metadata.init]

theorem pushes_other {f : Frame} (h : ¬Ipv4Frame f) (t : FwdTable) (port : Dev) :
    pushes t port f = false := by
  rcases not_ipv4Frame_cases h with ht | ⟨hl,he⟩
  · obtain ⟨p,hp,hv,_⟩ := parser_truncated ht
    simp [pushes, hp, main, hv]
  · simp only [pushes, parser_other hl he]

theorem pushes_iff {t : FwdTable} {port : Dev} {f : Frame} : pushes t port f = true ↔
    Ipv4Frame f ∧ ¬CarriesInner f ∧ ∃ src dst p, fwdTable t port = .setIpip src dst p := by
  by_cases h : Ipv4Frame f
  · by_cases hi : CarriesInner f
    · simp [pushes_inner h hi, hi]
    · rw [pushes_plain h hi]
      exact ⟨fun he => ⟨h,hi,he⟩,fun he => he.2.2⟩
  · simp [pushes_other h, h]

def TtlExact (t : FwdTable) (port : Dev) (f : Frame) : Prop :=
  ∀ g, (tcIngressFunc t port f).emitted = some g → pushes t port f = true →
    (innerOf g).ttl.toNat + 1 = (ipOf f).ttl.toNat

theorem innerOf_encap (src dst : BitVec 32) (f : Frame) :
    innerOf (encap src dst f) = ipTtlDec (ipOf f) := by
  have hl : (encode (ethernetOf f) ++
      encode (ipChecksum (pushed (ipOf f) ⟨src,dst,true⟩))).length = 34 := by simp
  rw [innerOf, encap, ← List.append_assoc, headerAt_append_right (by rw [hl]), hl]
  exact headerAt_encode _ _

theorem ttlExact_iff {t : FwdTable} {port : Dev} {f : Frame} : TtlExact t port f ↔
    (Ipv4Frame f → ¬CarriesInner f → (∃ src dst p, fwdTable t port = .setIpip src dst p) →
      1 ≤ (ipOf f).ttl.toNat) := by
  constructor
  · intro hx h hi hs
    obtain ⟨src,dst,p,ha⟩ := hs
    have hv : tcIngressFunc t port f = .redirect p.val (encap src dst f) := by
      rw [tcIngressFunc_plain h hi, ha]
    have he := hx _ (by rw [hv]; rfl) (pushes_iff.mpr ⟨h,hi,src,dst,p,ha⟩)
    rw [innerOf_encap] at he
    exact toNat_pred_add_one_iff.mp he
  · intro hc g hg hp
    obtain ⟨h,hi,src,dst,p,ha⟩ := pushes_iff.mp hp
    rw [tcIngressFunc_plain h hi, ha] at hg
    cases hg
    rw [innerOf_encap]
    exact toNat_pred_add_one_iff.mpr (hc h hi ⟨src,dst,p,ha⟩)

end Ipip

/-- routing never wraps a ttl; ipip wraps it exactly when it pushes a header on
a frame that arrived with ttl zero. -/
theorem ipTtlDec_exact_iff (rt : Routing.Tables) (ft : Ipip.FwdTable) (port : Dev) (f : Frame) :
    Routing.TtlExact rt port f ∧
    (Ipip.TtlExact ft port f ↔
      (Ipv4Frame f → ¬Ipip.CarriesInner f →
        (∃ src dst p, Ipip.fwdTable ft port = .setIpip src dst p) → 1 ≤ (ipOf f).ttl.toNat)) :=
  ⟨Routing.ttlExact rt port f,Ipip.ttlExact_iff⟩

def Ipip.expired : Frame :=
  encode testEthernet ++
    (encode (ipChecksum {plainHeader 28 17 0x0a000001 0x0a630001 with ttl := 0}) ++ testUdp)

theorem ipip_wraps_expired : (ipOf Ipip.expired).ttl.toNat = 0 ∧
    ∃ g, Ipip.tcIngressFunc Ipip.readmeTable Ipip.port0 Ipip.expired =
        .redirect Ipip.port1.val g ∧ (Ipip.innerOf g).ttl.toNat = 255 ∧
      ¬Ipip.TtlExact Ipip.readmeTable Ipip.port0 Ipip.expired := by
  have h : Ipv4Frame Ipip.expired := by decide +kernel
  have hi : ¬Ipip.CarriesInner Ipip.expired := by decide +kernel
  have hz : (ipOf Ipip.expired).ttl.toNat = 0 := by decide +kernel
  refine ⟨hz,Ipip.encap 0x02020202 0x02040408 Ipip.expired,?_,?_,?_⟩
  · rw [Ipip.tcIngressFunc_plain h hi]
    rfl
  · decide +kernel
  · intro hx
    have h1 := Ipip.ttlExact_iff.mp hx h hi ⟨_,_,_,rfl⟩
    omega

end P4tcExamples
