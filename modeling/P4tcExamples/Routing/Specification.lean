import P4tcExamples.Routing.Program

/-! # What routing decides

The specification names the next hop by a property of the installed routes, not by
a lookup, and the packet that leaves by the octets of the frame that change.
-/
namespace P4tcExamples.Routing
open BitFields

/-- The index under which the next hop of an address is stored: that of the
longest prefix containing it, or 0 if there is none. -/
def NextHop (t : Tables) (dstAddr : BitVec 32) (nhIndex : BitVec 32) : Prop :=
  (∃ r, t.fib.Selects dstAddr r ∧ r.value = nhIndex) ∨
    (∀ r ∈ t.fib.routes, ¬r.Covers dstAddr) ∧ nhIndex = 0

theorem nextHop_iff {t : Tables} {dstAddr nhIndex : BitVec 32} :
    NextHop t dstAddr nhIndex ↔ fibTable t dstAddr = nhIndex := by
  unfold NextHop fibTable
  rw [← PrefixMatch.Table.lookup_eq_some, ← PrefixMatch.Table.lookup_eq_none]
  cases t.fib.lookup dstAddr with
  | none =>
    simp only [reduceCtorEq, false_or, true_and, Option.getD_none]
    exact eq_comm
  | some n => simp

theorem nhTable_eq_setNh {t : Tables} {nhIndex : BitVec 32} {dmac : BitVec 48} {p : Dev} :
    nhTable t nhIndex = .setNh dmac p ↔ t.nh nhIndex = some (.setNh dmac p) := by
  unfold nhTable
  cases t.nh nhIndex with
  | none => simp
  | some a => simp

theorem shot_of_not_redirect {t : Tables} {port : Dev} {f : Frame}
    (h : ∀ q g, tcIngressFunc t port f ≠ .redirect q g) : tcIngressFunc t port f = .shot := by
  by_cases hf : Ipv4Frame f
  · rw [tcIngressFunc_ipv4 hf] at h ⊢
    by_cases ht : 1 < (ipOf f).ttl
    · simp only [if_pos ht] at h ⊢
      cases hn : nhTable t (fibTable t (ipOf f).dstAddr) with
      | drop => rfl
      | setNh dmac p =>
        simp only [hn] at h
        exact absurd rfl (h p.val (hop dmac f))
    · rw [if_neg ht]
  · exact tcIngressFunc_other hf t port

/-- A frame is sent exactly when it is a whole IPv4 packet with a ttl above one
whose next hop is `set_nh`, with nothing changed but the destination, the ttl and
the checksum; every other frame is dropped. -/
theorem routes_as_specified (t : Tables) (port : Dev) (f : Frame) :
    (∀ q g, tcIngressFunc t port f = .redirect q g ↔
      34 ≤ f.length ∧ be 16 f 12 = 0x0800 ∧ 1 < be 8 f 22 ∧ ∃ n dmac p,
        NextHop t (be 32 f 30) n ∧ t.nh n = some (.setNh dmac p) ∧ q = p.val ∧
          g = setChecksum (ipTtlDec (ipOf f)).hdrChecksum
            (setTtl (be 8 f 22 - 1) (setDst dmac f))) ∧
    (∀ q g, tcIngressFunc t port f = .redirect q g → AgreeOff rewritten g f) ∧
    ((∀ q g, tcIngressFunc t port f ≠ .redirect q g) → tcIngressFunc t port f = .shot) := by
  refine ⟨fun q g => ?_,fun q g hr => ?_,shot_of_not_redirect⟩
  · rw [forwards_iff]
    constructor
    · rintro ⟨hf,ht,dmac,p,hn,hq,hg⟩
      have httl := ttl_ipOf hf.length
      rw [httl] at ht
      rw [dstAddr_ipOf hf.length] at hn
      refine ⟨hf.length,hf.etherType,ht,_,dmac,p,nextHop_iff.mpr rfl,nhTable_eq_setNh.mp hn,hq,?_⟩
      rw [hg, hop, httl]
    · rintro ⟨hl,he,ht,n,dmac,p,hn,hs,hq,hg⟩
      have httl := ttl_ipOf hl
      refine ⟨⟨he,hl⟩,httl.symm ▸ ht,dmac,p,?_,hq,?_⟩
      · rw [dstAddr_ipOf hl, nextHop_iff.mp hn]
        exact nhTable_eq_setNh.mpr hs
      · rw [hg, hop, httl]
  · obtain ⟨hf,_,dmac,p,_,_,rfl⟩ := forwards_iff.mp hr
    exact agreeOff_rewrite hf.length dmac _ _

end P4tcExamples.Routing
