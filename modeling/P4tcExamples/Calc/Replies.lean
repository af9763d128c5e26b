import P4tcExamples.Calc.Program

/-! # Which frames calc answers

A frame is answered exactly when its octets are those of a request, wherever the
parser would otherwise have stopped; the answer is described by the octets of the
received frame.
-/
namespace P4tcExamples.Calc
open BitFields

theorem headerAt_p4calc {f : Frame} {off : ℕ} (h : off + 16 ≤ f.length) :
    headerAt P4calcT f off =
      ⟨be 8 f off,be 8 f (off + 1),be 8 f (off + 2),be 8 f (off + 3),be 32 f (off + 4),
        be 32 f (off + 8),be 32 f (off + 12)⟩ := by
  apply encode_injective
  rw [encode_headerAt h, P4calcT.encode_eq]
  simp (disch := omega) only [toBytes_be, slice_append_slice, Nat.reduceAdd, size_p4calc]

/-- The octets in front of the operator. -/
structure Signed (f : Frame) : Prop where
  etherType : be 16 f 12 = 0x1234
  length : 30 ≤ f.length
  p : be 8 f 14 = 0x50
  four : be 8 f 15 = 0x34
  ver : be 8 f 16 = 0x01

theorem request_iff_signed {f : Frame} : Request f ↔ Signed f := by
  constructor
  · rintro ⟨he,hl,hp,h4,hv⟩
    rw [calcOf, headerAt_p4calc hl] at hp h4 hv
    exact ⟨he,hl,hp,h4,hv⟩
  · rintro ⟨he,hl,hp,h4,hv⟩
    have hc := headerAt_p4calc (show 14 + 16 ≤ f.length from hl)
    exact ⟨he,hl,(congrArg P4calcT.p hc).trans hp,(congrArg P4calcT.four hc).trans h4,
      (congrArg P4calcT.ver hc).trans hv⟩

/-- On every other frame the parser accepts or stops, with no `p4calc` header. -/
theorem parser_other {f : Frame} (h : ¬Request f) :
    ∃ p, parser f = some p ∧ p.hdr.p4calc.isValid = false := by
  unfold parser start
  by_cases hl : f.length < 14
  · rw [extract_short f _ _ (by simpa using hl)]
    exact ⟨_,rfl,rfl⟩
  · have h14 : 14 ≤ f.length := Nat.not_lt.mp hl
    rw [extract_fits f _ _ (by simpa using h14)]
    by_cases ht : be 16 f 12 = P4CALC_ETYPE
    · have he : (ethernetOf f).etherType = P4CALC_ETYPE := (etherType_ethernetOf h14).trans ht
      simp only [he, ↓reduceIte, checkP4calc]
      by_cases hs : f.length < 30
      · exact ⟨_,lookahead_short f _ hs,rfl⟩
      · have h30 : 30 ≤ f.length := Nat.not_lt.mp hs
        rw [lookahead_fits f _ (by simpa using h30),
          if_neg (fun hp => h ⟨ht,h30,hp.1,hp.2.1,hp.2.2⟩)]
        exact ⟨_,rfl,rfl⟩
    · have he : (ethernetOf f).etherType ≠ P4CALC_ETYPE := by rwa [etherType_ethernetOf h14]
      rw [if_neg he]
      exact ⟨_,rfl,rfl⟩

theorem tcIngressFunc_other {f : Frame} (h : ¬Request f) (port : Dev) :
    tcIngressFunc port f = .shot := by
  obtain ⟨p,hp,hv⟩ := parser_other h
  simp only [tcIngressFunc, runPipeline, hp, main, hv, Bool.false_eq_true, ↓reduceIte,
    operationDrop, dispatch_drop]

/-- `operand_a op operand_b`, modulo the word size. -/
def Computes (op : BitVec 8) (a b result : BitVec 32) : Prop :=
  op = 0x2b ∧ result = a + b ∨ op = 0x2d ∧ result = a - b ∨ op = 0x26 ∧ result = a &&& b ∨
    op = 0x7c ∧ result = a ||| b ∨ op = 0x5e ∧ result = a ^^^ b

theorem computes_iff {op : BitVec 8} {a b result : BitVec 32} :
    Computes op a b result ↔ (calculate op).compute a b = some result := by
  constructor
  · rintro (⟨rfl,rfl⟩ | ⟨rfl,rfl⟩ | ⟨rfl,rfl⟩ | ⟨rfl,rfl⟩ | ⟨rfl,rfl⟩) <;> rfl
  · intro h
    unfold calculate at h
    split_ifs at h with hp hm ha ho hc
    · exact Or.inl ⟨hp,(Option.some.inj h).symm⟩
    · exact Or.inr (Or.inl ⟨hm,(Option.some.inj h).symm⟩)
    · exact Or.inr (Or.inr (Or.inl ⟨ha,(Option.some.inj h).symm⟩))
    · exact Or.inr (Or.inr (Or.inr (Or.inl ⟨ho,(Option.some.inj h).symm⟩)))
    · exact Or.inr (Or.inr (Or.inr (Or.inr ⟨hc,(Option.some.inj h).symm⟩)))
    · cases h

/-- The received frame with the MAC addresses exchanged and the result filled in. -/
def exchanged (result : BitVec 32) (f : Frame) : Frame :=
  slice f 6 6 ++ (slice f 0 6 ++ (slice f 12 14 ++ (toBytes 4 result ++ f.drop 30)))

theorem answer_eq {f : Frame} (h : 30 ≤ f.length) (result : BitVec 32) :
    answer result f = exchanged result f := by
  have hs : slice f 12 14 = slice f 12 2 ++ (slice f 14 1 ++ (slice f 15 1 ++ (slice f 16 1 ++
      (slice f 17 1 ++ (slice f 18 4 ++ slice f 22 4))))) := by
    rw [slice_append_slice f 18 4 4, slice_append_slice f 17 1 8, slice_append_slice f 16 1 9,
      slice_append_slice f 15 1 10, slice_append_slice f 14 1 11, slice_append_slice f 12 2 12]
  unfold answer exchanged
  rw [encode_setMacs (by omega), P4calcT.encode_eq, ethernetOf, headerAt_ethernet (by omega),
    calcOf, headerAt_p4calc (by omega), hs]
  simp (disch := omega) only [toBytes_be, Nat.reduceAdd, List.append_assoc]

/-- A reply is sent for exactly the frames that carry the signature and one of the
five operators, back on the port the frame came from; every other frame is
dropped. -/
theorem replies_exactly (port : Dev) (f : Frame) :
    (∀ q g, tcIngressFunc port f = .redirect q g ↔
      Signed f ∧ ∃ result, Computes (be 8 f 17) (be 32 f 18) (be 32 f 22) result ∧
        q = port.val ∧ g = exchanged result f) ∧
    ((∀ q g, tcIngressFunc port f ≠ .redirect q g) → tcIngressFunc port f = .shot) := by
  by_cases h : Request f
  · have hs := request_iff_signed.mp h
    have hv := tcIngressFunc_request h port
    have hl := h.length
    simp only [calcOf, headerAt_p4calc (show 14 + 16 ≤ f.length from hl), Nat.reduceAdd,
      answer_eq hl] at hv
    simp only [computes_iff, hs, true_and, hv]
    cases (calculate (be 8 f 17)).compute (be 32 f 18) (be 32 f 22) with
    | none => simp
    | some result =>
      refine ⟨fun q g => ⟨fun hr => ?_,?_⟩,fun hn => absurd rfl (hn port.val _)⟩
      · cases hr
        exact ⟨result,rfl,rfl,rfl⟩
      · rintro ⟨r,hr,rfl,rfl⟩
        cases hr
        rfl
  · have hv := tcIngressFunc_other h port
    have hs : ¬Signed f := fun hs => h (request_iff_signed.mpr hs)
    simp [hv, hs]

end P4tcExamples.Calc
