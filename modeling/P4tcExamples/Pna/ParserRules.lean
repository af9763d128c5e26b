import P4tcExamples.Pna.Pipeline

/-! # Pre- and postconditions of parsers

`Establishes P t Q` says that whatever a transition `t`, run from a cursor with
`P`, hands to the control satisfies `Q`. There is one rule for each construct of
the parsers, so that a proof follows the states of the source. The too-short exit
of an extract hands the headers over as they are, and so has to establish `Q`
from the precondition alone.
-/
namespace P4tcExamples
open BitFields

variable {H α : Type} [Layout α] {pkt : Frame}

def Establishes (P : Cursor H → Prop) (t : Transition H) (Q : Parsed H → Prop) : Prop :=
  ∀ c p, P c → t c = some p → Q p

section Rules
variable {P R : Cursor H → Prop} {Q : Parsed H → Prop}

theorem Establishes.accept (h : ∀ c, P c → Q ⟨c.hdr,c.offset,.noError⟩) :
    Establishes P accept Q := by
  intro c p hc hp
  cases hp
  exact h c hc

theorem Establishes.reject : Establishes P reject Q := by
  intro c p _ hp
  cases hp

theorem Establishes.select {b : Cursor H → Prop} [DecidablePred b] {t e : Transition H}
    (ht : Establishes (fun c => P c ∧ b c) t Q) (he : Establishes (fun c => P c ∧ ¬b c) e Q) :
    Establishes P (fun c => if b c then t c else e c) Q := by
  intro c p hc hp
  by_cases hb : b c
  · exact ht c p ⟨hc,hb⟩ ((if_pos hb).symm.trans hp)
  · exact he c p ⟨hc,hb⟩ ((if_neg hb).symm.trans hp)

theorem Establishes.extract {store : H → Header α → H} {next : Transition H}
    (hshort : ∀ c, P c → Q ⟨c.hdr,c.offset,.packetTooShort⟩)
    (hfits : ∀ c, P c → c.offset + Layout.size α ≤ pkt.length →
      R ⟨store c.hdr ⟨true,headerAt α pkt c.offset⟩,c.offset + Layout.size α⟩)
    (hnext : Establishes R next Q) : Establishes P (extract pkt store next) Q := by
  intro c p hc hp
  by_cases hl : pkt.length < c.offset + Layout.size α
  · rw [extract_short pkt store next hl] at hp
    cases hp
    exact hshort c hc
  · rw [extract_fits pkt store next (Nat.not_lt.mp hl)] at hp
    exact hnext _ p (hfits c hc (Nat.not_lt.mp hl)) hp

theorem Establishes.lookahead {next : α → Transition H}
    (hshort : ∀ c, P c → Q ⟨c.hdr,c.offset,.packetTooShort⟩)
    (hnext : ∀ x, Establishes P (next x) Q) : Establishes P (lookahead pkt next) Q := by
  intro c p hc hp
  by_cases hl : pkt.length < c.offset + Layout.size α
  · rw [lookahead_short pkt next hl] at hp
    cases hp
    exact hshort c hc
  · rw [lookahead_fits pkt next (Nat.not_lt.mp hl)] at hp
    exact hnext _ c p hc hp

end Rules

/-- Looking ahead twice sees the same header. -/
theorem lookahead_lookahead (next : α → α → Transition H) :
    lookahead pkt (fun x => lookahead pkt (next x)) = lookahead pkt fun x => next x x := by
  funext c
  by_cases hl : pkt.length < c.offset + Layout.size α
  · rw [lookahead_short pkt _ hl, lookahead_short pkt _ hl]
  · have hfit : c.offset + Layout.size α ≤ pkt.length := Nat.not_lt.mp hl
    rw [lookahead_fits pkt _ hfit, lookahead_fits pkt _ hfit, lookahead_fits pkt _ hfit]

/-- The headers extracted so far, emitted in front of the unparsed rest, are the
frame again. -/
def Reemits (out : H → List Byte) (pkt : Frame) (hdr : H) (offset : ℕ) : Prop :=
  out hdr ++ pkt.drop offset = pkt

theorem Reemits.extract {out : H → List Byte} {hdr hdr' : H} {offset : ℕ}
    (hr : Reemits out pkt hdr offset) (hl : offset + Layout.size α ≤ pkt.length)
    (hs : out hdr' = out hdr ++ encode (headerAt α pkt offset)) :
    Reemits out pkt hdr' (offset + Layout.size α) := by
  rw [Reemits, hs, encode_headerAt hl, List.append_assoc, slice_append_drop]
  exact hr

/-- A state that extracts one header and accepts. -/
theorem Establishes.extract_accept {out : H → List Byte} {P : Cursor H → Prop}
    {store : H → Header α → H} (hP : ∀ c, P c → Reemits out pkt c.hdr c.offset)
    (hs : ∀ c x, P c → out (store c.hdr ⟨true,x⟩) = out c.hdr ++ encode x) :
    Establishes P (P4tcExamples.extract pkt store P4tcExamples.accept)
      fun p => Reemits out pkt p.hdr p.offset := by
  refine .extract (R := fun c => Reemits out pkt c.hdr c.offset) hP ?_ (.accept fun _ hc => hc)
  intro c hc hl
  exact (hP c hc).extract hl (hs c _ hc)

theorem length_emit (h : Header α) :
    (emit h).length = if h.isValid then Layout.size α else 0 := by
  unfold emit
  split
  · exact length_encode h.fields
  · rfl

/-- Headers that reproduce the frame up to an offset inside it, and at least `n`
octets of it. -/
structure Laid (n : ℕ) (out : H → List Byte) (pkt : Frame) (hdr : H) (offset : ℕ) : Prop where
  reemits : Reemits out pkt hdr offset
  le_offset : n ≤ offset
  offset_le : offset ≤ pkt.length

section Laid
variable {n : ℕ} {out : H → List Byte} {hdr hdr' : H} {offset : ℕ}

theorem Laid.length_eq (h : Laid n out pkt hdr offset) : (out hdr).length = offset := by
  have hl := congrArg List.length h.reemits
  have hle := h.offset_le
  rw [List.length_append, List.length_drop] at hl
  omega

theorem Laid.extract (h : Laid n out pkt hdr offset) (hl : offset + Layout.size α ≤ pkt.length)
    (hs : out hdr' = out hdr ++ encode (headerAt α pkt offset)) :
    Laid n out pkt hdr' (offset + Layout.size α) :=
  ⟨h.reemits.extract hl hs,Nat.le_add_right_of_le h.le_offset,hl⟩

theorem Establishes.laid_accept {P : Cursor H → Prop} {store : H → Header α → H}
    (hP : ∀ c, P c → Laid n out pkt c.hdr c.offset)
    (hs : ∀ c x, P c → out (store c.hdr ⟨true,x⟩) = out c.hdr ++ encode x) :
    Establishes P (P4tcExamples.extract pkt store P4tcExamples.accept)
      fun p => Laid n out pkt p.hdr p.offset := by
  refine .extract (R := fun c => Laid n out pkt c.hdr c.offset) hP ?_ (.accept fun _ hc => hc)
  intro c hc hl
  exact (hP c hc).extract hl (hs c _ hc)

/-- A parser that starts with one header either stops there or has it laid out. -/
theorem laid_or_short {init : H} {store : H → Header α → H} {next : Transition H}
    (hstore : ∀ x, out (store init ⟨true,x⟩) = encode x)
    (hnext : Establishes (fun c => Laid (Layout.size α) out pkt c.hdr c.offset ∧
        ∃ x, c.hdr = store init ⟨true,x⟩) next
      fun p => Laid (Layout.size α) out pkt p.hdr p.offset)
    {p : Parsed H} (hp : extract pkt store next ⟨init,0⟩ = some p) :
    pkt.length < Layout.size α ∧ p = ⟨init,0,.packetTooShort⟩ ∨
      Laid (Layout.size α) out pkt p.hdr p.offset := by
  by_cases hl : pkt.length < Layout.size α
  · left
    rw [extract_short pkt _ _ (by simpa using hl)] at hp
    exact ⟨hl,(Option.some.inj hp).symm⟩
  · right
    have hfit : 0 + Layout.size α ≤ pkt.length := by omega
    rw [extract_fits pkt _ _ hfit] at hp
    refine hnext _ p ⟨⟨?_,?_,?_⟩,⟨_,rfl⟩⟩ hp
    · rw [Reemits, hstore, encode_headerAt hfit]
      exact slice_append_drop pkt 0 (Layout.size α)
    · exact Nat.le_add_left _ _
    · exact hfit

end Laid

end P4tcExamples
