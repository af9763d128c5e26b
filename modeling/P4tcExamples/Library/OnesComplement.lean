import Mathlib.Data.ZMod.Basic
import Mathlib.Algebra.BigOperators.Group.List.Basic
import Mathlib.Tactic.Abel

/-! # One's-complement addition with end-around carry

On `w`-bit words the addition is that of the ring `ZMod (2^w - 1)`, read through
a residue map which is injective except that the zero word and the all-ones word
have the same residue. The zero word is a sum only of zero words, and this is
the whole treatment of the two zeros: an identity of residues is an identity of
words as soon as both sides vanish together. A sum with the carries fed back one
by one and a wide sum folded at the end are compared in the same way.
-/
namespace P4tcExamples.OnesComplement
variable {w : ℕ}

/-- Add and feed the carry out of the top bit back into the lowest one. -/
def add (a b : BitVec w) : BitVec w := a + b + if a + b < b then 1 else 0

theorem eq_zero_iff_toNat {a : BitVec w} : a = 0 ↔ a.toNat = 0 := by
  rw [← BitVec.toNat_inj, BitVec.ofNat_eq_ofNat, BitVec.toNat_ofNat, Nat.zero_mod]

def residue (a : BitVec w) : ZMod (2 ^ w - 1) := (a.toNat : ZMod (2 ^ w - 1))

theorem toNat_add (a b : BitVec w) :
    (add a b).toNat = if a.toNat + b.toNat < 2 ^ w then a.toNat + b.toNat
      else a.toNat + b.toNat - (2 ^ w - 1) := by
  have ha := a.isLt
  have hb := b.isLt
  by_cases hc : a.toNat + b.toNat < 2 ^ w
  · have hlt : ¬a + b < b := by
      rw [BitVec.lt_def, BitVec.toNat_add, Nat.mod_eq_of_lt hc]
      omega
    have hzero : (0 : BitVec w).toNat = 0 := BitVec.toNat_zero
    simp only [add, if_neg hlt, if_pos hc, BitVec.toNat_add, hzero, Nat.add_zero, Nat.mod_eq_of_lt hc]
  · have hm : (a.toNat + b.toNat) % 2 ^ w = a.toNat + b.toNat - 2 ^ w := by
      rw [Nat.mod_eq_sub_mod (by omega), Nat.mod_eq_of_lt (by omega)]
    have hlt : a + b < b := by
      rw [BitVec.lt_def, BitVec.toNat_add, hm]
      omega
    -- a carry needs two words below `2^w` with a sum of at least `2^w`, so `w` is not zero
    have hw : 0 < w := by
      by_contra h
      have hp : 2 ^ w = 1 := by rw [Nat.eq_zero_of_not_pos h, Nat.pow_zero]
      omega
    have hone : (1 : BitVec w).toNat = 1 := BitVec.toNat_one hw
    rw [add, if_pos hlt, if_neg hc, BitVec.toNat_add, hone, BitVec.toNat_add, hm,
      Nat.mod_eq_of_lt (by omega)]
    omega

theorem add_eq_zero {a b : BitVec w} : add a b = 0 ↔ a = 0 ∧ b = 0 := by
  rw [eq_zero_iff_toNat, eq_zero_iff_toNat, eq_zero_iff_toNat, toNat_add]
  split <;> omega

@[simp] theorem residue_zero : residue (0 : BitVec w) = 0 := by
  simp [residue]

@[simp] theorem residue_add (a b : BitVec w) : residue (add a b) = residue a + residue b := by
  have hpos : 0 < 2 ^ w := Nat.pow_pos (by decide)
  simp only [residue, toNat_add]
  split
  · exact Nat.cast_add _ _
  · rw [Nat.cast_sub (by omega), Nat.cast_add, ZMod.natCast_self, sub_zero]

@[simp] theorem residue_not (a : BitVec w) : residue (~~~a) = -residue a := by
  have ha := a.isLt
  rw [residue, residue, BitVec.toNat_not, Nat.cast_sub (by omega), ZMod.natCast_self, zero_sub]

/-- Equal residues and no mix of the two zeros: the words are equal. -/
theorem eq_of_residue_eq {a b : BitVec w} (h : residue a = residue b) (hz : a = 0 ↔ b = 0) :
    a = b := by
  have ha := a.isLt
  have hb := b.isLt
  rw [eq_zero_iff_toNat, eq_zero_iff_toNat] at hz
  rw [residue, residue, ZMod.natCast_eq_natCast_iff'] at h
  apply BitVec.eq_of_toNat_eq
  rcases Nat.lt_or_ge a.toNat (2 ^ w - 1) with ha' | ha'
  · rw [Nat.mod_eq_of_lt ha'] at h
    rcases Nat.lt_or_ge b.toNat (2 ^ w - 1) with hb' | hb'
    · rwa [Nat.mod_eq_of_lt hb'] at h
    · have hb1 : b.toNat = 2 ^ w - 1 := by omega
      rw [hb1, Nat.mod_self] at h
      omega
  · have ha1 : a.toNat = 2 ^ w - 1 := by omega
    rw [ha1, Nat.mod_self] at h
    rcases Nat.lt_or_ge b.toNat (2 ^ w - 1) with hb' | hb'
    · rw [Nat.mod_eq_of_lt hb'] at h
      omega
    · omega

theorem eq_allOnes_iff (hw : 0 < w) {a : BitVec w} :
    a = BitVec.allOnes w ↔ residue a = 0 ∧ a ≠ 0 := by
  have hr : residue (BitVec.allOnes w) = 0 := by
    rw [residue, BitVec.toNat_allOnes, ZMod.natCast_self]
  have hne : BitVec.allOnes w ≠ 0 := by
    have hp := Nat.one_lt_two_pow (Nat.pos_iff_ne_zero.mp hw)
    rw [ne_eq, eq_zero_iff_toNat, BitVec.toNat_allOnes]
    omega
  constructor
  · rintro rfl
    exact ⟨hr,hne⟩
  · rintro ⟨ha,hz⟩
    exact eq_of_residue_eq (ha.trans hr.symm) ⟨fun h => absurd h hz,fun h => absurd h hne⟩

def sum (ws : List (BitVec w)) : BitVec w := ws.foldl add 0

theorem residue_foldl (ws : List (BitVec w)) (s : BitVec w) :
    residue (ws.foldl add s) = residue s + (ws.map residue).sum := by
  induction ws generalizing s with
  | nil => simp
  | cons x ws ih => rw [List.foldl_cons, ih, residue_add, List.map_cons, List.sum_cons, AddSemigroup.add_assoc]

theorem residue_sum (ws : List (BitVec w)) : residue (sum ws) = (ws.map residue).sum := by
  rw [sum, residue_foldl, residue_zero, zero_add]

theorem foldl_eq_zero (ws : List (BitVec w)) (s : BitVec w) :
    ws.foldl add s = 0 ↔ s = 0 ∧ ∀ x ∈ ws, x = 0 := by
  induction ws generalizing s with
  | nil => simp
  | cons x ws ih => rw [List.foldl_cons, ih, add_eq_zero, List.forall_mem_cons, and_assoc]

theorem sum_eq_zero (ws : List (BitVec w)) : sum ws = 0 ↔ ∀ x ∈ ws, x = 0 := by
  rw [sum, foldl_eq_zero, and_iff_right rfl]

theorem foldl_perm {ws vs : List (BitVec w)} (h : ws.Perm vs) (s : BitVec w) :
    ws.foldl add s = vs.foldl add s := by
  apply eq_of_residue_eq
  · rw [residue_foldl, residue_foldl, (h.map residue).sum_eq]
  · rw [foldl_eq_zero, foldl_eq_zero]
    simp only [h.mem_iff]

/-- The sum in an accumulator wide enough to keep every carry. -/
def wideSum (ws : List (BitVec w)) : ℕ := (ws.map BitVec.toNat).sum

theorem wideSum_cons (x : BitVec w) (ws : List (BitVec w)) :
    wideSum (x :: ws) = x.toNat + wideSum ws := by
  simp only [wideSum, List.map_cons, List.sum_cons]

theorem wideSum_le (ws : List (BitVec w)) : wideSum ws ≤ ws.length * (2 ^ w - 1) := by
  induction ws with
  | nil => exact Nat.zero_le _
  | cons x ws ih =>
    have hx := x.isLt
    rw [wideSum_cons, List.length_cons, Nat.succ_mul]
    omega

theorem cast_wideSum (ws : List (BitVec w)) :
    (wideSum ws : ZMod (2 ^ w - 1)) = (ws.map residue).sum := by
  induction ws with
  | nil => exact Nat.cast_zero
  | cons x ws ih => rw [wideSum_cons, Nat.cast_add, ih, List.map_cons, List.sum_cons, residue]

theorem wideSum_eq_zero (ws : List (BitVec w)) : wideSum ws = 0 ↔ ∀ x ∈ ws, x = 0 := by
  induction ws with
  | nil => simp [wideSum]
  | cons x ws ih =>
    rw [wideSum_cons, Nat.add_eq_zero_iff, ih, ← eq_zero_iff_toNat, List.forall_mem_cons]

theorem fold_decreases {n : ℕ} (h : 0 < w ∧ 2 ^ w ≤ n) : n % 2 ^ w + n / 2 ^ w < n := by
  have hp := Nat.one_lt_two_pow (Nat.pos_iff_ne_zero.mp h.1)
  have hq : 0 < n / 2 ^ w := Nat.div_pos h.2 (by omega)
  have hlt : n / 2 ^ w < 2 ^ w * (n / 2 ^ w) := lt_mul_of_one_lt_left hq hp
  have hn := Nat.mod_add_div n (2 ^ w)
  omega

/-- Add what stands above the low `w` bits to them, until nothing does. -/
def fold (w n : ℕ) : ℕ :=
  if 0 < w ∧ 2 ^ w ≤ n then fold w (n % 2 ^ w + n / 2 ^ w) else n
termination_by n
decreasing_by exact fold_decreases ‹_›

theorem fold_lt (hw : 0 < w) (n : ℕ) : fold w n < 2 ^ w := by
  fun_induction fold w n with
  | case1 n h ih => exact ih
  | case2 n h => exact Nat.lt_of_not_le fun hn => h ⟨hw,hn⟩

theorem fold_eq_zero (w n : ℕ) : fold w n = 0 ↔ n = 0 := by
  fun_induction fold w n with
  | case1 n h ih =>
    have hq : 0 < n / 2 ^ w := Nat.div_pos h.2 (Nat.pow_pos (by decide))
    have hn : 0 < n := Nat.lt_of_lt_of_le (Nat.pow_pos (by decide)) h.2
    rw [ih]
    omega
  | case2 n h => exact Iff.rfl

/-- The base is one in the residue ring, so folding keeps the residue. -/
theorem cast_fold (w n : ℕ) : (fold w n : ZMod (2 ^ w - 1)) = n := by
  fun_induction fold w n with
  | case1 n h ih =>
    have hb : ((2 ^ w : ℕ) : ZMod (2 ^ w - 1)) = 1 := by
      have hz := ZMod.natCast_self (2 ^ w - 1)
      rw [Nat.cast_sub Nat.one_le_two_pow, Nat.cast_one] at hz
      exact sub_eq_zero.mp hz
    calc (fold w (n % 2 ^ w + n / 2 ^ w) : ZMod (2 ^ w - 1))
        = (n % 2 ^ w : ℕ) + ((2 ^ w : ℕ) : ZMod (2 ^ w - 1)) * (n / 2 ^ w : ℕ) := by
          rw [ih, Nat.cast_add, hb, one_mul]
      _ = n := by rw [← Nat.cast_mul, ← Nat.cast_add, Nat.mod_add_div]
  | case2 n h => rfl

/-- Carrying around at every addition and folding once at the end agree. -/
theorem fold_wideSum (hw : 0 < w) (ws : List (BitVec w)) : fold w (wideSum ws) = (sum ws).toNat := by
  have hlt := fold_lt hw (wideSum ws)
  have hn : (BitVec.ofNat w (fold w (wideSum ws))).toNat = fold w (wideSum ws) := by
    rw [BitVec.toNat_ofNat, Nat.mod_eq_of_lt hlt]
  have he : BitVec.ofNat w (fold w (wideSum ws)) = sum ws := by
    apply eq_of_residue_eq
    · rw [residue, hn, cast_fold, cast_wideSum, residue_sum]
    · rw [eq_zero_iff_toNat, hn, fold_eq_zero, wideSum_eq_zero, sum_eq_zero]
  rw [← he, hn]

end P4tcExamples.OnesComplement
