import P4tcExamples.Library.HostOrder
import Mathlib.Logic.Function.Iterate

/-! # Reflected cyclic redundancy checks

A register of `w` bits is shifted towards its lowest bit; the bit that falls out
decides whether the polynomial is added. The step is linear, and as long as only
zeros fall out it is the plain shift. This is what makes the faster algorithms
correct: a table holds the effect of one octet, and several octets that fit the
register are added at once.
-/
namespace P4tcExamples.Crc
open BitFields
variable {w : ℕ} (poly : BitVec w)

def bitStep (r : BitVec w) : BitVec w :=
  if r.getLsbD 0 then (r >>> 1) ^^^ poly else r >>> 1

def shift (n : ℕ) (r : BitVec w) : BitVec w := (bitStep poly)^[n] r

def octet (r : BitVec w) (b : Byte) : BitVec w := shift poly 8 (r ^^^ b.setWidth w)

def update (r : BitVec w) (bs : List Byte) : BitVec w := bs.foldl (octet poly) r

theorem bitStep_xor (r s : BitVec w) :
    bitStep poly (r ^^^ s) = bitStep poly r ^^^ bitStep poly s := by
  unfold bitStep
  rw [BitVec.getLsbD_xor]
  cases r.getLsbD 0 with
  | false =>
    cases s.getLsbD 0 with
    | false => simp [BitVec.ushiftRight_xor_distrib]
    | true => simp [BitVec.ushiftRight_xor_distrib, BitVec.xor_assoc]
  | true =>
    cases s.getLsbD 0 with
    | false =>
      simp only [Bool.xor_false, ↓reduceIte, Bool.false_eq_true, BitVec.ushiftRight_xor_distrib]
      ac_rfl
    | true =>
      have hp (a b : BitVec w) : a ^^^ poly ^^^ (b ^^^ poly) = a ^^^ b := by
        rw [show a ^^^ poly ^^^ (b ^^^ poly) = a ^^^ b ^^^ (poly ^^^ poly) by ac_rfl, BitVec.xor_self,
          BitVec.xor_zero]
      simp only [Bool.xor_true, Bool.not_true, Bool.false_eq_true, ↓reduceIte,
        BitVec.ushiftRight_xor_distrib, hp]

theorem shift_xor (n : ℕ) (r s : BitVec w) :
    shift poly n (r ^^^ s) = shift poly n r ^^^ shift poly n s := by
  induction n generalizing r s with
  | zero => rfl
  | succ n ih =>
    rw [shift, Function.iterate_succ_apply, bitStep_xor]
    exact ih _ _

theorem shift_shift (m n : ℕ) (r : BitVec w) :
    shift poly m (shift poly n r) = shift poly (m + n) r :=
  (Function.iterate_add_apply (bitStep poly) m n r).symm

/-- Zeros that fall out leave the shift alone. -/
theorem shift_of_low_zero (n : ℕ) {r : BitVec w} (h : ∀ i < n, r.getLsbD i = false) :
    shift poly n r = r >>> n := by
  induction n generalizing r with
  | zero => rw [BitVec.ushiftRight_zero]; rfl
  | succ n ih =>
    have hz : bitStep poly r = r >>> 1 := by
      rw [bitStep, h 0 (Nat.succ_pos n), if_neg Bool.false_ne_true]
    have hlow : ∀ i < n, (r >>> 1).getLsbD i = false := by
      intro i hi
      rw [BitVec.getLsbD_ushiftRight, Nat.add_comm]
      exact h (i + 1) (Nat.succ_lt_succ hi)
    rw [shift, Function.iterate_succ_apply, hz]
    refine (ih hlow).trans ?_
    rw [← BitVec.shiftRight_add, Nat.add_comm]

theorem update_append (r : BitVec w) (as bs : List Byte) :
    update poly r (as ++ bs) = update poly (update poly r as) bs := List.foldl_append

/-- One octet by a table of the effects of the lowest eight bits. -/
theorem octet_eq (r : BitVec w) (b : Byte) :
    octet poly r b = (r >>> 8) ^^^ shift poly 8 ((r.setWidth 8 ^^^ b).setWidth w) := by
  have hsplit : r ^^^ b.setWidth w = (r >>> 8 <<< 8) ^^^ (r.setWidth 8 ^^^ b).setWidth w := by
    apply BitVec.eq_of_getLsbD_eq
    intro i hi
    by_cases h8 : i < 8
    · simp [hi, h8]
    · have hb : b.getLsbD i = false := BitVec.getLsbD_of_ge _ _ (by omega)
      simp [BitVec.getLsbD_setWidth, hi, h8, hb, show 8 + (i - 8) = i by omega]
  have hhigh : shift poly 8 (r >>> 8 <<< 8) = r >>> 8 := by
    rw [shift_of_low_zero]
    · apply BitVec.eq_of_getLsbD_eq
      intro i hi
      by_cases hw : 8 + i < w
      · simp [hw]
      · have hr : r.getLsbD (8 + i) = false := BitVec.getLsbD_of_ge _ _ (by omega)
        simp [hw, hr]
    · intro i hi
      simp [BitVec.getLsbD_shiftLeft, hi]
  rw [octet, hsplit, shift_xor, hhigh]

/-- The octets of a register, the first one lowest. -/
def word : List Byte → BitVec w
  | [] => 0#w
  | b :: bs => b.setWidth w ^^^ (word bs <<< 8)

theorem getLsbD_word {bs : List Byte} {i : ℕ} (h : 8*bs.length ≤ i) :
    (word bs : BitVec w).getLsbD i = false := by
  induction bs generalizing i with
  | nil => exact BitVec.getLsbD_zero
  | cons b bs ih =>
    rw [List.length_cons] at h
    have hb : b.getLsbD i = false := BitVec.getLsbD_of_ge _ _ (by omega)
    rw [word, BitVec.getLsbD_xor, BitVec.getLsbD_setWidth, BitVec.getLsbD_shiftLeft,
      ih (by omega), hb, Bool.and_false, Bool.and_false, Bool.xor_false]

theorem shift_word {bs : List Byte} (h : 8*bs.length + 8 ≤ w) :
    shift poly 8 (word bs <<< 8) = word bs := by
  rw [shift_of_low_zero]
  · apply BitVec.eq_of_getLsbD_eq
    intro i hi
    rw [BitVec.getLsbD_ushiftRight, BitVec.getLsbD_shiftLeft]
    by_cases hw : 8 + i < w
    · simp [hw]
    · have hz : (word bs : BitVec w).getLsbD i = false := getLsbD_word (by omega)
      simp [hw, hz]
  · intro i hi
    simp [BitVec.getLsbD_shiftLeft, hi]

/-- Octets that fit the register are added before they are shifted. -/
theorem update_eq_shift {bs : List Byte} (h : 8*bs.length ≤ w) (r : BitVec w) :
    update poly r bs = shift poly (8*bs.length) (r ^^^ word bs) := by
  induction bs generalizing r with
  | nil =>
    rw [word, BitVec.xor_zero]
    rfl
  | cons b bs ih =>
    rw [List.length_cons] at h
    have hb : shift poly 8 (r ^^^ word (b :: bs)) = octet poly r b ^^^ word bs := by
      rw [word, ← BitVec.xor_assoc, shift_xor, shift_word poly (by omega)]
      rfl
    rw [update, List.foldl_cons, List.length_cons, Nat.mul_succ, ← shift_shift, hb]
    exact ih (by omega) _

/-- A word of octets, shifted past its first one. -/
theorem shift_word_cons {b : Byte} {bs : List Byte} (h : 8*bs.length + 8 ≤ w) (n : ℕ) :
    shift poly (n + 8) (word (b :: bs)) =
      shift poly (n + 8) (b.setWidth w) ^^^ shift poly n (word bs) := by
  rw [word, shift_xor, ← shift_shift poly n 8 (word bs <<< 8), shift_word poly h]

theorem ofNat_octet (n : ℕ) (b : Byte) :
    BitVec.ofNat w (2^8*n + b.toNat) = b.setWidth w ^^^ (BitVec.ofNat w n <<< 8) := by
  apply BitVec.eq_of_getLsbD_eq
  intro i hi
  rw [BitVec.getLsbD_ofNat, Nat.testBit_two_pow_mul_add n b.isLt i, BitVec.getLsbD_xor,
    BitVec.getLsbD_setWidth, BitVec.getLsbD_shiftLeft, BitVec.getLsbD_ofNat]
  by_cases h8 : i < 8
  · rw [if_pos h8, decide_eq_true h8, Bool.not_true, Bool.and_false, Bool.false_and, Bool.xor_false]
    rfl
  · have hb : b.getLsbD i = false := BitVec.getLsbD_of_ge _ _ (by omega)
    have hn : i - 8 < w := by omega
    rw [if_neg h8, hb, decide_eq_false h8, decide_eq_true hi, decide_eq_true hn]
    simp

theorem beNat_concat (bs : List Byte) (b : Byte) : beNat (bs ++ [b]) = 2^8*beNat bs + b.toNat := by
  induction bs with
  | nil => simp [beNat]
  | cons c bs ih =>
    have hp : c.toNat*256^(bs.length + 1) = 2^8*(c.toNat*256^bs.length) := by
      rw [Nat.pow_succ, Nat.mul_comm (256^bs.length), Nat.mul_left_comm]
      rfl
    simp only [List.cons_append, beNat, ih, List.length_append, List.length_singleton, hp]
    omega

theorem load_little (bs : List Byte) : ByteOrder.little.load w bs = word bs := by
  induction bs with
  | nil => rfl
  | cons b bs ih =>
    rw [ByteOrder.load, List.reverse_cons, ofBytes, beNat_concat, ofNat_octet, word, ← ih]
    rfl

theorem word_store (n : ℕ) (hw : w = 8*n) (x : BitVec w) : word (ByteOrder.little.store n x) = x := by
  rw [← load_little, load_store _ hw]

theorem bswap_load {n : ℕ} (hw : w = 8*n) {bs : List Byte} (h : bs.length = n) :
    bswap n (ByteOrder.little.load w bs) = ByteOrder.little.load w bs.reverse := by
  rw [bswap, ByteOrder.load, ByteOrder.load,
    toBytes_ofBytes_of_length hw (by rw [List.length_reverse, h])]

end P4tcExamples.Crc
