import Mathlib.Logic.Equiv.Basic
import Mathlib.Algebra.BigOperators.Group.List.Basic
import Mathlib.Data.Nat.ModEq

/-! # Bit fields packed most significant first into octets

A layout is a list of field widths. Packing concatenates the fields into one bit
vector and cuts that vector into octets; no field has to start on an octet
boundary, only the whole layout ends on one. Both round trips are proved once,
by induction on the layout and on the number of octets.
-/
namespace P4tcExamples.BitFields

abbrev Byte := BitVec 8

def beNat : List Byte → ℕ
  | [] => 0
  | b :: bs => b.toNat * 256 ^ bs.length + beNat bs

def ofBytes (w : ℕ) (bs : List Byte) : BitVec w := BitVec.ofNat w (beNat bs)

/-- The `n` low octets of a bit vector of any width. -/
def toBytes {w : ℕ} : ℕ → BitVec w → List Byte
  | 0, _ => []
  | n + 1, x => x.extractLsb' (8*n) 8 :: toBytes n x

@[simp] theorem toBytes_zero {w : ℕ} (x : BitVec w) : toBytes 0 x = [] := rfl

@[simp] theorem length_toBytes {w : ℕ} (n : ℕ) (x : BitVec w) : (toBytes n x).length = n := by
  induction n with
  | zero => rfl
  | succ n ih => simp only [toBytes, List.length_cons, ih]

theorem toBytes_one (x : Byte) : toBytes 1 x = [x] := by
  simp [toBytes]

theorem toBytes_append_low {u v : ℕ} (a : BitVec u) (b : BitVec v) {n : ℕ} (h : 8*n ≤ v) :
    toBytes n (a ++ b) = toBytes n b := by
  induction n with
  | zero => rfl
  | succ n ih =>
    have hb : BitVec.extractLsb' (8*n) 8 (a ++ b) = BitVec.extractLsb' (8*n) 8 b :=
      BitVec.extractLsb'_append_eq_of_add_le (by omega)
    simp only [toBytes, hb, ih (by omega)]

theorem toBytes_append {u v : ℕ} (a : BitVec u) (b : BitVec v) (m n : ℕ) (h : v = 8*n) :
    toBytes (m + n) (a ++ b) = toBytes m a ++ toBytes n b := by
  induction m with
  | zero => rw [Nat.zero_add, toBytes_append_low a b (by omega)]; rfl
  | succ m ih =>
    have hb : BitVec.extractLsb' (8*(m + n)) 8 (a ++ b) = BitVec.extractLsb' (8*m) 8 a := by
      rw [BitVec.extractLsb'_append_eq_of_le (by omega)]
      congr 1
      omega
    rw [Nat.add_right_comm, toBytes, hb, ih]
    rfl

theorem toBytes_append_nil {u : ℕ} (n : ℕ) (x : BitVec u) : toBytes n (x ++ 0#0) = toBytes n x := by
  have h := toBytes_append x (0#0) n 0 rfl
  rwa [toBytes_zero, List.append_nil] at h

theorem toBytes_assoc {t u v : ℕ} (n : ℕ) (a : BitVec t) (b : BitVec u) (c : BitVec v) :
    toBytes n (a ++ (b ++ c)) = toBytes n (a ++ b ++ c) := by
  rw [BitVec.append_assoc]
  generalize_proofs he
  revert he
  generalize t + u + v = k
  rintro rfl
  rfl

theorem toBytes_append_pair {t u v : ℕ} (a : BitVec t) (b : BitVec u) (c : BitVec v) (m n : ℕ)
    (h : v = 8*n) : toBytes (m + n) (a ++ (b ++ c)) = toBytes m (a ++ b) ++ toBytes n c := by
  rw [toBytes_assoc, toBytes_append (a ++ b) c m n h]

theorem beNat_lt (bs : List Byte) : beNat bs < 256 ^ bs.length := by
  induction bs with
  | nil => simp [beNat]
  | cons b bs ih =>
    have hb : b.toNat < 256 := b.isLt
    have hm := Nat.mul_le_mul_right (256 ^ bs.length) (Nat.succ_le_of_lt hb)
    simp only [beNat, List.length_cons, Nat.pow_succ]
    rw [Nat.succ_mul] at hm
    omega

theorem beNat_toBytes {w : ℕ} (n : ℕ) (x : BitVec w) :
    beNat (toBytes n x) = x.toNat % 256 ^ n := by
  induction n with
  | zero => simp [toBytes, beNat, Nat.mod_one]
  | succ n ih =>
    have hp : (2 : ℕ) ^ (8*n) = 256 ^ n := by rw [Nat.pow_mul]
    simp only [toBytes, beNat, length_toBytes, ih, BitVec.extractLsb'_toNat, Nat.shiftRight_eq_div_pow, hp]
    have hm : x.toNat % 256 ^ (n + 1) = x.toNat % 256 ^ n + 256 ^ n * (x.toNat / 256 ^ n % 256) := by
      rw [Nat.pow_succ, Nat.mod_mul]
    rw [hm, Nat.mul_comm, Nat.add_comm]

theorem ofBytes_toBytes {w n : ℕ} (h : w = 8*n) (x : BitVec w) : ofBytes w (toBytes n x) = x := by
  apply BitVec.eq_of_toNat_eq
  have hp : (256 : ℕ) ^ n = 2 ^ w := by rw [h, Nat.pow_mul]
  rw [ofBytes, BitVec.toNat_ofNat, beNat_toBytes, hp, Nat.mod_mod, Nat.mod_eq_of_lt x.isLt]

theorem eq_of_beNat_eq {as bs : List Byte} (hl : as.length = bs.length)
    (h : beNat as = beNat bs) : as = bs := by
  induction as generalizing bs with
  | nil => exact (List.length_eq_zero_iff.mp hl.symm).symm
  | cons a as ih =>
    cases bs with
    | nil => simp at hl
    | cons b bs =>
      have hlen : as.length = bs.length := by simpa using hl
      simp only [beNat, hlen] at h
      have ha := beNat_lt as
      have hb := beNat_lt bs
      rw [hlen] at ha
      have hhead : a.toNat = b.toNat := by
        have h1 := congrArg (· / 256 ^ bs.length) h
        have hpos : 0 < 256 ^ bs.length := Nat.pow_pos (by decide)
        simpa [Nat.add_comm _ (beNat _), Nat.add_mul_div_right _ _ hpos, Nat.div_eq_of_lt ha, Nat.div_eq_of_lt hb] using h1
      have htail : beNat as = beNat bs := by rw [hhead] at h; omega
      rw [BitVec.eq_of_toNat_eq hhead, ih hlen htail]

theorem toBytes_ofBytes {w : ℕ} {bs : List Byte} (h : w = 8*bs.length) :
    toBytes bs.length (ofBytes w bs) = bs := by
  apply eq_of_beNat_eq (length_toBytes _ _)
  have hp : (256 : ℕ) ^ bs.length = 2 ^ w := by rw [h, Nat.pow_mul]
  have hlt : beNat bs < 2 ^ w := hp ▸ beNat_lt bs
  rw [beNat_toBytes, ofBytes, BitVec.toNat_ofNat, hp, Nat.mod_mod, Nat.mod_eq_of_lt hlt]

def Fields : List ℕ → Type
  | [] => Unit
  | w :: ws => BitVec w × Fields ws

def pack : {ws : List ℕ} → Fields ws → BitVec ws.sum
  | [], _ => 0#0
  | _ :: _, (x, xs) => x ++ pack xs

def unpack : (ws : List ℕ) → BitVec ws.sum → Fields ws
  | [], _ => ()
  | w :: ws, x => (BitVec.extractLsb' ws.sum w x,unpack ws (BitVec.extractLsb' 0 ws.sum x))

theorem unpack_pack {ws : List ℕ} (fs : Fields ws) : unpack ws (pack fs) = fs := by
  induction ws with
  | nil => rfl
  | cons w ws ih =>
    obtain ⟨x,xs⟩ := fs
    change (BitVec.extractLsb' ws.sum w (x ++ pack xs),
      unpack ws (BitVec.extractLsb' 0 ws.sum (x ++ pack xs))) = (x,xs)
    rw [BitVec.extractLsb'_append_eq_left, BitVec.extractLsb'_append_eq_right, ih]

theorem pack_unpack (ws : List ℕ) (x : BitVec ws.sum) : pack (unpack ws x) = x := by
  induction ws with
  | nil => exact (BitVec.eq_nil x).symm
  | cons w ws ih =>
    change BitVec.extractLsb' ws.sum w x ++ pack (unpack ws (BitVec.extractLsb' 0 ws.sum x)) = x
    rw [ih]
    exact BitVec.extractLsb'_append_extractLsb'

/-- A record type laid out as consecutive bit fields filling whole octets. -/
class Layout (α : Type) where
  widths : List ℕ
  size : ℕ
  aligned : widths.sum = 8*size
  fields : α ≃ Fields widths

section Codec
variable {α : Type} [Layout α]

def encode (a : α) : List Byte := toBytes (Layout.size α) (pack (Layout.fields a))

def decode (α : Type) [Layout α] (bs : List Byte) : α :=
  Layout.fields.symm (unpack (Layout.widths α) (ofBytes _ bs))

@[simp] theorem length_encode (a : α) : (encode a).length = Layout.size α := length_toBytes _ _

@[simp] theorem decode_encode (a : α) : decode α (encode a) = a := by
  rw [decode, encode, ofBytes_toBytes Layout.aligned, unpack_pack, Equiv.symm_apply_apply]

theorem encode_decode {bs : List Byte} (h : bs.length = Layout.size α) :
    encode (decode α bs) = bs := by
  rw [encode, decode, Equiv.apply_symm_apply, pack_unpack, ← h]
  exact toBytes_ofBytes (Layout.aligned.trans (by rw [h]))

theorem encode_injective {a b : α} (h : encode a = encode b) : a = b := by
  rw [← decode_encode a, h, decode_encode]

end Codec

end P4tcExamples.BitFields
