import P4tcExamples.Library.BitFields

/-! # Reading and overwriting parts of an octet string

Everything a specification says about a wire image goes through three
operations: reading a big-endian value at an offset, overwriting a run of octets
without moving the others, and cutting the string into 16-bit words.
-/
namespace P4tcExamples.BitFields

def slice (f : List Byte) (off n : ℕ) : List Byte := (f.drop off).take n

/-- The big-endian value of the field of width `w` at an octet offset. -/
def be (w : ℕ) (f : List Byte) (off : ℕ) : BitVec w := ofBytes w (slice f off (w/8))

def splice (off : ℕ) (bs f : List Byte) : List Byte :=
  f.take off ++ bs ++ f.drop (off + bs.length)

@[simp] theorem length_slice {f : List Byte} {off n : ℕ} (h : off + n ≤ f.length) :
    (slice f off n).length = n := by
  rw [slice, List.length_take, List.length_drop]
  omega

theorem slice_append_left {a b : List Byte} {off n : ℕ} (h : off + n ≤ a.length) :
    slice (a ++ b) off n = slice a off n := by
  rw [slice, slice, List.drop_append_of_le_length (by omega), List.take_append_of_le_length]
  rw [List.length_drop]
  omega

theorem slice_append_right {a b : List Byte} {off n : ℕ} (h : a.length ≤ off) :
    slice (a ++ b) off n = slice b (off - a.length) n := by
  rw [slice, slice, List.drop_append, List.drop_eq_nil_of_le h, List.nil_append]

@[simp] theorem slice_self (a : List Byte) : slice a 0 a.length = a := by
  simp [slice]

theorem slice_zero {a : List Byte} {n : ℕ} (h : a.length = n) : slice a 0 n = a := by
  rw [← h, slice_self]

theorem slice_append_drop (f : List Byte) (off n : ℕ) :
    slice f off n ++ f.drop (off + n) = f.drop off := by
  rw [slice, ← List.drop_drop, List.take_append_drop]

theorem slice_append_slice (f : List Byte) (off m n : ℕ) :
    slice f off m ++ slice f (off + m) n = slice f off (m + n) := by
  rw [slice, slice, slice, ← List.drop_drop, List.take_add]

theorem slice_succ {f : List Byte} {off : ℕ} (n : ℕ) (h : off < f.length) :
    slice f off (n + 1) = f.getD off 0 :: slice f (off + 1) n := by
  rw [slice, List.drop_eq_getElem_cons h, List.take_succ_cons, slice, List.getD_eq_getElem?_getD,
    List.getElem?_eq_getElem h, Option.getD_some]

theorem reverse_take_succ {f : List Byte} {n : ℕ} (h : n < f.length) :
    (f.take (n + 1)).reverse = f.getD n 0 :: (f.take n).reverse := by
  rw [List.take_add_one, List.getD_eq_getElem?_getD, List.getElem?_eq_getElem h, List.reverse_append]
  rfl

theorem be_eq {w n : ℕ} (f : List Byte) (off : ℕ) (h : w = 8*n) :
    be w f off = ofBytes w (slice f off n) := by
  rw [be, h, Nat.mul_div_cancel_left n (by decide)]

theorem toBytes_be {w n : ℕ} {f : List Byte} {off : ℕ} (hw : w = 8*n) (h : off + n ≤ f.length) :
    toBytes n (be w f off) = slice f off n := by
  have hl : (slice f off n).length = n := length_slice h
  have hr : toBytes (slice f off n).length (ofBytes w (slice f off n)) = slice f off n :=
    toBytes_ofBytes (by rw [hl, hw])
  rwa [hl, ← be_eq f off hw] at hr

theorem be_eq_be_iff {w n : ℕ} {f g : List Byte} {i j : ℕ} (hw : w = 8*n) (hi : i + n ≤ f.length)
    (hj : j + n ≤ g.length) : be w f i = be w g j ↔ slice f i n = slice g j n := by
  constructor
  · intro h
    rw [← toBytes_be hw hi, h, toBytes_be hw hj]
  · intro h
    rw [be_eq f i hw, h, ← be_eq g j hw]

theorem be_append {f : List Byte} {off m n : ℕ} (h : off + m + n ≤ f.length) :
    be (8*m + 8*n) f off = be (8*m) f off ++ be (8*n) f (off + m) := by
  have hw : 8*m + 8*n = 8*(m + n) := (Nat.mul_add 8 m n).symm
  have hb : toBytes (m + n) (be (8*m + 8*n) f off) =
      toBytes (m + n) (be (8*m) f off ++ be (8*n) f (off + m)) := by
    rw [toBytes_append _ _ m n rfl, toBytes_be hw (by omega), toBytes_be rfl (by omega),
      toBytes_be rfl (by omega), slice_append_slice]
  rw [← ofBytes_toBytes hw (be (8*m + 8*n) f off), hb, ofBytes_toBytes hw]

@[simp] theorem length_splice {off : ℕ} {bs f : List Byte} (h : off + bs.length ≤ f.length) :
    (splice off bs f).length = f.length := by
  simp only [splice, List.length_append, List.length_take, List.length_drop]
  omega

theorem splice_append_left {off : ℕ} {bs a b : List Byte} (h : off + bs.length ≤ a.length) :
    splice off bs (a ++ b) = splice off bs a ++ b := by
  simp only [splice, List.take_append_of_le_length (show off ≤ a.length by omega),
    List.drop_append_of_le_length h, List.append_assoc]

theorem splice_append_right {off : ℕ} {bs a b : List Byte} (h : a.length ≤ off) :
    splice off bs (a ++ b) = a ++ splice (off - a.length) bs b := by
  simp only [splice, List.take_append, List.take_of_length_le h, List.drop_append,
    List.drop_eq_nil_of_le (show a.length ≤ off + bs.length by omega), List.append_assoc,
    List.nil_append, show off + bs.length - a.length = off - a.length + bs.length by omega]

theorem splice_zero {bs a b : List Byte} (h : a.length = bs.length) :
    splice 0 bs (a ++ b) = bs ++ b := by
  rw [splice, List.take_zero, List.nil_append, Nat.zero_add, ← h, List.drop_left]

theorem getElem?_splice {off : ℕ} {bs f : List Byte} (hf : off + bs.length ≤ f.length) {i : ℕ}
    (hi : i < off ∨ off + bs.length ≤ i) : (splice off bs f)[i]? = f[i]? := by
  have ht : (f.take off).length = off := by rw [List.length_take]; omega
  rcases hi with hi | hi
  · rw [splice, List.append_assoc, List.getElem?_append_left (by omega), List.getElem?_take_of_lt hi]
  · have hl : (f.take off ++ bs).length = off + bs.length := by rw [List.length_append, ht]
    rw [splice, List.getElem?_append_right (by omega), hl, List.getElem?_drop]
    congr 1
    omega

/-- Two overwritten runs that touch are one. -/
theorem splice_splice {off : ℕ} {as bs f : List Byte} (h : off + as.length + bs.length ≤ f.length) :
    splice (off + as.length) bs (splice off as f) = splice off (as ++ bs) f := by
  have ht : (f.take off ++ as).length = off + as.length := by
    rw [List.length_append, List.length_take]
    omega
  have htake : (splice off as f).take (off + as.length) = f.take off ++ as := by
    rw [splice, List.take_append_of_le_length (Nat.le_of_eq ht.symm),
      List.take_of_length_le (Nat.le_of_eq ht)]
  have hdrop : (splice off as f).drop (off + as.length + bs.length) =
      f.drop (off + (as ++ bs).length) := by
    rw [splice, List.drop_append, ht, List.drop_eq_nil_of_le (by omega), List.nil_append,
      List.drop_drop, List.length_append]
    congr 1
    omega
  rw [splice, htake, hdrop, splice, List.append_assoc (f.take off)]

theorem splice_nil (off : ℕ) (f : List Byte) : splice off [] f = f := by
  rw [splice, List.append_nil, List.length_nil, Nat.add_zero, List.take_append_drop]

theorem set_eq_splice {f : List Byte} {i : ℕ} (h : i < f.length) (b : Byte) :
    f.set i b = splice i [b] f := by
  rw [List.set_eq_take_append_cons_drop, if_pos h, splice, List.append_assoc]
  rfl

/-- Two strings of one length that differ at most at the positions in `S`. -/
structure AgreeOff (S : Set ℕ) (f g : List Byte) : Prop where
  length_eq : f.length = g.length
  getElem?_eq : ∀ i, i ∉ S → f[i]? = g[i]?

theorem AgreeOff.refl (S : Set ℕ) (f : List Byte) : AgreeOff S f f := ⟨rfl,fun _ _ => rfl⟩

theorem AgreeOff.trans {S : Set ℕ} {f g h : List Byte} (hfg : AgreeOff S f g)
    (hgh : AgreeOff S g h) : AgreeOff S f h :=
  ⟨hfg.length_eq.trans hgh.length_eq,
    fun i hi => (hfg.getElem?_eq i hi).trans (hgh.getElem?_eq i hi)⟩

theorem agreeOff_splice {S : Set ℕ} {off : ℕ} {bs f : List Byte}
    (hf : off + bs.length ≤ f.length) (hS : ∀ i, off ≤ i → i < off + bs.length → i ∈ S) :
    AgreeOff S (splice off bs f) f := by
  refine ⟨length_splice hf,fun i hi => getElem?_splice hf ?_⟩
  by_contra hc
  push Not at hc
  exact hi (hS i hc.1 hc.2)

def words16 : List Byte → List (BitVec 16)
  | hi :: lo :: rest => (hi ++ lo) :: words16 rest
  | _ => []

theorem words16_toBytes_append (x : BitVec 16) (bs : List Byte) :
    words16 (toBytes 2 x ++ bs) = x :: words16 bs := by
  change (BitVec.extractLsb' 8 8 x ++ BitVec.extractLsb' 0 8 x) :: words16 bs = x :: words16 bs
  rw [BitVec.extractLsb'_append_extractLsb']

end P4tcExamples.BitFields
