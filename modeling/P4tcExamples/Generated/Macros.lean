import P4tcExamples.Library.HostOrder
import P4tcExamples.Pna.Pipeline

/-! # The macros of the generated code

`ebpf_kernel.h` loads from the packet and the `*_parser.h` files mask and write.
Sub-octet expressions are evaluated in 32 bits, as C promotes them, and cut when
they are assigned. `write_partial` keeps the bits of the packet that it does not
write: two of them on one octet leave nothing of the old one.
-/
namespace P4tcExamples.Generated
open BitFields

def bytes (w : ℕ) : ℕ := w / 8

def ebpfMask (w : ℕ) : BitVec 32 := ((1 : BitVec 32) <<< w) - 1

def bpfHtons (o : ByteOrder) (x : BitVec 16) : BitVec 16 := o.hton 2 x
def bpfNtohs (o : ByteOrder) (x : BitVec 16) : BitVec 16 := o.hton 2 x
def bpfHtonl (o : ByteOrder) (x : BitVec 32) : BitVec 32 := o.hton 4 x
def bpfNtohl (o : ByteOrder) (x : BitVec 32) : BitVec 32 := o.hton 4 x
def bpfCpuToBe64 (o : ByteOrder) (x : BitVec 64) : BitVec 64 := o.hton 8 x
def bpfBe64ToCpu (o : ByteOrder) (x : BitVec 64) : BitVec 64 := o.hton 8 x

def loadByte (data : Frame) (b : ℕ) : BitVec 8 := data.getD b 0

def loadHalf (o : ByteOrder) (data : Frame) (b : ℕ) : BitVec 16 :=
  bpfNtohs o (o.load 16 (slice data b 2))

def loadWord (o : ByteOrder) (data : Frame) (b : ℕ) : BitVec 32 :=
  bpfNtohl o (o.load 32 (slice data b 4))

def writeByte (base : Frame) (offset : ℕ) (v : BitVec 8) : Frame := base.set offset v

def writePartial (pkt : Frame) (a w s : ℕ) (v : BitVec 32) : Frame :=
  pkt.set a ((((pkt.getD a 0).setWidth 32 &&& ~~~(ebpfMask w <<< s)) ||| (v <<< s)).setWidth 8)

/-- The octets of a field, written one after the other. -/
def writeOctets (base : Frame) (offset : ℕ) : List Byte → Frame
  | [] => base
  | v :: vs => writeOctets (writeByte base offset v) (offset + 1) vs

@[simp] theorem bytes_mul (n : ℕ) : bytes (8*n) = n := Nat.mul_div_cancel_left n (by decide)

theorem bytes_mul_add (n k : ℕ) : bytes (8*n + k) = n + k/8 := Nat.mul_add_div (by decide) n k

theorem getLsbD_ebpfMask {w : ℕ} (hw : w ≤ 32) (i : ℕ) : (ebpfMask w).getLsbD i = decide (i < w) := by
  have hp : 2 ^ w ≤ 2 ^ 32 := Nat.pow_le_pow_right (by decide) hw
  have hm : ebpfMask w = BitVec.ofNat 32 (2 ^ w - 1) := by
    have h1 : 0 < 2 ^ w := Nat.pow_pos (by decide)
    apply BitVec.eq_of_toNat_eq
    simp only [ebpfMask, BitVec.toNat_sub, BitVec.toNat_shiftLeft, BitVec.ofNat_eq_ofNat,
      BitVec.toNat_ofNat, Nat.shiftLeft_eq, Nat.reducePow, Nat.reduceMod, Nat.reduceSub,
      Nat.one_mul] at hp ⊢
    omega
  rw [hm, BitVec.getLsbD_ofNat, Nat.testBit_two_pow_sub_one]
  by_cases h : i < w
  · simp [h, Nat.lt_of_lt_of_le h hw]
  · simp [h]

/-- A shifted and masked load is the bit field it cuts out. -/
theorem setWidth_mask {n : ℕ} (x : BitVec n) {s w v : ℕ} (hn : n ≤ 32) (hw : w ≤ 32) :
    ((x.setWidth 32 >>> s) &&& ebpfMask w).setWidth v = (x.extractLsb' s w).setWidth v := by
  apply BitVec.eq_of_getLsbD_eq
  intro i hi
  simp only [BitVec.getLsbD_setWidth, BitVec.getLsbD_and, BitVec.getLsbD_ushiftRight,
    BitVec.getLsbD_extractLsb', getLsbD_ebpfMask hw]
  by_cases h : s + i < 32
  · simp [h, Bool.and_comm]
  · simp [h, BitVec.getLsbD_of_ge x (s + i) (by omega)]

theorem setWidth_mask_zero {n : ℕ} (x : BitVec n) {w v : ℕ} (hn : n ≤ 32) (hw : w ≤ 32) :
    (x.setWidth 32 &&& ebpfMask w).setWidth v = (x.extractLsb' 0 w).setWidth v :=
  setWidth_mask x (s := 0) hn hw

theorem loadByte_eq {data : Frame} {b : ℕ} (h : b < data.length) : loadByte data b = be 8 data b := by
  have hs : slice data b 1 = [loadByte data b] := by
    rw [slice, List.drop_eq_getElem_cons h, loadByte, List.getD_eq_getElem?_getD,
      List.getElem?_eq_getElem h]
    rfl
  have hb : ofBytes 8 (toBytes 1 (loadByte data b)) = loadByte data b := ofBytes_toBytes rfl _
  rw [be_eq data b (show 8 = 8*1 from rfl), hs, ← toBytes_one, hb]

theorem loadHalf_eq (o : ByteOrder) {data : Frame} {b : ℕ} (h : b + 2 ≤ data.length) :
    loadHalf o data b = be 16 data b :=
  hton_load o rfl (length_slice h)

theorem loadWord_eq (o : ByteOrder) {data : Frame} {b : ℕ} (h : b + 4 ≤ data.length) :
    loadWord o data b = be 32 data b :=
  hton_load o rfl (length_slice h)

theorem writeOctets_eq (vs : List Byte) {base : Frame} {offset : ℕ}
    (h : offset + vs.length ≤ base.length) : writeOctets base offset vs = splice offset vs base := by
  induction vs generalizing base offset with
  | nil => exact (splice_nil offset base).symm
  | cons v vs ih =>
    rw [List.length_cons] at h
    have hset : (base.set offset v).length = base.length := List.length_set
    rw [writeOctets, writeByte, ih (by omega), set_eq_splice (by omega)]
    have hfit : offset + [v].length + vs.length ≤ base.length := by
      rw [List.length_singleton]
      omega
    exact splice_splice hfit

/-- Two partial writes that cover an octet replace it. -/
theorem writePartial_pair {s : ℕ} (hs : s ≤ 8) (v u : BitVec 32) {pkt : Frame} {a : ℕ}
    (h : a < pkt.length) :
    writePartial (writePartial pkt a (8 - s) s v) a s 0 u =
      splice a [(v <<< s ||| u).setWidth 8] pkt := by
  rw [writePartial, writePartial, List.set_set, set_eq_splice h]
  congr 2
  rw [List.getD_eq_getElem?_getD, List.getElem?_set_self h, Option.getD_some]
  apply BitVec.eq_of_getLsbD_eq
  intro i hi
  simp only [BitVec.getLsbD_setWidth, BitVec.getLsbD_or, BitVec.getLsbD_and, BitVec.getLsbD_not,
    BitVec.getLsbD_shiftLeft, getLsbD_ebpfMask (show s ≤ 32 by omega),
    getLsbD_ebpfMask (show 8 - s ≤ 32 by omega)]
  by_cases his : i < s
  · simp [his, hi, show i < 32 by omega]
  · simp [his, hi, show i < 32 by omega, show i - s < 8 - s by omega]

theorem octet_ext {x y : BitVec 8} (h : ∀ i : Fin 8, x.getLsbD i = y.getLsbD i) : x = y :=
  BitVec.eq_of_getLsbD_eq fun i hi => h ⟨i,hi⟩

/-- A piece of deparser code lays down a run of octets and touches nothing else. -/
def Writes (w : Frame → Frame) (a : ℕ) (bs : List Byte) : Prop :=
  ∀ pkt, a + bs.length ≤ pkt.length → w pkt = splice a bs pkt

namespace Writes
variable {w : Frame → Frame} {a b : ℕ} {bs : List Byte}

theorem nil (a : ℕ) : Writes (fun pkt => pkt) a [] := fun pkt _ => (splice_nil a pkt).symm

theorem append {v : Frame → Frame} {cs : List Byte} (hw : Writes w a bs)
    (hv : Writes v (a + bs.length) cs) : Writes (fun pkt => v (w pkt)) a (bs ++ cs) := by
  intro pkt hl
  rw [List.length_append] at hl
  have hb : a + bs.length ≤ pkt.length := by omega
  have hc : a + bs.length + cs.length ≤ (splice a bs pkt).length := by
    rw [length_splice hb]
    omega
  change v (w pkt) = _
  rw [hw pkt hb, hv _ hc, splice_splice (by omega)]

theorem octets (hw : Writes w a bs) (hb : b = a + bs.length) (vs : List Byte) :
    Writes (fun pkt => writeOctets (w pkt) b vs) a (bs ++ vs) := by
  subst hb
  exact hw.append fun pkt hl => writeOctets_eq vs hl

theorem pair (hw : Writes w a bs) (hb : b = a + bs.length) {s : ℕ} (hs : s ≤ 8) (v u : BitVec 32) :
    Writes (fun pkt => writePartial (writePartial (w pkt) b (8 - s) s v) b s 0 u) a
      (bs ++ [(v <<< s ||| u).setWidth 8]) := by
  subst hb
  exact hw.append fun pkt hl => writePartial_pair hs v u hl

end Writes

end P4tcExamples.Generated
