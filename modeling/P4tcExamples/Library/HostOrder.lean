import P4tcExamples.Library.Octets

/-! # Integers in memory under either byte order

An integer of `n` octets occupies `n` addresses; the host's byte order says which
octet lies at the lowest one. Conversion to network order swaps on a little-endian
host and does nothing on a big-endian one, so that what lies in memory afterwards,
or what was read from memory before, does not depend on the host.
-/
namespace P4tcExamples.BitFields

inductive ByteOrder
  | little
  | big
deriving DecidableEq, Repr

/-- The `n` octets of an integer in the order of their addresses. -/
def ByteOrder.store (o : ByteOrder) (n : ℕ) {w : ℕ} (x : BitVec w) : List Byte :=
  match o with
  | .little => (toBytes n x).reverse
  | .big => toBytes n x

def ByteOrder.load (o : ByteOrder) (w : ℕ) (bs : List Byte) : BitVec w :=
  match o with
  | .little => ofBytes w bs.reverse
  | .big => ofBytes w bs

def bswap (n : ℕ) {w : ℕ} (x : BitVec w) : BitVec w := ofBytes w (toBytes n x).reverse

def ByteOrder.hton (o : ByteOrder) (n : ℕ) {w : ℕ} (x : BitVec w) : BitVec w :=
  match o with
  | .little => bswap n x
  | .big => x

section Memory
variable {w n : ℕ} (o : ByteOrder)

@[simp] theorem length_store (x : BitVec w) : (o.store n x).length = n := by
  cases o with
  | little => rw [ByteOrder.store, List.length_reverse, length_toBytes]
  | big => exact length_toBytes n x

theorem toBytes_ofBytes_of_length (hw : w = 8*n) {bs : List Byte} (h : bs.length = n) :
    toBytes n (ofBytes w bs) = bs := by
  subst h
  exact toBytes_ofBytes hw

theorem store_load (hw : w = 8*n) {bs : List Byte} (h : bs.length = n) :
    o.store n (o.load w bs) = bs := by
  cases o with
  | little =>
    rw [ByteOrder.store, ByteOrder.load, toBytes_ofBytes_of_length hw (by rw [List.length_reverse, h]),
      List.reverse_reverse]
  | big => exact toBytes_ofBytes_of_length hw h

theorem load_store (hw : w = 8*n) (x : BitVec w) : o.load w (o.store n x) = x := by
  cases o with
  | little => rw [ByteOrder.store, ByteOrder.load, List.reverse_reverse, ofBytes_toBytes hw]
  | big => exact ofBytes_toBytes hw x

theorem store_injective (hw : w = 8*n) {x y : BitVec w} (h : o.store n x = o.store n y) :
    x = y := by
  rw [← load_store o hw x, h, load_store o hw]

theorem store_hton (hw : w = 8*n) (x : BitVec w) : o.store n (o.hton n x) = toBytes n x := by
  cases o with
  | little =>
    rw [ByteOrder.store, ByteOrder.hton, bswap, toBytes_ofBytes_of_length hw (by simp),
      List.reverse_reverse]
  | big => rfl

theorem hton_load (hw : w = 8*n) {bs : List Byte} (h : bs.length = n) :
    o.hton n (o.load w bs) = ofBytes w bs := by
  cases o with
  | little =>
    rw [ByteOrder.hton, ByteOrder.load, bswap,
      toBytes_ofBytes_of_length hw (by rw [List.length_reverse, h]), List.reverse_reverse]
  | big => rfl

theorem hton_hton (hw : w = 8*n) (x : BitVec w) : o.hton n (o.hton n x) = x := by
  apply store_injective o hw
  cases o with
  | little =>
    rw [store_hton _ hw, ByteOrder.hton, bswap, toBytes_ofBytes_of_length hw (by simp),
      ByteOrder.store]
  | big => rfl

/-- An integer whose memory image is the network image of another. -/
theorem eq_hton_of_store (hw : w = 8*n) {x y : BitVec w} (h : o.store n x = toBytes n y) :
    x = o.hton n y := by
  apply store_injective o hw
  rw [h, store_hton o hw]

end Memory

/-- `memcpy` into an integer of `m` octets: the octets behind those copied stay. -/
def ByteOrder.memcpy (o : ByteOrder) (m : ℕ) {w : ℕ} (old : BitVec w) (bs : List Byte) : BitVec w :=
  o.load w (bs ++ (o.store m old).drop bs.length)

theorem take_store_memcpy (o : ByteOrder) {w m : ℕ} (hw : w = 8*m) (old : BitVec w) {bs : List Byte}
    (h : bs.length ≤ m) : (o.store m (o.memcpy m old bs)).take bs.length = bs := by
  have hl : (bs ++ (o.store m old).drop bs.length).length = m := by
    rw [List.length_append, List.length_drop, length_store]
    omega
  rw [ByteOrder.memcpy, store_load o hw hl, List.take_left]

end P4tcExamples.BitFields
