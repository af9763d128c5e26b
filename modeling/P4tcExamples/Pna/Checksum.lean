import P4tcExamples.Library.OnesComplement
import P4tcExamples.Pna.Headers

/-! # The InternetChecksum extern and the IPv4 header checksum

`csum16Add` and `csum16Sub` are the generated helpers of these names, and the
extern keeps one 16-bit state that they update. `ipTtlDec` stands in the same
words in routing and in ipip; `ipChecksum` is ipip's. The incremental update is
compared with the recomputation in the residue ring of one's-complement words,
and the recomputation with the octets the deparser writes.
-/
namespace P4tcExamples
open BitFields

def csum16Add (csum addend : BitVec 16) : BitVec 16 :=
  let res := csum + addend
  res + if res < addend then 1 else 0

def csum16Sub (csum addend : BitVec 16) : BitVec 16 := csum16Add csum (~~~addend)

structure InternetChecksum where
  state : BitVec 16

namespace InternetChecksum

def clear : InternetChecksum := ⟨0⟩

def setState (_ : InternetChecksum) (state : BitVec 16) : InternetChecksum := ⟨state⟩

def add (chk : InternetChecksum) (words : List (BitVec 16)) : InternetChecksum :=
  ⟨words.foldl csum16Add chk.state⟩

def subtract (chk : InternetChecksum) (words : List (BitVec 16)) : InternetChecksum :=
  ⟨words.foldl csum16Sub chk.state⟩

def get (chk : InternetChecksum) : BitVec 16 := ~~~chk.state

end InternetChecksum

/-- `ip_ttl_dec`: HC' = ~(~HC - m + m') for the word m of ttl and protocol. -/
def ipTtlDec (ip : Ipv4T) : Ipv4T :=
  let chk := InternetChecksum.clear
  let chk := chk.setState (~~~ip.hdrChecksum)
  let chk := chk.subtract [ip.ttl ++ ip.protocol]
  let ip := {ip with ttl := ip.ttl - 1}
  let chk := chk.add [ip.ttl ++ ip.protocol]
  {ip with hdrChecksum := chk.get}

/-- The nine words `ip_checksum` adds; word 5, the checksum itself, is skipped. -/
def checksumWords (ip : Ipv4T) : List (BitVec 16) :=
  [ip.version ++ ip.ihl ++ ip.diffserv, ip.totalLen, ip.identification, ip.flags ++ ip.fragOffset,
    ip.ttl ++ ip.protocol, ip.srcAddr.extractLsb' 16 16, ip.srcAddr.extractLsb' 0 16,
    ip.dstAddr.extractLsb' 16 16, ip.dstAddr.extractLsb' 0 16]

/-- The argument of `chk.add` in `ip_checksum`, as the program lists it; the
generated code packs it into `checksumWords`. -/
def checksumFields (ip : Ipv4T) : Fields [4,4,8,16,16,3,13,8,8,32,32] :=
  (ip.version,ip.ihl,ip.diffserv,ip.totalLen,ip.identification,ip.flags,ip.fragOffset,ip.ttl,
    ip.protocol,ip.srcAddr,ip.dstAddr,())

def ipChecksum (ip : Ipv4T) : Ipv4T :=
  let chk := InternetChecksum.clear
  let chk := chk.add (checksumWords ip)
  {ip with hdrChecksum := chk.get}

/-- A receiver's test: the ten 16-bit words of the wire image sum to all ones. -/
def Verifies (header : List Byte) : Prop := OnesComplement.sum (words16 header) = 0xffff#16

instance (header : List Byte) : Decidable (Verifies header) := inferInstanceAs (Decidable (_ = _))

theorem csum16Add_eq : csum16Add = OnesComplement.add := rfl

theorem words16_toBytes_four (x : BitVec 32) (bs : List Byte) :
    words16 (toBytes 4 x ++ bs) = x.extractLsb' 16 16 :: x.extractLsb' 0 16 :: words16 bs := by
  have hx : toBytes 4 x = toBytes 2 (x.extractLsb' 16 16) ++ toBytes 2 (x.extractLsb' 0 16) := by
    rw [← toBytes_append _ _ 2 2 rfl, BitVec.extractLsb'_append_extractLsb']
  rw [hx, List.append_assoc, words16_toBytes_append, words16_toBytes_append]

theorem words16_toBytes_four_end (x : BitVec 32) :
    words16 (toBytes 4 x) = [x.extractLsb' 16 16,x.extractLsb' 0 16] := by
  have hx := words16_toBytes_four x []
  rwa [List.append_nil] at hx

theorem words16_encode (ip : Ipv4T) : words16 (encode ip) =
    [ip.version ++ ip.ihl ++ ip.diffserv, ip.totalLen, ip.identification, ip.flags ++ ip.fragOffset,
      ip.ttl ++ ip.protocol, ip.hdrChecksum, ip.srcAddr.extractLsb' 16 16,
      ip.srcAddr.extractLsb' 0 16, ip.dstAddr.extractLsb' 16 16, ip.dstAddr.extractLsb' 0 16] := by
  rw [Ipv4T.encode_eq, toBytes_one, toBytes_one, toBytes_one, toBytes_one]
  simp only [List.singleton_append, words16, words16_toBytes_append, words16_toBytes_four,
    words16_toBytes_four_end]

/-- The header's words are those summed, with the checksum itself in the middle. -/
theorem words16_encode_ipChecksum (ip : Ipv4T) : words16 (encode (ipChecksum ip)) =
    (checksumWords ip).take 5 ++ (ipChecksum ip).hdrChecksum :: (checksumWords ip).drop 5 :=
  words16_encode _

theorem toBytes_checksumFields (ip : Ipv4T) :
    toBytes 18 (pack (checksumFields ip)) = toBytes 1 (ip.version ++ ip.ihl) ++
      (toBytes 1 ip.diffserv ++ (toBytes 2 ip.totalLen ++ (toBytes 2 ip.identification ++
      (toBytes 2 (ip.flags ++ ip.fragOffset) ++ (toBytes 1 ip.ttl ++ (toBytes 1 ip.protocol ++
      (toBytes 4 ip.srcAddr ++ toBytes 4 ip.dstAddr))))))) := by
  change toBytes (1 + (1 + (2 + (2 + (2 + (1 + (1 + (4 + 4))))))))
    (ip.version ++ (ip.ihl ++ (ip.diffserv ++ (ip.totalLen ++ (ip.identification ++ (ip.flags ++
      (ip.fragOffset ++ (ip.ttl ++ (ip.protocol ++ (ip.srcAddr ++ (ip.dstAddr ++ 0#0))))))))))) = _
  rw [toBytes_append_pair _ _ _ 1 _ rfl, toBytes_append _ _ 1 _ rfl, toBytes_append _ _ 2 _ rfl,
    toBytes_append _ _ 2 _ rfl, toBytes_append_pair _ _ _ 2 _ rfl, toBytes_append _ _ 1 _ rfl,
    toBytes_append _ _ 1 _ rfl, toBytes_append _ _ 4 _ rfl, toBytes_append_nil]

/-- The program's field list, cut into 16-bit words, is what the generated code adds. -/
theorem words16_checksumFields (ip : Ipv4T) :
    words16 (toBytes 18 (pack (checksumFields ip))) = checksumWords ip := by
  rw [toBytes_checksumFields, toBytes_one, toBytes_one, toBytes_one, toBytes_one]
  simp only [List.singleton_append, words16, words16_toBytes_append, words16_toBytes_four,
    words16_toBytes_four_end, checksumWords]

section Residues
open OnesComplement

/-- The residue of all words but the checksum and the word of ttl and protocol. -/
def restResidue (ip : Ipv4T) : ZMod (2 ^ 16 - 1) :=
  residue (ip.version ++ ip.ihl ++ ip.diffserv) + residue ip.totalLen + residue ip.identification +
    residue (ip.flags ++ ip.fragOffset) + residue (ip.srcAddr.extractLsb' 16 16) +
    residue (ip.srcAddr.extractLsb' 0 16) + residue (ip.dstAddr.extractLsb' 16 16) +
    residue (ip.dstAddr.extractLsb' 0 16)

theorem residue_header (ip : Ipv4T) : residue (sum (words16 (encode ip))) =
    restResidue ip + residue (ip.ttl ++ ip.protocol) + residue ip.hdrChecksum := by
  rw [residue_sum, words16_encode]
  simp only [List.map_cons, List.map_nil, List.sum_cons, List.sum_nil, restResidue]
  abel

theorem residue_checksumWords (ip : Ipv4T) : residue ((checksumWords ip).foldl csum16Add 0) =
    restResidue ip + residue (ip.ttl ++ ip.protocol) := by
  rw [csum16Add_eq, ← sum, residue_sum]
  simp only [checksumWords, List.map_cons, List.map_nil, List.sum_cons, List.sum_nil, restResidue]
  abel

theorem append_ne_zero {u v : ℕ} {a : BitVec u} (b : BitVec v) (h : a ≠ 0) : a ++ b ≠ 0 := by
  intro hc
  apply h
  have he := congrArg (BitVec.extractLsb' v u) hc
  rw [BitVec.extractLsb'_append_eq_left] at he
  rw [he]
  exact BitVec.extractLsb'_zero

theorem toNat_pred {t : BitVec 8} (h : 1 ≤ t.toNat) : (t - 1).toNat = t.toNat - 1 := by
  have hle : (1 : BitVec 8) ≤ t := by rw [BitVec.le_def]; exact h
  rw [BitVec.toNat_sub_of_le hle]
  rfl

theorem ne_zero_of_toNat_pos {w : ℕ} {t : BitVec w} (h : 0 < t.toNat) : t ≠ 0 := by
  intro ht
  rw [eq_zero_iff_toNat.mp ht] at h
  exact Nat.lt_irrefl 0 h

theorem pred_ne_zero {t : BitVec 8} (h : 2 ≤ t.toNat) : t - 1 ≠ 0 := by
  apply ne_zero_of_toNat_pos
  rw [toNat_pred (Nat.le_of_succ_le h)]
  omega

/-- A header with a nonzero ttl never sums to the positive zero, so verifying is
a statement about residues. -/
theorem verifies_iff {ip : Ipv4T} (h : ip.ttl ≠ 0) : Verifies (encode ip) ↔
    restResidue ip + residue (ip.ttl ++ ip.protocol) + residue ip.hdrChecksum = 0 := by
  have hs : sum (words16 (encode ip)) ≠ 0 := by
    rw [ne_eq, sum_eq_zero]
    intro hz
    refine append_ne_zero ip.protocol h (hz _ ?_)
    rw [words16_encode]
    simp
  have he : (0xffff#16 : BitVec 16) = BitVec.allOnes 16 := rfl
  rw [Verifies, he, eq_allOnes_iff (by decide), residue_header, and_iff_left hs]

theorem residue_ipTtlDec (ip : Ipv4T) : residue (ipTtlDec ip).hdrChecksum =
    residue ip.hdrChecksum + residue (ip.ttl ++ ip.protocol) -
      residue ((ip.ttl - 1) ++ ip.protocol) := by
  have he : (ipTtlDec ip).hdrChecksum = ~~~add (add (~~~ip.hdrChecksum) (~~~(ip.ttl ++ ip.protocol)))
      ((ip.ttl - 1) ++ ip.protocol) := rfl
  rw [he, residue_not, residue_add, residue_add, residue_not, residue_not]
  abel

theorem residue_ipChecksum (ip : Ipv4T) : residue (ipChecksum ip).hdrChecksum =
    -(restResidue ip + residue (ip.ttl ++ ip.protocol)) := by
  have he : (ipChecksum ip).hdrChecksum = ~~~(checksumWords ip).foldl csum16Add 0 := rfl
  rw [he, residue_not, residue_checksumWords]

theorem verifies_ipTtlDec {ip : Ipv4T} (h : 2 ≤ ip.ttl.toNat) :
    Verifies (encode (ipTtlDec ip)) ↔ Verifies (encode ip) := by
  have h0 : ip.ttl ≠ 0 := ne_zero_of_toNat_pos (by omega)
  have h1 : (ipTtlDec ip).ttl ≠ 0 := pred_ne_zero h
  have hr : restResidue (ipTtlDec ip) = restResidue ip := rfl
  have hw : (ipTtlDec ip).ttl ++ (ipTtlDec ip).protocol = (ip.ttl - 1) ++ ip.protocol := rfl
  rw [verifies_iff h0, verifies_iff h1, hr, hw, residue_ipTtlDec]
  have hs : restResidue ip + residue ((ip.ttl - 1) ++ ip.protocol) + (residue ip.hdrChecksum +
      residue (ip.ttl ++ ip.protocol) - residue ((ip.ttl - 1) ++ ip.protocol)) =
      restResidue ip + residue (ip.ttl ++ ip.protocol) + residue ip.hdrChecksum := by abel
  rw [hs]

theorem verifies_ipChecksum (ip : Ipv4T) : Verifies (encode (ipChecksum ip)) := by
  have he : (0xffff#16 : BitVec 16) = BitVec.allOnes 16 := rfl
  rw [Verifies, he, eq_allOnes_iff (by decide), residue_header]
  refine ⟨?_,?_⟩
  · have hr : restResidue (ipChecksum ip) = restResidue ip := rfl
    have hw : (ipChecksum ip).ttl ++ (ipChecksum ip).protocol = ip.ttl ++ ip.protocol := rfl
    rw [hr, hw, residue_ipChecksum]
    abel
  · rw [ne_eq, sum_eq_zero]
    intro hz
    -- nine zero words would make the tenth their complement, which is all ones
    have hc : (ipChecksum ip).hdrChecksum = 0 := hz _ (by rw [words16_encode]; simp)
    have hsum : (checksumWords ip).foldl add 0 = 0 := by
      rw [foldl_eq_zero]
      refine ⟨rfl,fun x hx => hz x ?_⟩
      rw [← List.take_append_drop 5 (checksumWords ip), List.mem_append] at hx
      rw [words16_encode_ipChecksum, List.mem_append]
      exact hx.imp_right (List.mem_cons_of_mem _)
    have hn : (ipChecksum ip).hdrChecksum = ~~~(checksumWords ip).foldl add 0 := rfl
    rw [hn, hsum] at hc
    exact absurd hc (by decide)

/-- The incremental update of `ip_ttl_dec` against the recomputation of
`ip_checksum`. Both complement a sum that contains the nonzero word of the new
ttl, so equal residues leave no choice between the two zeros. -/
theorem ipTtlDec_refines_ipChecksum (ip : Ipv4T) (h : 2 ≤ ip.ttl.toNat) :
    (Verifies (encode ip) →
      (ipTtlDec ip).hdrChecksum = (ipChecksum {ip with ttl := ip.ttl - 1}).hdrChecksum) ∧
    (Verifies (encode (ipTtlDec ip)) ↔ Verifies (encode ip)) ∧
    ipTtlDec ip = {ip with ttl := ip.ttl - 1, hdrChecksum := (ipTtlDec ip).hdrChecksum} := by
  refine ⟨?_,verifies_ipTtlDec h,rfl⟩
  intro hv
  rw [verifies_iff (ne_zero_of_toNat_pos (by omega))] at hv
  have hm : (ip.ttl - 1) ++ ip.protocol ≠ 0#16 := append_ne_zero ip.protocol (pred_ne_zero h)
  have hinc : add (add (~~~ip.hdrChecksum) (~~~(ip.ttl ++ ip.protocol)))
      ((ip.ttl - 1) ++ ip.protocol) ≠ 0 := fun hc => hm (OnesComplement.add_eq_zero.mp hc).2
  have hfull : (checksumWords {ip with ttl := ip.ttl - 1}).foldl add 0 ≠ 0 := by
    rw [ne_eq, foldl_eq_zero]
    rintro ⟨-,hz⟩
    exact hm (hz ((ip.ttl - 1) ++ ip.protocol) (by simp [checksumWords]))
  apply congrArg (~~~ · : BitVec 16 → BitVec 16)
  apply eq_of_residue_eq (a := add (add (~~~ip.hdrChecksum) (~~~(ip.ttl ++ ip.protocol)))
      ((ip.ttl - 1) ++ ip.protocol)) (b := (checksumWords {ip with ttl := ip.ttl - 1}).foldl add 0)
  · rw [residue_add, residue_add, residue_not, residue_not, ← csum16Add_eq, residue_checksumWords]
    have hr : restResidue {ip with ttl := ip.ttl - 1} = restResidue ip := rfl
    rw [hr, eq_neg_of_add_eq_zero_right hv]
    abel
  · exact ⟨fun hc => absurd hc hinc,fun hc => absurd hc hfull⟩

def plainHeader (totalLen : BitVec 16) (protocol : BitVec 8) (srcAddr dstAddr : BitVec 32) : Ipv4T :=
  ipChecksum
    { version := 4, ihl := 5, diffserv := 0, totalLen, identification := 1, flags := 0
      fragOffset := 0, ttl := 64, protocol, hdrChecksum := 0, srcAddr, dstAddr }

theorem ipTtlDec_refines_ipChecksum_udp :
    Verifies (encode (plainHeader 28 17 0x0a000001 0x0a630001)) ∧
    (ipTtlDec (plainHeader 28 17 0x0a000001 0x0a630001)).hdrChecksum =
      (ipChecksum {plainHeader 28 17 0x0a000001 0x0a630001 with ttl := 63}).hdrChecksum :=
  ⟨verifies_ipChecksum _,(ipTtlDec_refines_ipChecksum _ (by decide)).1 (verifies_ipChecksum _)⟩

end Residues

section WireImage
open OnesComplement

/-- What the deparser writes for a header that `ip_checksum` has completed. -/
def sentHeader (ip : Ipv4T) : List Byte := emit ⟨true,ipChecksum ip⟩

/-- Nothing of the wire image but the checksum itself is left out of the sum. -/
theorem eraseIdx_sentHeader (ip : Ipv4T) :
    (words16 (sentHeader ip)).eraseIdx 5 = checksumWords ip := by
  rw [sentHeader, emit_valid, words16_encode_ipChecksum]
  rfl

theorem length_words16_sentHeader (ip : Ipv4T) : (words16 (sentHeader ip)).length = 10 := by
  rw [sentHeader, emit_valid, words16_encode_ipChecksum]
  rfl

theorem wideSum_sentHeader_lt (ip : Ipv4T) : wideSum (words16 (sentHeader ip)) < 2 ^ 32 := by
  have hle := wideSum_le (words16 (sentHeader ip))
  rw [length_words16_sentHeader] at hle
  omega

theorem fold_sentHeader (ip : Ipv4T) : fold 16 (wideSum (words16 (sentHeader ip))) = 0xffff := by
  have hv : OnesComplement.sum (words16 (sentHeader ip)) = 0xffff#16 := verifies_ipChecksum ip
  rw [fold_wideSum (by decide), hv]
  rfl

theorem get_add_perm {ip : Ipv4T} {ws : List (BitVec 16)} (h : ws.Perm (checksumWords ip)) :
    (InternetChecksum.clear.add ws).get = (ipChecksum ip).hdrChecksum :=
  congrArg (~~~ · : BitVec 16 → BitVec 16) (foldl_perm h 0)

theorem hdrChecksum_eq_not_fold (ip : Ipv4T) : (ipChecksum ip).hdrChecksum =
    ~~~BitVec.ofNat 16 (fold 16 (wideSum (checksumWords ip))) := by
  have hc : (ipChecksum ip).hdrChecksum = ~~~OnesComplement.sum (checksumWords ip) := rfl
  rw [fold_wideSum (by decide), BitVec.ofNat_toNat, BitVec.setWidth_eq, hc]

/-- The checksum `ip_checksum` stores against the octets sent: they sum to all
ones in a wide accumulator folded at the end (32 bits are wide enough), the
order of the added words does not matter, and the checksum received does not
enter. -/
theorem ipChecksum_wireImage (ip : Ipv4T) :
    (sentHeader ip).length = 20 ∧ (words16 (sentHeader ip)).length = 10 ∧
    wideSum (words16 (sentHeader ip)) < 2 ^ 32 ∧
    fold 16 (wideSum (words16 (sentHeader ip))) = 0xffff ∧
    words16 (toBytes 18 (pack (checksumFields ip))) = (words16 (sentHeader ip)).eraseIdx 5 ∧
    (∀ ws : List (BitVec 16), ws.Perm (words16 (toBytes 18 (pack (checksumFields ip)))) →
      (InternetChecksum.clear.add ws).get = (ipChecksum ip).hdrChecksum) ∧
    (ipChecksum ip).hdrChecksum =
      ~~~BitVec.ofNat 16 (fold 16 (wideSum ((words16 (sentHeader ip)).eraseIdx 5))) ∧
    (∀ hdrChecksum : BitVec 16, ipChecksum {ip with hdrChecksum} = ipChecksum ip) := by
  rw [words16_checksumFields, eraseIdx_sentHeader]
  refine ⟨length_encode _,length_words16_sentHeader ip,wideSum_sentHeader_lt ip,fold_sentHeader ip,
    rfl,?_,hdrChecksum_eq_not_fold ip,fun _ => rfl⟩
  intro ws hws
  exact get_add_perm hws

/-- A UDP header that arrives with a wrong checksum, its words added backwards. -/
theorem ipChecksum_wireImage_backwards :
    let ip := {plainHeader 28 17 0x0a000001 0x0a630001 with hdrChecksum := 0xdead}
    fold 16 (wideSum (words16 (sentHeader ip))) = 0xffff ∧
    (InternetChecksum.clear.add (words16 (toBytes 18 (pack (checksumFields ip)))).reverse).get =
      (ipChecksum ip).hdrChecksum ∧ (ipChecksum ip).hdrChecksum = 0x666c := by
  intro ip
  obtain ⟨-,-,-,hfold,-,hperm,-,-⟩ := ipChecksum_wireImage ip
  exact ⟨hfold,hperm _ (List.reverse_perm _),by decide⟩

-- the nine zero words sum to the positive zero, and the checksum is the negative one
example : (ipChecksum ⟨0,0,0,0,0,0,0,0,0,0,0,0⟩).hdrChecksum = 0xffff := by decide

end WireImage

end P4tcExamples
