import P4tcExamples.Generated.Structs

/-! # The checksum code as generated

`ip_ttl_dec` and `ip_checksum` are inlined into the deparsers of routing and ipip.
They assemble 16-bit words from the members of the struct in C's `int`, decrement by
adding 255, and read addresses through `bpf_ntohl`.
-/
namespace P4tcExamples.Generated
open BitFields

/-- `(hi << 8) | lo` assigned to a `u16`. -/
def chkWord (hi lo : BitVec 8) : BitVec 16 := (hi.setWidth 32 <<< 8 ||| lo.setWidth 32).setWidth 16

def ipTtlDecBlock (ip : Ipv4Struct) : Ipv4Struct :=
  let chkState := ~~~ip.hdrChecksum
  let chkTmp := chkWord ip.ttl ip.protocol
  let chkState := csum16Sub chkState chkTmp
  let ip := {ip with ttl := (ip.ttl.setWidth 32 + 255).setWidth 8}
  let chkTmp := chkWord ip.ttl ip.protocol
  let chkState := csum16Add chkState chkTmp
  {ip with hdrChecksum := ~~~chkState}

def ipChecksumBlock (o : ByteOrder) (ip : Ipv4Struct) : Ipv4Struct :=
  let chkTmp : BitVec 16 :=
    (ip.version.setWidth 32 <<< 12 ||| ip.ihl.setWidth 32 <<< 8 ||| ip.diffserv.setWidth 32).setWidth 16
  let chkState := csum16Add 0 chkTmp
  let chkState := csum16Add chkState ip.totalLen
  let chkState := csum16Add chkState ip.identification
  let chkTmp : BitVec 16 := (ip.flags.setWidth 32 <<< 13 ||| ip.fragOffset.setWidth 32).setWidth 16
  let chkState := csum16Add chkState chkTmp
  let chkState := csum16Add chkState (chkWord ip.ttl ip.protocol)
  let srcAddrTmp := bpfNtohl o ip.srcAddr
  let chkState := csum16Add chkState ((srcAddrTmp >>> 16).setWidth 16)
  let chkState := csum16Add chkState (srcAddrTmp.setWidth 16)
  let dstAddrTmp := bpfNtohl o ip.dstAddr
  let chkState := csum16Add chkState ((dstAddrTmp >>> 16).setWidth 16)
  let chkState := csum16Add chkState (dstAddrTmp.setWidth 16)
  {ip with hdrChecksum := ~~~chkState}

theorem word_ext {x y : BitVec 16} (h : ∀ i : Fin 16, x.getLsbD i = y.getLsbD i) : x = y :=
  BitVec.eq_of_getLsbD_eq fun i hi => h ⟨i,hi⟩

theorem chkWord_eq (hi lo : BitVec 8) : chkWord hi lo = hi ++ lo := by
  apply word_ext
  intro i
  simp only [chkWord, BitVec.getLsbD_setWidth, BitVec.getLsbD_or, BitVec.getLsbD_shiftLeft,
    BitVec.getLsbD_append]
  fin_cases i <;> simp

theorem setWidth_add_255 (ttl : BitVec 8) : (ttl.setWidth 32 + 255).setWidth 8 = ttl - 1 := by
  apply BitVec.eq_of_toNat_eq
  have ht := ttl.isLt
  simp [BitVec.toNat_sub]
  omega

theorem ntohl_eq {o : ByteOrder} {x addr : BitVec 32} (h : HoldsIpv4 o x addr) :
    bpfNtohl o x = addr := by
  rw [eq_hton_of_store o (show 32 = 8*4 from rfl) h]
  exact hton_hton o (show 32 = 8*4 from rfl) addr

theorem version_word (version ihl : BitVec 4) (diffserv : BitVec 8) :
    ((version.setWidth 8).setWidth 32 <<< 12 ||| (ihl.setWidth 8).setWidth 32 <<< 8 |||
      diffserv.setWidth 32).setWidth 16 = version ++ ihl ++ diffserv := by
  apply word_ext
  intro i
  simp only [BitVec.getLsbD_setWidth, BitVec.getLsbD_or, BitVec.getLsbD_shiftLeft,
    BitVec.getLsbD_append]
  fin_cases i <;> simp

theorem flags_word (flags : BitVec 3) (fragOffset : BitVec 13) :
    ((flags.setWidth 8).setWidth 32 <<< 13 ||| (fragOffset.setWidth 16).setWidth 32).setWidth 16 =
      flags ++ fragOffset := by
  apply word_ext
  intro i
  simp only [BitVec.getLsbD_setWidth, BitVec.getLsbD_or, BitVec.getLsbD_shiftLeft,
    BitVec.getLsbD_append]
  fin_cases i <;> simp

theorem high_half (addr : BitVec 32) : (addr >>> 16).setWidth 16 = addr.extractLsb' 16 16 := rfl

theorem low_half (addr : BitVec 32) : addr.setWidth 16 = addr.extractLsb' 0 16 := by
  apply word_ext
  intro i
  simp

namespace Ipv4Struct.Represents
variable {o : ByteOrder} {c : Ipv4Struct} {ip : Ipv4T} (h : c.Represents o ip)
include h

theorem ipTtlDec : (ipTtlDecBlock c).Represents o (ipTtlDec ip) := by
  have hword : chkWord c.ttl c.protocol = ip.ttl ++ ip.protocol := by
    rw [chkWord_eq, h.ttl, h.protocol]
  have hdec : chkWord ((c.ttl.setWidth 32 + 255).setWidth 8) c.protocol =
      (ip.ttl - 1) ++ ip.protocol := by
    rw [chkWord_eq, setWidth_add_255, h.ttl, h.protocol]
  refine {h with ttl := ?_, hdrChecksum := ?_}
  · exact (setWidth_add_255 c.ttl).trans (by rw [h.ttl]; rfl)
  · simp only [ipTtlDecBlock, hword, hdec, h.hdrChecksum]
    rfl

theorem ipChecksum : (ipChecksumBlock o c).Represents o (ipChecksum ip) := by
  have hv : (c.version.setWidth 32 <<< 12 ||| c.ihl.setWidth 32 <<< 8 |||
      c.diffserv.setWidth 32).setWidth 16 = ip.version ++ ip.ihl ++ ip.diffserv := by
    rw [h.version, h.ihl, h.diffserv, version_word]
  have hf : (c.flags.setWidth 32 <<< 13 ||| c.fragOffset.setWidth 32).setWidth 16 =
      ip.flags ++ ip.fragOffset := by
    rw [h.flags, h.fragOffset, flags_word]
  have hp : chkWord c.ttl c.protocol = ip.ttl ++ ip.protocol := by
    rw [chkWord_eq, h.ttl, h.protocol]
  refine {h with hdrChecksum := ?_}
  simp only [ipChecksumBlock, hv, hf, hp, h.totalLen, h.identification, ntohl_eq h.srcAddr,
    ntohl_eq h.dstAddr]
  rw [high_half, high_half, low_half, low_half]
  rfl

end Ipv4Struct.Represents

end P4tcExamples.Generated
