import P4tcExamples.Generated.Macros
import P4tcExamples.Pna.Checksum

/-! # Headers as the generated code keeps them

A header is a C struct of whole machine words. Numbers are kept in host order, with
sub-octet fields in words of their own; addresses are kept as the octets that were
copied from the packet, in words that are never read as numbers without a
conversion. `Represents` says this once for each struct; the loads of the parser
establish it, and the writes of the deparser turn it back into the wire image.
-/
namespace P4tcExamples.Generated
open BitFields

/-- The struct of a header type, with the code that fills it from a packet and the
code that writes it out at a bit offset. -/
class Compiled (α : Type) [Layout α] where
  Struct : Type
  zero : Struct
  bits : ℕ
  load : ByteOrder → Frame → ℕ → Struct → Struct
  write : ByteOrder → Struct → ℕ → Frame → Frame
  Represents : ByteOrder → Struct → α → Prop
  bits_eq : bits = 8*Layout.size α
  represents_zero : ∀ o, Represents o zero (zeroed α)
  represents_load : ∀ o {pkt : Frame} {a : ℕ} (old : Struct), a + Layout.size α ≤ pkt.length →
    Represents o (load o pkt (8*a) old) (headerAt α pkt a)
  writes : ∀ o (a : ℕ) {c : Struct} {h : α}, Represents o c h →
    Writes (write o c (8*a)) a (encode h)

theorem zeroed_eq {α : Type} [Layout α] {x : α}
    (h : encode x = List.replicate (Layout.size α) 0) : zeroed α = x := by
  rw [zeroed, ← h, decode_encode]

/-- The first six octets of a `u64` are those of a MAC address. -/
def HoldsMac (o : ByteOrder) (x : BitVec 64) (mac : BitVec 48) : Prop :=
  (o.store 8 x).take 6 = toBytes 6 mac

def HoldsIpv4 (o : ByteOrder) (x : BitVec 32) (addr : BitVec 32) : Prop :=
  o.store 4 x = toBytes 4 addr

theorem holdsMac_memcpy (o : ByteOrder) (old : BitVec 64) {pkt : Frame} {b : ℕ}
    (h : b + 6 ≤ pkt.length) : HoldsMac o (o.memcpy 8 old (slice pkt b 6)) (be 48 pkt b) := by
  have hl : (slice pkt b 6).length = 6 := length_slice h
  have hm := take_store_memcpy o (show 64 = 8*8 from rfl) old (show (slice pkt b 6).length ≤ 8 by omega)
  rw [hl] at hm
  rw [HoldsMac, hm, toBytes_be rfl h]

theorem holdsIpv4_memcpy (o : ByteOrder) (old : BitVec 32) {pkt : Frame} {b : ℕ}
    (h : b + 4 ≤ pkt.length) : HoldsIpv4 o (o.memcpy 4 old (slice pkt b 4)) (be 32 pkt b) := by
  have hl : (slice pkt b 4).length = 4 := length_slice h
  have hd : (o.store 4 old).drop (slice pkt b 4).length = [] :=
    List.drop_eq_nil_of_le (by rw [length_store, hl])
  rw [HoldsIpv4, ByteOrder.memcpy, hd, List.append_nil, store_load o rfl hl, toBytes_be rfl h]

theorem holdsMac_zero (o : ByteOrder) : HoldsMac o 0 0 := by
  unfold HoldsMac
  cases o <;> decide

theorem holdsIpv4_zero (o : ByteOrder) : HoldsIpv4 o 0 0 := by
  unfold HoldsIpv4
  cases o <;> decide

section Ethernet

structure EthernetStruct where
  dstAddr : BitVec 64
  srcAddr : BitVec 64
  etherType : BitVec 16

structure EthernetStruct.Represents (o : ByteOrder) (c : EthernetStruct) (h : EthernetT) : Prop where
  dstAddr : HoldsMac o c.dstAddr h.dstAddr
  srcAddr : HoldsMac o c.srcAddr h.srcAddr
  etherType : c.etherType = h.etherType

def loadEthernet (o : ByteOrder) (pkt : Frame) (off : ℕ) (old : EthernetStruct) : EthernetStruct :=
  let dstAddr := o.memcpy 8 old.dstAddr (slice pkt (bytes off) 6)
  let off := off + 48
  let srcAddr := o.memcpy 8 old.srcAddr (slice pkt (bytes off) 6)
  let off := off + 48
  let etherType := loadHalf o pkt (bytes off)
  ⟨dstAddr,srcAddr,etherType⟩

def writeEthernet (o : ByteOrder) (c : EthernetStruct) (off : ℕ) (pkt : Frame) : Frame :=
  let pkt := writeOctets pkt (bytes off) ((o.store 8 c.dstAddr).take 6)
  let off := off + 48
  let pkt := writeOctets pkt (bytes off) ((o.store 8 c.srcAddr).take 6)
  let off := off + 48
  writeOctets pkt (bytes off) (o.store 2 (bpfHtons o c.etherType))

theorem represents_loadEthernet (o : ByteOrder) {pkt : Frame} {a : ℕ} (old : EthernetStruct)
    (h : a + 14 ≤ pkt.length) :
    (loadEthernet o pkt (8*a) old).Represents o (headerAt EthernetT pkt a) := by
  rw [headerAt_ethernet h]
  simp only [loadEthernet, bytes_mul, bytes_mul_add, Nat.add_assoc, Nat.reduceAdd, Nat.reduceDiv]
  exact ⟨holdsMac_memcpy o _ (by omega),holdsMac_memcpy o _ (by omega),loadHalf_eq o (by omega)⟩

theorem writes_writeEthernet (o : ByteOrder) (a : ℕ) {c : EthernetStruct} {h : EthernetT}
    (hr : c.Represents o h) : Writes (writeEthernet o c (8*a)) a (encode h) := by
  have ht : o.store 2 (bpfHtons o c.etherType) = toBytes 2 h.etherType := by
    rw [bpfHtons, store_hton o rfl, hr.etherType]
  have hw := (((Writes.nil a).octets rfl (toBytes 6 h.dstAddr)).octets rfl
    (toBytes 6 h.srcAddr)).octets rfl (toBytes 2 h.etherType)
  rw [EthernetT.encode_eq]
  unfold writeEthernet
  simp only [bytes_mul, bytes_mul_add, Nat.add_assoc, Nat.reduceAdd, Nat.reduceDiv, ht,
    show (o.store 8 c.dstAddr).take 6 = _ from hr.dstAddr,
    show (o.store 8 c.srcAddr).take 6 = _ from hr.srcAddr]
  simpa using hw

instance : Compiled EthernetT where
  Struct := EthernetStruct
  zero := ⟨0,0,0⟩
  bits := 112
  load := loadEthernet
  write := writeEthernet
  Represents := EthernetStruct.Represents
  bits_eq := rfl
  represents_zero o := by
    rw [zeroed_eq (x := ⟨0,0,0⟩) (by decide)]
    exact ⟨holdsMac_zero o,holdsMac_zero o,rfl⟩
  represents_load o _ _ old := represents_loadEthernet o old
  writes o a _ _ := writes_writeEthernet o a

end Ethernet

section Ipv4

structure Ipv4Struct where
  version : BitVec 8
  ihl : BitVec 8
  diffserv : BitVec 8
  totalLen : BitVec 16
  identification : BitVec 16
  flags : BitVec 8
  fragOffset : BitVec 16
  ttl : BitVec 8
  protocol : BitVec 8
  hdrChecksum : BitVec 16
  srcAddr : BitVec 32
  dstAddr : BitVec 32

structure Ipv4Struct.Represents (o : ByteOrder) (c : Ipv4Struct) (h : Ipv4T) : Prop where
  version : c.version = h.version.setWidth 8
  ihl : c.ihl = h.ihl.setWidth 8
  diffserv : c.diffserv = h.diffserv
  totalLen : c.totalLen = h.totalLen
  identification : c.identification = h.identification
  flags : c.flags = h.flags.setWidth 8
  fragOffset : c.fragOffset = h.fragOffset.setWidth 16
  ttl : c.ttl = h.ttl
  protocol : c.protocol = h.protocol
  hdrChecksum : c.hdrChecksum = h.hdrChecksum
  srcAddr : HoldsIpv4 o c.srcAddr h.srcAddr
  dstAddr : HoldsIpv4 o c.dstAddr h.dstAddr

def loadIpv4 (o : ByteOrder) (pkt : Frame) (off : ℕ) (old : Ipv4Struct) : Ipv4Struct :=
  let version := (((loadByte pkt (bytes off)).setWidth 32 >>> 4) &&& ebpfMask 4).setWidth 8
  let off := off + 4
  let ihl := ((loadByte pkt (bytes off)).setWidth 32 &&& ebpfMask 4).setWidth 8
  let off := off + 4
  let diffserv := loadByte pkt (bytes off)
  let off := off + 8
  let totalLen := loadHalf o pkt (bytes off)
  let off := off + 16
  let identification := loadHalf o pkt (bytes off)
  let off := off + 16
  let flags := (((loadByte pkt (bytes off)).setWidth 32 >>> 5) &&& ebpfMask 3).setWidth 8
  let off := off + 3
  let fragOffset := ((loadHalf o pkt (bytes off)).setWidth 32 &&& ebpfMask 13).setWidth 16
  let off := off + 13
  let ttl := loadByte pkt (bytes off)
  let off := off + 8
  let protocol := loadByte pkt (bytes off)
  let off := off + 8
  let hdrChecksum := loadHalf o pkt (bytes off)
  let off := off + 16
  let srcAddr := o.memcpy 4 old.srcAddr (slice pkt (bytes off) 4)
  let off := off + 32
  let dstAddr := o.memcpy 4 old.dstAddr (slice pkt (bytes off) 4)
  { version, ihl, diffserv, totalLen, identification, flags, fragOffset, ttl, protocol
    hdrChecksum, srcAddr, dstAddr }

def writeIpv4 (o : ByteOrder) (c : Ipv4Struct) (off : ℕ) (pkt : Frame) : Frame :=
  let pkt := writePartial pkt (bytes off + 0) 4 4 (c.version.setWidth 32 >>> 0)
  let off := off + 4
  let pkt := writePartial pkt (bytes off + 0) 4 0 (c.ihl.setWidth 32 >>> 0)
  let off := off + 4
  let pkt := writeOctets pkt (bytes off) [c.diffserv]
  let off := off + 8
  let pkt := writeOctets pkt (bytes off) (o.store 2 (bpfHtons o c.totalLen))
  let off := off + 16
  let pkt := writeOctets pkt (bytes off) (o.store 2 (bpfHtons o c.identification))
  let off := off + 16
  let pkt := writePartial pkt (bytes off + 0) 3 5 (c.flags.setWidth 32 >>> 0)
  let off := off + 3
  let fragOffset := o.store 2 (bpfHtons o ((c.fragOffset.setWidth 32 <<< 3).setWidth 16))
  let ebpfByte := (fragOffset.getD 0 0).setWidth 32
  let pkt := writePartial pkt (bytes off + 0) 5 0 (ebpfByte >>> 3)
  let pkt := writePartial pkt (bytes off + 0 + 1) 3 5 ebpfByte
  let ebpfByte := (fragOffset.getD 1 0).setWidth 32
  let pkt := writePartial pkt (bytes off + 1) 5 0 (ebpfByte >>> 3)
  let off := off + 13
  let pkt := writeOctets pkt (bytes off) [c.ttl]
  let off := off + 8
  let pkt := writeOctets pkt (bytes off) [c.protocol]
  let off := off + 8
  let pkt := writeOctets pkt (bytes off) (o.store 2 (bpfHtons o c.hdrChecksum))
  let off := off + 16
  let pkt := writeOctets pkt (bytes off) (o.store 4 c.srcAddr)
  let off := off + 32
  writeOctets pkt (bytes off) (o.store 4 c.dstAddr)

theorem represents_loadIpv4 (o : ByteOrder) {pkt : Frame} {a : ℕ} (old : Ipv4Struct)
    (h : a + 20 ≤ pkt.length) :
    (loadIpv4 o pkt (8*a) old).Represents o (headerAt Ipv4T pkt a) := by
  have hf : be 16 pkt (a + 6) = be 8 pkt (a + 6) ++ be 8 pkt (a + 7) :=
    be_append (m := 1) (n := 1) (by omega)
  rw [headerAt_ipv4 h]
  simp only [loadIpv4, bytes_mul, bytes_mul_add, Nat.add_assoc, Nat.reduceAdd, Nat.reduceDiv,
    Nat.add_zero]
  refine
    { version := ?_, ihl := ?_, diffserv := ?_, totalLen := ?_, identification := ?_, flags := ?_
      fragOffset := ?_, ttl := ?_, protocol := ?_, hdrChecksum := ?_, srcAddr := ?_, dstAddr := ?_ }
  · exact (setWidth_mask _ (by decide) (by decide)).trans (by rw [loadByte_eq (by omega)])
  · exact (setWidth_mask_zero _ (by decide) (by decide)).trans (by rw [loadByte_eq (by omega)])
  · exact loadByte_eq (by omega)
  · exact loadHalf_eq o (by omega)
  · exact loadHalf_eq o (by omega)
  · refine (setWidth_mask _ (by decide) (by decide)).trans ?_
    rw [loadByte_eq (by omega), hf, BitVec.extractLsb'_append_eq_of_le (by decide)]
  · exact (setWidth_mask_zero _ (by decide) (by decide)).trans (by rw [loadHalf_eq o (by omega)])
  · exact loadByte_eq (by omega)
  · exact loadByte_eq (by omega)
  · exact loadHalf_eq o (by omega)
  · exact holdsIpv4_memcpy o _ (by omega)
  · exact holdsIpv4_memcpy o _ (by omega)

theorem store_htons (o : ByteOrder) (x : BitVec 16) : o.store 2 (bpfHtons o x) = toBytes 2 x := by
  rw [bpfHtons, store_hton o rfl]

theorem version_ihl_octet (version ihl : BitVec 4) :
    (((version.setWidth 8).setWidth 32 >>> 0) <<< 4 |||
      ((ihl.setWidth 8).setWidth 32 >>> 0)).setWidth 8 = version ++ ihl := by
  apply octet_ext
  intro i
  simp only [BitVec.getLsbD_setWidth, BitVec.getLsbD_or, BitVec.getLsbD_shiftLeft,
    BitVec.getLsbD_append, BitVec.getLsbD_ushiftRight]
  fin_cases i <;> simp

/-- The offset as the code shifts it to the top of its word before cutting it up. -/
def shiftedOffset (fragOffset : BitVec 13) : BitVec 16 :=
  ((fragOffset.setWidth 16).setWidth 32 <<< 3).setWidth 16

theorem flags_fragOffset_high (flags : BitVec 3) (fragOffset : BitVec 13) :
    (((flags.setWidth 8).setWidth 32 >>> 0) <<< 5 |||
      (((shiftedOffset fragOffset).extractLsb' 8 8).setWidth 32 >>> 3)).setWidth 8 =
        (flags ++ fragOffset).extractLsb' 8 8 := by
  apply octet_ext
  intro i
  simp only [shiftedOffset, BitVec.getLsbD_setWidth, BitVec.getLsbD_or, BitVec.getLsbD_shiftLeft,
    BitVec.getLsbD_append, BitVec.getLsbD_ushiftRight, BitVec.getLsbD_extractLsb']
  fin_cases i <;> simp

theorem flags_fragOffset_low (flags : BitVec 3) (fragOffset : BitVec 13) :
    (((shiftedOffset fragOffset).extractLsb' 8 8).setWidth 32 <<< 5 |||
      (((shiftedOffset fragOffset).extractLsb' 0 8).setWidth 32 >>> 3)).setWidth 8 =
        (flags ++ fragOffset).extractLsb' 0 8 := by
  apply octet_ext
  intro i
  simp only [shiftedOffset, BitVec.getLsbD_setWidth, BitVec.getLsbD_or, BitVec.getLsbD_shiftLeft,
    BitVec.getLsbD_append, BitVec.getLsbD_ushiftRight, BitVec.getLsbD_extractLsb']
  fin_cases i <;> simp

theorem Ipv4Struct.Represents.encode_eq {o : ByteOrder} {c : Ipv4Struct} {h : Ipv4T}
    (hr : c.Represents o h) : encode h =
      [((c.version.setWidth 32 >>> 0) <<< 4 ||| (c.ihl.setWidth 32 >>> 0)).setWidth 8] ++
      [c.diffserv] ++ o.store 2 (bpfHtons o c.totalLen) ++
      o.store 2 (bpfHtons o c.identification) ++
      [((c.flags.setWidth 32 >>> 0) <<< 5 |||
        (((shiftedOffset h.fragOffset).extractLsb' 8 8).setWidth 32 >>> 3)).setWidth 8] ++
      [(((shiftedOffset h.fragOffset).extractLsb' 8 8).setWidth 32 <<< 5 |||
        (((shiftedOffset h.fragOffset).extractLsb' 0 8).setWidth 32 >>> 3)).setWidth 8] ++
      [c.ttl] ++ [c.protocol] ++ o.store 2 (bpfHtons o c.hdrChecksum) ++
      o.store 4 c.srcAddr ++ o.store 4 c.dstAddr := by
  have hf : toBytes 2 (h.flags ++ h.fragOffset) =
      [(h.flags ++ h.fragOffset).extractLsb' 8 8,(h.flags ++ h.fragOffset).extractLsb' 0 8] := rfl
  rw [Ipv4T.encode_eq, show o.store 4 c.srcAddr = _ from hr.srcAddr,
    show o.store 4 c.dstAddr = _ from hr.dstAddr]
  simp only [store_htons, hr.version, hr.ihl, hr.diffserv, hr.totalLen, hr.identification, hr.flags,
    hr.ttl, hr.protocol, hr.hdrChecksum, version_ihl_octet, flags_fragOffset_high,
    flags_fragOffset_low h.flags, hf, toBytes_one, List.append_assoc, List.cons_append,
    List.nil_append]

theorem writes_writeIpv4 (o : ByteOrder) (a : ℕ) {c : Ipv4Struct} {h : Ipv4T}
    (hr : c.Represents o h) : Writes (writeIpv4 o c (8*a)) a (encode h) := by
  have hoff : o.store 2 (bpfHtons o ((c.fragOffset.setWidth 32 <<< 3).setWidth 16)) =
      [(shiftedOffset h.fragOffset).extractLsb' 8 8,(shiftedOffset h.fragOffset).extractLsb' 0 8] := by
    rw [store_htons, hr.fragOffset]
    rfl
  have hw := (Writes.nil a).pair rfl (show 4 ≤ 8 by decide) (c.version.setWidth 32 >>> 0)
    (c.ihl.setWidth 32 >>> 0)
  have hw := hw.octets rfl [c.diffserv]
  have hw := hw.octets rfl (o.store 2 (bpfHtons o c.totalLen))
  have hw := hw.octets rfl (o.store 2 (bpfHtons o c.identification))
  have hw := hw.pair rfl (show 5 ≤ 8 by decide) (c.flags.setWidth 32 >>> 0)
    (((shiftedOffset h.fragOffset).extractLsb' 8 8).setWidth 32 >>> 3)
  have hw := hw.pair rfl (show 5 ≤ 8 by decide)
    (((shiftedOffset h.fragOffset).extractLsb' 8 8).setWidth 32)
    (((shiftedOffset h.fragOffset).extractLsb' 0 8).setWidth 32 >>> 3)
  have hw := hw.octets rfl [c.ttl]
  have hw := hw.octets rfl [c.protocol]
  have hw := hw.octets rfl (o.store 2 (bpfHtons o c.hdrChecksum))
  have hw := hw.octets rfl (o.store 4 c.srcAddr)
  have hw := hw.octets rfl (o.store 4 c.dstAddr)
  rw [List.nil_append, ← hr.encode_eq] at hw
  unfold writeIpv4
  simp only [hoff, List.getD_cons_zero, List.getD_cons_succ, bytes_mul, bytes_mul_add,
    Nat.add_assoc, Nat.reduceAdd, Nat.reduceDiv, Nat.add_zero]
  simpa only [List.length_append, List.length_cons, List.length_nil, length_store, Nat.add_assoc,
    Nat.reduceAdd, Nat.reduceSub, Nat.add_zero, List.nil_append] using hw

instance : Compiled Ipv4T where
  Struct := Ipv4Struct
  zero := ⟨0,0,0,0,0,0,0,0,0,0,0,0⟩
  bits := 160
  load := loadIpv4
  write := writeIpv4
  Represents := Ipv4Struct.Represents
  bits_eq := rfl
  represents_zero o := by
    rw [zeroed_eq (x := ⟨0,0,0,0,0,0,0,0,0,0,0,0⟩) (by decide)]
    exact ⟨rfl,rfl,rfl,rfl,rfl,rfl,rfl,rfl,rfl,rfl,holdsIpv4_zero o,holdsIpv4_zero o⟩
  represents_load o _ _ old := represents_loadIpv4 o old
  writes o a _ _ := writes_writeIpv4 o a

end Ipv4

section Ports

/-- `struct tcp_t` and `struct udp_t` have the same members. -/
structure PortsStruct where
  srcPort : BitVec 16
  dstPort : BitVec 16

def loadPorts (o : ByteOrder) (pkt : Frame) (off : ℕ) (_ : PortsStruct) : PortsStruct :=
  let srcPort := loadHalf o pkt (bytes off)
  let off := off + 16
  let dstPort := loadHalf o pkt (bytes off)
  ⟨srcPort,dstPort⟩

def writePorts (o : ByteOrder) (c : PortsStruct) (off : ℕ) (pkt : Frame) : Frame :=
  let pkt := writeOctets pkt (bytes off) (o.store 2 (bpfHtons o c.srcPort))
  let off := off + 16
  writeOctets pkt (bytes off) (o.store 2 (bpfHtons o c.dstPort))

theorem loadPorts_eq (o : ByteOrder) {pkt : Frame} {a : ℕ} (old : PortsStruct)
    (h : a + 4 ≤ pkt.length) : loadPorts o pkt (8*a) old = ⟨be 16 pkt a,be 16 pkt (a + 2)⟩ := by
  have hs : loadHalf o pkt a = be 16 pkt a := loadHalf_eq o (by omega)
  have hd : loadHalf o pkt (a + 2) = be 16 pkt (a + 2) := loadHalf_eq o (by omega)
  simp only [loadPorts, bytes_mul, bytes_mul_add, Nat.reduceDiv, hs, hd]

theorem writes_writePorts (o : ByteOrder) (a : ℕ) (c : PortsStruct) :
    Writes (writePorts o c (8*a)) a (toBytes 2 c.srcPort ++ toBytes 2 c.dstPort) := by
  have hw := ((Writes.nil a).octets rfl (toBytes 2 c.srcPort)).octets rfl (toBytes 2 c.dstPort)
  unfold writePorts
  simp only [bytes_mul, bytes_mul_add, Nat.reduceDiv, store_htons]
  simpa using hw

instance : Compiled TcpT where
  Struct := PortsStruct
  zero := ⟨0,0⟩
  bits := 32
  load := loadPorts
  write := writePorts
  Represents _ c h := c = ⟨h.srcPort,h.dstPort⟩
  bits_eq := rfl
  represents_zero _ := by rw [zeroed_eq (x := ⟨0,0⟩) (by decide)]
  represents_load o _ _ old h := by rw [headerAt_tcp h, loadPorts_eq o old h]
  writes o a c h hr := by
    subst hr
    rw [TcpT.encode_eq]
    exact writes_writePorts o a _

instance : Compiled UdpT where
  Struct := PortsStruct
  zero := ⟨0,0⟩
  bits := 32
  load := loadPorts
  write := writePorts
  Represents _ c h := c = ⟨h.srcPort,h.dstPort⟩
  bits_eq := rfl
  represents_zero _ := by rw [zeroed_eq (x := ⟨0,0⟩) (by decide)]
  represents_load o _ _ old h := by rw [headerAt_udp h, loadPorts_eq o old h]
  writes o a c h hr := by
    subst hr
    rw [UdpT.encode_eq]
    exact writes_writePorts o a _

end Ports

section Ipv6

structure Ipv6Struct where
  version : BitVec 8
  traffiClass : BitVec 8
  flowLabel : BitVec 32
  payloadLen : BitVec 16
  nextHdr : BitVec 8
  hopLimit : BitVec 8
  srcAddr : Vector Byte 16
  dstAddr : Vector Byte 16

structure Ipv6Struct.Represents (c : Ipv6Struct) (h : Ipv6T) : Prop where
  version : c.version = h.version.setWidth 8
  traffiClass : c.traffiClass = h.traffiClass
  flowLabel : c.flowLabel = h.flowLabel.setWidth 32
  payloadLen : c.payloadLen = h.payloadLen
  nextHdr : c.nextHdr = h.nextHdr
  hopLimit : c.hopLimit = h.hopLimit
  srcAddr : c.srcAddr.toList = toBytes 16 h.srcAddr
  dstAddr : c.dstAddr.toList = toBytes 16 h.dstAddr

def loadIpv6 (o : ByteOrder) (pkt : Frame) (off : ℕ) (_ : Ipv6Struct) : Ipv6Struct :=
  let version := (((loadByte pkt (bytes off)).setWidth 32 >>> 4) &&& ebpfMask 4).setWidth 8
  let off := off + 4
  let traffiClass := (((loadHalf o pkt (bytes off)).setWidth 32 >>> 4) &&& ebpfMask 8).setWidth 8
  let off := off + 8
  let flowLabel := (loadWord o pkt (bytes off) >>> 8) &&& ebpfMask 20
  let off := off + 20
  let payloadLen := loadHalf o pkt (bytes off)
  let off := off + 16
  let nextHdr := loadByte pkt (bytes off)
  let off := off + 8
  let hopLimit := loadByte pkt (bytes off)
  let off := off + 8
  let srcAddr := Vector.ofFn fun i : Fin 16 => loadByte pkt (bytes off + i)
  let off := off + 128
  let dstAddr := Vector.ofFn fun i : Fin 16 => loadByte pkt (bytes off + i)
  { version, traffiClass, flowLabel, payloadLen, nextHdr, hopLimit, srcAddr, dstAddr }

def writeIpv6 (o : ByteOrder) (c : Ipv6Struct) (off : ℕ) (pkt : Frame) : Frame :=
  let pkt := writePartial pkt (bytes off + 0) 4 4 (c.version.setWidth 32 >>> 0)
  let off := off + 4
  let ebpfByte := c.traffiClass.setWidth 32
  let pkt := writePartial pkt (bytes off + 0) 4 0 (ebpfByte >>> 4)
  let pkt := writePartial pkt (bytes off + 0 + 1) 4 4 ebpfByte
  let off := off + 8
  let flowLabel := o.store 4 (bpfHtonl o (c.flowLabel <<< 12))
  let ebpfByte := (flowLabel.getD 0 0).setWidth 32
  let pkt := writePartial pkt (bytes off + 0) 4 0 (ebpfByte >>> 4)
  let pkt := writePartial pkt (bytes off + 0 + 1) 4 4 ebpfByte
  let ebpfByte := (flowLabel.getD 1 0).setWidth 32
  let pkt := writePartial pkt (bytes off + 1) 4 0 (ebpfByte >>> 4)
  let pkt := writePartial pkt (bytes off + 1 + 1) 4 4 ebpfByte
  let ebpfByte := (flowLabel.getD 2 0).setWidth 32
  let pkt := writePartial pkt (bytes off + 2) 4 0 (ebpfByte >>> 4)
  let off := off + 20
  let pkt := writeOctets pkt (bytes off) (o.store 2 (bpfHtons o c.payloadLen))
  let off := off + 16
  let pkt := writeOctets pkt (bytes off) [c.nextHdr]
  let off := off + 8
  let pkt := writeOctets pkt (bytes off) [c.hopLimit]
  let off := off + 8
  let pkt := writeOctets pkt (bytes off) c.srcAddr.toList
  let off := off + 128
  writeOctets pkt (bytes off) c.dstAddr.toList

theorem toList_ofFn_loadByte {pkt : Frame} {b : ℕ} (h : b + 16 ≤ pkt.length) :
    (Vector.ofFn fun i : Fin 16 => loadByte pkt (b + i)).toList = toBytes 16 (be 128 pkt b) := by
  rw [toBytes_be rfl h]
  apply List.ext_getElem
  · rw [length_slice h]
    exact Vector.length_toList
  · intro i hi _
    have hb : b + i < pkt.length := by
      rw [Vector.length_toList] at hi
      omega
    simp [slice, loadByte, List.getD_eq_getElem?_getD, hb]

theorem extractLsb'_extractLsb' {w : ℕ} (x : BitVec w) {s l t m : ℕ} (h : t + m ≤ l) :
    (x.extractLsb' s l).extractLsb' t m = x.extractLsb' (s + t) m := by
  apply BitVec.eq_of_getLsbD_eq
  intro i hi
  simp [hi, show t + i < l by omega, Nat.add_assoc]

theorem represents_loadIpv6 (o : ByteOrder) {pkt : Frame} {a : ℕ} (old : Ipv6Struct)
    (h : a + 40 ≤ pkt.length) : (loadIpv6 o pkt (8*a) old).Represents (headerAt Ipv6T pkt a) := by
  have h1 : be 32 pkt a = be 8 pkt a ++ be 24 pkt (a + 1) := be_append (m := 1) (n := 3) (by omega)
  have h2 : be 32 pkt a = be 16 pkt a ++ be 16 pkt (a + 2) := be_append (m := 2) (n := 2) (by omega)
  have h3 : be 32 pkt (a + 1) = be 24 pkt (a + 1) ++ be 8 pkt (a + 4) :=
    be_append (m := 3) (n := 1) (by omega)
  rw [headerAt_ipv6 h]
  simp only [loadIpv6, bytes_mul, bytes_mul_add, Nat.add_assoc, Nat.reduceAdd, Nat.reduceDiv,
    Nat.add_zero, extractLsb'_extractLsb' _ (show 8 + 4 ≤ 12 by decide),
    extractLsb'_extractLsb' _ (show 0 + 8 ≤ 12 by decide)]
  refine
    { version := ?_, traffiClass := ?_, flowLabel := ?_, payloadLen := loadHalf_eq o (by omega)
      nextHdr := loadByte_eq (by omega), hopLimit := loadByte_eq (by omega)
      srcAddr := toList_ofFn_loadByte (b := a + 8) (by omega)
      dstAddr := toList_ofFn_loadByte (b := a + 24) (by omega) }
  · refine (setWidth_mask _ (by decide) (by decide)).trans ?_
    dsimp only
    rw [loadByte_eq (by omega), h1, BitVec.extractLsb'_append_eq_of_le (by decide)]
  · refine (setWidth_mask _ (by decide) (by decide)).trans ?_
    dsimp only
    rw [loadHalf_eq o (by omega), h2, BitVec.extractLsb'_append_eq_of_le (by decide),
      BitVec.setWidth_eq]
  · have hm := setWidth_mask (loadWord o pkt (a + 1)) (s := 8) (w := 20) (v := 32) (by decide)
      (by decide)
    rw [BitVec.setWidth_eq, BitVec.setWidth_eq] at hm
    refine hm.trans ?_
    dsimp only
    rw [loadWord_eq o (by omega), h1, h3, BitVec.extractLsb'_append_eq_of_le (by decide),
      BitVec.extractLsb'_append_eq_of_add_le (by decide)]

theorem store_htonl (o : ByteOrder) (x : BitVec 32) : o.store 4 (bpfHtonl o x) = toBytes 4 x := by
  rw [bpfHtonl, store_hton o rfl]

section FirstWord
variable (version : BitVec 4) (traffiClass : BitVec 8) (flowLabel : BitVec 20)

def shiftedLabel : BitVec 32 := flowLabel.setWidth 32 <<< 12

theorem version_traffiClass_octet :
    (((version.setWidth 8).setWidth 32 >>> 0) <<< 4 ||| traffiClass.setWidth 32 >>> 4).setWidth 8 =
      (version ++ traffiClass ++ flowLabel).extractLsb' 24 8 := by
  apply octet_ext
  intro i
  simp only [BitVec.getLsbD_setWidth, BitVec.getLsbD_or, BitVec.getLsbD_shiftLeft,
    BitVec.getLsbD_append, BitVec.getLsbD_ushiftRight, BitVec.getLsbD_extractLsb']
  fin_cases i <;> simp

theorem traffiClass_flowLabel_octet :
    (traffiClass.setWidth 32 <<< 4 |||
      ((shiftedLabel flowLabel).extractLsb' 24 8).setWidth 32 >>> 4).setWidth 8 =
      (version ++ traffiClass ++ flowLabel).extractLsb' 16 8 := by
  apply octet_ext
  intro i
  simp only [shiftedLabel, BitVec.getLsbD_setWidth, BitVec.getLsbD_or, BitVec.getLsbD_shiftLeft,
    BitVec.getLsbD_append, BitVec.getLsbD_ushiftRight, BitVec.getLsbD_extractLsb']
  fin_cases i <;> simp

theorem flowLabel_octet {k : ℕ} (hk : k = 0 ∨ k = 1) :
    (((shiftedLabel flowLabel).extractLsb' (8*(k + 2)) 8).setWidth 32 <<< 4 |||
      ((shiftedLabel flowLabel).extractLsb' (8*(k + 1)) 8).setWidth 32 >>> 4).setWidth 8 =
      (version ++ traffiClass ++ flowLabel).extractLsb' (8*k) 8 := by
  apply octet_ext
  intro i
  simp only [shiftedLabel, BitVec.getLsbD_setWidth, BitVec.getLsbD_or, BitVec.getLsbD_shiftLeft,
    BitVec.getLsbD_append, BitVec.getLsbD_ushiftRight, BitVec.getLsbD_extractLsb']
  rcases hk with rfl | rfl <;> fin_cases i <;> simp

end FirstWord

theorem Ipv6Struct.Represents.encode_eq (o : ByteOrder) {c : Ipv6Struct} {h : Ipv6T}
    (hr : c.Represents h) : encode h =
      [((c.version.setWidth 32 >>> 0) <<< 4 ||| c.traffiClass.setWidth 32 >>> 4).setWidth 8] ++
      [(c.traffiClass.setWidth 32 <<< 4 |||
        ((shiftedLabel h.flowLabel).extractLsb' 24 8).setWidth 32 >>> 4).setWidth 8] ++
      [(((shiftedLabel h.flowLabel).extractLsb' 24 8).setWidth 32 <<< 4 |||
        ((shiftedLabel h.flowLabel).extractLsb' 16 8).setWidth 32 >>> 4).setWidth 8] ++
      [(((shiftedLabel h.flowLabel).extractLsb' 16 8).setWidth 32 <<< 4 |||
        ((shiftedLabel h.flowLabel).extractLsb' 8 8).setWidth 32 >>> 4).setWidth 8] ++
      o.store 2 (bpfHtons o c.payloadLen) ++ [c.nextHdr] ++ [c.hopLimit] ++
      c.srcAddr.toList ++ c.dstAddr.toList := by
  have hb : toBytes 4 (h.version ++ h.traffiClass ++ h.flowLabel) =
      [(h.version ++ h.traffiClass ++ h.flowLabel).extractLsb' 24 8,
        (h.version ++ h.traffiClass ++ h.flowLabel).extractLsb' 16 8,
        (h.version ++ h.traffiClass ++ h.flowLabel).extractLsb' 8 8,
        (h.version ++ h.traffiClass ++ h.flowLabel).extractLsb' 0 8] := rfl
  rw [Ipv6T.encode_eq, hr.version, hr.traffiClass, hr.payloadLen, hr.nextHdr, hr.hopLimit,
    hr.srcAddr, hr.dstAddr, store_htons, version_traffiClass_octet _ _ h.flowLabel,
    traffiClass_flowLabel_octet h.version,
    flowLabel_octet h.version h.traffiClass h.flowLabel (k := 1) (by decide),
    flowLabel_octet h.version h.traffiClass h.flowLabel (k := 0) (by decide), hb, toBytes_one,
    toBytes_one]
  simp only [List.append_assoc, List.cons_append, List.nil_append, Nat.reduceMul]

theorem writes_writeIpv6 (o : ByteOrder) (a : ℕ) {c : Ipv6Struct} {h : Ipv6T}
    (hr : c.Represents h) : Writes (writeIpv6 o c (8*a)) a (encode h) := by
  have hlab : o.store 4 (bpfHtonl o (c.flowLabel <<< 12)) =
      [(shiftedLabel h.flowLabel).extractLsb' 24 8,(shiftedLabel h.flowLabel).extractLsb' 16 8,
        (shiftedLabel h.flowLabel).extractLsb' 8 8,(shiftedLabel h.flowLabel).extractLsb' 0 8] := by
    rw [store_htonl, hr.flowLabel]
    rfl
  have hw := (Writes.nil a).pair rfl (show 4 ≤ 8 by decide) (c.version.setWidth 32 >>> 0)
    (c.traffiClass.setWidth 32 >>> 4)
  have hw := hw.pair rfl (show 4 ≤ 8 by decide) (c.traffiClass.setWidth 32)
    (((shiftedLabel h.flowLabel).extractLsb' 24 8).setWidth 32 >>> 4)
  have hw := hw.pair rfl (show 4 ≤ 8 by decide)
    (((shiftedLabel h.flowLabel).extractLsb' 24 8).setWidth 32)
    (((shiftedLabel h.flowLabel).extractLsb' 16 8).setWidth 32 >>> 4)
  have hw := hw.pair rfl (show 4 ≤ 8 by decide)
    (((shiftedLabel h.flowLabel).extractLsb' 16 8).setWidth 32)
    (((shiftedLabel h.flowLabel).extractLsb' 8 8).setWidth 32 >>> 4)
  have hw := hw.octets rfl (o.store 2 (bpfHtons o c.payloadLen))
  have hw := hw.octets rfl [c.nextHdr]
  have hw := hw.octets rfl [c.hopLimit]
  have hw := hw.octets rfl c.srcAddr.toList
  have hw := hw.octets rfl c.dstAddr.toList
  rw [List.nil_append, ← hr.encode_eq o] at hw
  unfold writeIpv6
  simp only [hlab, List.getD_cons_zero, List.getD_cons_succ, bytes_mul, bytes_mul_add,
    Nat.add_assoc, Nat.reduceAdd, Nat.reduceDiv, Nat.add_zero]
  simpa only [List.length_append, List.length_cons, List.length_nil, length_store,
    Vector.length_toList, Nat.add_assoc, Nat.reduceAdd, Nat.reduceSub, Nat.add_zero,
    List.nil_append] using hw

instance : Compiled Ipv6T where
  Struct := Ipv6Struct
  zero := ⟨0,0,0,0,0,0,Vector.replicate 16 0,Vector.replicate 16 0⟩
  bits := 320
  load := loadIpv6
  write := writeIpv6
  Represents _ := Ipv6Struct.Represents
  bits_eq := rfl
  represents_zero o := by
    rw [zeroed_eq (x := ⟨0,0,0,0,0,0,0,0⟩) (by decide)]
    exact ⟨rfl,rfl,rfl,rfl,rfl,rfl,by decide,by decide⟩
  represents_load o _ _ old := represents_loadIpv6 o old
  writes o a _ _ := writes_writeIpv6 o a

end Ipv6

end P4tcExamples.Generated
