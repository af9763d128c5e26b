import P4tcExamples.Pna.Pipeline

/-! # Header types of the example programs

The programs repeat the declarations of `ethernet_t`, `ipv4_t`, `tcp_t` and
`udp_t` word for word, so each is given once. Every header comes with its wire image as a concatenation
of octet groups, from which the position of each field is read off.
-/
namespace P4tcExamples
open BitFields

structure EthernetT where
  dstAddr : BitVec 48
  srcAddr : BitVec 48
  etherType : BitVec 16
deriving DecidableEq, Repr

instance : Layout EthernetT where
  widths := [48,48,16]
  size := 14
  aligned := rfl
  fields :=
    { toFun := fun h => (h.dstAddr,h.srcAddr,h.etherType,())
      invFun := fun (d,s,t,_) => ⟨d,s,t⟩
      left_inv := fun _ => rfl
      right_inv := fun _ => rfl }

structure Ipv4T where
  version : BitVec 4
  ihl : BitVec 4
  diffserv : BitVec 8
  totalLen : BitVec 16
  identification : BitVec 16
  flags : BitVec 3
  fragOffset : BitVec 13
  ttl : BitVec 8
  protocol : BitVec 8
  hdrChecksum : BitVec 16
  srcAddr : BitVec 32
  dstAddr : BitVec 32
deriving DecidableEq, Repr

instance : Layout Ipv4T where
  widths := [4,4,8,16,16,3,13,8,8,16,32,32]
  size := 20
  aligned := rfl
  fields :=
    { toFun := fun h => (h.version,h.ihl,h.diffserv,h.totalLen,h.identification,h.flags,
        h.fragOffset,h.ttl,h.protocol,h.hdrChecksum,h.srcAddr,h.dstAddr,())
      invFun := fun (v,i,d,l,n,g,o,t,p,c,s,a,_) => ⟨v,i,d,l,n,g,o,t,p,c,s,a⟩
      left_inv := fun _ => rfl
      right_inv := fun _ => rfl }

structure Ipv6T where
  version : BitVec 4
  traffiClass : BitVec 8
  flowLabel : BitVec 20
  payloadLen : BitVec 16
  nextHdr : BitVec 8
  hopLimit : BitVec 8
  srcAddr : BitVec 128
  dstAddr : BitVec 128
deriving DecidableEq, Repr

instance : Layout Ipv6T where
  widths := [4,8,20,16,8,8,128,128]
  size := 40
  aligned := rfl
  fields :=
    { toFun := fun h => (h.version,h.traffiClass,h.flowLabel,h.payloadLen,h.nextHdr,h.hopLimit,
        h.srcAddr,h.dstAddr,())
      invFun := fun (v,t,l,p,n,i,s,d,_) => ⟨v,t,l,p,n,i,s,d⟩
      left_inv := fun _ => rfl
      right_inv := fun _ => rfl }

structure TcpT where
  srcPort : BitVec 16
  dstPort : BitVec 16
deriving DecidableEq, Repr

instance : Layout TcpT where
  widths := [16,16]
  size := 4
  aligned := rfl
  fields :=
    { toFun := fun h => (h.srcPort,h.dstPort,())
      invFun := fun (s,d,_) => ⟨s,d⟩
      left_inv := fun _ => rfl
      right_inv := fun _ => rfl }

structure UdpT where
  srcPort : BitVec 16
  dstPort : BitVec 16
deriving DecidableEq, Repr

instance : Layout UdpT where
  widths := [16,16]
  size := 4
  aligned := rfl
  fields :=
    { toFun := fun h => (h.srcPort,h.dstPort,())
      invFun := fun (s,d,_) => ⟨s,d⟩
      left_inv := fun _ => rfl
      right_inv := fun _ => rfl }

@[simp] theorem size_ethernet : Layout.size EthernetT = 14 := rfl
@[simp] theorem size_ipv4 : Layout.size Ipv4T = 20 := rfl
@[simp] theorem size_ipv6 : Layout.size Ipv6T = 40 := rfl
@[simp] theorem size_tcp : Layout.size TcpT = 4 := rfl
@[simp] theorem size_udp : Layout.size UdpT = 4 := rfl

theorem EthernetT.encode_eq (h : EthernetT) :
    encode h = toBytes 6 h.dstAddr ++ (toBytes 6 h.srcAddr ++ toBytes 2 h.etherType) := by
  change toBytes (6 + 8) (h.dstAddr ++ (h.srcAddr ++ (h.etherType ++ 0#0))) = _
  rw [toBytes_append _ _ 6 8 rfl]
  change _ ++ toBytes (6 + 2) (h.srcAddr ++ (h.etherType ++ 0#0)) = _
  rw [toBytes_append _ _ 6 2 rfl, toBytes_append_nil]

theorem Ipv4T.encode_eq (h : Ipv4T) :
    encode h = toBytes 1 (h.version ++ h.ihl) ++ (toBytes 1 h.diffserv ++ (toBytes 2 h.totalLen ++
      (toBytes 2 h.identification ++ (toBytes 2 (h.flags ++ h.fragOffset) ++ (toBytes 1 h.ttl ++
      (toBytes 1 h.protocol ++ (toBytes 2 h.hdrChecksum ++
      (toBytes 4 h.srcAddr ++ toBytes 4 h.dstAddr)))))))) := by
  change toBytes (1 + (1 + (2 + (2 + (2 + (1 + (1 + (2 + (4 + 4)))))))))
    (h.version ++ (h.ihl ++ (h.diffserv ++ (h.totalLen ++ (h.identification ++ (h.flags ++
      (h.fragOffset ++ (h.ttl ++ (h.protocol ++ (h.hdrChecksum ++
      (h.srcAddr ++ (h.dstAddr ++ 0#0)))))))))))) = _
  rw [toBytes_append_pair _ _ _ 1 _ rfl, toBytes_append _ _ 1 _ rfl, toBytes_append _ _ 2 _ rfl,
    toBytes_append _ _ 2 _ rfl, toBytes_append_pair _ _ _ 2 _ rfl, toBytes_append _ _ 1 _ rfl,
    toBytes_append _ _ 1 _ rfl, toBytes_append _ _ 2 _ rfl, toBytes_append _ _ 4 _ rfl,
    toBytes_append_nil]

theorem Ipv6T.encode_eq (h : Ipv6T) :
    encode h = toBytes 4 (h.version ++ h.traffiClass ++ h.flowLabel) ++ (toBytes 2 h.payloadLen ++
      (toBytes 1 h.nextHdr ++ (toBytes 1 h.hopLimit ++
      (toBytes 16 h.srcAddr ++ toBytes 16 h.dstAddr)))) := by
  change toBytes (4 + (2 + (1 + (1 + (16 + 16)))))
    (h.version ++ (h.traffiClass ++ (h.flowLabel ++ (h.payloadLen ++ (h.nextHdr ++ (h.hopLimit ++
      (h.srcAddr ++ (h.dstAddr ++ 0#0)))))))) = _
  rw [toBytes_assoc, toBytes_append_pair _ _ _ 4 _ rfl, toBytes_append _ _ 2 _ rfl,
    toBytes_append _ _ 1 _ rfl, toBytes_append _ _ 1 _ rfl, toBytes_append _ _ 16 _ rfl,
    toBytes_append_nil]

theorem TcpT.encode_eq (h : TcpT) :
    encode h = toBytes 2 h.srcPort ++ toBytes 2 h.dstPort := by
  change toBytes (2 + 2) (h.srcPort ++ (h.dstPort ++ 0#0)) = _
  rw [toBytes_append _ _ 2 2 rfl, toBytes_append_nil]

theorem UdpT.encode_eq (h : UdpT) :
    encode h = toBytes 2 h.srcPort ++ toBytes 2 h.dstPort := by
  change toBytes (2 + 2) (h.srcPort ++ (h.dstPort ++ 0#0)) = _
  rw [toBytes_append _ _ 2 2 rfl, toBytes_append_nil]

theorem headerAt_ethernet {f : Frame} {off : ℕ} (h : off + 14 ≤ f.length) :
    headerAt EthernetT f off = ⟨be 48 f off,be 48 f (off + 6),be 16 f (off + 12)⟩ := by
  apply encode_injective
  rw [encode_headerAt h, EthernetT.encode_eq]
  simp (disch := omega) only [toBytes_be, slice_append_slice, Nat.reduceAdd,
    size_ethernet]

theorem headerAt_ipv4 {f : Frame} {off : ℕ} (h : off + 20 ≤ f.length) :
    headerAt Ipv4T f off =
      { version := (be 8 f off).extractLsb' 4 4
        ihl := (be 8 f off).extractLsb' 0 4
        diffserv := be 8 f (off + 1)
        totalLen := be 16 f (off + 2)
        identification := be 16 f (off + 4)
        flags := (be 16 f (off + 6)).extractLsb' 13 3
        fragOffset := (be 16 f (off + 6)).extractLsb' 0 13
        ttl := be 8 f (off + 8)
        protocol := be 8 f (off + 9)
        hdrChecksum := be 16 f (off + 10)
        srcAddr := be 32 f (off + 12)
        dstAddr := be 32 f (off + 16) } := by
  apply encode_injective
  rw [encode_headerAt h, Ipv4T.encode_eq]
  have hv : (be 8 f off).extractLsb' 4 4 ++ (be 8 f off).extractLsb' 0 4 = be 8 f off :=
    BitVec.extractLsb'_append_extractLsb'
  have hf : (be 16 f (off + 6)).extractLsb' 13 3 ++ (be 16 f (off + 6)).extractLsb' 0 13 =
      be 16 f (off + 6) := BitVec.extractLsb'_append_extractLsb'
  simp (disch := omega) only [hv, hf, toBytes_be, slice_append_slice, Nat.reduceAdd,
    size_ipv4]

theorem headerAt_ipv6 {f : Frame} {off : ℕ} (h : off + 40 ≤ f.length) :
    headerAt Ipv6T f off =
      { version := ((be 32 f off).extractLsb' 20 12).extractLsb' 8 4
        traffiClass := ((be 32 f off).extractLsb' 20 12).extractLsb' 0 8
        flowLabel := (be 32 f off).extractLsb' 0 20
        payloadLen := be 16 f (off + 4)
        nextHdr := be 8 f (off + 6)
        hopLimit := be 8 f (off + 7)
        srcAddr := be 128 f (off + 8)
        dstAddr := be 128 f (off + 24) } := by
  apply encode_injective
  rw [encode_headerAt h, Ipv6T.encode_eq]
  have hv : ((be 32 f off).extractLsb' 20 12).extractLsb' 8 4 ++
      ((be 32 f off).extractLsb' 20 12).extractLsb' 0 8 = (be 32 f off).extractLsb' 20 12 :=
    BitVec.extractLsb'_append_extractLsb'
  have hf : (be 32 f off).extractLsb' 20 12 ++ (be 32 f off).extractLsb' 0 20 = be 32 f off :=
    BitVec.extractLsb'_append_extractLsb'
  simp (disch := omega) only [hv, hf, toBytes_be, slice_append_slice, Nat.reduceAdd, size_ipv6]

theorem headerAt_tcp {f : Frame} {off : ℕ} (h : off + 4 ≤ f.length) :
    headerAt TcpT f off = ⟨be 16 f off,be 16 f (off + 2)⟩ := by
  apply encode_injective
  rw [encode_headerAt h, TcpT.encode_eq]
  simp (disch := omega) only [toBytes_be, slice_append_slice, Nat.reduceAdd, size_tcp]

theorem headerAt_udp {f : Frame} {off : ℕ} (h : off + 4 ≤ f.length) :
    headerAt UdpT f off = ⟨be 16 f off,be 16 f (off + 2)⟩ := by
  apply encode_injective
  rw [encode_headerAt h, UdpT.encode_eq]
  simp (disch := omega) only [toBytes_be, slice_append_slice, Nat.reduceAdd, size_udp]

end P4tcExamples
