import P4tcExamples.Ipip.Program

/-! # What a set_ipip entry puts on the wire

The tunnel header is a copy of the received header with addresses, ttl, protocol,
length and checksum replaced. Everything else in it is what the inner header
happened to contain, and an entry reached by a frame with a parsed inner header
pops instead of pushing.
-/
namespace P4tcExamples.Ipip
open BitFields

theorem fwdTable_eq {t : FwdTable} {port : Dev} {a : FwdAction} (h : t port = some a) :
    fwdTable t port = a := by
  rw [fwdTable, h, Option.getD_some]

/-- The frame starts with an IPv4 header that tunnels from `src` to `dst`. -/
structure TunnelHeader (src dst : BitVec 32) (g : Frame) : Prop where
  ipv4 : Ipv4Frame g
  srcAddr : (ipOf g).srcAddr = src
  dstAddr : (ipOf g).dstAddr = dst
  protocol : (ipOf g).protocol = 4

theorem tunnelHeader_encap {f : Frame} (h : Ipv4Frame f) (src dst : BitVec 32) :
    TunnelHeader src dst (encap src dst f) := by
  have hi : ipOf (encap src dst f) = ipChecksum (pushed (ipOf f) ⟨src,dst,true⟩) := ipOf_emitted _ _ _
  refine ⟨ipv4Frame_emitted _ _ _ (etherType_of_ipv4Frame h),?_,?_,?_⟩ <;> rw [hi] <;> rfl

theorem ipOf_decap {f : Frame} (h : 54 ≤ f.length) : ipOf (decap f) = innerOf f := by
  rw [decap_eq h, ipOf_emitted]

theorem ipv4Frame_decap {f : Frame} (h : Ipv4Frame f) (hl : 54 ≤ f.length) : Ipv4Frame (decap f) := by
  rw [decap_eq hl]
  exact ipv4Frame_emitted _ _ _ (etherType_of_ipv4Frame h)

section Readme

def port0 : Dev := dev1
def port1 : Dev := dev2

def readmeTable : FwdTable := fun port =>
  if port = port0 then some (.setIpip 0x02020202 0x02040408 port1)
  else if port = port1 then some (.setNh 0x663334354601 port0) else none

def testEthernet : EthernetT := ⟨0x0090fb65d6fe,0x020304050601,0x0800⟩

def testUdp : List Byte := toBytes 8 (0x04d310e100080000#64)

/-- The packets of `testpkt.yml` and `testpkt-ipip.yml`. -/
def testpkt : Frame :=
  encode testEthernet ++ (encode (plainHeader 28 17 0x0a000001 0x0a630001) ++ testUdp)
def testpktIpip : Frame :=
  encode testEthernet ++ (encode (plainHeader 48 4 0x0a000001 0x0a630001) ++
    (encode (plainHeader 28 17 0x01010101 0x01030307) ++ testUdp))

end Readme

end P4tcExamples.Ipip
