import P4tcExamples.Ipip.Encapsulation

/-! # Whether the tunnel header describes the frame it is put on

A receiver reads the header length, the fragment fields and the total length of
the outer header. `ipip_push` sets only the last of them; the others come from
the inner header, so the outer header is right exactly for whole datagrams
without options.
-/
namespace P4tcExamples.Ipip
open BitFields

/-- The outer header of `g`, interpreted by a receiver, delimits the datagram
received in `f`. -/
structure Describes (f g : Frame) : Prop where
  ihl : (ipOf g).ihl.toNat = 5
  inner : g.drop (14 + 4*(ipOf g).ihl.toNat) = encode (ipTtlDec (ipOf f)) ++ f.drop 34
  checksum : Verifies (slice g 14 (4*(ipOf g).ihl.toNat))
  totalLen : (ipOf g).totalLen.toNat = (ipOf f).totalLen.toNat + 20
  moreFragments : (ipOf g).flags.getLsbD 0 = false
  fragOffset : (ipOf g).fragOffset = 0

/-- A well-formed IPv4 packet that carries no inner header and leaves room for 20 more
octets. -/
structure PlainPacket (f : Frame) : Prop where
  ipv4 : Ipv4Frame f
  version : (ipOf f).version = 4
  ihl : 5 ≤ (ipOf f).ihl.toNat
  plain : ¬CarriesInner f
  headerLen : 4*(ipOf f).ihl.toNat ≤ (ipOf f).totalLen.toNat
  totalLen : (ipOf f).totalLen.toNat ≤ 65515
  complete : 14 + (ipOf f).totalLen.toNat ≤ f.length

theorem ipOf_encap (src dst : BitVec 32) (f : Frame) :
    ipOf (encap src dst f) = ipChecksum (pushed (ipOf f) ⟨src,dst,true⟩) := ipOf_emitted _ _ _

theorem drop_encap (src dst : BitVec 32) (f : Frame) :
    (encap src dst f).drop 34 = encode (ipTtlDec (ipOf f)) ++ f.drop 34 := drop_emitted _ _ _

theorem slice_encap {f : Frame} (h : Ipv4Frame f) (src dst : BitVec 32) :
    slice (encap src dst f) 14 20 = encode (ipChecksum (pushed (ipOf f) ⟨src,dst,true⟩)) := by
  rw [← encode_ipOf (tunnelHeader_encap h src dst).ipv4.length, ipOf_encap]

theorem toNat_totalLen_encap {f : Frame} (h : (ipOf f).totalLen.toNat ≤ 65515) (src dst : BitVec 32) :
    (ipOf (encap src dst f)).totalLen.toNat = (ipOf f).totalLen.toNat + 20 := by
  have he : (ipOf (encap src dst f)).totalLen = (ipOf f).totalLen + 20 := by
    rw [ipOf_encap]
    rfl
  have h20 : (20 : BitVec 16).toNat = 20 := rfl
  rw [he, BitVec.toNat_add, h20, Nat.mod_eq_of_lt (by omega)]

theorem describes_encap_iff {f : Frame} (h : PlainPacket f) (src dst : BitVec 32) :
    Describes f (encap src dst f) ↔ (ipOf f).ihl.toNat = 5 ∧ (ipOf f).flags.getLsbD 0 = false ∧
      (ipOf f).fragOffset = 0 := by
  have hihl : (ipOf (encap src dst f)).ihl = (ipOf f).ihl := by rw [ipOf_encap]; rfl
  have hfl : (ipOf (encap src dst f)).flags = (ipOf f).flags := by rw [ipOf_encap]; rfl
  have hfo : (ipOf (encap src dst f)).fragOffset = (ipOf f).fragOffset := by rw [ipOf_encap]; rfl
  constructor
  · intro hd
    exact ⟨hihl ▸ hd.ihl,hfl ▸ hd.moreFragments,hfo ▸ hd.fragOffset⟩
  · rintro ⟨hi,hm,ho⟩
    have h5 : (ipOf (encap src dst f)).ihl.toNat = 5 := by rw [hihl, hi]
    refine ⟨h5,?_,?_,toNat_totalLen_encap h.totalLen src dst,by rw [hfl, hm],by rw [hfo, ho]⟩
    · rw [h5]
      exact drop_encap src dst f
    · rw [h5, slice_encap h.ipv4]
      exact verifies_ipChecksum _

/-- The tunnel header describes the frame exactly for packets without options
that are not fragments. -/
theorem setIpip_describes_iff {f : Frame} (h : PlainPacket f) {t : FwdTable} {port : Dev}
    {src dst : BitVec 32} {p : Dev} (ht : t port = some (.setIpip src dst p)) :
    ∃ g, tcIngressFunc t port f = .redirect p.val g ∧
      (Describes f g ↔ (ipOf f).ihl.toNat = 5 ∧ (ipOf f).flags.getLsbD 0 = false ∧
        (ipOf f).fragOffset = 0) := by
  refine ⟨encap src dst f,?_,describes_encap_iff h src dst⟩
  rw [tcIngressFunc_plain h.ipv4 h.plain, fwdTable_eq ht]

theorem setIpip_describes_testpkt : ∃ g,
    tcIngressFunc readmeTable port0 testpkt = .redirect port1.val g ∧ Describes testpkt g :=
  have h : PlainPacket testpkt :=
    ⟨⟨by decide +kernel,by decide +kernel⟩,by decide +kernel,by decide +kernel,by decide +kernel,
      by decide +kernel,by decide +kernel,by decide +kernel⟩
  have ht : readmeTable port0 = some (.setIpip 0x02020202 0x02040408 port1) := rfl
  (setIpip_describes_iff h ht).imp fun _ hg => ⟨hg.1,hg.2.mpr (by decide +kernel)⟩

def fragment : Frame :=
  encode testEthernet ++
    (encode (ipChecksum {plainHeader 28 17 0x0a000001 0x0a630001 with flags := 1}) ++ testUdp)

theorem setIpip_misdescribes_fragment : PlainPacket fragment ∧
    readmeTable port0 = some (.setIpip 0x02020202 0x02040408 port1) ∧
    ∃ g, tcIngressFunc readmeTable port0 fragment = .redirect port1.val g ∧ ¬Describes fragment g := by
  have h : PlainPacket fragment :=
    ⟨⟨by decide +kernel,by decide +kernel⟩,by decide +kernel,by decide +kernel,by decide +kernel,
      by decide +kernel,by decide +kernel,by decide +kernel⟩
  refine ⟨h,rfl,encap 0x02020202 0x02040408 fragment,?_,?_⟩
  · rw [tcIngressFunc_plain h.ipv4 h.plain]
    rfl
  · intro hd
    have hm := ((describes_encap_iff h _ _).mp hd).2.1
    exact absurd hm (by decide +kernel)

end P4tcExamples.Ipip
