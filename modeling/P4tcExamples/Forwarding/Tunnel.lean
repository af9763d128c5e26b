import P4tcExamples.Routing.Path
import P4tcExamples.Ipip.TunnelHeader

/-! # A tunnel over routing nodes

Node A pushes a header with `set_ipip`, routing nodes forward the frame by that
header, node B pops it with `set_nh`. `Carried` says what a frame between A and B
still has of the frame that entered: the outer header is decremented and patched
hop by hop, and everything behind it stays what A put there.
-/
namespace P4tcExamples.Tunnel
open BitFields Routing Ipip

/-- The frame `f` inside the tunnel to `dst`, some hops behind the entry. -/
structure Carried (f : Frame) (dst : BitVec 32) (hops : ℕ) (l : Frame) : Prop where
  ipv4 : Ipv4Frame l
  dstAddr : (ipOf l).dstAddr = dst
  protocol : (ipOf l).protocol = 4
  ttl : (ipOf l).ttl.toNat + hops = 64
  verifies : Verifies (slice l 14 20)
  srcMac : (ethernetOf l).srcAddr = (ethernetOf f).srcAddr
  inner : l.drop 34 = encode (ipTtlDec (ipOf f)) ++ f.drop 34

theorem carried_encap {f : Frame} (h : Ipv4Frame f) (src dst : BitVec 32) :
    Carried f dst 0 (encap src dst f) := by
  have ht := tunnelHeader_encap h src dst
  have httl : (ipOf (encap src dst f)).ttl = 64 := by rw [ipOf_encap]; rfl
  refine ⟨ht.ipv4,ht.dstAddr,ht.protocol,?_,?_,?_,drop_encap src dst f⟩
  · rw [httl]
    rfl
  · rw [slice_encap h]
    exact verifies_ipChecksum _
  · rw [encap, ethernetOf_emitted]

theorem Carried.alive {f l : Frame} {dst : BitVec 32} {hops : ℕ} (h : Carried f dst hops l)
    (hh : hops ≤ 62) : 1 < (ipOf l).ttl := by
  have httl := h.ttl
  rw [BitVec.lt_def]
  change 1 < (ipOf l).ttl.toNat
  omega

theorem Carried.hop {f l : Frame} {dst : BitVec 32} {hops : ℕ} (h : Carried f dst hops l)
    (hh : hops ≤ 62) (dmac : BitVec 48) : Carried f dst (hops + 1) (hop dmac l) := by
  have httl := h.ttl
  have ha := after_hop h.ipv4 (h.alive hh) dmac
  have hip := ipOf_hop h.ipv4 dmac
  refine ⟨ha.ipv4,?_,?_,?_,ha.verifies.mpr h.verifies,?_,?_⟩
  · rw [hip]
    exact h.dstAddr
  · rw [hip]
    exact h.protocol
  · have h1 := ha.ttl
    omega
  · rw [hop_eq h.ipv4.length, ethernetOf_emitted]
    exact h.srcMac
  · rw [hop_eq h.ipv4.length, drop_emitted, h.inner]

def SendsOn (dst : BitVec 32) (n : Node) : Prop :=
  ∃ dmac p, nhTable n.tables (fibTable n.tables dst) = .setNh dmac p

theorem Carried.verdict {f l : Frame} {dst : BitVec 32} {hops : ℕ} (h : Carried f dst hops l)
    (hh : hops ≤ 62) {n : Node} (hn : SendsOn dst n) :
    ∃ q m, n.verdict l = .redirect q m ∧ Carried f dst (hops + 1) m := by
  obtain ⟨dmac,p,hr⟩ := hn
  refine ⟨p.val,Routing.hop dmac l,?_,h.hop hh dmac⟩
  exact forwards_iff.mpr ⟨h.ipv4,h.alive hh,dmac,p,by rw [h.dstAddr, hr],rfl,rfl⟩

theorem Carried.relay {f : Frame} {dst : BitVec 32} {nodes : List Node} {l : Frame} {hops : ℕ}
    (h : Carried f dst hops l) (hk : hops + nodes.length ≤ 63) (hn : ∀ n ∈ nodes, SendsOn dst n) :
    ∃ m, relay nodes l = some m ∧ Carried f dst (hops + nodes.length) m := by
  induction nodes generalizing l hops with
  | nil => exact ⟨l,rfl,h⟩
  | cons n ns ih =>
    rw [List.length_cons] at hk
    obtain ⟨q,m,hv,hm⟩ := h.verdict (by omega) (hn n List.mem_cons_self)
    obtain ⟨e,hr,he⟩ := ih hm (by omega) (fun x hx => hn x (List.mem_cons_of_mem n hx))
    refine ⟨e,relay_cons.mpr ⟨q,m,hv,hr⟩,?_⟩
    rw [List.length_cons, Nat.add_comm ns.length, ← Nat.add_assoc]
    exact he

theorem Carried.carriesInner {f l : Frame} {dst : BitVec 32} {hops : ℕ}
    (h : Carried f dst hops l) : CarriesInner l := by
  refine ⟨h.protocol,?_⟩
  have hl := congrArg List.length h.inner
  simp only [List.length_drop, List.length_append, length_encode, size_ipv4] at hl
  omega

theorem Carried.decap {f l : Frame} {dst : BitVec 32} {hops : ℕ} (hf : Ipv4Frame f)
    (h : Carried f dst hops l) (dmac : BitVec 48) :
    setDst dmac (decap l) = Routing.hop dmac f := by
  have hl := h.ipv4.length
  have hd : Ipip.decap l = encode (ethernetOf l) ++ (encode (ipTtlDec (ipOf f)) ++ f.drop 34) := by
    rw [encode_ethernetOf (by omega), ← h.inner]
    rfl
  have heth : {ethernetOf l with dstAddr := dmac} = {ethernetOf f with dstAddr := dmac} := by
    dsimp only
    rw [h.srcMac, etherType_of_ipv4Frame h.ipv4, etherType_of_ipv4Frame hf]
  rw [hd, setDst_emitted, heth, hop_eq hf.length]

/-- A frame that enters the tunnel leaves it with its destination address, ttl
and checksum replaced and nothing else, and the outer header verifies on every
link in between. -/
theorem tunnel_transparent {f : Frame} (hf : Ipv4Frame f) (hp : (ipOf f).protocol ≠ 4)
    (ht : 1 ≤ (ipOf f).ttl.toNat) {a b : FwdTable} {inA inB p q : Dev} {src dst : BitVec 32}
    {dmac : BitVec 48} (ha : a inA = some (.setIpip src dst p)) (hb : b inB = some (.setNh dmac q))
    (nodes : List Node) (hk : nodes.length ≤ 63) (hn : ∀ n ∈ nodes, SendsOn dst n) :
    ∃ entry, Ipip.tcIngressFunc a inA f = .redirect p.val entry ∧
      (∀ k ≤ nodes.length, ∃ link, relay (nodes.take k) entry = some link ∧
        Verifies (slice link 14 20)) ∧
      ∃ last out, relay nodes entry = some last ∧
        Ipip.tcIngressFunc b inB last = .redirect q.val out ∧
        out = setChecksum (ipTtlDec (ipOf f)).hdrChecksum
          (setTtl (BitVec.ofNat 8 ((ipOf f).ttl.toNat - 1)) (setDst dmac f)) ∧
        AgreeOff rewritten out f := by
  have hi : ¬CarriesInner f := fun hc => hp hc.1
  have hc := carried_encap hf src dst
  obtain ⟨last,hr,hlast⟩ := hc.relay (by omega) hn
  have httl : BitVec.ofNat 8 ((ipOf f).ttl.toNat - 1) = (ipOf f).ttl - 1 := by
    rw [← toNat_pred ht, BitVec.ofNat_toNat, BitVec.setWidth_eq]
  refine ⟨encap src dst f,?_,?_,last,Routing.hop dmac f,hr,?_,?_,?_⟩
  · rw [tcIngressFunc_plain hf hi, fwdTable_eq ha]
  · intro k hle
    have hlen : 0 + (nodes.take k).length ≤ 63 := by
      rw [List.length_take]
      omega
    obtain ⟨link,hl,hlink⟩ := hc.relay hlen (fun n hm => hn n (List.mem_of_mem_take hm))
    exact ⟨link,hl,hlink.verifies⟩
  · rw [tcIngressFunc_inner hlast.ipv4 hlast.carriesInner, fwdTable_eq hb]
    exact congrArg (Verdict.redirect q.val) (hlast.decap hf dmac)
  · rw [httl]
    rfl
  · exact agreeOff_rewrite hf.length dmac _ _

def transitNode : Node where
  tables :=
    { fib := ⟨[],List.Pairwise.nil⟩
      nh := fun i => if i = 0 then some (.setNh 0x020000000003 dev3) else none }
  port := dev1

theorem tunnel_transparent_testpkt : ∃ entry last,
    Ipip.tcIngressFunc readmeTable port0 Ipip.testpkt = .redirect port1.val entry ∧
    relay [transitNode,transitNode] entry = some last ∧
    Ipip.tcIngressFunc readmeTable port1 last = .redirect port0.val
      (setChecksum (ipTtlDec (ipOf Ipip.testpkt)).hdrChecksum
        (setTtl 63 (setDst 0x663334354601 Ipip.testpkt))) := by
  have hs : SendsOn 0x02040408 transitNode := ⟨0x020000000003,dev3,rfl⟩
  have hn : ∀ n ∈ [transitNode,transitNode], SendsOn 0x02040408 n := by
    intro n hm
    rcases List.mem_pair.mp hm with rfl | rfl <;> exact hs
  have hf : Ipv4Frame Ipip.testpkt := by decide +kernel
  have hin : readmeTable port0 = some (.setIpip 0x02020202 0x02040408 port1) := rfl
  have hout : readmeTable port1 = some (.setNh 0x663334354601 port0) := rfl
  obtain ⟨entry,ha,_,last,out,hr,hb,ho,_⟩ := tunnel_transparent hf (by decide +kernel)
    (by decide +kernel) hin hout [transitNode,transitNode] (by decide) hn
  have h63 : BitVec.ofNat 8 ((ipOf Ipip.testpkt).ttl.toNat - 1) = 63 := by decide +kernel
  refine ⟨entry,last,ha,hr,?_⟩
  rw [hb, ho, h63]

end P4tcExamples.Tunnel
