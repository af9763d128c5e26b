import P4tcExamples.Routing.Program

/-! # Frames travelling over routing nodes

A path is any finite sequence of nodes, each with tables of its own; nothing is
assumed about their contents, so a path may loop. One hop decrements the ttl and
keeps the checksum's outcome and all octets outside the rewritten ones; the run
statements follow by induction on the path.
-/
namespace P4tcExamples.Routing
open BitFields

structure Node where
  tables : Tables
  port : Dev

def Node.verdict (n : Node) (f : Frame) : Verdict := tcIngressFunc n.tables n.port f

def relay : List Node → Frame → Option Frame
  | [], f => some f
  | n :: ns, f =>
    match n.verdict f with
    | .redirect _ g => relay ns g
    | _ => none

theorem relay_cons {n : Node} {ns : List Node} {f h : Frame} :
    relay (n :: ns) f = some h ↔ ∃ q g, n.verdict f = .redirect q g ∧ relay ns g = some h := by
  cases hv : n.verdict f <;> simp [relay, hv]

/-- What `k` hops keep of a frame. -/
structure After (k : ℕ) (f g : Frame) : Prop where
  ipv4 : Ipv4Frame g
  ttl : (ipOf g).ttl.toNat + k = (ipOf f).ttl.toNat
  alive : 0 < k → 1 ≤ (ipOf g).ttl.toNat
  verifies : Verifies (slice g 14 20) ↔ Verifies (slice f 14 20)
  agree : AgreeOff rewritten g f

theorem After.zero {f : Frame} (h : Ipv4Frame f) : After 0 f f :=
  ⟨h,rfl,fun hk => absurd hk (Nat.lt_irrefl 0),Iff.rfl,AgreeOff.refl _ f⟩

theorem After.trans {f g h : Frame} {j k : ℕ} (hfg : After j f g) (hgh : After k g h) :
    After (j + k) f h where
  ipv4 := hgh.ipv4
  ttl := by
    have hj := hfg.ttl
    have hk := hgh.ttl
    omega
  alive := by
    intro hp
    rcases Nat.eq_zero_or_pos k with rfl | hk
    · have ht := hgh.ttl
      have ha := hfg.alive (by omega)
      omega
    · exact hgh.alive hk
  verifies := hgh.verifies.trans hfg.verifies
  agree := hgh.agree.trans hfg.agree

theorem ipOf_hop {f : Frame} (h : Ipv4Frame f) (dmac : BitVec 48) :
    ipOf (hop dmac f) = ipTtlDec (ipOf f) := by
  rw [hop_eq h.length, ipOf_emitted]

theorem ipv4Frame_hop {f : Frame} (h : Ipv4Frame f) (dmac : BitVec 48) : Ipv4Frame (hop dmac f) := by
  rw [hop_eq h.length]
  exact ipv4Frame_emitted _ _ _ (etherType_of_ipv4Frame h)

theorem after_hop {f : Frame} (h : Ipv4Frame f) (ht : 1 < (ipOf f).ttl) (dmac : BitVec 48) :
    After 1 f (hop dmac f) := by
  have h2 : 2 ≤ (ipOf f).ttl.toNat := BitVec.lt_def.mp ht
  have hg := ipv4Frame_hop h dmac
  have hd : (ipOf (hop dmac f)).ttl.toNat = (ipOf f).ttl.toNat - 1 := by
    rw [ipOf_hop h]
    exact toNat_pred (by omega)
  refine ⟨hg,?_,?_,?_,agreeOff_rewrite h.length dmac _ _⟩
  · omega
  · intro _
    omega
  · rw [← encode_ipOf h.length, ← encode_ipOf hg.length, ipOf_hop h]
    exact verifies_ipTtlDec h2

theorem after_relay {nodes : List Node} {f g : Frame} (h : Ipv4Frame f)
    (hr : relay nodes f = some g) : After nodes.length f g := by
  induction nodes generalizing f with
  | nil =>
    cases hr
    exact After.zero h
  | cons n ns ih =>
    obtain ⟨q,m,hv,hr⟩ := relay_cons.mp hr
    obtain ⟨_,ht,dmac,p,_,_,rfl⟩ := forwards_iff.mp hv
    have hone := after_hop h ht dmac
    rw [List.length_cons, Nat.add_comm]
    exact hone.trans (ih hone.ipv4 hr)

/-- Over every path a frame without a complete IPv4 header is never forwarded,
and any other one is forwarded by fewer nodes than its ttl counts, keeping
everything but the rewritten octets. -/
theorem routed_path (f : Frame) :
    (¬Ipv4Frame f → ∀ (n : Node) (q : BitVec 32) (g : Frame), n.verdict f ≠ .redirect q g) ∧
    (Ipv4Frame f → ∀ (nodes : List Node) (g : Frame), relay nodes f = some g →
      nodes.length ≤ (ipOf f).ttl.toNat - 1 ∧
      (ipOf g).ttl.toNat = (ipOf f).ttl.toNat - nodes.length ∧
      (0 < nodes.length → 1 ≤ (ipOf g).ttl.toNat) ∧
      (Verifies (slice g 14 20) ↔ Verifies (slice f 14 20)) ∧
      AgreeOff rewritten g f) := by
  constructor
  · intro h n q g hv
    exact h (forwards_iff.mp hv).1
  · intro h nodes g hr
    have ha := after_relay h hr
    have ht := ha.ttl
    refine ⟨?_,by omega,ha.alive,ha.verifies,ha.agree⟩
    rcases Nat.eq_zero_or_pos nodes.length with hz | hp
    · omega
    · have h1 := ha.alive hp
      omega

def testpkt : Frame := encode (⟨0x0090fb65d6fe,0x020304050601,0x0800⟩ : EthernetT) ++
  (encode (plainHeader 28 17 0x0b000001 0x0a630001) ++ toBytes 8 (0x04d310e100080000#64))

def node10 : Node where
  tables :=
    { fib := ⟨[⟨0x0a000000,8,by decide,7⟩],List.pairwise_singleton _ _⟩
      nh := fun i => if i = 7 then some (.setNh 0x020000000003 dev3) else none }
  port := dev1

theorem routed_path_testpkt : Ipv4Frame testpkt ∧
    ∃ g, relay [node10,node10] testpkt = some g ∧ (ipOf g).ttl.toNat = 62 :=
  have hf : Ipv4Frame testpkt := by decide +kernel
  have hr : relay [node10,node10] testpkt =
    some (hop 0x020000000003 (hop 0x020000000003 testpkt)) := by decide +kernel
  have ht : (ipOf testpkt).ttl.toNat = 64 := by decide +kernel
  ⟨hf,_,hr,by rw [((routed_path testpkt).2 hf _ _ hr).2.1, ht]; rfl⟩

end P4tcExamples.Routing
