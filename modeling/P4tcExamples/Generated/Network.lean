import P4tcExamples.Generated.Routing
import P4tcExamples.Routing.Path
import Mathlib.Algebra.Order.BigOperators.Group.Multiset

/-! # A network of hosts that run the generated routing program

Any topology: its routes may loop. Frames are sent and lost, tables are rewritten and
hosts receive what is on its way to them, in any order. A visit never hands out more
than one frame, and that frame can be visited one time less than the frame received;
so the visits of a whole run are paid for when the frames are sent.
-/
namespace P4tcExamples.Routing
open BitFields Generated

/-- The hosts of a network, and where the devices they send through lead. -/
structure Topology (ι : Type) where
  order : ι → ByteOrder
  adjustRoom : ι → AdjustRoom
  wire : ι → BitVec 32 → Option (ι × Dev)

structure Flight (ι : Type) where
  node : ι
  port : Dev
  hops : ℕ
  frame : Frame

def Flight.hopped {ι : Type} (p : Flight ι) : ℕ × Frame := (p.hops,p.frame)

structure NetworkState (ι : Type) where
  entries : ι → TableEntries
  flying : Multiset (Flight ι)
  sent : Multiset Frame
  /-- Frames redirected to a device that leads out of the network, with their hops. -/
  left : Multiset (ℕ × Frame)
  /-- Frames handed to the protocol stack of the host they were received on. -/
  kernel : Multiset Frame
  visits : ℕ

section Network
variable {ι : Type} [DecidableEq ι]

/-- What a host's verdict on a frame that reached it makes of the network. -/
def NetworkState.settle (s : NetworkState ι) (net : Topology ι) (p : Flight ι) :
    Verdict → NetworkState ι
  | .shot => s
  | .kernel g => {s with kernel := g ::ₘ s.kernel}
  | .redirect q g =>
    match net.wire p.node q with
    | none => {s with left := (p.hops + 1,g) ::ₘ s.left}
    | some (m,port) => {s with flying := ⟨m,port,p.hops + 1,g⟩ ::ₘ s.flying}

def NetworkState.visit (s : NetworkState ι) (net : Topology ι) (p : Flight ι)
    (rest : Multiset (Flight ι)) (skb : Skb) : NetworkState ι :=
  let r := deliver (generated (net.order p.node)) (net.adjustRoom p.node) (s.entries p.node) skb
  {s with entries := Function.update s.entries p.node r.1, flying := rest,
          visits := s.visits + 1}.settle net p r.2

inductive NetworkStep (net : Topology ι) : NetworkState ι → NetworkState ι → Prop
  | program {s : NetworkState ι} {n : ι} {entries : TableEntries} {t : Tables}
      (h : Programmed (net.order n) entries t) :
      NetworkStep net s {s with entries := Function.update s.entries n entries}
  | send {s : NetworkState ι} (n : ι) (port : Dev) (f : Frame) :
      NetworkStep net s {s with flying := ⟨n,port,0,f⟩ ::ₘ s.flying, sent := f ::ₘ s.sent}
  | lose {s : NetworkState ι} {p : Flight ι} {rest : Multiset (Flight ι)}
      (h : s.flying = p ::ₘ rest) : NetworkStep net s {s with flying := rest}
  | visit {s : NetworkState ι} {p : Flight ι} {rest : Multiset (Flight ι)} {skb : Skb}
      (h : s.flying = p ::ₘ rest) (ha : Arrives skb p.port) (hd : skb.data = p.frame) :
      NetworkStep net s (s.visit net p rest skb)

/-- Nothing was sent yet, and every host has some tables. -/
structure Quiet (net : Topology ι) (s : NetworkState ι) : Prop where
  programmed : ∀ n, ∃ t, Programmed (net.order n) (s.entries n) t
  flying : s.flying = 0
  sent : s.sent = 0
  left : s.left = 0
  kernel : s.kernel = 0
  visits : s.visits = 0

inductive NetworkRun (net : Topology ι) : NetworkState ι → Prop
  | quiet {s : NetworkState ι} (h : Quiet net s) : NetworkRun net s
  | step {s s' : NetworkState ι} (hr : NetworkRun net s) (h : NetworkStep net s s') :
      NetworkRun net s'

/-- The visits that a frame is good for. -/
def budget (f : Frame) : ℕ := if Ipv4Frame f then max 1 (ipOf f).ttl.toNat else 1

def potential (frames : Multiset Frame) : ℕ := (frames.map budget).sum

/-- A frame that was sent, as it is after its hops. -/
def Descends (f : Frame) (x : ℕ × Frame) : Prop := if x.1 = 0 then x.2 = f else After x.1 f x.2

def NetworkState.frames (s : NetworkState ι) : Multiset (ℕ × Frame) :=
  s.flying.map Flight.hopped + s.left

structure NetworkInvariant (net : Topology ι) (s : NetworkState ι) : Prop where
  programmed : ∀ n, ∃ t, Programmed (net.order n) (s.entries n) t
  paid : s.visits + potential (s.flying.map (·.frame)) ≤ potential s.sent
  kernel : s.kernel = 0
  genuine : ∃ origins ≤ s.sent, Multiset.Rel Descends origins s.frames

omit [DecidableEq ι]

theorem budget_pos (f : Frame) : 1 ≤ budget f := by
  unfold budget
  split
  · exact Nat.le_max_left 1 _
  · exact Nat.le_refl 1

theorem potential_cons (f : Frame) (m : Multiset Frame) :
    potential (f ::ₘ m) = budget f + potential m := by
  rw [potential, Multiset.map_cons, Multiset.sum_cons, potential]

theorem Descends.sent (f : Frame) : Descends f (0,f) := by
  rw [Descends, if_pos rfl]

theorem Descends.hop {f g h : Frame} {k : ℕ} (hd : Descends f (k,g)) (hg : After 1 g h) :
    Descends f (k + 1,h) := by
  rw [Descends] at hd
  rw [Descends, if_neg k.succ_ne_zero]
  by_cases hk : k = 0
  · obtain rfl := hk
    obtain rfl : g = f := hd
    exact hg
  · rw [if_neg hk] at hd
    exact hd.trans hg

theorem budget_hop {f g : Frame} (hf : Ipv4Frame f) (h : After 1 f g) :
    budget g + 1 = budget f := by
  have ht := h.ttl
  have ha := h.alive Nat.one_pos
  rw [budget, budget, if_pos hf, if_pos h.ipv4]
  omega

/-- What a host does with a frame that reaches it. -/
theorem deliver_cases (o : ByteOrder) (adjustRoom : AdjustRoom) {entries : TableEntries}
    {t : Tables} (ht : Programmed o entries t) {skb : Skb} {port : Dev} (ha : Arrives skb port) :
    Programmed o (deliver (generated o) adjustRoom entries skb).1 t ∧
      ((deliver (generated o) adjustRoom entries skb).2 = .shot ∨
        ∃ q g, (deliver (generated o) adjustRoom entries skb).2 = .redirect q g ∧
          Ipv4Frame skb.data ∧ After 1 skb.data g) := by
  obtain ⟨he,hv⟩ := (refines o).deliver adjustRoom ha ht
  rw [run_source, ite_self] at he
  rw [run_source] at hv
  refine ⟨he,?_⟩
  rw [hv]
  by_cases hr : Runt skb
  · exact .inl (if_pos hr)
  rw [if_neg hr]
  cases hc : tcIngressFunc t port skb.data with
  | shot => exact .inl rfl
  | kernel g => exact absurd hc (not_kernel t port _ g)
  | redirect q g =>
    obtain ⟨h4,h1,dmac,_,_,_,rfl⟩ := forwards_iff.mp hc
    exact .inr ⟨q,_,rfl,h4,after_hop h4 h1 dmac⟩

theorem networkInvariant_quiet {net : Topology ι} {s : NetworkState ι} (h : Quiet net s) :
    NetworkInvariant net s where
  programmed := h.programmed
  paid := by simp [h.visits, h.flying, h.sent]
  kernel := h.kernel
  genuine := ⟨0,Multiset.zero_le _,by simp [NetworkState.frames, h.flying, h.left]⟩

variable {net : Topology ι} {s : NetworkState ι} (hi : NetworkInvariant net s)
include hi

/-- A frame in flight comes from one that was sent, and the others from the rest. -/
theorem NetworkInvariant.origin {p : Flight ι} {rest : Multiset (Flight ι)}
    (h : s.flying = p ::ₘ rest) : ∃ f origins, f ::ₘ origins ≤ s.sent ∧ Descends f p.hopped ∧
      Multiset.Rel Descends origins (rest.map Flight.hopped + s.left) := by
  obtain ⟨origins,hle,hrel⟩ := hi.genuine
  rw [NetworkState.frames, h, Multiset.map_cons, Multiset.cons_add] at hrel
  obtain ⟨f,origins',hf,hrest,rfl⟩ := Multiset.rel_cons_right.mp hrel
  exact ⟨f,origins',hle,hf,hrest⟩

theorem NetworkInvariant.paid_cons {p : Flight ι} {rest : Multiset (Flight ι)}
    (h : s.flying = p ::ₘ rest) :
    s.visits + (budget p.frame + potential (rest.map (·.frame))) ≤ potential s.sent := by
  have hp := hi.paid
  rwa [h, Multiset.map_cons, potential_cons] at hp

theorem NetworkInvariant.send (n : ι) (port : Dev) (f : Frame) :
    NetworkInvariant net {s with flying := ⟨n,port,0,f⟩ ::ₘ s.flying, sent := f ::ₘ s.sent} where
  programmed := hi.programmed
  paid := by
    have hp := hi.paid
    dsimp only
    rw [Multiset.map_cons, potential_cons, potential_cons]
    dsimp only
    omega
  kernel := hi.kernel
  genuine := by
    obtain ⟨origins,hle,hrel⟩ := hi.genuine
    refine ⟨f ::ₘ origins,Multiset.cons_le_cons _ hle,?_⟩
    rw [NetworkState.frames, Multiset.map_cons, Multiset.cons_add]
    exact hrel.cons (Descends.sent f)

theorem NetworkInvariant.lose {p : Flight ι} {rest : Multiset (Flight ι)}
    (h : s.flying = p ::ₘ rest) : NetworkInvariant net {s with flying := rest} where
  programmed := hi.programmed
  paid := by
    have hp := hi.paid_cons h
    dsimp only
    omega
  kernel := hi.kernel
  genuine := by
    obtain ⟨f,origins,hle,_,hrel⟩ := hi.origin h
    exact ⟨origins,(Multiset.le_cons_self _ _).trans hle,hrel⟩

variable [DecidableEq ι]

theorem NetworkInvariant.programmed_update {n : ι} {entries : TableEntries} {t : Tables}
    (h : Programmed (net.order n) entries t) (m : ι) :
    ∃ t, Programmed (net.order m) (Function.update s.entries n entries m) t := by
  by_cases hm : m = n
  · subst hm
    rw [Function.update_self]
    exact ⟨t,h⟩
  · rw [Function.update_of_ne hm]
    exact hi.programmed m

theorem NetworkInvariant.visit {p : Flight ι} {rest : Multiset (Flight ι)} {skb : Skb}
    (h : s.flying = p ::ₘ rest) (ha : Arrives skb p.port) (hd : skb.data = p.frame) :
    NetworkInvariant net (s.visit net p rest skb) := by
  obtain ⟨t,ht⟩ := hi.programmed p.node
  obtain ⟨he,hv⟩ := deliver_cases _ (net.adjustRoom p.node) ht ha
  have hp := hi.paid_cons h
  have hb := budget_pos p.frame
  obtain ⟨f,origins,hle,hf,hrel⟩ := hi.origin h
  rw [hd] at hv
  rw [NetworkState.visit]
  rcases hv with hv | ⟨q,g,hv,h4,hg⟩
  · rw [hv]
    refine ⟨hi.programmed_update he,?_,hi.kernel,
      origins,(Multiset.le_cons_self _ _).trans hle,hrel⟩
    dsimp only [NetworkState.settle]
    omega
  · have hbg := budget_hop h4 hg
    rw [hv, NetworkState.settle]
    cases net.wire p.node q with
    | none =>
      refine ⟨hi.programmed_update he,?_,hi.kernel,f ::ₘ origins,hle,?_⟩
      · dsimp only
        omega
      · rw [NetworkState.frames, Multiset.add_cons]
        exact hrel.cons (hf.hop hg)
    | some w =>
      refine ⟨hi.programmed_update he,?_,hi.kernel,f ::ₘ origins,hle,?_⟩
      · dsimp only
        rw [Multiset.map_cons, potential_cons]
        dsimp only
        omega
      · rw [NetworkState.frames, Multiset.map_cons, Multiset.cons_add]
        exact hrel.cons (hf.hop hg)

theorem NetworkStep.invariant {s' : NetworkState ι} (h : NetworkStep net s s') :
    NetworkInvariant net s' := by
  cases h with
  | program h => exact ⟨hi.programmed_update h,hi.paid,hi.kernel,hi.genuine⟩
  | send n port f => exact hi.send n port f
  | lose h => exact hi.lose h
  | visit h ha hd => exact hi.visit h ha hd

omit hi in
/-- In every run the hosts are visited at most as often as the frames sent allow, with
what those still in flight are good for to spare; no frame reaches a host's own stack;
and the frames in flight and out of the network come, one for one, from frames sent, by
as many hops as they took. -/
theorem network_drains (hr : NetworkRun net s) :
    s.visits + potential (s.flying.map (·.frame)) ≤ potential s.sent ∧ s.kernel = 0 ∧
      ∃ origins ≤ s.sent, Multiset.Rel Descends origins (s.flying.map Flight.hopped + s.left) := by
  have hi : NetworkInvariant net s := by
    induction hr with
    | quiet h => exact networkInvariant_quiet h
    | step _ h ih => exact NetworkStep.invariant ih h
  exact ⟨hi.paid,hi.kernel,hi.genuine⟩

end Network

/-- A router whose routes lead back to it. -/
def loop : Topology Unit := ⟨fun _ => .little,fun _ _ _ => none,fun _ _ => some ((),dev1)⟩

def loopStart : NetworkState Unit := ⟨fun _ => sampleEntries,0,0,0,0,0⟩

theorem quiet_loopStart : Quiet loop loopStart :=
  ⟨fun _ => ⟨_,sampleEntries_programmed⟩,rfl,rfl,rfl,rfl,rfl⟩

/-- The frame goes round until its ttl is used up. -/
theorem loop_rounds (k : ℕ) (hk : k < 64) : ∃ s g, NetworkRun loop s ∧
    Programmed .little (s.entries ()) sampleTables ∧ s.visits = k ∧ s.sent = {sampleFrame} ∧
    s.flying = {⟨(),dev1,k,g⟩} ∧ After k sampleFrame g := by
  induction k with
  | zero =>
    exact ⟨_,sampleFrame,.step (.quiet quiet_loopStart) (.send () dev1 sampleFrame),
      sampleEntries_programmed,rfl,rfl,rfl,After.zero ipv4Frame_sampleFrame⟩
  | succ k ih =>
    obtain ⟨s,g,hr,hs,hn,hsent,hf,hg⟩ := ih (by omega)
    have ha := arrives_bare g dev1
    have ht : 1 < (ipOf g).ttl := by
      have h := hg.ttl
      rw [ttl_sampleFrame] at h
      rw [BitVec.lt_def]
      change 1 < _
      omega
    obtain ⟨he,hv⟩ := (refines .little).deliver (fun _ _ => none) ha hs
    rw [run_source, ite_self] at he
    rw [run_source, if_neg (not_runt_bare g dev1),
      forwards_iff.mpr ⟨hg.ipv4,ht,0x131313131313,dev2,rfl,rfl,rfl⟩] at hv
    refine ⟨_,hop 0x131313131313 g,.step hr (.visit hf ha rfl),?_,?_,?_,?_,
      hg.trans (after_hop hg.ipv4 ht _)⟩ <;> simp only [NetworkState.visit, loop, hv]
    · exact he
    · exact congrArg Nat.succ hn
    · exact hsent
    · rfl

/-- In a loop a frame is visited as often as its ttl says. -/
theorem network_drains_loop : ∃ s, NetworkRun loop s ∧ s.visits = 63 ∧ potential s.sent = 64 ∧
    potential (s.flying.map (·.frame)) = 1 := by
  obtain ⟨s,g,hr,_,hn,hsent,hf,_⟩ := loop_rounds 63 (by decide)
  have hp : potential s.sent = 64 := by
    rw [hsent, potential, Multiset.map_singleton, Multiset.sum_singleton, budget,
      if_pos ipv4Frame_sampleFrame, ttl_sampleFrame]
    rfl
  have hd := (network_drains hr).1
  have hb := budget_pos g
  refine ⟨s,hr,hn,hp,?_⟩
  rw [hf, Multiset.map_singleton, potential, Multiset.map_singleton, Multiset.sum_singleton] at hd ⊢
  dsimp only at hd ⊢
  omega

end P4tcExamples.Routing
