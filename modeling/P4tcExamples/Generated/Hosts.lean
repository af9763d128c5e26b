import P4tcExamples.Generated.Pipeline
import Mathlib.Algebra.BigOperators.Group.Finset.Piecewise

/-! # Hosts with several processors

Every processor has its own `hdr_md_cpumap` element: nothing else runs on it between
the two programs that see a frame, but other processors and the control plane go on,
and the tables are what they share. A frame that is redirected to its own device waits
for any processor.
-/
namespace P4tcExamples.Generated
open BitFields

section TwoVisits
variable {σ H M : Type} (g : Program σ H M) (adjustRoom : AdjustRoom)

/-- What becomes of a frame that comes back marked for the host. -/
def returned (skb : Skb) : Verdict :=
  match tcParseFunc g skb with
  | none => .shot
  | some (_,skb) => .kernel skb.data

/-- What becomes of a frame after its first visit. -/
def verdictAfter : TcAct × Skb → Verdict
  | (.redirect port flags,skb) =>
    if flags = BPF_F_INGRESS then returned g {skb with ifindex := port}
    else .redirect port skb.data
  | (act,skb) => (outcome (act,(),skb)).2

/-- A parser that leaves the mark of a frame for the host alone. -/
def KeepsMark : Prop := ∀ {skb : Skb} {hdrMd : HdrMd H M} {skb' : Skb},
  tcParseFunc g skb = some (hdrMd,skb') → skb'.cb.passToKernel = skb.cb.passToKernel

variable {g}

theorem Refines.keepsMark {τ A B : Type} {P : Source τ A B} {S : σ → τ → Prop} {R : H → A → Prop}
    (hg : Refines g P S R) : KeepsMark g := by
  intro skb hdrMd skb' h
  cases hp : P.parser skb.data with
  | none =>
    rw [hg.tcParseFunc_none hp] at h
    cases h
  | some p =>
    obtain ⟨_,_,_,hs⟩ := hg.tcParseFunc_some hp
    rw [hs] at h
    cases h
    exact passToKernel_recorded _ _

theorem KeepsMark.arrives (hk : KeepsMark g) {skb skb' : Skb} {hdrMd : HdrMd H M} {port : Dev}
    (ha : Arrives skb port) (h : tcParseFunc g skb = some (hdrMd,skb')) :
    skb'.cb.passToKernel = false := by
  rw [hk h, ha.cb]
  rfl

/-- Only the branch that marks a frame sends it back to its device. -/
theorem passToKernel_tcIngressFunc {hdrMd : HdrMd H M} {s s' : σ} {skb skb' : Skb}
    {port : BitVec 32}
    (h : tcIngressFunc g adjustRoom hdrMd s skb = (.redirect port BPF_F_INGRESS,s',skb')) :
    skb'.cb.passToKernel = true := by
  rw [tcIngressFunc] at h
  by_cases hk : skb.cb.passToKernel
  · rw [if_pos hk] at h
    cases h
  rw [if_neg hk] at h
  cases hr : (if skb.cb.recirculated then some skb
      else restoreEtherType {skb with cb.mark := 153}) with
  | none =>
    rw [hr] at h
    cases h
  | some b =>
    rw [hr] at h
    dsimp only at h
    generalize process g adjustRoom hdrMd s b = r at h
    obtain ⟨s',m,data⟩ := r
    cases data with
    | none => cases h
    | some data =>
      dsimp only at h
      split at h
      · cases h
        rfl
      · cases h

theorem visit_returned (hk : KeepsMark g) (s : σ) {skb : Skb} (h : skb.cb.passToKernel = true) :
    outcome (visit g adjustRoom s skb) = (s,returned g skb) := by
  rw [visit, returned]
  cases hp : tcParseFunc g skb with
  | none => rfl
  | some r =>
    dsimp only
    rw [tcIngressFunc_passToKernel adjustRoom r.1 ((hk hp).trans h)]
    rfl

/-- The second visit leaves the tables alone. -/
theorem deliver_eq_verdictAfter (hk : KeepsMark g) {hdrMd : HdrMd H M} {s s' : σ} {skb b skb' : Skb}
    {act : TcAct} (hp : tcParseFunc g skb = some (hdrMd,b))
    (h : tcIngressFunc g adjustRoom hdrMd s b = (act,s',skb')) :
    deliver g adjustRoom s skb = (s',verdictAfter g (act,skb')) := by
  have hv : visit g adjustRoom s skb = (act,s',skb') := by
    rw [visit, hp]
    exact h
  rw [deliver, hv]
  cases act with
  | ok => rfl
  | shot => rfl
  | pipe => rfl
  | redirect port flags =>
    dsimp only [verdictAfter]
    by_cases hf : flags = BPF_F_INGRESS
    · subst hf
      rw [if_pos rfl, if_pos rfl]
      have hm := passToKernel_tcIngressFunc adjustRoom h
      exact visit_returned adjustRoom hk s' hm
    · rw [if_neg hf, if_neg hf]
      rfl

end TwoVisits

/-- `X` says where a processor is, and `A` what is known of a frame. -/
structure Host (ι σ H M X A : Type) where
  tables : σ
  hdrMdCpumap : ι → HdrMd H M
  stage : ι → X
  backlog : Multiset (A × Skb)
  delivered : Multiset (A × Verdict)

namespace Host
variable {ι σ H M X A : Type}

/-- What the kernel does with the return code of a program. -/
def conclude (s : Host ι σ H M X A) (a : A) : TcAct × Skb → Host ι σ H M X A
  | (.redirect port flags,skb) =>
    if flags = BPF_F_INGRESS then {s with backlog := (a,{skb with ifindex := port}) ::ₘ s.backlog}
    else {s with delivered := (a,.redirect port skb.data) ::ₘ s.delivered}
  | (act,skb) => {s with delivered := (a,(outcome (act,(),skb)).2) ::ₘ s.delivered}

/-- The frames that are no longer with a processor. -/
def settled (s : Host ι σ H M X A) : Multiset A :=
  s.delivered.map Prod.fst + s.backlog.map Prod.fst

def Marked (s : Host ι σ H M X A) : Prop := ∀ p ∈ s.backlog, p.2.cb.passToKernel = true

section Processors
variable [DecidableEq ι] (s : Host ι σ H M X A) (i : ι) (x : X)

def enter (hdrMd : HdrMd H M) : Host ι σ H M X A :=
  { s with
    hdrMdCpumap := Function.update s.hdrMdCpumap i hdrMd
    stage := Function.update s.stage i x }

def turn : Host ι σ H M X A := {s with stage := Function.update s.stage i x}

theorem stage_enter {P : X → HdrMd H M → Prop} {hdrMd : HdrMd H M} (hx : P x hdrMd)
    (h : ∀ j, P (s.stage j) (s.hdrMdCpumap j)) (j : ι) :
    P ((s.enter i x hdrMd).stage j) ((s.enter i x hdrMd).hdrMdCpumap j) := by
  by_cases hj : j = i
  · subst hj
    simp only [enter, Function.update_self]
    exact hx
  · simp only [enter, Function.update_of_ne hj]
    exact h j

theorem stage_turn {P : X → HdrMd H M → Prop} (hx : P x (s.hdrMdCpumap i))
    (h : ∀ j, P (s.stage j) (s.hdrMdCpumap j)) (j : ι) :
    P ((s.turn i x).stage j) ((s.turn i x).hdrMdCpumap j) := by
  by_cases hj : j = i
  · subst hj
    simp only [turn, Function.update_self]
    exact hx
  · simp only [turn, Function.update_of_ne hj]
    exact h j

end Processors

section Frames
variable (s : Host ι σ H M X A) (a : A) (r : TcAct × Skb)

theorem conclude_frame : (s.conclude a r).tables = s.tables ∧
    (s.conclude a r).hdrMdCpumap = s.hdrMdCpumap ∧ (s.conclude a r).stage = s.stage := by
  obtain ⟨act,skb⟩ := r
  cases act with
  | ok => exact ⟨rfl,rfl,rfl⟩
  | shot => exact ⟨rfl,rfl,rfl⟩
  | pipe => exact ⟨rfl,rfl,rfl⟩
  | redirect port flags =>
    rw [conclude]
    split
    · exact ⟨rfl,rfl,rfl⟩
    · exact ⟨rfl,rfl,rfl⟩

theorem stage_conclude {P : X → HdrMd H M → Prop} (h : ∀ j, P (s.stage j) (s.hdrMdCpumap j))
    (j : ι) : P ((s.conclude a r).stage j) ((s.conclude a r).hdrMdCpumap j) := by
  obtain ⟨_,hm,hs⟩ := s.conclude_frame a r
  rw [hm, hs]
  exact h j

theorem settled_conclude : (s.conclude a r).settled = s.settled + {a} := by
  have hd (v : Verdict) :
      ((a,v) ::ₘ s.delivered).map Prod.fst + s.backlog.map Prod.fst = s.settled + {a} := by
    rw [Multiset.map_cons, Multiset.cons_add, ← Multiset.singleton_add, add_comm]
    rfl
  obtain ⟨act,skb⟩ := r
  cases act with
  | ok => exact hd _
  | shot => exact hd _
  | pipe => exact hd _
  | redirect port flags =>
    rw [conclude]
    by_cases hf : flags = BPF_F_INGRESS
    · rw [if_pos hf, settled, Multiset.map_cons, Multiset.add_cons, ← Multiset.singleton_add,
        add_comm]
      rfl
    · rw [if_neg hf]
      exact hd _

variable {s a}

theorem settled_backlog {b : Skb} {rest : Multiset (A × Skb)} (hb : s.backlog = (a,b) ::ₘ rest) :
    settled {s with backlog := rest} + {a} = s.settled := by
  rw [settled, settled, hb, Multiset.map_cons, add_assoc, ← Multiset.singleton_add,
    add_comm (Multiset.map _ rest)]

theorem Marked.backlog {b : Skb} {rest : Multiset (A × Skb)} (h : s.Marked)
    (hb : s.backlog = (a,b) ::ₘ rest) :
    b.cb.passToKernel = true ∧ Marked {s with backlog := rest} := by
  refine ⟨h (a,b) ?_,fun p hp => h p ?_⟩
  · rw [hb]
    exact Multiset.mem_cons_self _ _
  · rw [hb]
    exact Multiset.mem_cons_of_mem hp

theorem Marked.conclude (h : s.Marked) (a : A) {act : TcAct} {skb : Skb}
    (hm : ∀ port, act = .redirect port BPF_F_INGRESS → skb.cb.passToKernel = true) :
    (s.conclude a (act,skb)).Marked := by
  cases act with
  | ok => exact h
  | shot => exact h
  | pipe => exact h
  | redirect port flags =>
    rw [Host.conclude]
    split
    · rename_i hf
      intro p hp
      rcases Multiset.mem_cons.mp hp with rfl | hp
      · exact hm port (by rw [hf])
      · exact h p hp
    · exact h

end Frames

section Answers
variable (g : Program σ H M) (s : Host ι σ H M X A)

/-- The verdicts on the frames that have left their processor. -/
def answers : Multiset (A × Verdict) :=
  s.delivered + s.backlog.map fun p => (p.1,returned g p.2)

theorem answers_conclude (a : A) (r : TcAct × Skb) :
    (s.conclude a r).answers g = s.answers g + {(a,verdictAfter g r)} := by
  have hd (v : Verdict) : (a,v) ::ₘ s.delivered + s.backlog.map (fun p => (p.1,returned g p.2)) =
      s.answers g + {(a,v)} := by
    rw [← Multiset.singleton_add, add_assoc, add_comm]
    rfl
  obtain ⟨act,skb⟩ := r
  cases act with
  | ok => exact hd _
  | shot => exact hd _
  | pipe => exact hd _
  | redirect port flags =>
    rw [conclude, verdictAfter]
    by_cases hf : flags = BPF_F_INGRESS
    · rw [if_pos hf, if_pos hf, answers, Multiset.map_cons, Multiset.add_cons,
        ← Multiset.singleton_add, add_comm]
      rfl
    · rw [if_neg hf, if_neg hf]
      exact hd _

variable {s}

theorem answers_backlog {a : A} {b : Skb} {rest : Multiset (A × Skb)}
    (hb : s.backlog = (a,b) ::ₘ rest) :
    answers g {s with backlog := rest} + {(a,returned g b)} = s.answers g := by
  rw [answers, answers, hb, Multiset.map_cons, add_assoc, ← Multiset.singleton_add,
    add_comm (Multiset.map _ rest)]

end Answers

section Totals
variable {N : Type} [AddCommMonoid N] [Fintype ι] (F : X → N) (s : Host ι σ H M X A)

def total : N := ∑ i, F (s.stage i)

theorem sum_update [DecidableEq ι] (f : ι → X) (i : ι) (x : X) :
    ∑ j, F (Function.update f i x j) + F (f i) = ∑ j, F (f j) + F x := by
  have hrest : ∑ j ∈ Finset.univ.erase i, F (Function.update f i x j) =
      ∑ j ∈ Finset.univ.erase i, F (f j) := by
    apply Finset.sum_congr rfl
    intro j hj
    rw [Function.update_of_ne (Finset.ne_of_mem_erase hj)]
  rw [← Finset.add_sum_erase _ _ (Finset.mem_univ i),
    ← Finset.add_sum_erase _ (fun j => F (f j)) (Finset.mem_univ i), hrest, Function.update_self]
  ac_rfl

theorem total_enter [DecidableEq ι] (i : ι) (x : X) (hdrMd : HdrMd H M) :
    (s.enter i x hdrMd).total F + F (s.stage i) = s.total F + F x := sum_update F s.stage i x

theorem total_turn [DecidableEq ι] (i : ι) (x : X) :
    (s.turn i x).total F + F (s.stage i) = s.total F + F x := sum_update F s.stage i x

theorem total_conclude (a : A) (r : TcAct × Skb) : (s.conclude a r).total F = s.total F := by
  rw [total, (s.conclude_frame a r).2.2]
  rfl

variable {F s}

theorem total_eq_zero (h : ∀ i, F (s.stage i) = 0) : s.total F = 0 :=
  Finset.sum_eq_zero fun i _ => h i

end Totals

section Counting
variable [Fintype ι] {F : X → Multiset A} (s : Host ι σ H M X A) (a : A) (r : TcAct × Skb)

theorem counted_refuse :
    (s.conclude a r).settled + (s.conclude a r).total F = s.settled + s.total F + {a} := by
  rw [settled_conclude, total_conclude, add_right_comm]

variable {s a} {b : Skb} {rest : Multiset (A × Skb)}

theorem counted_refuseAgain (hb : s.backlog = (a,b) ::ₘ rest) :
    (conclude {s with backlog := rest} a r).settled +
        (conclude {s with backlog := rest} a r).total F = s.settled + s.total F := by
  rw [counted_refuse, ← settled_backlog hb, add_right_comm]
  rfl

variable [DecidableEq ι] {i : ι} {x : X} (hdrMd : HdrMd H M)

theorem counted_enter (hi : F (s.stage i) = 0) (hx : F x = {a}) :
    (s.enter i x hdrMd).settled + (s.enter i x hdrMd).total F = s.settled + s.total F + {a} := by
  have ht := s.total_enter F i x hdrMd
  rw [hi, hx, add_zero] at ht
  rw [ht, add_assoc]
  rfl

theorem counted_enterAgain (hb : s.backlog = (a,b) ::ₘ rest) (hi : F (s.stage i) = 0)
    (hx : F x = {a}) :
    (enter {s with backlog := rest} i x hdrMd).settled +
      (enter {s with backlog := rest} i x hdrMd).total F = s.settled + s.total F := by
  rw [counted_enter (s := {s with backlog := rest}) hdrMd hi hx, ← settled_backlog hb,
    add_right_comm]
  rfl

theorem counted_leave (hi : F (s.stage i) = {a}) (hx : F x = 0) :
    ((s.turn i x).conclude a r).settled + ((s.turn i x).conclude a r).total F =
      s.settled + s.total F := by
  have ht := s.total_turn F i x
  rw [hi, hx, add_zero] at ht
  rw [counted_refuse, add_assoc, ht]
  rfl

end Counting

end Host

end P4tcExamples.Generated
