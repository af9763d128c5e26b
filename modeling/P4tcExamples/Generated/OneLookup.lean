import P4tcExamples.Generated.ControlPlane
import P4tcExamples.Generated.Hosts

/-! # One lookup on several processors

A control with one table looks it up once, so that `tc_ingress_func` is one step. In
every interleaving tables and verdicts are those of one history: a frame takes effect
in its first `tc_ingress_func`, between its arrival and its delivery.
-/
namespace P4tcExamples.Generated
open BitFields

/-- Where a processor is: outside, or between the two programs. -/
inductive HostStage
  | idle
  | parsed (a : Arrival Arrives) (skb : Skb)

namespace HostStage

def frames : HostStage → Multiset (Arrival Arrives)
  | idle => 0
  | parsed a _ => {a}

/-- The verdict on a frame that is seen for the second time. -/
def returning : HostStage → Multiset (Arrival Arrives × Verdict)
  | idle => 0
  | parsed a skb => if skb.cb.passToKernel then {(a,.kernel skb.data)} else 0

/-- What `tc_parse_func` left in `hdr_md_cpumap` is still there. -/
def Parsed {σ H M : Type} (g : Program σ H M) : HostStage → HdrMd H M → Prop
  | idle, _ => True
  | parsed a skb, hdrMd => skb.cb.passToKernel = false → tcParseFunc g a.skb = some (hdrMd,skb)

end HostStage

section Steps
variable {ι γ σ H M : Type} [DecidableEq ι] (g : Program σ H M) (adjustRoom : AdjustRoom)
  (write : γ → σ → σ)

/-- A step with the frame that arrives in it and with what takes effect. -/
inductive HostStep (s : Host ι σ H M HostStage (Arrival Arrives)) : Multiset (Arrival Arrives) →
    List (Event γ) → Host ι σ H M HostStage (Arrival Arrives) → Prop
  | refuse (a : Arrival Arrives) (h : tcParseFunc g a.skb = none) :
      HostStep s {a} [.frame a] (s.conclude a (.shot,a.skb))
  | parse {i : ι} (a : Arrival Arrives) {hdrMd : HdrMd H M} {skb : Skb} (hi : s.stage i = .idle)
      (h : tcParseFunc g a.skb = some (hdrMd,skb)) :
      HostStep s {a} [] (s.enter i (.parsed a skb) hdrMd)
  | refuseAgain {a : Arrival Arrives} {b : Skb} {rest : Multiset (Arrival Arrives × Skb)}
      (hb : s.backlog = (a,b) ::ₘ rest) (h : tcParseFunc g b = none) :
      HostStep s 0 [] ({s with backlog := rest}.conclude a (.shot,b))
  | parseAgain {i : ι} {a : Arrival Arrives} {b : Skb} {rest : Multiset (Arrival Arrives × Skb)}
      {hdrMd : HdrMd H M} {skb : Skb} (hi : s.stage i = .idle)
      (hb : s.backlog = (a,b) ::ₘ rest) (h : tcParseFunc g b = some (hdrMd,skb)) :
      HostStep s 0 [] ({s with backlog := rest}.enter i (.parsed a skb) hdrMd)
  | ingress {i : ι} {a : Arrival Arrives} {skb skb' : Skb} {act : TcAct} {tables : σ}
      (hi : s.stage i = .parsed a skb)
      (h : tcIngressFunc g adjustRoom (s.hdrMdCpumap i) s.tables skb = (act,tables,skb')) :
      HostStep s 0 (if skb.cb.passToKernel then [] else [.frame a])
        (({s with tables := tables}.turn i .idle).conclude a (act,skb'))
  | command (c : γ) : HostStep s 0 [.command c] {s with tables := write c s.tables}

/-- The runs from given tables, with all frames that arrived and all that took effect. -/
inductive HostRun (tables : σ) : Multiset (Arrival Arrives) → List (Event γ) →
    Host ι σ H M HostStage (Arrival Arrives) → Prop
  | init (hdrMdCpumap : ι → HdrMd H M) :
      HostRun tables 0 [] ⟨tables,hdrMdCpumap,fun _ => .idle,0,0⟩
  | step {arrived arrived' : Multiset (Arrival Arrives)} {events events' : List (Event γ)}
      {s s' : Host ι σ H M HostStage (Arrival Arrives)} (hs : HostRun tables arrived events s)
      (h : HostStep g adjustRoom write s arrived' events' s') :
      HostRun tables (arrived + arrived') (events ++ events') s'

end Steps

section Serial
variable {ι γ σ H M : Type} [Fintype ι] (g : Program σ H M) (adjustRoom : AdjustRoom)
  (write : γ → σ → σ) (start : σ)

structure HostInvariant (arrived : Multiset (Arrival Arrives)) (events : List (Event γ))
    (s : Host ι σ H M HostStage (Arrival Arrives)) : Prop where
  tables : s.tables = ((compiled g adjustRoom write).run start events).1
  answered : s.answers g + s.total HostStage.returning =
    ((compiled g adjustRoom write).run start events).2
  counted : s.settled + s.total HostStage.frames = arrived
  parsed : ∀ i, (s.stage i).Parsed g (s.hdrMdCpumap i)
  marked : s.Marked

variable {g adjustRoom write start} {arrived arrived' : Multiset (Arrival Arrives)}
  {events : List (Event γ)} {s s' : Host ι σ H M HostStage (Arrival Arrives)}
  (h : HostInvariant g adjustRoom write start arrived events s)
include h

/-- A frame takes effect. -/
theorem HostInvariant.commit {a : Arrival Arrives} {v : Verdict}
    (hd : deliver g adjustRoom s.tables a.skb = (s'.tables,v))
    (hans : s'.answers g + s'.total HostStage.returning =
      s.answers g + s.total HostStage.returning + {(a,v)})
    (hc : s'.settled + s'.total HostStage.frames = s.settled + s.total HostStage.frames + arrived')
    (hp : ∀ i, (s'.stage i).Parsed g (s'.hdrMdCpumap i)) (hm : s'.Marked) :
    HostInvariant g adjustRoom write start (arrived + arrived') (events ++ [.frame a]) s' := by
  have hrun : (compiled g adjustRoom write).run start (events ++ [.frame a]) =
      (s'.tables,((compiled g adjustRoom write).run start events).2 ++ [(a,v)]) := by
    rw [Machine.run_concat, Machine.step, ← h.tables]
    change ((deliver g adjustRoom s.tables a.skb).1,
      _ ++ [(a,(deliver g adjustRoom s.tables a.skb).2)]) = _
    rw [hd]
  refine ⟨by rw [hrun],?_,by rw [hc, h.counted],hp,hm⟩
  rw [hrun, ← Multiset.coe_add, ← h.answered, hans, Multiset.coe_singleton]

/-- Nothing takes effect. -/
theorem HostInvariant.keep (ht : s'.tables = s.tables)
    (hans : s'.answers g + s'.total HostStage.returning = s.answers g + s.total HostStage.returning)
    (hc : s'.settled + s'.total HostStage.frames = s.settled + s.total HostStage.frames + arrived')
    (hp : ∀ i, (s'.stage i).Parsed g (s'.hdrMdCpumap i)) (hm : s'.Marked) :
    HostInvariant g adjustRoom write start (arrived + arrived') (events ++ []) s' := by
  rw [List.append_nil]
  exact ⟨ht.trans h.tables,hans.trans h.answered,by rw [hc, h.counted],hp,hm⟩

variable [DecidableEq ι] (hk : KeepsMark g)
include hk

theorem HostInvariant.ingress {i : ι} {a : Arrival Arrives} {skb skb' : Skb} {act : TcAct}
    {tables : σ} (hi : s.stage i = .parsed a skb)
    (hr : tcIngressFunc g adjustRoom (s.hdrMdCpumap i) s.tables skb = (act,tables,skb')) :
    HostInvariant g adjustRoom write start (arrived + 0)
      (events ++ if skb.cb.passToKernel then [] else [.frame a])
      (({s with tables := tables}.turn i .idle).conclude a (act,skb')) := by
  let b : Host ι σ H M HostStage (Arrival Arrives) := {s with tables := tables}
  have hcounted := (Host.counted_leave (s := b) (F := HostStage.frames) (act,skb') (i := i)
    (congrArg HostStage.frames hi) (show HostStage.frames .idle = 0 from rfl)).trans
      (add_zero _).symm
  have hparsed := Host.stage_conclude (b.turn i .idle) a (act,skb')
    (b.stage_turn i .idle trivial h.parsed)
  have hans := (b.turn i .idle).answers_conclude g a (act,skb')
  have hret := (b.total_turn HostStage.returning i .idle).trans (add_zero _)
  rw [show HostStage.returning (b.stage i) = _ from congrArg HostStage.returning hi,
    HostStage.returning] at hret
  cases hm : skb.cb.passToKernel with
  | true =>
    rw [tcIngressFunc_passToKernel adjustRoom _ hm] at hr
    cases hr
    rw [hm, if_pos rfl] at hret
    rw [if_pos rfl]
    refine h.keep rfl ?_ hcounted hparsed h.marked
    rw [hans, Host.total_conclude, add_assoc, add_comm {_}]
    exact congrArg (s.answers g + ·) hret
  | false =>
    rw [hm, if_neg Bool.false_ne_true, add_zero] at hret
    rw [if_neg Bool.false_ne_true]
    have hp := h.parsed i
    rw [hi] at hp
    refine h.commit (v := verdictAfter g (act,skb')) ?_ ?_ hcounted hparsed ?_
    · rw [deliver_eq_verdictAfter adjustRoom hk (hp hm) hr, (Host.conclude_frame _ a _).1]
      rfl
    · rw [hans, Host.total_conclude, add_right_comm, hret]
      rfl
    · refine Host.Marked.conclude (s := b.turn i .idle) h.marked a fun port hact => ?_
      rw [hact] at hr
      exact passToKernel_tcIngressFunc adjustRoom hr

theorem HostStep.invariant {events' : List (Event γ)}
    (hs : HostStep g adjustRoom write s arrived' events' s') :
    HostInvariant g adjustRoom write start (arrived + arrived') (events ++ events') s' := by
  cases hs with
  | refuse a hp =>
    have hd : deliver g adjustRoom s.tables a.skb = (s.tables,.shot) :=
      deliver_shot adjustRoom (by rw [visit, hp])
    refine h.commit hd ?_ (s.counted_refuse a _) (s.stage_conclude a _ h.parsed)
      (h.marked.conclude a fun _ hact => by cases hact)
    rw [Host.answers_conclude, Host.total_conclude, add_right_comm]
    rfl
  | @parse i a hdrMd skb hi hp =>
    have hret := s.total_enter HostStage.returning i (.parsed a skb) hdrMd
    simp only [hi, HostStage.returning, hk.arrives a.arrives hp, Bool.false_eq_true, if_false,
      add_zero] at hret
    refine h.keep rfl ?_ (Host.counted_enter hdrMd (congrArg HostStage.frames hi) rfl)
      (s.stage_enter i _ (fun _ => hp) h.parsed) h.marked
    rw [hret]
    rfl
  | @refuseAgain a b rest hb hp =>
    have hv : returned g b = .shot := by rw [returned, hp]
    obtain ⟨_,hrest⟩ := h.marked.backlog hb
    refine h.keep rfl ?_ ((Host.counted_refuseAgain _ hb).trans (add_zero _).symm)
      (Host.stage_conclude _ a _ h.parsed) (hrest.conclude a fun _ hact => by cases hact)
    rw [Host.answers_conclude, Host.total_conclude, ← Host.answers_backlog g hb, hv]
    rfl
  | @parseAgain i a b rest hdrMd skb hi hb hp =>
    obtain ⟨hbm,hrest⟩ := h.marked.backlog hb
    have hm : skb.cb.passToKernel = true := (hk hp).trans hbm
    have hv : returned g b = .kernel skb.data := by rw [returned, hp]
    have hret := Host.total_enter HostStage.returning {s with backlog := rest} i
      (.parsed a skb) hdrMd
    simp only [hi, HostStage.returning, hm, if_true, add_zero] at hret
    refine h.keep rfl ?_
      ((Host.counted_enterAgain hdrMd hb (congrArg HostStage.frames hi) rfl).trans
        (add_zero _).symm) (Host.stage_enter _ i _ (fun hc => ?_) h.parsed) hrest
    · rw [hret, ← Host.answers_backlog g hb, hv, add_comm _ {_}, ← add_assoc]
      rfl
    · rw [hm] at hc
      cases hc
  | ingress hi hr => exact h.ingress hk hi hr
  | command c =>
    have hrun : (compiled g adjustRoom write).run start (events ++ [.command c]) =
        (write c s.tables,((compiled g adjustRoom write).run start events).2) := by
      rw [Machine.run_concat, Machine.step, ← h.tables]
      rfl
    rw [add_zero]
    refine ⟨by rw [hrun],?_,h.counted,h.parsed,h.marked⟩
    rw [hrun]
    exact h.answered

omit h

theorem HostRun.invariant (hr : HostRun g adjustRoom write start arrived events s) :
    HostInvariant g adjustRoom write start arrived events s := by
  induction hr with
  | init hdrMdCpumap =>
    refine ⟨rfl,?_,?_,fun _ => trivial,?_⟩
    · rw [Host.total_eq_zero fun _ => rfl]
      rfl
    · rw [Host.total_eq_zero fun _ => rfl]
      rfl
    · intro p hp
      exact absurd hp (Multiset.notMem_zero p)
  | step _ hs ih => exact hs.invariant ih hk

/-- What a machine that takes one step after the other shows of its tables and verdicts. -/
structure Serial {τ : Type} (n : Machine γ τ) (S : σ → τ → Prop) (t : τ)
    (arrived : Multiset (Arrival Arrives)) (events : List (Event γ))
    (s : Host ι σ H M HostStage (Arrival Arrives)) : Prop where
  tables : S s.tables (n.run t events).1
  delivered_le : s.delivered ≤ (n.run t events).2
  complete : (∀ i, s.stage i = .idle) → s.backlog = 0 →
    s.delivered = (n.run t events).2 ∧ s.delivered.map Prod.fst = arrived

theorem HostRun.serial {τ : Type} {n : Machine γ τ} {Fits : τ → Prop} {S : σ → τ → Prop} {t : τ}
    (hn : (compiled g adjustRoom write).Agrees n Fits S) (ht : S start t)
    (hw : n.Within Fits t events) (hr : HostRun g adjustRoom write start arrived events s) :
    Serial n S t arrived events s := by
  have h := hr.invariant hk
  obtain ⟨htables,hverdicts⟩ := hn ht events hw
  have hans := h.answered
  rw [hverdicts] at hans
  refine ⟨h.tables ▸ htables,?_,fun hi hb => ?_⟩
  · rw [← hans, Host.answers, add_assoc]
    exact Multiset.le_add_right _ _
  · have hcounted := h.counted
    rw [Host.total_eq_zero fun i => by rw [hi i]; rfl, add_zero] at hans hcounted
    rw [Host.answers, hb, Multiset.map_zero, add_zero] at hans
    rw [Host.settled, hb, Multiset.map_zero, add_zero] at hcounted
    exact ⟨hans,hcounted⟩

end Serial

theorem Host.conclude_redirect {ι σ H M X A : Type} {g : Program σ H M} (s : Host ι σ H M X A)
    {a : A} {r : TcAct × Skb} {q : BitVec 32} {f : Frame}
    (h : verdictAfter g r = .redirect q f) :
    s.conclude a r = {s with delivered := (a,.redirect q f) ::ₘ s.delivered} := by
  obtain ⟨act,skb⟩ := r
  cases act with
  | ok => cases h
  | shot => cases h
  | pipe => cases h
  | redirect port flags =>
    rw [verdictAfter] at h
    rw [Host.conclude]
    by_cases hf : flags = BPF_F_INGRESS
    · rw [if_pos hf, returned] at h
      split at h
      · cases h
      · cases h
    · rw [if_neg hf] at h ⊢
      rw [h]

/-- Every run of the processors of a host for whose tables there is room is serial. -/
def SerialOn (ι : Type) [DecidableEq ι] {γ σ τ H M : Type} (g : Program σ H M)
    (adjustRoom : AdjustRoom) (write : γ → σ → σ) (n : Machine γ τ) (Fits : τ → Prop)
    (S : σ → τ → Prop) : Prop :=
  ∀ start t arrived events (s : Host ι σ H M HostStage (Arrival Arrives)), S start t →
    n.Within Fits t events → HostRun g adjustRoom write start arrived events s →
      Serial n S t arrived events s

theorem SerialOn.of_matches {ι γ ρ σ τ H M A B : Type} [DecidableEq ι] [Fintype ι]
    {g : Program σ H M} {P : Source τ A B} {S : σ → τ → Prop} {R : H → A → Prop}
    (hg : Refines g P S R) {h : ∀ ifindex s c, (g.control ifindex s c).1 = s}
    {k : ControlPlane γ ρ σ} {adjustRoom : AdjustRoom} {n : Machine γ τ} {Fits : τ → Prop}
    {K : ρ → τ → Prop}
    (hn : (compiled (g.on h k.entries) adjustRoom k.write).Matches n Fits K) :
    SerialOn ι (g.on h k.entries) adjustRoom k.write n Fits K := by
  intro start t arrived events s ht hin hr
  -- the parser has no part in how tables are kept
  have hk : KeepsMark (g.on h k.entries) := hg.keepsMark
  exact hr.serial hk hn.agrees ht hin

/-- On any number of processors the four programs with one table do what their P4
programs do one frame and one command after the other. -/
theorem processors_agree (ι : Type) [DecidableEq ι] [Fintype ι] (o : ByteOrder)
    (adjustRoom : AdjustRoom) {ρ : Type} :
    (∀ (k : ControlPlane (Command (BitVec 32) RedirectL2.SendNh) ρ Entries) K,
      k.Keeps Command.apply (FitsExact RedirectL2.tentries) (RedirectL2.Programmed o) K →
      SerialOn ι ((RedirectL2.generated o).on (RedirectL2.control_tables o) k.entries) adjustRoom
        k.write RedirectL2.machine (FitsExact RedirectL2.tentries) K) ∧
    (∀ (k : ControlPlane (Command (BitVec 32) SimpleL3.NhAction) ρ Entries) K,
      k.Keeps Command.apply (FitsExact SimpleL3.tentries) (SimpleL3.Programmed o) K →
      SerialOn ι ((SimpleL3.generated o).on (SimpleL3.control_tables o) k.entries) adjustRoom
        k.write SimpleL3.machine (FitsExact SimpleL3.tentries) K) ∧
    (∀ (k : ControlPlane (Command (BitVec 32) ArpRespond.ArpAction) ρ Entries) K,
      k.Keeps Command.apply (FitsExact ArpRespond.tentries) (ArpRespond.Programmed o) K →
      SerialOn ι ((ArpRespond.generated o).on (ArpRespond.control_tables o) k.entries) adjustRoom
        k.write ArpRespond.machine (FitsExact ArpRespond.tentries) K) ∧
    (AdjustsRoom adjustRoom → ∀ (k : ControlPlane (Command Dev Ipip.FwdAction) ρ Entries) K,
      k.Keeps Command.apply (FitsExact Ipip.tentries) (Ipip.Programmed o) K →
      SerialOn ι ((Ipip.generated o).on (Ipip.control_tables o) k.entries) adjustRoom k.write
        (Ipip.machine adjustRoom) (FitsExact Ipip.tentries) K) := by
  refine ⟨?_,?_,?_,?_⟩
  · intro k K hk
    have hn := (RedirectL2.refines o).matches (RedirectL2.control_tables o) RedirectL2.run_source
      hk adjustRoom
    exact .of_matches (RedirectL2.refines o).toRefines hn
  · intro k K hk
    have hn := (SimpleL3.refines o).matches (SimpleL3.control_tables o) SimpleL3.run_source hk
      adjustRoom
    exact .of_matches (SimpleL3.refines o).toRefines hn
  · intro k K hk
    have hn := (ArpRespond.refines o).matches (ArpRespond.control_tables o) ArpRespond.run_source
      hk adjustRoom
    exact .of_matches (ArpRespond.refines o).toRefines hn
  · intro ha k K hk
    have hn := (Ipip.refines o).matches (Ipip.control_tables o) Ipip.run_source hk adjustRoom ha
    exact .of_matches (Ipip.refines o) hn

end P4tcExamples.Generated

namespace P4tcExamples.ArpRespond
open BitFields Generated

def onEntries (o : ByteOrder) : Program Entries HeadersStruct Unit :=
  (generated o).on (control_tables o) controlPlane.entries

theorem onEntries_refines (o : ByteOrder) :
    Refines (onEntries o) source (Programmed o) (HeadersStruct.Represents o) :=
  (refines o).on (control_tables o) run_source (controlPlane_keeps o fun _ => True).entries

theorem tcParseFunc_sampleArrival (o : ByteOrder) : ∃ hdrMd skb,
    tcParseFunc (onEntries o) sampleArrival.skb = some (hdrMd,skb) ∧
      skb.cb.passToKernel = false := by
  have ho : (arpOf sampleRequest).oper = ARP_REQ := by decide +kernel
  have hp : source.parser sampleArrival.skb.data = _ := parser_arpFrame arpFrame_sampleRequest
  rw [if_pos ho] at hp
  obtain ⟨_,_,_,h⟩ := (onEntries_refines o).tcParseFunc_some hp
  exact ⟨_,_,h,KeepsMark.arrives (onEntries_refines o).keepsMark sampleArrival.arrives h⟩

/-- A processor that has parsed the request looks it up and answers. -/
theorem hostRun_sampleArrival {ι : Type} [DecidableEq ι] {o : ByteOrder} {adjustRoom : AdjustRoom}
    {start : Entries} {arrived : Multiset (Arrival Arrives)}
    {events : List (Event (Command (BitVec 32) ArpAction))}
    {s : Host ι Entries HeadersStruct Unit HostStage (Arrival Arrives)}
    (h : HostRun (onEntries o) adjustRoom controlPlane.write start arrived events s) {i : ι}
    {skb : Skb} (hi : s.stage i = .parsed sampleArrival skb) (hm : skb.cb.passToKernel = false)
    (hp : tcParseFunc (onEntries o) sampleArrival.skb = some (s.hdrMdCpumap i,skb)) {t : ArpTable}
    (ht : Programmed o s.tables t) {rmac : BitVec 48} (he : t 0x0a000002 = some (.arpReply rmac)) :
    HostRun (onEntries o) adjustRoom controlPlane.write start arrived
      (events ++ [.frame sampleArrival])
      {s.turn i .idle with delivered :=
        (sampleArrival,.redirect dev1.val (reply rmac sampleRequest)) ::ₘ s.delivered} := by
  obtain ⟨act,entries,skb',hr⟩ : ∃ act entries skb',
      Generated.tcIngressFunc (onEntries o) adjustRoom (s.hdrMdCpumap i) s.tables skb =
        (act,entries,skb') := ⟨_,_,_,rfl⟩
  have hs := tcIngressFunc_tables (g := onEntries o) (fun _ _ _ => rfl) adjustRoom
    (s.hdrMdCpumap i) s.tables skb
  rw [hr] at hs
  have hon := onEntries_refines o
  have hrunt : ¬Runt sampleArrival.skb := not_runt_bare sampleRequest dev1
  have hv := (hon.deliver_eq adjustRoom ht (sampleArrival.arrives.fresh hrunt) fun p hp =>
    Or.inl ((refines o).unresized t dev1 hp)).2
  rw [deliver_eq_verdictAfter adjustRoom hon.keepsMark hp hr, run_source] at hv
  have ho := tcIngressFunc_sampleRequest t dev1
  rw [arpTable, he] at ho
  replace hv := hv.trans ho
  have hstep := h.step (.ingress hi hr)
  rw [Host.conclude_redirect _ hv, hm, if_neg Bool.false_ne_true, add_zero] at hstep
  cases hs
  exact hstep

end P4tcExamples.ArpRespond

namespace P4tcExamples.Generated
open BitFields

/-- Both processors have parsed a request before either looks it up, and the entry is
rewritten between the two lookups. -/
theorem processors_agree_rewritten : ∃ arrived, ∃ s : Host Bool Entries _ _ _ _,
    HostRun (ArpRespond.onEntries .big) (fun _ _ => none) ArpRespond.controlPlane.write
      (fun _ => none) arrived ArpRespond.sampleHistory s ∧
    s.delivered.map Prod.snd =
      {.redirect dev1.val (ArpRespond.reply 0x131313131313 ArpRespond.sampleRequest),
        .redirect dev1.val (ArpRespond.reply 0x020304050602 ArpRespond.sampleRequest)} ∧
    s.delivered.map Prod.fst = arrived := by
  obtain ⟨hdrMd,skb,hp,hm⟩ := ArpRespond.tcParseFunc_sampleArrival .big
  have hs : ArpRespond.Programmed .big (fun _ => none) fun _ => none := fun _ => .none
  have h : HostRun (ι := Bool) (ArpRespond.onEntries .big) (fun _ _ => none)
    ArpRespond.controlPlane.write (fun _ => none) 0 [] _ :=
      .init fun _ => ⟨(ArpRespond.generated .big).hdr,(),0⟩
  have h := h.step (.command ⟨0x0a000002,some (.arpReply 0x131313131313)⟩)
  have h := h.step (.parse (i := false) ArpRespond.sampleArrival rfl hp)
  have h := h.step (.parse (i := true) ArpRespond.sampleArrival rfl hp)
  have hc := ArpRespond.write_programmed hs ⟨0x0a000002,some (.arpReply 0x131313131313)⟩
  have h := ArpRespond.hostRun_sampleArrival h (i := true) rfl hm hp hc (Function.update_self _ _ _)
  have h := h.step (.command ⟨0x0a000002,some (.arpReply 0x020304050602)⟩)
  have hc := ArpRespond.write_programmed hc ⟨0x0a000002,some (.arpReply 0x020304050602)⟩
  have h := ArpRespond.hostRun_sampleArrival h (i := false) rfl hm hp hc
    (Function.update_self _ _ _)
  obtain ⟨_,_,hserial,_⟩ := processors_agree Bool .big fun _ _ => none
  have hd := hserial _ _ (ArpRespond.controlPlane_keeps .big _) _ _ _ _ _ hs
    ArpRespond.within_sampleHistory h
  obtain ⟨hd,ha⟩ := hd.complete (fun i => by cases i <;> rfl) rfl
  refine ⟨_,_,h,?_,ha⟩
  rw [hd, ArpRespond.run_sampleHistory]
  rfl

end P4tcExamples.Generated
