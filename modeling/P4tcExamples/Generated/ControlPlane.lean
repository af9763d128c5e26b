import P4tcExamples.Generated.RedirectL2
import P4tcExamples.Generated.SimpleL3
import P4tcExamples.Generated.Routing
import P4tcExamples.Generated.Ipip
import P4tcExamples.Generated.ArpRespond

/-! # Table commands between frames

`tc p4ctrl` puts entries into the tables and takes them out while frames arrive. How
`tc` and the kernel keep them is not in this repository: here it is a state of any form
whose tables hold what was commanded, as long as the template has room for it. The
generated programs and the P4 programs then answer every history alike.
-/
namespace P4tcExamples.Generated
open BitFields

inductive Event (γ : Type)
  | command (c : γ)
  | frame (a : Arrival Arrives)

/-- A pipeline with its tables: what commands do to them, and what happens to frames. -/
structure Machine (γ σ : Type) where
  command : γ → σ → σ
  frame : σ → Arrival Arrives → σ × Verdict

section Machines
variable {γ σ τ : Type}

def Machine.step (m : Machine γ σ) (r : σ × List (Arrival Arrives × Verdict)) :
    Event γ → σ × List (Arrival Arrives × Verdict)
  | .command c => (m.command c r.1,r.2)
  | .frame a => ((m.frame r.1 a).1,r.2 ++ [(a,(m.frame r.1 a).2)])

/-- The tables after a history, and what became of the frames in it. -/
def Machine.run (m : Machine γ σ) (s : σ) (es : List (Event γ)) :
    σ × List (Arrival Arrives × Verdict) :=
  es.foldl m.step (s,[])

theorem Machine.run_concat (m : Machine γ σ) (s : σ) (es : List (Event γ)) (e : Event γ) :
    m.run s (es ++ [e]) = m.step (m.run s es) e := List.foldl_concat _ _ _ _

/-- There is room for the tables at every moment of a history. -/
def Machine.Within (n : Machine γ τ) (Fits : τ → Prop) (t : τ) (es : List (Event γ)) : Prop :=
  ∀ before, before <+: es → Fits (n.run t before).1

/-- What grows by one with an event at most is bounded by the length of a history. -/
theorem Machine.run_length {n : Machine γ τ} (Within : ℕ → τ → Prop) {t : τ} (ht : Within 0 t)
    (hstep : ∀ {k r} (e : Event γ), Within k r.1 → Within (k + 1) (n.step r e).1)
    (es : List (Event γ)) : Within es.length (n.run t es).1 := by
  induction es using List.reverseRecOn with
  | nil => exact ht
  | append_singleton es e ih =>
    rw [Machine.run_concat, List.length_append, List.length_singleton]
    exact hstep e ih

theorem Machine.Within.before {n : Machine γ τ} {Fits : τ → Prop} {t : τ} {es : List (Event γ)}
    {e : Event γ} (h : n.Within Fits t (es ++ [e])) : n.Within Fits t es :=
  fun before hb => h before (hb.trans (List.prefix_append es [e]))

structure Machine.Matches (m : Machine γ σ) (n : Machine γ τ) (Fits : τ → Prop)
    (S : σ → τ → Prop) : Prop where
  command : ∀ c {s t}, S s t → Fits (n.command c t) → S (m.command c s) (n.command c t)
  frame : ∀ a {s t}, S s t → S (m.frame s a).1 (n.frame t a).1 ∧ (m.frame s a).2 = (n.frame t a).2

/-- From tables that hold one another's contents on, every history for which there is
room leaves such tables and ends alike for each of its frames. -/
def Machine.Agrees (m : Machine γ σ) (n : Machine γ τ) (Fits : τ → Prop) (S : σ → τ → Prop) :
    Prop :=
  ∀ {s t}, S s t → ∀ es, n.Within Fits t es →
    S (m.run s es).1 (n.run t es).1 ∧ (m.run s es).2 = (n.run t es).2

theorem Machine.Matches.agrees {m : Machine γ σ} {n : Machine γ τ} {Fits : τ → Prop}
    {S : σ → τ → Prop} (h : m.Matches n Fits S) : m.Agrees n Fits S := by
  intro s t hs es hw
  induction es using List.reverseRecOn with
  | nil => exact ⟨hs,rfl⟩
  | append_singleton es e ih =>
    obtain ⟨ht,hv⟩ := ih hw.before
    have hfits := hw _ List.prefix_rfl
    rw [Machine.run_concat] at hfits
    rw [Machine.run_concat, Machine.run_concat]
    cases e with
    | command c => exact ⟨h.command c ht hfits,hv⟩
    | frame a =>
      obtain ⟨hn,ha⟩ := h.frame a ht
      refine ⟨hn,?_⟩
      rw [Machine.step, Machine.step, hv, ha]

end Machines

section Programs
variable {γ ρ σ τ H M A B : Type}

/-- What programs find in the kernel's tables, and what commands do to these. A state
holds more than lookups show: the longest prefix hides the others. -/
structure ControlPlane (γ ρ σ : Type) where
  entries : ρ → σ
  write : γ → ρ → ρ

/-- What the control plane promises: programs find what the tables hold, and after a
command for which there is room the tables hold what was commanded. -/
structure ControlPlane.Keeps (k : ControlPlane γ ρ σ) (apply : γ → τ → τ) (Fits : τ → Prop)
    (S : σ → τ → Prop) (K : ρ → τ → Prop) : Prop where
  entries : ∀ r t, K r t → S (k.entries r) t
  write : ∀ c {r t}, K r t → Fits (apply c t) → K (k.write c r) (apply c t)

/-- A program that only reads its tables, on a state in which it finds them. -/
def Program.on (g : Program σ H M) (_ : ∀ ifindex s c, (g.control ifindex s c).1 = s)
    (entries : ρ → σ) : Program ρ H M where
  hdr := g.hdr
  usermeta := g.usermeta
  start := g.start
  control ifindex r c := (r,(g.control ifindex (entries r) c).2)
  deparser := g.deparser

/-- A generated program beside a control plane. -/
def compiled (g : Program σ H M) (adjustRoom : AdjustRoom) (write : γ → σ → σ) : Machine γ σ where
  command := write
  frame s a := deliver g adjustRoom s a.skb

/-- A P4 program beside its commands, of whose frames some are lost around it. -/
def original (apply : γ → τ → τ) (verdict : τ → Dev → Frame → Verdict)
    (lost : Skb → Verdict → Prop) [∀ skb v, Decidable (lost skb v)] : Machine γ τ where
  command := apply
  frame t a :=
    (t,if lost a.skb (verdict t a.port a.skb.data) then .shot else verdict t a.port a.skb.data)

variable {g : Program σ H M} {P : Source τ A B} {S : σ → τ → Prop} {R : H → A → Prop}
  (h : ∀ ifindex s c, (g.control ifindex s c).1 = s) {verdict : τ → Dev → Frame → Verdict}
  (hrun : ∀ t port pkt, P.run t port pkt = (t,verdict t port pkt)) {K : ρ → τ → Prop}
include hrun

theorem Refines.on (hg : Refines g P S R) {entries : ρ → σ}
    (hk : ∀ r t, K r t → S (entries r) t) : Refines (g.on h entries) P K R where
  parses := hg.parses
  controls {pkt p r t} port {hdr m} hp hr hh hd he := by
    obtain ⟨_,hemits,hdrop,hport⟩ := hg.controls port hp (hk r t hr) hh hd he
    have ht := congrArg Prod.fst (hrun t port pkt)
    rw [Source.run, hp] at ht
    refine ⟨?_,hemits,hdrop,hport⟩
    rw [show (P.control t port p).1 = t from ht]
    exact hr
  framed := hg.framed
  again := hg.again

variable {k : ControlPlane γ ρ σ} {apply : γ → τ → τ} {Fits : τ → Prop}
  (hk : k.Keeps apply Fits S K) (adjustRoom : AdjustRoom)
include hk

theorem RefinesInPlace.matches (hg : RefinesInPlace g P S R) :
    (compiled (g.on h k.entries) adjustRoom k.write).Matches
      (original apply verdict fun skb _ => Runt skb) Fits K where
  command := hk.write
  frame a _ _ hs := by
    have hon := hg.toRefines.on h hrun hk.entries
    have hd := RefinesInPlace.deliver adjustRoom ⟨hon,hg.unresized⟩ a.arrives hs
    rwa [hrun, ite_self] at hd

theorem Refines.matches (hg : Refines g P S R) (ha : AdjustsRoom adjustRoom) :
    (compiled (g.on h k.entries) adjustRoom k.write).Matches
      (original apply verdict fun skb v => Runt skb ∨ Stuck adjustRoom skb v) Fits K where
  command := hk.write
  frame a _ _ hs := by
    have hd := (hg.on h hrun hk.entries).deliver adjustRoom ha a.arrives hs
    rwa [hrun, ite_self] at hd

end Programs

section Exact
variable {κ ν : Type} [DecidableEq κ]

/-- An entry that is put in place of what is under its key, or removed. -/
structure Command (κ ν : Type) where
  key : κ
  action : Option ν

def Command.apply (c : Command κ ν) (t : κ → Option ν) : κ → Option ν :=
  Function.update t c.key c.action

/-- An exact-match table has one mask, so that only its entries are limited. -/
def FitsExact (tentries : ℕ) (t : κ → Option ν) : Prop :=
  ∃ keys : Finset κ, keys.card ≤ tentries ∧ ∀ key, t key ≠ none → key ∈ keys

omit [DecidableEq κ] in
theorem FitsExact.mono {k l : ℕ} {t : κ → Option ν} (h : FitsExact k t) (hl : k ≤ l) :
    FitsExact l t := by
  obtain ⟨keys,hc,hk⟩ := h
  exact ⟨keys,hc.trans hl,hk⟩

theorem FitsExact.apply {k : ℕ} {t : κ → Option ν} (h : FitsExact k t) (c : Command κ ν) :
    FitsExact (k + 1) (c.apply t) := by
  obtain ⟨keys,hc,hk⟩ := h
  refine ⟨insert c.key keys,(Finset.card_insert_le _ _).trans (Nat.add_le_add_right hc 1),?_⟩
  intro key hn
  by_cases he : key = c.key
  · exact Finset.mem_insert.mpr (Or.inl he)
  · rw [Command.apply, Function.update_of_ne he] at hn
    exact Finset.mem_insert_of_mem (hk key hn)

theorem within_of_length {verdict : (κ → Option ν) → Dev → Frame → Verdict}
    {lost : Skb → Verdict → Prop} [∀ skb v, Decidable (lost skb v)] {tentries : ℕ}
    {es : List (Event (Command κ ν))} (h : es.length ≤ tentries) :
    (original Command.apply verdict lost).Within (FitsExact tentries) (fun _ => none) es := by
  intro before hb
  refine (Machine.run_length FitsExact ⟨∅,Nat.le_refl 0,fun _ hn => absurd rfl hn⟩ ?_
    before).mono (hb.length_le.trans h)
  intro k r e hr
  cases e with
  | command c => exact hr.apply c
  | frame a => exact hr.mono (Nat.le_succ k)

end Exact

end P4tcExamples.Generated

namespace P4tcExamples.RedirectL2
open Generated

def tentries : ℕ := 262144

def machine : Machine (Command (BitVec 32) SendNh) NhTable :=
  original Command.apply tcIngressFunc fun skb _ => Runt skb

end P4tcExamples.RedirectL2

namespace P4tcExamples.SimpleL3
open Generated

def tentries : ℕ := 2048

def machine : Machine (Command (BitVec 32) NhAction) NhTable :=
  original Command.apply tcIngressFunc fun skb _ => Runt skb

end P4tcExamples.SimpleL3

namespace P4tcExamples.ArpRespond
open BitFields Generated

def tentries : ℕ := 1024

def machine : Machine (Command (BitVec 32) ArpAction) ArpTable :=
  original Command.apply tcIngressFunc fun skb _ => Runt skb

def ArpAction.act : ArpAction → ActBpf
  | .arpReply rmac => ⟨1,toBytes 6 rmac ++ [0,0]⟩
  | .drop => ⟨2,[]⟩

theorem ArpAction.holds_act (o : ByteOrder) (a : ArpAction) : a.Holds o a.act := by
  cases a with
  | arpReply rmac =>
    have hp : slice (toBytes 6 rmac ++ [0,0]) 0 8 = toBytes 6 rmac ++ [0,0] :=
      List.take_of_length_le (by simp)
    refine ⟨rfl,?_⟩
    change HoldsMac o (o.load 64 (slice (toBytes 6 rmac ++ [0,0]) 0 8)) rmac
    rw [hp, HoldsMac, store_load o rfl (by simp), List.take_left' (length_toBytes 6 rmac)]
  | drop => rfl

/-- Entries under the octets of their keys, with actions as the template declares them. -/
def write (c : Command (BitVec 32) ArpAction) (entries : Entries) : Entries :=
  Function.update entries (toBytes 4 c.key) (c.action.map ArpAction.act)

theorem write_programmed {o : ByteOrder} {entries : Entries} {t : ArpTable}
    (h : Programmed o entries t) (c : Command (BitVec 32) ArpAction) :
    Programmed o (write c entries) (c.apply t) := by
  intro key
  rw [write, Command.apply]
  by_cases hk : key = c.key
  · subst hk
    rw [Function.update_self, Function.update_self]
    cases c.action with
    | none => exact .none
    | some a => exact .some (a.holds_act o)
  · have hb : toBytes 4 key ≠ toBytes 4 c.key := fun hb =>
      hk (store_injective (n := 4) .big rfl hb)
    rw [Function.update_of_ne hk, Function.update_of_ne hb]
    exact h key

def controlPlane : ControlPlane (Command (BitVec 32) ArpAction) Entries Entries := ⟨id,write⟩

theorem controlPlane_keeps (o : ByteOrder) (Fits : ArpTable → Prop) :
    controlPlane.Keeps Command.apply Fits (Programmed o) (Programmed o) where
  entries _ _ h := h
  write c _ _ h _ := write_programmed h c

def sampleArrival : Arrival Arrives := ⟨_,dev1,arrives_bare sampleRequest dev1⟩

def sampleHistory : List (Event (Command (BitVec 32) ArpAction)) :=
  [.command ⟨0x0a000002,some (.arpReply 0x131313131313)⟩,.frame sampleArrival,
    .command ⟨0x0a000002,some (.arpReply 0x020304050602)⟩,.frame sampleArrival]

theorem within_sampleHistory :
    machine.Within (FitsExact tentries) (fun _ => none) sampleHistory :=
  within_of_length (by decide)

theorem run_sampleHistory : (machine.run (fun _ => none) sampleHistory).2 =
    [(sampleArrival,.redirect dev1.val (reply 0x131313131313 sampleRequest)),
      (sampleArrival,.redirect dev1.val (reply 0x020304050602 sampleRequest))] := by
  have hr := not_runt_bare sampleRequest dev1
  simp only [sampleHistory, sampleArrival, Machine.run, List.foldl_cons, List.foldl_nil,
    Machine.step, machine, original, Command.apply, hr, if_false, tcIngressFunc_sampleRequest,
    arpTable, Function.update_self]
  rfl

end P4tcExamples.ArpRespond

namespace P4tcExamples.Ipip
open Generated

def tentries : ℕ := 2048

def machine (adjustRoom : AdjustRoom) : Machine (Command Dev FwdAction) FwdTable :=
  original Command.apply tcIngressFunc fun skb v => Runt skb ∨ Stuck adjustRoom skb v

end P4tcExamples.Ipip

namespace P4tcExamples.Routing
open BitFields Generated

def tentries : ℕ := 2048

def nummasks : ℕ := 8

inductive TableCommand
  | nh (c : Command (BitVec 32) NhAction)
  | fib (address : BitVec 32) (len : ℕ) (len_le : len ≤ 32) (index : Option (BitVec 32))

def TableCommand.apply : TableCommand → Tables → Tables
  | nh c, t => {t with nh := c.apply t.nh}
  | fib address len len_le index, t => {t with fib := t.fib.set address len len_le index}

structure Fits (t : Tables) : Prop where
  nh : FitsExact tentries t.nh
  fib : t.fib.routes.length ≤ tentries
  masks : (t.fib.routes.map (·.len)).toFinset.card ≤ nummasks

def machine : Machine TableCommand Tables :=
  original TableCommand.apply tcIngressFunc fun skb _ => Runt skb

def noTables : Tables := ⟨.empty,fun _ => none⟩

theorem within_of_length {es : List (Event TableCommand)} (h : es.length ≤ nummasks) :
    machine.Within Fits noTables es := by
  intro before hb
  have hl := hb.length_le.trans h
  have hrun := Machine.run_length (n := machine) (t := noTables)
    (fun k t => FitsExact k t.nh ∧ t.fib.routes.length ≤ k)
    ⟨⟨∅,Nat.le_refl 0,fun _ hn => absurd rfl hn⟩,Nat.le_refl 0⟩ ?_ before
  · obtain ⟨hnh,hfib⟩ := hrun
    have hm := hfib.trans hl
    refine ⟨hnh.mono (hl.trans (by decide)),hm.trans (by decide),?_⟩
    exact (List.toFinset_card_le _).trans (by rwa [List.length_map])
  · rintro k r e ⟨hnh,hfib⟩
    cases e with
    | frame a => exact ⟨hnh.mono (Nat.le_succ k),hfib.trans (Nat.le_succ k)⟩
    | command c =>
      cases c with
      | nh c => exact ⟨hnh.apply c,hfib.trans (Nat.le_succ k)⟩
      | fib address len len_le index =>
        refine ⟨hnh.mono (Nat.le_succ k),?_⟩
        exact (PrefixMatch.Table.length_set_le _ _ _ _ _).trans (Nat.succ_le_succ hfib)

def NhAction.act (o : ByteOrder) : NhAction → ActBpf
  | .drop => ⟨1,[]⟩
  | .setNh dmac port => ⟨2,toBytes 6 dmac ++ [0,0] ++ o.store 4 port.val⟩

theorem NhAction.holds_act (o : ByteOrder) (a : NhAction) : a.Holds o (a.act o) := by
  cases a with
  | drop => rfl
  | setNh dmac port =>
    have hs : slice (toBytes 6 dmac ++ [0,0] ++ o.store 4 port.val) 0 8 =
        toBytes 6 dmac ++ [0,0] := List.take_left' (by simp)
    have hp : slice (toBytes 6 dmac ++ [0,0] ++ o.store 4 port.val) 8 4 = o.store 4 port.val := by
      rw [slice, List.drop_left' (by simp), List.take_of_length_le (by simp)]
    refine ⟨rfl,?_,?_⟩
    · rw [ActBpf.u64At, NhAction.act, hs, HoldsMac, store_load o rfl (by simp),
        List.take_left' (length_toBytes 6 dmac)]
    · rw [ActBpf.u32At, NhAction.act, hp]
      exact load_store o (n := 4) rfl _

/-- All routes are kept, and a search lays out the entry that it finds. -/
def controlPlane (o : ByteOrder) : ControlPlane TableCommand Tables TableEntries where
  entries t :=
    { fib := fun key => (t.fib.lookup (ofBytes 32 key)).map fun index => ⟨3,o.store 4 index⟩
      nh := fun key => (t.nh (o.load 32 key)).map (NhAction.act o) }
  write := TableCommand.apply

theorem controlPlane_keeps (o : ByteOrder) :
    (controlPlane o).Keeps TableCommand.apply Fits (Programmed o) (· = ·) where
  entries t _ ht := by
    subst ht
    refine ⟨fun key => ?_,fun key => ?_⟩
    · simp only [controlPlane, ofBytes_toBytes (w := 32) (n := 4) rfl]
      cases t.fib.lookup key with
      | none => exact .none
      | some index =>
        have hp : slice (o.store 4 index) 0 4 = o.store 4 index :=
          List.take_of_length_le (by simp)
        refine .some ⟨rfl,?_⟩
        rw [ActBpf.u32At, hp]
        exact load_store o (n := 4) rfl _
    · simp only [controlPlane, load_store o (w := 32) (n := 4) rfl]
      cases t.nh key with
      | none => exact .none
      | some a => exact .some (a.holds_act o)
  write c _ _ ht _ := congrArg c.apply ht

def sampleArrival : Arrival Arrives := ⟨_,dev1,arrives_bare sampleFrame dev1⟩

/-- 10.64.0.0/10 leads to next hop 7, and for a time 10.99.0.0/20 to next hop 8. -/
def sampleHistory : List (Event TableCommand) :=
  [.command (.nh ⟨7,some (.setNh 0x131313131313 dev2)⟩),
    .command (.nh ⟨8,some (.setNh 0x020304050602 dev3)⟩),
    .command (.fib 0x0a400000 10 (by decide) (some 7)),.frame sampleArrival,
    .command (.fib 0x0a630000 20 (by decide) (some 8)),.frame sampleArrival,
    .command (.fib 0x0a630000 20 (by decide) none),.frame sampleArrival]

theorem within_sampleHistory : machine.Within Fits noTables sampleHistory :=
  within_of_length (by decide)

theorem run_sampleHistory : (machine.run noTables sampleHistory).2 =
    [(sampleArrival,.redirect dev2.val (hop 0x131313131313 sampleFrame)),
      (sampleArrival,.redirect dev3.val (hop 0x020304050602 sampleFrame)),
      (sampleArrival,.redirect dev2.val (hop 0x131313131313 sampleFrame))] := by
  have hr := not_runt_bare sampleFrame dev1
  simp only [sampleHistory, sampleArrival, Machine.run, List.foldl_cons, List.foldl_nil,
    Machine.step, machine, original, hr, if_false]
  rw [tcIngressFunc_sampleFrame (p := dev2) rfl, tcIngressFunc_sampleFrame (p := dev3) rfl,
    tcIngressFunc_sampleFrame (p := dev2) rfl]
  rfl

end P4tcExamples.Routing

namespace P4tcExamples.Generated
open BitFields

/-- Whatever commands come in between, the five generated programs answer frames as the
P4 programs do; ipip loses in addition the frames for which there is no room. -/
theorem histories_agree (o : ByteOrder) (adjustRoom : AdjustRoom) {ρ : Type} :
    (∀ (k : ControlPlane (Command (BitVec 32) RedirectL2.SendNh) ρ Entries) K,
      k.Keeps Command.apply (FitsExact RedirectL2.tentries) (RedirectL2.Programmed o) K →
      (compiled ((RedirectL2.generated o).on (RedirectL2.control_tables o) k.entries) adjustRoom
        k.write).Agrees RedirectL2.machine (FitsExact RedirectL2.tentries) K) ∧
    (∀ (k : ControlPlane (Command (BitVec 32) SimpleL3.NhAction) ρ Entries) K,
      k.Keeps Command.apply (FitsExact SimpleL3.tentries) (SimpleL3.Programmed o) K →
      (compiled ((SimpleL3.generated o).on (SimpleL3.control_tables o) k.entries) adjustRoom
        k.write).Agrees SimpleL3.machine (FitsExact SimpleL3.tentries) K) ∧
    (∀ (k : ControlPlane (Command (BitVec 32) ArpRespond.ArpAction) ρ Entries) K,
      k.Keeps Command.apply (FitsExact ArpRespond.tentries) (ArpRespond.Programmed o) K →
      (compiled ((ArpRespond.generated o).on (ArpRespond.control_tables o) k.entries) adjustRoom
        k.write).Agrees ArpRespond.machine (FitsExact ArpRespond.tentries) K) ∧
    (∀ (k : ControlPlane Routing.TableCommand ρ Routing.TableEntries) K,
      k.Keeps Routing.TableCommand.apply Routing.Fits (Routing.Programmed o) K →
      (compiled ((Routing.generated o).on (Routing.control_tables o) k.entries) adjustRoom
        k.write).Agrees Routing.machine Routing.Fits K) ∧
    (AdjustsRoom adjustRoom → ∀ (k : ControlPlane (Command Dev Ipip.FwdAction) ρ Entries) K,
      k.Keeps Command.apply (FitsExact Ipip.tentries) (Ipip.Programmed o) K →
      (compiled ((Ipip.generated o).on (Ipip.control_tables o) k.entries) adjustRoom
        k.write).Agrees (Ipip.machine adjustRoom) (FitsExact Ipip.tentries) K) := by
  refine ⟨?_,?_,?_,?_,?_⟩
  · intro k K hk
    exact ((RedirectL2.refines o).matches _ RedirectL2.run_source hk adjustRoom).agrees
  · intro k K hk
    exact ((SimpleL3.refines o).matches _ SimpleL3.run_source hk adjustRoom).agrees
  · intro k K hk
    exact ((ArpRespond.refines o).matches _ ArpRespond.run_source hk adjustRoom).agrees
  · intro k K hk
    exact ((Routing.refines o).matches _ Routing.run_source hk adjustRoom).agrees
  · intro ha k K hk
    exact ((Ipip.refines o).matches _ Ipip.run_source hk adjustRoom ha).agrees

/-- An entry of arp_respond is rewritten between two requests, and a longer route of
routing is there for one of three frames. -/
theorem histories_agree_rewritten :
    ((compiled ((ArpRespond.generated .big).on (ArpRespond.control_tables .big)
      ArpRespond.controlPlane.entries) (fun _ _ => none) ArpRespond.controlPlane.write).run
        (fun _ => none) ArpRespond.sampleHistory).2.map Prod.snd =
      [.redirect dev1.val (ArpRespond.reply 0x131313131313 ArpRespond.sampleRequest),
        .redirect dev1.val (ArpRespond.reply 0x020304050602 ArpRespond.sampleRequest)] ∧
    ((compiled ((Routing.generated .little).on (Routing.control_tables .little)
      (Routing.controlPlane .little).entries) (fun _ _ => none)
        (Routing.controlPlane .little).write).run Routing.noTables
          Routing.sampleHistory).2.map Prod.snd =
      [.redirect dev2.val (Routing.hop 0x131313131313 Routing.sampleFrame),
        .redirect dev3.val (Routing.hop 0x020304050602 Routing.sampleFrame),
        .redirect dev2.val (Routing.hop 0x131313131313 Routing.sampleFrame)] := by
  obtain ⟨_,_,harp,_,_⟩ := histories_agree .big fun _ _ => none
  obtain ⟨_,_,_,hrouting,_⟩ := histories_agree .little fun _ _ => none
  constructor
  · have hs : ArpRespond.Programmed .big (fun _ => none) fun _ => none := fun _ => .none
    have h := harp _ _ (ArpRespond.controlPlane_keeps .big _) hs _
      ArpRespond.within_sampleHistory
    rw [h.2, ArpRespond.run_sampleHistory]
    rfl
  · have h := hrouting _ _ (Routing.controlPlane_keeps .little) rfl _
      Routing.within_sampleHistory
    rw [h.2, Routing.run_sampleHistory]
    rfl

end P4tcExamples.Generated
