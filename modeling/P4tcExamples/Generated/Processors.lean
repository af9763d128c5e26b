import P4tcExamples.Generated.FlowTracker
import P4tcExamples.Generated.Hosts

/-! # The flow trackers on several processors

Every processor has its own `hdr_md_cpumap` element, and the table is the only thing
that processors share. A control reads it once and may create an entry once, with
the steps of other processors, timers and the control plane in between; a frame that
is redirected to its own device waits for any processor. In every interleaving the
table is that of a sequential run: a frame that hits takes effect when it is looked
up, and a frame that misses when its entry is created.
-/
namespace P4tcExamples.FlowTracker
open BitFields Generated

/-- Where a processor is: outside, between the two programs, or between the lookup and
the `switch` over its action. -/
inductive Stage
  | idle
  | parsed (a : Arrival Fresh) (skb : Skb)
  | looked (a : Arrival Fresh) (key : List Byte) (value : Option ActBpf) (skb : Skb)

/-- The action of the lookup creates an entry. -/
def misses (value : Option ActBpf) : Bool :=
  value.any fun v => v.actId = MAIN_CT_FLOW_TABLE_ACT_MAIN_CT_FLOW_MISS

namespace Stage

def arrivals : Stage → Multiset (Arrival Fresh)
  | idle => 0
  | parsed a _ => {a}
  | looked a _ _ _ => {a}

/-- The frame of a processor that has not taken effect yet. -/
def uncommitted : Stage → Multiset (Dev × Frame)
  | idle => 0
  | parsed a skb => if skb.cb.passToKernel then 0 else {a.frame}
  | looked a _ value _ => if misses value then {a.frame} else 0

end Stage

section Split
variable {σ α : Type} [Layout α] [Network α] [Compiled α] [NetworkStruct α] (o : ByteOrder)
  (kernel : Kernel σ) (adjustRoom : AdjustRoom)

/-- `tc_ingress_func` up to `bpf_p4tc_tbl_read`. -/
def beforeSwitch (hdrMd : HdrMd (HeadersStruct α) Metadata) (s : σ) (skb : Skb) :
    (TcAct × Skb) ⊕ (HdrMd (HeadersStruct α) Metadata × List Byte × Option ActBpf × Skb) :=
  if skb.cb.passToKernel then .inl (.ok,skb)
  else
    match if skb.cb.recirculated then some skb else restoreEtherType {skb with cb.mark := 153} with
    | none => .inl (.shot,skb)
    | some skb =>
      let c := setPortsBlock ⟨hdrMd.cpumapHdr,hdrMd.cpumapUsermeta,skb.cb⟩
      let key := keyBlock o skb.ifindex c
      .inr ({hdrMd with cpumapHdr := c.hdr, cpumapUsermeta := c.usermeta},key,
        ctFlowTableRead kernel s key,{skb with cb := c.compilerMeta})

/-- The rest of `tc_ingress_func` behind the `switch`. -/
def afterSwitch (hdrMd : HdrMd (HeadersStruct α) Metadata) (skb : Skb) : TcAct × Skb :=
  if skb.cb.drop then (.shot,skb)
  else
    match deparse adjustRoom ((generated α o kernel).deparser hdrMd.cpumapHdr hdrMd.cpumapUsermeta)
      (bytes hdrMd.ebpfPacketOffsetInBits) skb.data with
    | none => (.shot,skb)
    | some data =>
      if !skb.cb.drop && skb.cb.egressPort = 0 then
        (.redirect skb.ifindex BPF_F_INGRESS,{skb with data, cb.passToKernel := true})
      else (.redirect skb.cb.egressPort 0,{skb with data})

/-- With nobody in between, the parts are the whole. -/
theorem tcIngressFunc_split (hdrMd : HdrMd (HeadersStruct α) Metadata) (s : σ) (skb : Skb) :
    Generated.tcIngressFunc (generated α o kernel) adjustRoom hdrMd s skb =
      match beforeSwitch o kernel hdrMd s skb with
      | .inl r => (r.1,s,r.2)
      | .inr (hdrMd,key,value,skb) =>
        ((afterSwitch o kernel adjustRoom hdrMd skb).1,ctFlowTableBlock kernel key value s,
          (afterSwitch o kernel adjustRoom hdrMd skb).2) := by
  unfold Generated.tcIngressFunc beforeSwitch
  cases hk : skb.cb.passToKernel with
  | true => simp only [↓reduceIte]
  | false =>
    simp only [Bool.false_eq_true, ↓reduceIte]
    cases (if skb.cb.recirculated then some skb
        else restoreEtherType {skb with cb.mark := 153}) with
    | none => rfl
    | some skb =>
      have hc : (generated α o kernel).control = mainBlock o kernel := rfl
      simp only [process, hc, mainBlock, afterSwitch]
      generalize setPortsBlock ⟨hdrMd.cpumapHdr,hdrMd.cpumapUsermeta,skb.cb⟩ = c
      generalize deparse adjustRoom ((generated α o kernel).deparser c.hdr c.usermeta)
        (bytes hdrMd.ebpfPacketOffsetInBits) skb.data = d
      obtain ⟨hdr,u,m⟩ := c
      by_cases hd : m.drop = true
      · simp only [if_pos hd]
      · simp only [if_neg hd]
        cases d with
        | none => rfl
        | some data =>
          dsimp only
          split
          · rfl
          · rfl

end Split

abbrev System (ι σ α : Type) [Layout α] [Compiled α] : Type :=
  Host ι σ (HeadersStruct α) Metadata Stage (Arrival Fresh)

section Interleavings
variable {ι σ α : Type} [DecidableEq ι] [Layout α] [Network α] [Compiled α] [NetworkStruct α]
  (o : ByteOrder) (kernel : Kernel σ) (adjustRoom : AdjustRoom)

/-- A step of one processor, of a timer or of the control plane, with the frame that
arrives and with what takes effect. -/
inductive Step (s : System ι σ α) :
    Multiset (Arrival Fresh) → List (Event α) → System ι σ α → Prop
  | refuse (a : Arrival Fresh) (h : tcParseFunc (generated α o kernel) a.skb = none) :
      Step s {a} [.frame a.port a.skb.data] (s.conclude a (.shot,a.skb))
  | parse {i : ι} (a : Arrival Fresh) {hdrMd : HdrMd (HeadersStruct α) Metadata} {skb : Skb}
      (hi : s.stage i = .idle) (h : tcParseFunc (generated α o kernel) a.skb = some (hdrMd,skb)) :
      Step s {a} [] (s.enter i (.parsed a skb) hdrMd)
  | refuseAgain {a : Arrival Fresh} {b : Skb} {rest : Multiset (Arrival Fresh × Skb)}
      (hb : s.backlog = (a,b) ::ₘ rest) (h : tcParseFunc (generated α o kernel) b = none) :
      Step s 0 [] ({s with backlog := rest}.conclude a (.shot,b))
  | parseAgain {i : ι} {a : Arrival Fresh} {b : Skb} {rest : Multiset (Arrival Fresh × Skb)}
      {hdrMd : HdrMd (HeadersStruct α) Metadata} {skb : Skb} (hi : s.stage i = .idle)
      (hb : s.backlog = (a,b) ::ₘ rest)
      (h : tcParseFunc (generated α o kernel) b = some (hdrMd,skb)) :
      Step s 0 [] ({s with backlog := rest}.enter i (.parsed a skb) hdrMd)
  | finish {i : ι} {a : Arrival Fresh} {skb : Skb} {r : TcAct × Skb}
      (hi : s.stage i = .parsed a skb)
      (h : beforeSwitch o kernel (s.hdrMdCpumap i) s.tables skb = .inl r) :
      Step s 0 [] ((s.turn i .idle).conclude a r)
  | lookup {i : ι} {a : Arrival Fresh} {b skb : Skb} {hdrMd : HdrMd (HeadersStruct α) Metadata}
      {key : List Byte} {value : Option ActBpf} (hi : s.stage i = .parsed a b)
      (h : beforeSwitch o kernel (s.hdrMdCpumap i) s.tables b = .inr (hdrMd,key,value,skb)) :
      Step s 0 (if misses value then [] else [.frame a.port a.skb.data])
        (s.enter i (.looked a key value skb) hdrMd)
  | switch {i : ι} {a : Arrival Fresh} {skb : Skb} {key : List Byte} {value : Option ActBpf}
      (hi : s.stage i = .looked a key value skb) :
      Step s 0 (if misses value then [.frame a.port a.skb.data] else [])
        (({s with tables := ctFlowTableBlock kernel key value s.tables}.turn i .idle).conclude a
          (afterSwitch o kernel adjustRoom (s.hdrMdCpumap i) skb))
  | idleTimeout (key : Key α) :
      Step s 0 [.idleTimeout key] {s with tables := kernel.remove (keyImage o key) s.tables}
  | delete (key : Key α) :
      Step s 0 [.delete key] {s with tables := kernel.remove (keyImage o key) s.tables}

/-- The runs from a given table, with all frames that arrived and all that took effect. -/
inductive Interleaving (start : σ) :
    Multiset (Arrival Fresh) → List (Event α) → System ι σ α → Prop
  | init (hdrMdCpumap : ι → HdrMd (HeadersStruct α) Metadata) :
      Interleaving start 0 [] ⟨start,hdrMdCpumap,fun _ => .idle,0,0⟩
  | step {arrived arrived' : Multiset (Arrival Fresh)} {events events' : List (Event α)}
      {s s' : System ι σ α} (hs : Interleaving start arrived events s)
      (h : Step o kernel adjustRoom s arrived' events' s') :
      Interleaving start (arrived + arrived') (events ++ events') s'

end Interleavings

section Sequential
variable {ι σ α : Type} [DecidableEq ι] [Fintype ι] [Layout α] [Network α] [Compiled α]
  [NetworkStruct α] (o : ByteOrder) (kernel : Kernel σ) (adjustRoom : AdjustRoom)
  (S : σ → FlowTable α → Prop)

def framesOf : List (Event α) → Multiset (Dev × Frame)
  | [] => 0
  | .frame port pkt :: events => (port,pkt) ::ₘ framesOf events
  | .idleTimeout _ :: events => framesOf events
  | .delete _ :: events => framesOf events

omit [Compiled α] [NetworkStruct α] in
theorem framesOf_append (events events' : List (Event α)) :
    framesOf (events ++ events') = framesOf events + framesOf events' := by
  induction events with
  | nil => exact (zero_add _).symm
  | cons e events ih =>
    cases e with
    | frame port pkt => rw [List.cons_append, framesOf, framesOf, ih, Multiset.cons_add]
    | idleTimeout key => rw [List.cons_append, framesOf, framesOf, ih]
    | delete key => rw [List.cons_append, framesOf, framesOf, ih]

/-- The events are a sequential run of the frames that arrived: it leaves the same
table and gives every frame the verdict that it gets. -/
structure Sequential (arrived : Multiset (Arrival Fresh)) (events : List (Event α))
    (s : System ι σ α) : Prop where
  table : S s.tables (run events)
  committed : framesOf events + s.total Stage.uncommitted = arrived.map Arrival.frame
  counted : s.settled + s.total Stage.arrivals = arrived
  answered : ∀ d ∈ s.delivered, ∀ t : FlowTable α,
    d.2 = (tcIngressFunc t d.1.port d.1.skb.data).2

/-- A frame that the control has left to the host. -/
structure Requeued (α : Type) [Layout α] [Network α] (a : Arrival Fresh) (skb : Skb) : Prop where
  data : skb.data = a.skb.data
  passToKernel : skb.cb.passToKernel = true
  parsed : parser (α := α) a.skb.data ≠ none

def Stage.Sound : Stage → HdrMd (HeadersStruct α) Metadata → Prop
  | .idle, _ => True
  | .parsed a skb, hdrMd =>
    tcParseFunc (generated α o kernel) a.skb = some (hdrMd,skb) ∨ Requeued α a skb
  | .looked a key _ skb, hdrMd => ∃ k b, sought (α := α) a.port a.skb.data = some k ∧
      key = keyImage o k ∧
      afterSwitch o kernel adjustRoom hdrMd skb = (.redirect a.port.val BPF_F_INGRESS,b) ∧
      Requeued α a b

structure Invariant (arrived : Multiset (Arrival Fresh)) (events : List (Event α))
    (s : System ι σ α) : Prop extends Sequential S arrived events s where
  stage : ∀ i, (s.stage i).Sound o kernel adjustRoom (s.hdrMdCpumap i)
  backlog : ∀ e ∈ s.backlog, Requeued α e.1 e.2

end Sequential

section Visits
variable {σ α : Type} [Layout α] [Network α] [Compiled α] [NetworkStruct α] {o : ByteOrder}
  {kernel : Kernel σ} {S : σ → FlowTable α → Prop} (hk : kernel.Keeps o S)
include hk

theorem parser_eq_none {skb : Skb} (h : tcParseFunc (generated α o kernel) skb = none) :
    parser (α := α) skb.data = none := by
  cases hp : parser (α := α) skb.data with
  | none => rfl
  | some p =>
    obtain ⟨_,_,_,hs⟩ := hk.refines.tcParseFunc_some hp
    rw [h] at hs
    cases hs

theorem parser_eq_some {skb skb' : Skb} {hdrMd : HdrMd (HeadersStruct α) Metadata}
    (h : tcParseFunc (generated α o kernel) skb = some (hdrMd,skb')) :
    ∃ p hdr, parser (α := α) skb.data = some p ∧ hdr.Represents o p.hdr ∧
      hdrMd = ⟨hdr,Metadata.init,8*p.offset⟩ ∧
      skb' = {skb with cb := recorded p.parserError skb.cb} := by
  cases hp : parser (α := α) skb.data with
  | none =>
    rw [hk.refines.tcParseFunc_none hp] at h
    cases h
  | some p =>
    obtain ⟨hdr,hr,_,hs⟩ := hk.refines.tcParseFunc_some hp
    rw [hs] at h
    cases h
    exact ⟨p,hdr,rfl,hr,rfl,rfl⟩

/-- The first visit ends on the way back to the device, whatever the table holds. -/
theorem visit_first (adjustRoom : AdjustRoom) {s : σ} {t : FlowTable α} (hs : S s t)
    (a : Arrival Fresh) (hp : parser (α := α) a.skb.data ≠ none) :
    ∃ s' b, visit (generated α o kernel) adjustRoom s a.skb =
      (.redirect a.port.val BPF_F_INGRESS,s',b) ∧ Requeued α a b := by
  obtain ⟨p,hp⟩ := Option.ne_none_iff_exists'.mp hp
  have hl := hk.refines.unresized t a.port hp
  obtain ⟨s',m,_,hd,he,hv⟩ := hk.refines.visit_parsed adjustRoom hs a.arrives hp
    fun hn => absurd hl hn
  obtain ⟨hh,ho⟩ := main_keeps t ⟨a.port,p.parserError⟩ ⟨p.hdr,Metadata.init,GlobalMeta.init⟩
  have hd' : m.drop = false := hd.trans (congrArg GlobalMeta.drop ho)
  have he' : m.egressPort = 0 := he.trans (congrArg GlobalMeta.egressPort ho)
  have hdata : source.emitted t a.port p ++ a.skb.data.drop p.offset = a.skb.data := by
    have hr := parser_reproduces a.skb.data hp Metadata.init
    simp only [Source.emitted, Source.control, source, hh]
    exact hr
  rw [if_neg (by rw [hd']; rintro (hc | hc); exacts [Bool.false_ne_true hc,hc.1 hl]), hdata,
    visited, if_pos he', a.arrives.ifindex] at hv
  exact ⟨_,_,hv,rfl,rfl,by rw [hp]; exact Option.some_ne_none p⟩

theorem beforeSwitch_first (adjustRoom : AdjustRoom) {s : σ} {t : FlowTable α} (hs : S s t)
    (a : Arrival Fresh) {hdrMd : HdrMd (HeadersStruct α) Metadata} {skb : Skb}
    (h : tcParseFunc (generated α o kernel) a.skb = some (hdrMd,skb)) :
    ∃ k hdrMd' skb' b, sought (α := α) a.port a.skb.data = some k ∧
      beforeSwitch o kernel hdrMd s skb =
        .inr (hdrMd',keyImage o k,ctFlowTableRead kernel s (keyImage o k),skb') ∧
      afterSwitch o kernel adjustRoom hdrMd' skb' = (.redirect a.port.val BPF_F_INGRESS,b) ∧
      Requeued α a b := by
  obtain ⟨p,hdr,hp,hr,rfl,rfl⟩ := parser_eq_some hk h
  obtain ⟨s',b,hv,hb⟩ :=
    visit_first hk adjustRoom hs a (by rw [hp]; exact Option.some_ne_none p)
  have hm : Unmarked (recorded p.parserError a.skb.cb) := by
    rw [a.arrives.cb]
    exact unmarked_recorded p.parserError
  have hbefore := beforeSwitch.eq_def o kernel ⟨hdr,Metadata.init,8*p.offset⟩ s
    {a.skb with cb := recorded p.parserError a.skb.cb}
  rw [if_neg (by simp [hm.passToKernel]), if_neg (by simp [hm.recirculated]),
    a.arrives.restoreEtherType] at hbefore
  have hr' : hdr.Represents o (setPorts ⟨p.hdr,Metadata.init,GlobalMeta.init⟩).hdr := by
    rw [show (setPorts ⟨p.hdr,Metadata.init,GlobalMeta.init⟩).hdr = p.hdr from
      (main_keeps t ⟨a.port,p.parserError⟩ ⟨p.hdr,Metadata.init,GlobalMeta.init⟩).1]
    exact hr
  have hkey (m : CompilerMeta) := keyBlock_eq hr' m ⟨a.port,p.parserError⟩
  rw [show (a.port : BitVec 32) = a.skb.ifindex from a.arrives.ifindex.symm] at hkey
  simp only [setPortsBlock_spec hr Metadata.init _ GlobalMeta.init, hkey] at hbefore
  rw [visit, h] at hv
  simp only [tcIngressFunc_split, hbefore] at hv
  refine ⟨_,_,_,b,by rw [sought, hp, Option.map_some],hbefore,?_,hb⟩
  rw [Prod.mk.injEq, Prod.mk.injEq] at hv
  exact Prod.ext hv.1 hv.2.2

omit hk in
theorem beforeSwitch_again {skb : Skb} (hdrMd : HdrMd (HeadersStruct α) Metadata) (s : σ)
    (h : skb.cb.passToKernel = true) : beforeSwitch o kernel hdrMd s skb = .inl (.ok,skb) := by
  rw [beforeSwitch, if_pos h]

theorem requeued_parsed {a : Arrival Fresh} {b skb : Skb}
    {hdrMd : HdrMd (HeadersStruct α) Metadata} (hb : Requeued α a b)
    (h : tcParseFunc (generated α o kernel) b = some (hdrMd,skb)) : Requeued α a skb := by
  obtain ⟨p,_,_,_,_,rfl⟩ := parser_eq_some hk h
  exact ⟨hb.data,(passToKernel_recorded _ _).trans hb.passToKernel,hb.parsed⟩

theorem passToKernel_parsed {a : Arrival Fresh} {skb : Skb}
    {hdrMd : HdrMd (HeadersStruct α) Metadata}
    (h : tcParseFunc (generated α o kernel) a.skb = some (hdrMd,skb)) :
    skb.cb.passToKernel = false :=
  KeepsMark.arrives hk.refines.toRefines.keepsMark a.arrives.toArrives h

theorem misses_read {s : σ} {t : FlowTable α} (hs : S s t) (key : Key α) :
    misses (ctFlowTableRead kernel s (keyImage o key)) = true ↔ key ∉ ExactMatch.keys t := by
  obtain ⟨v,hv,ha⟩ := hk.read hs key
  rw [hv, misses, Option.any_some, decide_eq_true_eq, ha]
  by_cases hmem : key ∈ ExactMatch.keys t
  · rw [if_pos hmem]
    exact iff_of_false (by decide) fun h => h hmem
  · rw [if_neg hmem]
    exact iff_of_true rfl hmem

omit hk

omit [Compiled α] [NetworkStruct α] in
theorem verdict_rejected {f : Frame} (hp : parser (α := α) f = none) (t : FlowTable α)
    (port : Dev) : (tcIngressFunc t port f).2 = .shot := by
  rw [tcIngressFunc, hp]

omit [Compiled α] [NetworkStruct α] in
theorem verdict_parsed {f : Frame} (hp : parser (α := α) f ≠ none) (t : FlowTable α) (port : Dev) :
    (tcIngressFunc t port f).2 = .kernel f := by
  obtain ⟨p,hp⟩ := Option.ne_none_iff_exists'.mp hp
  obtain ⟨hh,ho⟩ := main_keeps t ⟨port,p.parserError⟩ ⟨p.hdr,Metadata.init,GlobalMeta.init⟩
  simp only [tcIngressFunc, hp, hh, ho, dispatch_init]
  rw [parser_reproduces f hp]

theorem ctFlowTableBlock_eq (kernel : Kernel σ) (key : List Byte) (value : Option ActBpf) (s : σ) :
    ctFlowTableBlock kernel key value s =
      if misses value then kernel.entryCreateOnMiss key noActionAct s else s := by
  cases value with
  | none => rfl
  | some v =>
    simp only [ctFlowTableBlock, misses, Option.any_some, decide_eq_true_eq]
    by_cases hn : v.actId = MAIN_CT_FLOW_TABLE_ACT_NOACTION
    · rw [if_pos hn, if_neg (by rw [hn]; decide)]
    · rw [if_neg hn]

end Visits

section Steps
variable {ι σ α : Type} [DecidableEq ι] [Fintype ι] [Layout α] [Network α] [Compiled α]
  [NetworkStruct α] {o : ByteOrder} {kernel : Kernel σ} {adjustRoom : AdjustRoom}
  {S : σ → FlowTable α → Prop} {arrived : Multiset (Arrival Fresh)} {events : List (Event α)}
  {s : System ι σ α} (h : Invariant o kernel adjustRoom S arrived events s)
  (hk : kernel.Tracks o S)
include h hk

omit [DecidableEq ι] in
theorem Invariant.refuse {a : Arrival Fresh}
    (hn : tcParseFunc (generated α o kernel) a.skb = none) :
    Invariant o kernel adjustRoom S (arrived + {a}) (events ++ [.frame a.port a.skb.data])
      (s.conclude a (.shot,a.skb)) := by
  have hp := parser_eq_none hk.toKeeps hn
  have hrun : run (events ++ [.frame a.port a.skb.data]) = run events := by
    rw [run_concat, step_frame, sought, hp]
    rfl
  refine ⟨⟨?_,?_,?_,?_⟩,h.stage,h.backlog⟩
  · rw [hrun]
    exact h.table
  · rw [framesOf_append, Multiset.map_add, ← h.committed]
    exact add_right_comm _ _ _
  · rw [Host.counted_refuse, h.counted]
  · intro d hd t
    rcases Multiset.mem_cons.mp hd with rfl | hd
    · exact (verdict_rejected hp t a.port).symm
    · exact h.answered d hd t

theorem Invariant.parse {i : ι} {a : Arrival Fresh} {hdrMd : HdrMd (HeadersStruct α) Metadata}
    {skb : Skb} (hi : s.stage i = .idle)
    (hp : tcParseFunc (generated α o kernel) a.skb = some (hdrMd,skb)) :
    Invariant o kernel adjustRoom S (arrived + {a}) events (s.enter i (.parsed a skb) hdrMd) := by
  have hm := passToKernel_parsed hk.toKeeps hp
  have hu := s.total_enter Stage.uncommitted i (.parsed a skb) hdrMd
  rw [hi] at hu
  simp only [Stage.uncommitted, hm, Bool.false_eq_true, ↓reduceIte, add_zero] at hu
  have hstage := s.stage_enter i (.parsed a skb) (P := Stage.Sound o kernel adjustRoom) (Or.inl hp)
    h.stage
  refine ⟨⟨h.table,?_,?_,h.answered⟩,hstage,h.backlog⟩
  · rw [hu, ← add_assoc, h.committed, Multiset.map_add, Multiset.map_singleton]
  · rw [Host.counted_enter hdrMd (congrArg Stage.arrivals hi) rfl, h.counted]

omit [DecidableEq ι] in
/-- The parser does not change its mind about a frame that comes back. -/
theorem Invariant.not_refuseAgain {a : Arrival Fresh} {b : Skb}
    {rest : Multiset (Arrival Fresh × Skb)} (hb : s.backlog = (a,b) ::ₘ rest) :
    tcParseFunc (generated α o kernel) b ≠ none := by
  intro hn
  have hq := h.backlog (a,b) (by rw [hb]; exact Multiset.mem_cons_self _ _)
  have hp := parser_eq_none hk.toKeeps hn
  rw [hq.data] at hp
  exact hq.parsed hp

theorem Invariant.parseAgain {i : ι} {a : Arrival Fresh} {b : Skb}
    {rest : Multiset (Arrival Fresh × Skb)} {hdrMd : HdrMd (HeadersStruct α) Metadata} {skb : Skb}
    (hi : s.stage i = .idle) (hb : s.backlog = (a,b) ::ₘ rest)
    (hp : tcParseFunc (generated α o kernel) b = some (hdrMd,skb)) :
    Invariant o kernel adjustRoom S arrived events
      ({s with backlog := rest}.enter i (.parsed a skb) hdrMd) := by
  have hq := requeued_parsed hk.toKeeps
    (h.backlog (a,b) (by rw [hb]; exact Multiset.mem_cons_self _ _)) hp
  have hu := s.total_enter Stage.uncommitted i (.parsed a skb) hdrMd
  rw [hi] at hu
  simp only [Stage.uncommitted, hq.passToKernel, ↓reduceIte, add_zero] at hu
  have hsound : (Stage.parsed a skb).Sound o kernel adjustRoom hdrMd := Or.inr hq
  have hstage := Host.stage_enter {s with backlog := rest} i _
    (P := Stage.Sound o kernel adjustRoom) hsound h.stage
  refine ⟨⟨h.table,?_,?_,h.answered⟩,hstage,fun e he => ?_⟩
  · exact (congrArg (framesOf events + ·) hu).trans h.committed
  · rw [Host.counted_enterAgain hdrMd hb (congrArg Stage.arrivals hi) rfl, h.counted]
  · exact h.backlog e (by rw [hb]; exact Multiset.mem_cons_of_mem he)

theorem Invariant.finish {i : ι} {a : Arrival Fresh} {skb : Skb} {r : TcAct × Skb}
    (hi : s.stage i = .parsed a skb)
    (hr : beforeSwitch o kernel (s.hdrMdCpumap i) s.tables skb = .inl r) :
    Invariant o kernel adjustRoom S arrived events ((s.turn i .idle).conclude a r) := by
  have hs := h.stage i
  rw [hi] at hs
  rcases hs with hs | hs
  · obtain ⟨_,_,_,_,_,hc,_⟩ := beforeSwitch_first hk.toKeeps adjustRoom h.table a hs
    rw [hr] at hc
    cases hc
  · rw [beforeSwitch_again _ _ hs.passToKernel] at hr
    cases hr
    have hu := s.total_turn Stage.uncommitted i .idle
    rw [hi] at hu
    simp only [Stage.uncommitted, hs.passToKernel, ↓reduceIte, add_zero] at hu
    have hstage := s.stage_turn i .idle (P := Stage.Sound o kernel adjustRoom) trivial h.stage
    refine ⟨⟨h.table,?_,?_,?_⟩,hstage,h.backlog⟩
    · exact (congrArg (framesOf events + ·) hu).trans h.committed
    · rw [Host.counted_leave _ (congrArg Stage.arrivals hi) rfl, h.counted]
    · intro d hd t
      rcases Multiset.mem_cons.mp hd with rfl | hd
      · exact (congrArg Verdict.kernel hs.data).trans (verdict_parsed hs.parsed t a.port).symm
      · exact h.answered d hd t

/-- A hit takes effect here: the entry is there, so that nothing is to be done. -/
theorem Invariant.lookup {i : ι} {a : Arrival Fresh} {b skb : Skb}
    {hdrMd : HdrMd (HeadersStruct α) Metadata} {key : List Byte} {value : Option ActBpf}
    (hi : s.stage i = .parsed a b)
    (hr : beforeSwitch o kernel (s.hdrMdCpumap i) s.tables b = .inr (hdrMd,key,value,skb)) :
    Invariant o kernel adjustRoom S arrived
      (events ++ if misses value then [] else [.frame a.port a.skb.data])
      (s.enter i (.looked a key value skb) hdrMd) := by
  have hs := h.stage i
  have hu := s.total_enter Stage.uncommitted i (.looked a key value skb) hdrMd
  have hw := s.total_enter Stage.arrivals i (.looked a key value skb) hdrMd
  rw [hi] at hs hu hw
  rcases hs with hs | hs
  · obtain ⟨k,hdrMd',skb',b',hsought,hc,ha,hq⟩ :=
      beforeSwitch_first hk.toKeeps adjustRoom h.table a hs
    rw [hr] at hc
    simp only [Sum.inr.injEq, Prod.mk.injEq] at hc
    obtain ⟨rfl,rfl,hv,rfl⟩ := hc
    have hm := misses_read hk.toKeeps h.table k
    rw [← hv] at hm
    have hp := passToKernel_parsed hk.toKeeps hs
    simp only [Stage.uncommitted, hp, Bool.false_eq_true, ↓reduceIte] at hu
    have hstage := s.stage_enter i (.looked a (keyImage o k) value skb)
      (P := Stage.Sound o kernel adjustRoom) ⟨k,b',hsought,rfl,ha,hq⟩ h.stage
    refine ⟨⟨?_,?_,?_,h.answered⟩,hstage,h.backlog⟩
    · by_cases hx : misses value = true
      · rw [if_pos hx, List.append_nil]
        exact h.table
      · have hmem : k ∈ ExactMatch.keys (run events) := not_not.mp (mt hm.mpr hx)
        rw [if_neg hx, run_concat, step_frame, hsought, Option.elim_some,
          ExactMatch.addOnMiss_eq_self.mpr (Or.inl hmem)]
        exact h.table
    · by_cases hx : misses value = true
      · rw [if_pos hx] at hu
        rw [if_pos hx, List.append_nil, add_right_cancel hu]
        exact h.committed
      · rw [if_neg hx, add_zero] at hu
        rw [if_neg hx, framesOf_append, ← h.committed, ← hu, add_assoc]
        exact congrArg (framesOf events + ·) (add_comm _ _)
    · rw [add_right_cancel hw]
      exact h.counted
  · rw [beforeSwitch_again _ _ hs.passToKernel] at hr
    cases hr

/-- A miss takes effect here, on whatever the table holds by now. -/
theorem Invariant.switch {i : ι} {a : Arrival Fresh} {skb : Skb} {key : List Byte}
    {value : Option ActBpf} (hi : s.stage i = .looked a key value skb) :
    Invariant o kernel adjustRoom S arrived
      (events ++ if misses value then [.frame a.port a.skb.data] else [])
      (({s with tables := ctFlowTableBlock kernel key value s.tables}.turn i .idle).conclude a
        (afterSwitch o kernel adjustRoom (s.hdrMdCpumap i) skb)) := by
  have hs := h.stage i
  have hu := s.total_turn Stage.uncommitted i .idle
  rw [hi] at hs hu
  obtain ⟨k,b,hsought,rfl,ha,hq⟩ := hs
  rw [ha]
  let table := ctFlowTableBlock kernel (keyImage o k) value s.tables
  have hstage := Host.stage_turn {s with tables := table} i .idle
    (P := Stage.Sound o kernel adjustRoom) trivial h.stage
  refine ⟨⟨?_,?_,?_,h.answered⟩,hstage,fun e he => ?_⟩
  · show S (ctFlowTableBlock kernel (keyImage o k) value s.tables) _
    rw [ctFlowTableBlock_eq]
    by_cases hx : misses value = true
    · rw [if_pos hx, if_pos hx, run_concat, step_frame, hsought, Option.elim_some]
      exact hk.entryCreateOnMiss k h.table
    · rw [if_neg hx, if_neg hx, List.append_nil]
      exact h.table
  · have hf : framesOf (if misses value then [Event.frame (α := α) a.port a.skb.data] else []) =
        (Stage.looked a (keyImage o k) value skb).uncommitted := by
      rw [Stage.uncommitted]
      by_cases hx : misses value = true
      · rw [if_pos hx, if_pos hx]
        rfl
      · rw [if_neg hx, if_neg hx]
        rfl
    rw [framesOf_append, ← h.committed, ← add_zero (s.total Stage.uncommitted),
      ← Stage.uncommitted, ← hu, hf, add_assoc]
    exact congrArg (framesOf events + ·) (add_comm _ _)
  · rw [← h.counted]
    exact Host.counted_leave (s := {s with tables := table}) _ (congrArg Stage.arrivals hi) rfl
  · rcases Multiset.mem_cons.mp he with rfl | he
    · exact ⟨hq.data,hq.passToKernel,hq.parsed⟩
    · exact h.backlog e he

omit [DecidableEq ι] in
theorem Invariant.remove (key : Key α) {e : Event α}
    (he : e = .idleTimeout key ∨ e = .delete key) :
    Invariant o kernel adjustRoom S arrived (events ++ [e])
      {s with tables := kernel.remove (keyImage o key) s.tables} := by
  have hstep : run (events ++ [e]) = ExactMatch.remove key (run events) := by
    rcases he with rfl | rfl
    · exact run_concat events _
    · exact run_concat events _
  have hf : framesOf [e] = 0 := by
    rcases he with rfl | rfl
    · rfl
    · rfl
  refine ⟨⟨?_,?_,h.counted,h.answered⟩,h.stage,h.backlog⟩
  · rw [hstep]
    exact hk.remove key h.table
  · rw [framesOf_append, hf, add_zero]
    exact h.committed

end Steps

section Runs
variable {ι σ α : Type} [DecidableEq ι] [Fintype ι] [Layout α] [Network α] [Compiled α]
  [NetworkStruct α] {o : ByteOrder} {kernel : Kernel σ} {adjustRoom : AdjustRoom}
  {S : σ → FlowTable α → Prop} {start : σ}

omit [DecidableEq ι] in
theorem invariant_init (hstart : S start []) (hdrMdCpumap : ι → HdrMd (HeadersStruct α) Metadata) :
    Invariant o kernel adjustRoom S 0 []
      (⟨start,hdrMdCpumap,fun _ => .idle,0,0⟩ : System ι σ α) := by
  refine ⟨⟨hstart,?_,?_,?_⟩,fun _ => trivial,?_⟩
  · rw [Host.total_eq_zero fun _ => rfl]
    rfl
  · rw [Host.total_eq_zero fun _ => rfl]
    rfl
  · intro d hd
    cases Multiset.notMem_zero d hd
  · intro e he
    cases Multiset.notMem_zero e he

theorem Step.invariant (hk : kernel.Tracks o S) {arrived arrived' : Multiset (Arrival Fresh)}
    {events events' : List (Event α)} {s s' : System ι σ α}
    (hs : Step o kernel adjustRoom s arrived' events' s')
    (h : Invariant o kernel adjustRoom S arrived events s) :
    Invariant o kernel adjustRoom S (arrived + arrived') (events ++ events') s' := by
  cases hs with
  | refuse a hn => exact h.refuse hk hn
  | parse a hi hp =>
    rw [List.append_nil]
    exact h.parse hk hi hp
  | refuseAgain hb hn => exact absurd hn (h.not_refuseAgain hk hb)
  | parseAgain hi hb hp =>
    rw [List.append_nil, add_zero]
    exact h.parseAgain hk hi hb hp
  | finish hi hr =>
    rw [List.append_nil, add_zero]
    exact h.finish hk hi hr
  | lookup hi hr =>
    rw [add_zero]
    exact h.lookup hk hi hr
  | switch hi =>
    rw [add_zero]
    exact h.switch hk hi
  | idleTimeout key =>
    rw [add_zero]
    exact h.remove hk key (Or.inl rfl)
  | delete key =>
    rw [add_zero]
    exact h.remove hk key (Or.inr rfl)

theorem Interleaving.invariant (hk : kernel.Tracks o S) (hstart : S start [])
    {arrived : Multiset (Arrival Fresh)} {events : List (Event α)} {s : System ι σ α}
    (h : Interleaving o kernel adjustRoom start arrived events s) :
    Invariant o kernel adjustRoom S arrived events s := by
  induction h with
  | init hdrMdCpumap => exact invariant_init hstart hdrMdCpumap
  | step _ hs ih => exact hs.invariant hk ih

/-- However the steps of the processors, the timers and the control plane mix, the
frames that arrived take effect one after the other, each between its arrival and the
end of its lookup. Once nothing is on its way, each has done so and has been delivered
exactly once. -/
theorem interleaving_sequential (hk : kernel.Tracks o S) (hstart : S start [])
    {arrived : Multiset (Arrival Fresh)} {events : List (Event α)} {s : System ι σ α}
    (h : Interleaving o kernel adjustRoom start arrived events s) :
    Sequential S arrived events s ∧
      ((∀ i, s.stage i = .idle) → s.backlog = 0 →
        framesOf events = arrived.map Arrival.frame ∧ s.delivered.map Prod.fst = arrived) := by
  have hs := (h.invariant hk hstart).toSequential
  refine ⟨hs,fun hi hb => ⟨?_,?_⟩⟩
  · rw [← hs.committed, Host.total_eq_zero fun i => by rw [hi i]; rfl, add_zero]
  · rw [← hs.counted, Host.total_eq_zero fun i => by rw [hi i]; rfl, Host.settled, hb,
      Multiset.map_zero, add_zero, add_zero]

section Race
variable {ι σ α : Type} [DecidableEq ι] [Layout α] [Network α] [Compiled α] [NetworkStruct α]
  {o : ByteOrder} {kernel : Kernel σ} {adjustRoom : AdjustRoom} {start : σ}
  {arrived : Multiset (Arrival Fresh)} {events : List (Event α)}

theorem Interleaving.switched {s : System ι σ α}
    (h : Interleaving o kernel adjustRoom start arrived events s) {i : ι} {a : Arrival Fresh}
    {skb b : Skb} {key : List Byte} {value : Option ActBpf} {port : BitVec 32}
    (hi : s.stage i = .looked a key value skb) (hm : misses value = true)
    (ha : afterSwitch o kernel adjustRoom (s.hdrMdCpumap i) skb =
      (.redirect port BPF_F_INGRESS,b)) :
    Interleaving o kernel adjustRoom start arrived (events ++ [.frame a.port a.skb.data])
      ⟨ctFlowTableBlock kernel key value s.tables,s.hdrMdCpumap,Function.update s.stage i .idle,
        (a,{b with ifindex := port}) ::ₘ s.backlog,s.delivered⟩ := by
  have hs := h.step (.switch hi)
  rw [ha, if_pos hm, add_zero] at hs
  exact hs

theorem Interleaving.returned {S : σ → FlowTable α → Prop} (hk : kernel.Keeps o S) {i : ι}
    {a : Arrival Fresh} {b : Skb} {table : σ} {hdrMdCpumap : ι → HdrMd (HeadersStruct α) Metadata}
    {stage : ι → Stage} {rest : Multiset (Arrival Fresh × Skb)}
    {delivered : Multiset (Arrival Fresh × Verdict)}
    (h : Interleaving o kernel adjustRoom start arrived events
      ⟨table,hdrMdCpumap,stage,(a,b) ::ₘ rest,delivered⟩)
    (hi : stage i = .idle) (hq : Requeued α a b) :
    ∃ hdrMdCpumap', Interleaving o kernel adjustRoom start arrived events
      ⟨table,hdrMdCpumap',stage,rest,(a,.kernel a.skb.data) ::ₘ delivered⟩ := by
  obtain ⟨p,hp⟩ := Option.ne_none_iff_exists'.mp hq.parsed
  rw [← hq.data] at hp
  obtain ⟨_,_,_,hparse⟩ := hk.refines.tcParseFunc_some hp
  have hm := (requeued_parsed hk hq hparse).passToKernel
  have hs := h.step (.parseAgain hi rfl hparse)
  have hs := hs.step (.finish (i := i) (Function.update_self _ _ _) (beforeSwitch_again _ _ hm))
  rw [add_zero, add_zero, List.append_nil, List.append_nil] at hs
  dsimp only [Host.enter, Host.turn, Host.conclude] at hs
  rw [Function.update_idem, ← hi, Function.update_eq_self] at hs
  rw [← hq.data]
  exact ⟨_,hs⟩

end Race

def sampleArrival : Arrival Fresh :=
  ⟨_,dev1,(arrives_bare sampleFlow dev1).fresh (not_runt_bare sampleFlow dev1)⟩

/-- Two processors look the same flow up before either creates its entry. -/
theorem interleaving_sequential_race : ∃ arrived, ∃ s : System Bool _ Ipv6T,
    Interleaving .big listKernel (fun _ _ => none) [] arrived
      [.frame dev1 sampleFlow,.frame dev1 sampleFlow] s ∧
    s.tables.length = 1 ∧ s.delivered.map Prod.snd = {.kernel sampleFlow,.kernel sampleFlow} ∧
    s.delivered.map Prod.fst = arrived := by
  have hk := listKernel_tracks (α := Ipv6T) .big
  have hstart : [] = tableImage (α := Ipv6T) .big [] := rfl
  obtain ⟨p,hp⟩ : ∃ p, (source (α := Ipv6T)).parser sampleArrival.skb.data = some p :=
    Option.isSome_iff_exists.mp (by decide +kernel)
  obtain ⟨_,_,_,hparse⟩ := hk.refines.tcParseFunc_some hp
  obtain ⟨k,_,_,b,_,hbefore,hafter,hq⟩ :=
    beforeSwitch_first hk.toKeeps (fun _ _ => none) hstart sampleArrival hparse
  have hm := (misses_read hk.toKeeps hstart k).mpr List.not_mem_nil
  have h : Interleaving (ι := Bool) (α := Ipv6T) .big listKernel (fun _ _ => none) [] 0 [] _ :=
    .init fun _ => ⟨(generated Ipv6T .big listKernel).hdr,Metadata.init,0⟩
  have h := h.step (.parse (i := false) sampleArrival rfl hparse)
  have h := h.step (.parse (i := true) sampleArrival rfl hparse)
  have h := h.step (.lookup (i := false) rfl hbefore)
  have h := h.step (.lookup (i := true) rfl hbefore)
  have h := h.switched (i := false) rfl hm hafter
  have h := h.switched (i := true) rfl hm hafter
  rw [if_pos hm] at h
  dsimp only [Host.enter] at h
  have hq' : Requeued Ipv6T sampleArrival {b with ifindex := dev1.val} :=
    ⟨hq.data,hq.passToKernel,hq.parsed⟩
  obtain ⟨_,h⟩ := Interleaving.returned hk.toKeeps (i := false) h rfl hq'
  obtain ⟨_,h⟩ := Interleaving.returned hk.toKeeps (i := true) h rfl hq'
  obtain ⟨hs,hrest⟩ := interleaving_sequential hk hstart h
  obtain ⟨_,hall⟩ := hrest (fun i => by cases i <;> rfl) rfl
  refine ⟨_,_,h,?_,rfl,hall⟩
  rw [hs.table]
  decide +kernel

end Runs

end P4tcExamples.FlowTracker
