import P4tcExamples.FlowTracker.Frames

/-! # Entries that come from a real flow

An entry is genuine when a complete TCP or UDP frame with that key was received.
Only frames that are too short can add anything else, and they do so whenever the
table has room and does not hold their zero-filled key yet.
-/
namespace P4tcExamples.FlowTracker
open BitFields ExactMatch

section Runs
variable {α : Type} [Layout α] [Network α] [Located α]

structure Genuine (events : List (Event α)) (key : Key α) : Prop where
  protocol : key.protocol = 6 ∨ key.protocol = 17
  received : ∃ port f, .frame port f ∈ events ∧ Complete α f ∧ key = flowKey α port f

theorem Genuine.mono {events later : List (Event α)} {key : Key α} (h : Genuine events key)
    (hs : events ⊆ later) : Genuine later key := by
  obtain ⟨port,f,hm,hc,hk⟩ := h.received
  exact ⟨h.protocol,port,f,hs hm,hc,hk⟩

theorem genuine_flowKey {events : List (Event α)} {port : Dev} {f : Frame} (hc : Complete α f)
    (hm : .frame port f ∈ events) : Genuine events (flowKey α port f) :=
  ⟨hc.transport,port,f,hm,hc,rfl⟩

/-- In every state of the run all entries are genuine, and no step with a frame
that stopped the parser short changed the table. -/
structure Traceable (events : List (Event α)) : Prop where
  genuine : ∀ before, before <+: events → ∀ e ∈ run before, Genuine before e.1
  inert : ∀ before port f, before ++ [.frame port f] <+: events →
    (parser (α := α) f).map Parsed.parserError = some .packetTooShort →
    run (before ++ [.frame port f]) = run before

/-- Whenever a frame that is too short arrives, the table holds its zero-filled
key already or is full. For a frame that ends before its transport header only the
second can be: its key has protocol 0, and no entry of a guarded run does. -/
def Guarded (events : List (Event α)) : Prop :=
  ∀ before port f, before ++ [.frame port f] <+: events → TooShort α f →
    partialKey α port f ∈ keys (run before) ∨ tentries ≤ (run before).length

theorem Guarded.before {events : List (Event α)} {e : Event α} (h : Guarded (events ++ [e])) :
    Guarded events :=
  fun before port f hp ht => h before port f (hp.trans (List.prefix_append events [e])) ht

theorem genuine_step {events : List (Event α)} {e : Event α} (h : Guarded (events ++ [e]))
    (hg : ∀ x ∈ run events, Genuine events x.1) :
    ∀ x ∈ step (run events) e, Genuine (events ++ [e]) x.1 := by
  have hold : ∀ x ∈ run events, Genuine (events ++ [e]) x.1 :=
    fun x hx => (hg x hx).mono (List.subset_append_left events [e])
  intro x hx
  cases e with
  | frame port f =>
    rcases frame_cases α f with hc | hs | hf
    · rw [step_complete hc] at hx
      rcases mem_addOnMiss hx with hx | rfl
      · exact hold x hx
      · exact genuine_flowKey hc (List.mem_append_right _ List.mem_cons_self)
    · rw [step_tooShort hs, addOnMiss_eq_self.mpr (h events port f List.prefix_rfl hs)] at hx
      exact hold x hx
    · rw [step_foreign hf] at hx
      exact hold x hx
  | idleTimeout key => exact hold x (List.mem_filter.mp hx).1
  | delete key => exact hold x (List.mem_filter.mp hx).1

theorem genuine_run {events : List (Event α)} (h : Guarded events) :
    ∀ e ∈ run events, Genuine events e.1 := by
  induction events using List.reverseRecOn with
  | nil =>
    intro e he
    cases he
  | append_singleton events e ih =>
    rw [run_concat]
    exact genuine_step h (ih h.before)

theorem run_tooShort_iff {before : List (Event α)} {port : Dev} {f : Frame} (h : TooShort α f) :
    run (before ++ [.frame port f]) = run before ↔
      partialKey α port f ∈ keys (run before) ∨ tentries ≤ (run before).length := by
  rw [run_concat, step_tooShort h, addOnMiss_eq_self]

theorem traceable_iff {events : List (Event α)} : Traceable events ↔ Guarded events := by
  constructor
  · intro h before port f hp hs
    exact (run_tooShort_iff hs).mp (h.inert before port f hp (parserError_iff.mpr hs))
  · intro h
    refine ⟨fun before hb => genuine_run ?_,fun before port f hp hs => ?_⟩
    · intro pre port f hp hs
      exact h pre port f (hp.trans hb) hs
    · have ht := parserError_iff.mp hs
      exact (run_tooShort_iff ht).mpr (h before port f hp ht)

end Runs

/-- In both trackers, a run is traceable to its frames exactly if no frame that
is too short meets a table with room for its zero-filled key. -/
theorem flowTable_traceable_iff (events : List (Event Ipv4T)) (events6 : List (Event Ipv6T)) :
    (Traceable events ↔ Guarded events) ∧ (Traceable events6 ↔ Guarded events6) :=
  ⟨traceable_iff,traceable_iff⟩

def bareFrame (etherType : BitVec 16) : Frame :=
  encode (⟨0x0090fb65d6fe,0x020304050601,etherType⟩ : EthernetT)

theorem bareFrame_adds_entry :
    ((flowtracker [] dev1 (bareFrame 0x0800)).1 = [(⟨dev1,0,0,0,0,0⟩,.noAction)] ∧
      ¬Traceable [Event.frame (α := Ipv4T) dev1 (bareFrame 0x0800)]) ∧
    (flowtrackerIpv6 [] dev1 (bareFrame 0x86DD)).1 =
        [(⟨dev1,0,0,0,0,0⟩,.noAction)] ∧
      ¬Traceable [Event.frame (α := Ipv6T) dev1 (bareFrame 0x86DD)] := by
  have h4 : TooShort Ipv4T (bareFrame 0x0800) :=
    Or.inr ⟨by decide +kernel,Or.inl (by decide +kernel)⟩
  have h6 : TooShort Ipv6T (bareFrame 0x86DD) :=
    Or.inr ⟨by decide +kernel,Or.inl (by decide +kernel)⟩
  refine ⟨⟨by decide +kernel,fun ht => ?_⟩,by decide +kernel,fun ht => ?_⟩
  · rcases traceable_iff.mp ht [] _ _ List.prefix_rfl h4 with hm | hl
    · cases hm
    · exact absurd hl (by decide)
  · rcases traceable_iff.mp ht [] _ _ List.prefix_rfl h6 with hm | hl
    · cases hm
    · exact absurd hl (by decide)

end P4tcExamples.FlowTracker
