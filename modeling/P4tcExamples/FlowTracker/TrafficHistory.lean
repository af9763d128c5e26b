import P4tcExamples.FlowTracker.Frames
import P4tcExamples.Pna.Checksum

/-! # The flow table against the traffic

For runs of complete frames the table refines a set: a flow is in it from a frame
on until its entry expires or is deleted. The simulation is an equation between
the tracker's run and the run of the exact-match table over the history of keys;
what the set does is then a matter of histories alone.
-/
namespace P4tcExamples.FlowTracker
open BitFields ExactMatch

section Runs
variable {α : Type} [Layout α] [Network α] [Located α]

def Event.history : Event α → ExactMatch.Event (Key α)
  | .frame port f => .seen (flowKey α port f)
  | .idleTimeout key => .forgotten key
  | .delete key => .forgotten key

def AllComplete (events : List (Event α)) : Prop :=
  ∀ port f, .frame port f ∈ events → Complete α f

theorem run_eq {events : List (Event α)} (h : AllComplete events) :
    run events = ExactMatch.run tentries .noAction (events.map Event.history) := by
  induction events using List.reverseRecOn with
  | nil => rfl
  | append_singleton events e ih =>
    have hb : AllComplete events := fun port f hm => h port f (List.mem_append_left _ hm)
    rw [run_concat, ih hb, List.map_append, ExactMatch.run, ExactMatch.run, List.foldl_append]
    cases e with
    | frame port f =>
      exact step_complete (h port f (List.mem_append_right _ List.mem_cons_self)) _ port
    | idleTimeout key => rfl
    | delete key => rfl

theorem represents_run {events : List (Event α)} (h : AllComplete events)
    (hf : Fits tentries (events.map Event.history)) :
    Represents (run events) (Live (events.map Event.history)) := by
  rw [run_eq h]
  exact run_represents FlowAction.noAction hf

/-- Two frames agree on all six components of the key. -/
structure SameFlow (α : Type) [Layout α] [Network α] [Located α] (p q : Dev) (f g : Frame) :
    Prop where
  inputPort : p = q
  srcAddr : be (Network.addrBits α) f (14 + Located.srcAt α) =
    be (Network.addrBits α) g (14 + Located.srcAt α)
  dstAddr : be (Network.addrBits α) f (14 + Located.dstAt α) =
    be (Network.addrBits α) g (14 + Located.dstAt α)
  protocol : be 8 f (14 + Located.protocolAt α) = be 8 g (14 + Located.protocolAt α)
  srcPort : be 16 f (transportAt α) = be 16 g (transportAt α)
  dstPort : be 16 f (transportAt α + 2) = be 16 g (transportAt α + 2)

theorem flowKey_eq_iff {p q : Dev} {f g : Frame} :
    flowKey α p f = flowKey α q g ↔ SameFlow α p q f g := by
  simp only [flowKey, FlowKey.mk.injEq]
  constructor
  · rintro ⟨h1,h2,h3,h4,h5,h6⟩
    exact ⟨h1,h2,h3,h4,h5,h6⟩
  · rintro ⟨h1,h2,h3,h4,h5,h6⟩
    exact ⟨h1,h2,h3,h4,h5,h6⟩

theorem hitEntry_complete {f : Frame} (h : Complete α f) (t : FlowTable α) (port : Dev) :
    hitEntry t port f = position t (flowKey α port f) := by
  rw [hitEntry, sought_complete h, Option.bind_some]

theorem hitEntry_eq_iff {t : FlowTable α} {p q : Dev} {f g : Frame} (hf : Complete α f)
    (hg : Complete α g) (hh : (hitEntry t p f).isSome) :
    hitEntry t p f = hitEntry t q g ↔ SameFlow α p q f g := by
  rw [← flowKey_eq_iff]
  obtain ⟨m,hm⟩ := Option.isSome_iff_exists.mp hh
  rw [hitEntry_complete hf] at hm ⊢
  rw [hitEntry_complete hg]
  constructor
  · intro he
    exact (position_eq_iff hm (he ▸ hm)).mp rfl
  · intro he
    rw [he]

def OnlyFrames (events : List (Event α)) : Prop :=
  ∀ e ∈ events, ∃ port f, e = .frame port f

theorem OnlyFrames.not_forgotten {events : List (Event α)} (h : OnlyFrames events) (key : Key α) :
    .forgotten key ∉ events.map Event.history := by
  intro hm
  obtain ⟨e,he,hk⟩ := List.mem_map.mp hm
  obtain ⟨port,f,rfl⟩ := h e he
  cases hk

structure Agrees (events : List (Event α)) : Prop where
  mem_keys : ∀ key, key ∈ keys (run events) ↔ key ∈ Live (events.map Event.history)
  nodup : (keys (run events)).Nodup
  same_entry : ∀ p q f g, Complete α f → Complete α g → (hitEntry (run events) p f).isSome →
    (hitEntry (run events) p f = hitEntry (run events) q g ↔ SameFlow α p q f g)
  order : OnlyFrames events → ∀ other, other.Perm events →
    ∀ key, key ∈ keys (run other) ↔ key ∈ keys (run events)

theorem mem_keys_perm {events other : List (Event α)} (h : AllComplete events)
    (hf : Fits tentries (events.map Event.history)) (ho : OnlyFrames events)
    (hp : other.Perm events) (key : Key α) :
    key ∈ keys (run other) ↔ key ∈ keys (run events) := by
  have hm : (other.map Event.history).Perm (events.map Event.history) := hp.map _
  have hother : AllComplete other := fun port f hx => h port f (hp.subset hx)
  have hfo := fits_perm ho.not_forgotten hm hf
  have hno : ∀ k, .forgotten k ∉ other.map Event.history :=
    fun k hk => ho.not_forgotten k (hm.subset hk)
  rw [(represents_run hother hfo).mem_iff, (represents_run h hf).mem_iff,
    live_of_forall_seen hno, live_of_forall_seen ho.not_forgotten]
  exact hm.mem_iff

theorem agrees_run {events : List (Event α)} (h : AllComplete events)
    (hf : Fits tentries (events.map Event.history)) : Agrees events where
  mem_keys := (represents_run h hf).mem_iff
  nodup := (represents_run h hf).nodup
  same_entry := fun _ _ _ _ hc hd hh => hitEntry_eq_iff hc hd hh
  order := fun ho _ hp => mem_keys_perm h hf ho hp

end Runs

/-- For both trackers and any interleaving of complete frames with deletions that
the table has room for. -/
theorem flowTable_agrees_traffic :
    (∀ events : List (Event Ipv4T), AllComplete events →
      Fits tentries (events.map Event.history) → Agrees events) ∧
    ∀ events : List (Event Ipv6T), AllComplete events →
      Fits tentries (events.map Event.history) → Agrees events :=
  ⟨fun _ => agrees_run,fun _ => agrees_run⟩

section Session

def ethernet (etherType : BitVec 16) : EthernetT := ⟨0x0090fb65d6fe,0x020304050601,etherType⟩

def tcpSegment : Frame :=
  encode (ethernet 0x0800) ++ (encode (plainHeader 24 6 0x0a000001 0x0a630001) ++
    encode (⟨1235,4321⟩ : TcpT))

def udpOverIpv6 : Frame :=
  encode (ethernet 0x86DD) ++ (encode
    { version := 6, traffiClass := 0, flowLabel := 0, payloadLen := 4, nextHdr := 17
      hopLimit := 64, srcAddr := 1, dstAddr := 2 : Ipv6T } ++ encode (⟨1235,4321⟩ : UdpT))

def session (α : Type) [Layout α] [Network α] [Located α] (f : Frame) : List (Event α) :=
  [.frame dev1 f,.idleTimeout (flowKey α dev1 f),.frame dev1 f,.frame dev1 f]

theorem allComplete_session {α : Type} [Layout α] [Network α] [Located α] {f : Frame}
    (h : Complete α f) : AllComplete (session α f) := by
  intro port g hm
  simp only [session, List.mem_cons, Event.frame.injEq, reduceCtorEq, List.not_mem_nil, false_or,
    or_false, or_self] at hm
  rw [hm.2]
  exact h

theorem flowTable_agrees_session :
    (Agrees (session Ipv4T tcpSegment) ∧ (run (session Ipv4T tcpSegment)).length = 1) ∧
    Agrees (session Ipv6T udpOverIpv6) ∧ (run (session Ipv6T udpOverIpv6)).length = 1 := by
  have h4 : Complete Ipv4T tcpSegment :=
    ⟨by decide +kernel,Or.inl (by decide +kernel),by decide +kernel⟩
  have h6 : Complete Ipv6T udpOverIpv6 :=
    ⟨by decide +kernel,Or.inr (by decide +kernel),by decide +kernel⟩
  have hf4 : Fits tentries ((session Ipv4T tcpSegment).map Event.history) :=
    fits_of_length_le (by decide)
  have hf6 : Fits tentries ((session Ipv6T udpOverIpv6).map Event.history) :=
    fits_of_length_le (by decide)
  exact ⟨⟨flowTable_agrees_traffic.1 _ (allComplete_session h4) hf4,by decide +kernel⟩,
    flowTable_agrees_traffic.2 _ (allComplete_session h6) hf6,by decide +kernel⟩

end Session

end P4tcExamples.FlowTracker
