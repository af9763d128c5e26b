import P4tcExamples.FlowTracker.Program
import P4tcExamples.Pna.ParserRules

/-! # The flow trackers leave frames as they are

The control writes no header field, so what is sent on is what the deparser makes
of the parsed headers. At every state of the parser the headers behind the one
to be extracted next are still invalid; emitting in deparser order is then emitting
in the order of extraction.
-/
namespace P4tcExamples.FlowTracker
open BitFields

section Parser
variable {α : Type} [Layout α] (f : Frame)

def emitted (h : Headers α) : List Byte := emit h.eth ++ emit h.ip ++ emit h.tcp ++ emit h.udp

def Reproduced (p : Parsed (Headers α)) : Prop := Reemits emitted f p.hdr p.offset

structure BeforeTransport (c : Cursor (Headers α)) : Prop where
  reemits : Reemits emitted f c.hdr c.offset
  tcp : emit c.hdr.tcp = []
  udp : emit c.hdr.udp = []

structure BeforeIp (c : Cursor (Headers α)) : Prop extends BeforeTransport f c where
  ip : emit c.hdr.ip = []

structure BeforeEth (c : Cursor (Headers α)) : Prop extends BeforeIp f c where
  eth : emit c.hdr.eth = []

theorem parseTcp_reproduces :
    Establishes (BeforeTransport (α := α) f) (parseTcp f) (Reproduced f) := by
  refine .extract_accept (fun c hc => hc.reemits) fun c x hc => ?_
  simp only [emitted, emit_valid, hc.tcp, hc.udp, List.append_nil]

theorem parseUdp_reproduces :
    Establishes (BeforeTransport (α := α) f) (parseUdp f) (Reproduced f) := by
  refine .extract_accept (fun c hc => hc.reemits) fun c x hc => ?_
  simp only [emitted, emit_valid, hc.udp, List.append_nil]

variable [Network α]

theorem parseIp_reproduces : Establishes (BeforeIp (α := α) f) (parseIp f) (Reproduced f) := by
  refine .extract (R := BeforeTransport f) (fun c hc => hc.reemits) ?_ ?_
  · intro c hc hl
    refine ⟨hc.reemits.extract hl ?_,hc.tcp,hc.udp⟩
    simp only [emitted, emit_valid, hc.ip, hc.tcp, hc.udp, List.append_nil]
  · refine .select (fun c p hc => parseTcp_reproduces f c p hc.1) ?_
    exact .select (fun c p hc => parseUdp_reproduces f c p hc.1.1) .reject

theorem start_reproduces : Establishes (BeforeEth (α := α) f) (start f) (Reproduced f) := by
  refine .extract (R := BeforeIp f) (fun c hc => hc.reemits) ?_ ?_
  · intro c hc hl
    refine ⟨⟨hc.reemits.extract hl ?_,hc.tcp,hc.udp⟩,hc.ip⟩
    simp only [emitted, emit_valid, hc.eth, hc.ip, hc.tcp, hc.udp, List.append_nil,
      List.nil_append]
  · exact .select (fun c p hc => parseIp_reproduces f c p hc.1) .reject

theorem parser_reproduces {p : Parsed (Headers α)} (h : parser f = some p) (m : Metadata) :
    deparser p.hdr m ++ f.drop p.offset = f :=
  start_reproduces f ⟨Headers.init α,0⟩ p ⟨⟨⟨rfl,rfl,rfl⟩,rfl⟩,rfl⟩ h

theorem main_keeps (t : FlowTable α) (istd : MainInput) (c : Context α) :
    (main t istd c).2.hdr = c.hdr ∧ (main t istd c).2.out = c.out := by
  simp only [main, setPorts]
  split
  · exact ⟨rfl,rfl⟩
  · split
    · exact ⟨rfl,rfl⟩
    · exact ⟨rfl,rfl⟩

theorem verdict_cases (t : FlowTable α) (port : Dev) :
    (tcIngressFunc t port f).2 = .shot ∨ (tcIngressFunc t port f).2 = .kernel f := by
  unfold tcIngressFunc
  cases hp : parser (α := α) f with
  | none => exact Or.inl rfl
  | some p =>
    obtain ⟨hh,ho⟩ := main_keeps t ⟨port,p.parserError⟩ ⟨p.hdr,Metadata.init,GlobalMeta.init⟩
    right
    simp only [hh, ho, dispatch_init]
    rw [parser_reproduces f hp]

end Parser

/-- The wire image of a frame survives the program, whatever the table holds. -/
def Transparent (α : Type) [Layout α] [Network α] (f : Frame) : Prop :=
  (∀ p, parser (α := α) f = some p → ∀ m, deparser p.hdr m ++ f.drop p.offset = f) ∧
    ∀ (t : FlowTable α) (port : Dev), (tcIngressFunc t port f).2 ≠ .shot →
      (tcIngressFunc t port f).2 = .kernel f

theorem flowTrackers_transparent (f : Frame) : Transparent Ipv4T f ∧ Transparent Ipv6T f := by
  constructor
  · refine ⟨fun p hp m => parser_reproduces f hp m,fun t port hs => ?_⟩
    exact (verdict_cases f t port).resolve_left hs
  · refine ⟨fun p hp m => parser_reproduces f hp m,fun t port hs => ?_⟩
    exact (verdict_cases f t port).resolve_left hs

end P4tcExamples.FlowTracker
