import P4tcExamples.Pna.ParserRules
import P4tcExamples.Pna.Rewrite

/-! # The simple_l3 program

`simple_l3_parser.p4` and `simple_l3.p4`. Only TCP packets pass the parser. The
control applies `nh_table` under a condition and does nothing otherwise, so a
frame that stops the parser with `PacketTooShort` is neither dropped nor sent.
-/
namespace P4tcExamples.SimpleL3
open BitFields

structure Headers where
  ethernet : Header EthernetT
  ipv4 : Header Ipv4T

def Headers.init : Headers := ⟨.absent EthernetT,.absent Ipv4T⟩

abbrev IP_PROTO_TCP : BitVec 8 := 0x06
abbrev ETHERTYPE_IPV4 : BitVec 16 := 0x0800

def parseIpv4 (pkt : Frame) : Transition Headers :=
  extract pkt (fun h x => {h with ipv4 := x}) fun c =>
    if c.hdr.ipv4.fields.protocol = IP_PROTO_TCP then accept c else reject c

def parseEthernet (pkt : Frame) : Transition Headers :=
  extract pkt (fun h x => {h with ethernet := x}) fun c =>
    if c.hdr.ethernet.fields.etherType = ETHERTYPE_IPV4 then parseIpv4 pkt c else reject c

def parser (pkt : Frame) : Option (Parsed Headers) := parseEthernet pkt ⟨Headers.init,0⟩

inductive NhAction
  | sendNh (port : Dev) (srcMac dstMac : BitVec 48)
  | drop

abbrev NhTable := BitVec 32 → Option NhAction

abbrev Context := Ctx Headers Unit

def sendNh (port : Dev) (srcMac dstMac : BitVec 48) (c : Context) : Context :=
  { c with
    hdr.ethernet.fields := {c.hdr.ethernet.fields with srcAddr := srcMac, dstAddr := dstMac}
    out := sendToPort port c.out }

def drop (c : Context) : Context := {c with out := dropPacket c.out}

def NhAction.apply : NhAction → Context → Context
  | .sendNh port srcMac dstMac => SimpleL3.sendNh port srcMac dstMac
  | .drop => SimpleL3.drop

def nhTable (t : NhTable) (dstAddr : BitVec 32) : NhAction := (t dstAddr).getD .drop

def ingress (t : NhTable) (_ : MainInput) (c : Context) : Context :=
  if c.hdr.ipv4.isValid && c.hdr.ipv4.fields.protocol = IP_PROTO_TCP then
    (nhTable t c.hdr.ipv4.fields.dstAddr).apply c
  else c

def deparser (h : Headers) (_ : Unit) : List Byte := emit h.ethernet ++ emit h.ipv4

def tcIngressFunc (t : NhTable) (port : Dev) (pkt : Frame) : Verdict :=
  runPipeline parser () (ingress t) deparser port pkt

def front : ParserFront Headers where
  setEthernet := fun h x => {h with ethernet := x}
  setIp := fun h x => {h with ipv4 := x}
  etherTypeOf := fun h => h.ethernet.fields.etherType
  etherTypeOf_setEthernet := fun _ _ => rfl

theorem parser_eq (f : Frame) : parser f =
    front.run f
      (fun c => if c.hdr.ipv4.fields.protocol = IP_PROTO_TCP then accept c else reject c)
      ⟨Headers.init,0⟩ := rfl

theorem parser_ipv4 {f : Frame} (h : Ipv4Frame f) :
    parser f = if (ipOf f).protocol = IP_PROTO_TCP then
      some ⟨⟨⟨true,ethernetOf f⟩,⟨true,ipOf f⟩⟩,34,.noError⟩ else none := by
  rw [parser_eq, front.run_ipv4 _ _ h]
  rfl

theorem parser_other {f : Frame} (hl : 14 ≤ f.length) (ht : be 16 f 12 ≠ 0x0800) :
    parser f = none := by
  rw [parser_eq, front.run_rejected _ _ hl ht]

theorem parser_truncated {f : Frame} (h : Truncated f) :
    ∃ p, parser f = some p ∧ p.hdr.ipv4.isValid = false ∧
      deparser p.hdr () ++ f.drop p.offset = f := by
  rw [parser_eq]
  rcases front.run_truncated _ _ h with hp | ⟨h14,hp⟩
  · exact ⟨_,hp,rfl,rfl⟩
  · refine ⟨_,hp,rfl,?_⟩
    change encode (ethernetOf f) ++ [] ++ f.drop 14 = f
    rw [List.append_nil, ethernet_append_drop h14]

theorem tcIngressFunc_tcp {f : Frame} (h : Ipv4Frame f) (hp : (ipOf f).protocol = IP_PROTO_TCP)
    (t : NhTable) (port : Dev) : tcIngressFunc t port f =
      match nhTable t (ipOf f).dstAddr with
      | .sendNh p srcMac dstMac => .redirect p.val
          (encode {ethernetOf f with srcAddr := srcMac, dstAddr := dstMac} ++ f.drop 14)
      | .drop => .shot := by
  simp only [tcIngressFunc, runPipeline, parser_ipv4 h, hp, ingress, ↓reduceIte, Bool.true_and,
    decide_true]
  cases nhTable t (ipOf f).dstAddr with
  | sendNh p srcMac dstMac =>
    simp only [NhAction.apply, sendNh, dispatch_send, deparser, emit_valid, List.append_assoc]
    rw [encode_ipOf h.length, slice_append_drop f 14 20]
  | drop => simp only [NhAction.apply, drop, dispatch_drop]

theorem tcIngressFunc_truncated {f : Frame} (h : Truncated f) (t : NhTable) (port : Dev) :
    tcIngressFunc t port f = .kernel f := by
  obtain ⟨p,hp,hv,hw⟩ := parser_truncated h
  simp only [tcIngressFunc, runPipeline, hp, ingress, hv, Bool.false_and, Bool.false_eq_true,
    ↓reduceIte, dispatch_init, hw]

theorem tcIngressFunc_rejected {f : Frame} (ht : ¬Truncated f)
    (h : ¬(Ipv4Frame f ∧ (ipOf f).protocol = IP_PROTO_TCP)) (t : NhTable) (port : Dev) :
    tcIngressFunc t port f = .shot := by
  have hn : parser f = none := by
    by_cases hf : Ipv4Frame f
    · rw [parser_ipv4 hf, if_neg (fun hp => h ⟨hf,hp⟩)]
    · obtain ⟨hl,he⟩ := (not_ipv4Frame_cases hf).resolve_left ht
      exact parser_other hl he
  simp only [tcIngressFunc, runPipeline, hn]

/-- The control with the condition that the `XXX` comment of the source suggests. -/
def ingressIfValid (t : NhTable) (_ : MainInput) (c : Context) : Context :=
  if c.hdr.ipv4.isValid then (nhTable t c.hdr.ipv4.fields.dstAddr).apply c else c

theorem parseEthernet_tcp (f : Frame) : Establishes
    (fun c => c.hdr.ipv4.isValid = false) (parseEthernet f)
    (fun p => p.hdr.ipv4.isValid = true → p.hdr.ipv4.fields.protocol = IP_PROTO_TCP) := by
  have hshort : ∀ c : Cursor Headers, c.hdr.ipv4.isValid = false → c.hdr.ipv4.isValid = true →
      c.hdr.ipv4.fields.protocol = IP_PROTO_TCP := by
    intro c hc hv
    rw [hc] at hv
    cases hv
  refine .extract (R := fun c => c.hdr.ipv4.isValid = false) hshort (fun c hc _ => hc)
    (.select ?_ .reject)
  refine .extract (R := fun _ => True) (fun c hc => hshort c hc.1) (fun _ _ _ => trivial) ?_
  exact .select (.accept fun c hc _ => hc.2) .reject

theorem protocol_of_isValid {f : Frame} {p : Parsed Headers} (hp : parser f = some p)
    (hv : p.hdr.ipv4.isValid = true) : p.hdr.ipv4.fields.protocol = IP_PROTO_TCP :=
  parseEthernet_tcp f ⟨Headers.init,0⟩ p rfl hp hv

theorem ingressIfValid_eq {t : NhTable} {istd : MainInput} {c : Context}
    (h : c.hdr.ipv4.isValid = true → c.hdr.ipv4.fields.protocol = IP_PROTO_TCP) :
    ingressIfValid t istd c = ingress t istd c := by
  rw [ingressIfValid, ingress]
  by_cases hv : c.hdr.ipv4.isValid = true
  · simp only [hv, h hv, decide_true, Bool.and_self]
  · simp only [hv, Bool.false_and]

/-- Wherever the control runs, a valid `ipv4` header already is that of a TCP
packet, so the control without the test yields the same verdicts. -/
theorem tcpTest_redundant (f : Frame) :
    (∀ p, parser f = some p → p.hdr.ipv4.isValid = true →
      p.hdr.ipv4.fields.protocol = IP_PROTO_TCP) ∧
    ∀ (t : NhTable) (port : Dev),
      runPipeline parser () (ingressIfValid t) deparser port f = tcIngressFunc t port f := by
  refine ⟨fun p hp hv => protocol_of_isValid hp hv,fun t port => ?_⟩
  unfold tcIngressFunc runPipeline
  cases hp : parser f with
  | none => rfl
  | some p => simp only [ingressIfValid_eq (t := t) (c := ⟨p.hdr,(),_⟩) (protocol_of_isValid hp)]

end P4tcExamples.SimpleL3
