import P4tcExamples.Library.PrefixMatch
import P4tcExamples.Pna.Checksum
import P4tcExamples.Pna.Rewrite

/-! # The routing program

`routing_parser.p4` and `routing.p4`. The control guards both lookups by the
validity of the IPv4 header and by its ttl; the deparser decrements the ttl of
whatever header it has, valid or not. `forwards_iff` is the only fact about the
program that later modules use.
-/
namespace P4tcExamples.Routing
open BitFields

structure Headers where
  ethernet : Header EthernetT
  ip : Header Ipv4T

def Headers.init : Headers := ⟨.absent EthernetT,.absent Ipv4T⟩

abbrev ETHERTYPE_IPV4 : BitVec 16 := 0x0800

def parseIpv4 (pkt : Frame) : Transition Headers :=
  extract pkt (fun h x => {h with ip := x}) accept

def parseEthernet (pkt : Frame) : Transition Headers :=
  extract pkt (fun h x => {h with ethernet := x}) fun c =>
    if c.hdr.ethernet.fields.etherType = ETHERTYPE_IPV4 then parseIpv4 pkt c else reject c

def parser (pkt : Frame) : Option (Parsed Headers) := parseEthernet pkt ⟨Headers.init,0⟩

inductive NhAction
  | drop
  | setNh (dmac : BitVec 48) (port : Dev)

/-- The contents of `fib_table`, whose only action is `set_nhid`, and `nh_table`. -/
structure Tables where
  fib : PrefixMatch.Table 32 (BitVec 32)
  nh : BitVec 32 → Option NhAction

abbrev Context := Ctx Headers Unit

def drop (c : Context) : Context := {c with out := dropPacket c.out}

def setNh (dmac : BitVec 48) (port : Dev) (c : Context) : Context :=
  { c with
    hdr.ethernet.fields.dstAddr := dmac
    out := sendToPort port c.out }

-- 0 is the default route
def fibTable (t : Tables) (dstAddr : BitVec 32) : BitVec 32 := (t.fib.lookup dstAddr).getD 0

def nhTable (t : Tables) (nhIndex : BitVec 32) : NhAction := (t.nh nhIndex).getD .drop

def NhAction.apply : NhAction → Context → Context
  | .drop => Routing.drop
  | .setNh dmac port => Routing.setNh dmac port

def main (t : Tables) (_ : MainInput) (c : Context) : Context :=
  if c.hdr.ip.isValid && 1 < c.hdr.ip.fields.ttl then
    (nhTable t (fibTable t c.hdr.ip.fields.dstAddr)).apply c
  else {c with out := dropPacket c.out}

def deparser (h : Headers) (_ : Unit) : List Byte :=
  emit h.ethernet ++ emit {h.ip with fields := ipTtlDec h.ip.fields}

def tcIngressFunc (t : Tables) (port : Dev) (pkt : Frame) : Verdict :=
  runPipeline parser () (main t) deparser port pkt

def front : ParserFront Headers where
  setEthernet := fun h x => {h with ethernet := x}
  setIp := fun h x => {h with ip := x}
  etherTypeOf := fun h => h.ethernet.fields.etherType
  etherTypeOf_setEthernet := fun _ _ => rfl

theorem parser_eq (f : Frame) : parser f = front.run f accept ⟨Headers.init,0⟩ := rfl

theorem parser_ipv4 {f : Frame} (h : Ipv4Frame f) :
    parser f = some ⟨⟨⟨true,ethernetOf f⟩,⟨true,ipOf f⟩⟩,34,.noError⟩ := by
  rw [parser_eq, front.run_ipv4 _ _ h]
  rfl

theorem parser_other {f : Frame} (h : ¬Ipv4Frame f) :
    parser f = none ∨ ∃ p, parser f = some p ∧ p.hdr.ip.isValid = false := by
  rcases not_ipv4Frame_cases h with ht | ⟨hl,he⟩
  · right
    rw [parser_eq]
    rcases front.run_truncated _ _ ht with hp | ⟨_,hp⟩
    · exact ⟨_,hp,rfl⟩
    · exact ⟨_,hp,rfl⟩
  · left
    exact front.run_rejected _ _ hl he

theorem tcIngressFunc_other {f : Frame} (h : ¬Ipv4Frame f) (t : Tables) (port : Dev) :
    tcIngressFunc t port f = .shot := by
  rcases parser_other h with hp | ⟨p,hp,hv⟩
  · rw [tcIngressFunc, runPipeline, hp]
  · simp only [tcIngressFunc, runPipeline, hp, main, hv, Bool.false_and, Bool.false_eq_true,
      ↓reduceIte, dispatch_drop]

def hop (dmac : BitVec 48) (f : Frame) : Frame :=
  setChecksum (ipTtlDec (ipOf f)).hdrChecksum (setTtl ((ipOf f).ttl - 1) (setDst dmac f))

theorem hop_eq {f : Frame} (h : 34 ≤ f.length) (dmac : BitVec 48) :
    hop dmac f = encode {ethernetOf f with dstAddr := dmac} ++
      (encode (ipTtlDec (ipOf f)) ++ f.drop 34) :=
  (rewrite_eq h dmac _ _).symm

theorem tcIngressFunc_ipv4 {f : Frame} (h : Ipv4Frame f) (t : Tables) (port : Dev) :
    tcIngressFunc t port f =
      if 1 < (ipOf f).ttl then
        match nhTable t (fibTable t (ipOf f).dstAddr) with
        | .drop => .shot
        | .setNh dmac p => .redirect p.val (hop dmac f)
      else .shot := by
  simp only [tcIngressFunc, runPipeline, parser_ipv4 h, main, Bool.true_and, decide_eq_true_eq]
  by_cases ht : 1 < (ipOf f).ttl
  · simp only [if_pos ht]
    cases nhTable t (fibTable t (ipOf f).dstAddr) with
    | drop => simp only [NhAction.apply, drop, dispatch_drop]
    | setNh dmac p =>
      simp only [NhAction.apply, setNh, dispatch_send, deparser, emit_valid]
      rw [hop_eq h.length, List.append_assoc]
  · simp only [if_neg ht, dispatch_drop]

/-- Exactly when a frame is sent, where, and as what. -/
theorem forwards_iff {t : Tables} {port : Dev} {f g : Frame} {q : BitVec 32} :
    tcIngressFunc t port f = .redirect q g ↔
      Ipv4Frame f ∧ 1 < (ipOf f).ttl ∧ ∃ dmac p,
        nhTable t (fibTable t (ipOf f).dstAddr) = .setNh dmac p ∧ q = p.val ∧ g = hop dmac f := by
  by_cases h : Ipv4Frame f
  · rw [tcIngressFunc_ipv4 h]
    by_cases ht : 1 < (ipOf f).ttl
    · rw [if_pos ht]
      cases hn : nhTable t (fibTable t (ipOf f).dstAddr) with
      | drop => simp
      | setNh dmac p =>
        constructor
        · intro he
          cases he
          exact ⟨h,ht,dmac,p,rfl,rfl,rfl⟩
        · rintro ⟨_,_,_,_,he,rfl,rfl⟩
          cases he
          rfl
    · rw [if_neg ht]
      constructor
      · intro he
        cases he
      · rintro ⟨_,hc,_⟩
        exact absurd hc ht
  · rw [tcIngressFunc_other h]
    simp [h]

end P4tcExamples.Routing
