import P4tcExamples.Pna.Checksum
import P4tcExamples.Pna.Rewrite

/-! # The ipip program

`ipip_parser.p4` and `ipip.p4`. Popping is decided in the control, which
invalidates the outer header whenever an inner one was parsed, and pushing in the
deparser, which looks at `meta.push` and at the outer header's validity. The
verdict therefore depends on the frame only through three cases: an IPv4 frame
without a parsed inner header, one with it, and everything else.
-/
namespace P4tcExamples.Ipip
open BitFields

structure Metadata where
  src : BitVec 32
  dst : BitVec 32
  push : Bool

def Metadata.init : Metadata := ⟨0,0,false⟩

structure Headers where
  ethernet : Header EthernetT
  outer : Header Ipv4T
  inner : Header Ipv4T

def Headers.init : Headers := ⟨.absent EthernetT,.absent Ipv4T,.absent Ipv4T⟩

abbrev ETHERTYPE_IPV4 : BitVec 16 := 0x0800
abbrev IPPROTO_IPV4 : BitVec 8 := 0x4

def parseIpv4Inner (pkt : Frame) : Transition Headers :=
  extract pkt (fun h x => {h with inner := x}) accept

def parseIpv4 (pkt : Frame) : Transition Headers :=
  extract pkt (fun h x => {h with outer := x}) fun c =>
    if c.hdr.outer.fields.protocol = IPPROTO_IPV4 then parseIpv4Inner pkt c else accept c

def parseEthernet (pkt : Frame) : Transition Headers :=
  extract pkt (fun h x => {h with ethernet := x}) fun c =>
    if c.hdr.ethernet.fields.etherType = ETHERTYPE_IPV4 then parseIpv4 pkt c else reject c

def parser (pkt : Frame) : Option (Parsed Headers) := parseEthernet pkt ⟨Headers.init,0⟩

inductive FwdAction
  | setIpip (src dst : BitVec 32) (port : Dev)
  | setNh (dmac : BitVec 48) (port : Dev)
  | drop

abbrev FwdTable := Dev → Option FwdAction

abbrev Context := Ctx Headers Metadata

def setIpip (src dst : BitVec 32) (port : Dev) (c : Context) : Context :=
  { c with
    usermeta := ⟨src,dst,true⟩
    out := sendToPort port c.out }

def setNh (dmac : BitVec 48) (port : Dev) (c : Context) : Context :=
  { c with
    hdr.ethernet.fields.dstAddr := dmac
    out := sendToPort port c.out }

def drop (c : Context) : Context := {c with out := dropPacket c.out}

def FwdAction.apply : FwdAction → Context → Context
  | .setIpip src dst port => Ipip.setIpip src dst port
  | .setNh dmac port => Ipip.setNh dmac port
  | .drop => Ipip.drop

def fwdTable (t : FwdTable) (port : Dev) : FwdAction := (t port).getD .drop

def main (t : FwdTable) (istd : MainInput) (c : Context) : Context :=
  if c.hdr.outer.isValid then
    let c := (fwdTable t istd.inputPort).apply c
    if c.hdr.inner.isValid then {c with hdr.outer := c.hdr.outer.setInvalid} else c
  else c

/-- The outer header of `ipip_push`, built over a copy of the received one. -/
def pushed (ip : Ipv4T) (m : Metadata) : Ipv4T :=
  { ip with
    srcAddr := m.src
    dstAddr := m.dst
    ttl := 64
    protocol := 4
    totalLen := ip.totalLen + 20
    hdrChecksum := 0 }

def ipipPush (h : Headers) (m : Metadata) : Headers :=
  { h with
    inner := h.outer
    outer := {h.outer with fields := pushed h.outer.fields m} }

def deparser (h : Headers) (m : Metadata) : List Byte :=
  let h' :=
    if m.push && h.outer.isValid then
      let h := ipipPush h m
      let h := {h with outer := {h.outer with fields := ipChecksum h.outer.fields}}
      {h with inner := {h.inner with fields := ipTtlDec h.inner.fields}}
    else h
  emit h.ethernet ++ emit h'.outer ++ emit h'.inner

def tcIngressFunc (t : FwdTable) (port : Dev) (pkt : Frame) : Verdict :=
  runPipeline parser Metadata.init (main t) deparser port pkt

abbrev innerOf (f : Frame) : Ipv4T := headerAt Ipv4T f 34

/-- The parser goes on to a second IPv4 header and finds it complete. -/
def CarriesInner (f : Frame) : Prop := (ipOf f).protocol = 4 ∧ 54 ≤ f.length

instance (f : Frame) : Decidable (CarriesInner f) := inferInstanceAs (Decidable (_ ∧ _))

def front : ParserFront Headers where
  setEthernet := fun h x => {h with ethernet := x}
  setIp := fun h x => {h with outer := x}
  etherTypeOf := fun h => h.ethernet.fields.etherType
  etherTypeOf_setEthernet := fun _ _ => rfl

theorem parser_eq (f : Frame) : parser f =
    front.run f
      (fun c => if c.hdr.outer.fields.protocol = IPPROTO_IPV4 then parseIpv4Inner f c else accept c)
      ⟨Headers.init,0⟩ := rfl

theorem parser_ipv4 {f : Frame} (h : Ipv4Frame f) :
    parser f = if (ipOf f).protocol = IPPROTO_IPV4 then
      parseIpv4Inner f ⟨⟨⟨true,ethernetOf f⟩,⟨true,ipOf f⟩,.absent Ipv4T⟩,34⟩
      else accept ⟨⟨⟨true,ethernetOf f⟩,⟨true,ipOf f⟩,.absent Ipv4T⟩,34⟩ := by
  rw [parser_eq, front.run_ipv4 _ _ h]
  rfl

theorem parser_plain {f : Frame} (h : Ipv4Frame f) (hi : ¬CarriesInner f) :
    ∃ e, parser f = some ⟨⟨⟨true,ethernetOf f⟩,⟨true,ipOf f⟩,.absent Ipv4T⟩,34,e⟩ := by
  rw [parser_ipv4 h]
  by_cases hp : (ipOf f).protocol = IPPROTO_IPV4
  · have hs : f.length < 54 := by
      by_contra hc
      exact hi ⟨hp,Nat.not_lt.mp hc⟩
    rw [if_pos hp, parseIpv4Inner, extract_short f _ _ (by simpa using hs)]
    exact ⟨_,rfl⟩
  · rw [if_neg hp]
    exact ⟨_,rfl⟩

theorem parser_inner {f : Frame} (h : Ipv4Frame f) (hi : CarriesInner f) :
    parser f = some ⟨⟨⟨true,ethernetOf f⟩,⟨true,ipOf f⟩,⟨true,innerOf f⟩⟩,54,.noError⟩ := by
  have hs := hi.2
  rw [parser_ipv4 h, if_pos hi.1, parseIpv4Inner, extract_fits f _ _ (by simpa using hs)]
  rfl

theorem parser_other {f : Frame} (hl : 14 ≤ f.length) (ht : be 16 f 12 ≠ 0x0800) :
    parser f = none := by
  rw [parser_eq, front.run_rejected _ _ hl ht]

theorem parser_truncated {f : Frame} (h : Truncated f) :
    ∃ p, parser f = some p ∧ p.hdr.outer.isValid = false ∧
      deparser p.hdr Metadata.init ++ f.drop p.offset = f := by
  rw [parser_eq]
  rcases front.run_truncated _ _ h with hp | ⟨h14,hp⟩
  · exact ⟨_,hp,rfl,rfl⟩
  · refine ⟨_,hp,rfl,?_⟩
    change encode (ethernetOf f) ++ [] ++ [] ++ f.drop 14 = f
    rw [List.append_nil, List.append_nil, ethernet_append_drop h14]

def encap (src dst : BitVec 32) (f : Frame) : Frame :=
  encode (ethernetOf f) ++ (encode (ipChecksum (pushed (ipOf f) ⟨src,dst,true⟩)) ++
    (encode (ipTtlDec (ipOf f)) ++ f.drop 34))

def decap (f : Frame) : Frame := f.take 14 ++ f.drop 34

theorem decap_eq {f : Frame} (h : 54 ≤ f.length) :
    decap f = encode (ethernetOf f) ++ (encode (innerOf f) ++ f.drop 54) := by
  have hi : encode (innerOf f) = slice f 34 20 := encode_headerAt (show 34 + 20 ≤ f.length by omega)
  rw [encode_ethernetOf (by omega), hi, slice_append_drop f 34 20]
  rfl

theorem tcIngressFunc_plain {f : Frame} (h : Ipv4Frame f) (hi : ¬CarriesInner f) (t : FwdTable)
    (port : Dev) : tcIngressFunc t port f =
      match fwdTable t port with
      | .setIpip src dst p => .redirect p.val (encap src dst f)
      | .setNh dmac p => .redirect p.val (setDst dmac f)
      | .drop => .shot := by
  obtain ⟨e,hp⟩ := parser_plain h hi
  simp only [tcIngressFunc, runPipeline, hp, main, ↓reduceIte]
  cases fwdTable t port with
  | setIpip src dst p =>
    simp [FwdAction.apply, setIpip, deparser, ipipPush, Header.absent, encap]
  | setNh dmac p =>
    simp [FwdAction.apply, setNh, deparser, Header.absent, Metadata.init, setDst_eq h.length]
  | drop => simp [FwdAction.apply, drop, Header.absent]

/-- With a parsed inner header the outer one is gone before the deparser can
push, so both forwarding actions pop. -/
theorem tcIngressFunc_inner {f : Frame} (h : Ipv4Frame f) (hi : CarriesInner f) (t : FwdTable)
    (port : Dev) : tcIngressFunc t port f =
      match fwdTable t port with
      | .setIpip _ _ p => .redirect p.val (decap f)
      | .setNh dmac p => .redirect p.val (setDst dmac (decap f))
      | .drop => .shot := by
  simp only [tcIngressFunc, runPipeline, parser_inner h hi, main, ↓reduceIte, decap_eq hi.2,
    setDst_emitted]
  cases fwdTable t port with
  | setIpip src dst p =>
    simp [FwdAction.apply, setIpip, deparser, Header.setInvalid]
  | setNh dmac p =>
    simp [FwdAction.apply, setNh, deparser, Metadata.init, Header.setInvalid]
  | drop => simp [FwdAction.apply, drop]

theorem tcIngressFunc_truncated {f : Frame} (h : Truncated f) (t : FwdTable) (port : Dev) :
    tcIngressFunc t port f = .kernel f := by
  obtain ⟨p,hp,hv,hw⟩ := parser_truncated h
  simp only [tcIngressFunc, runPipeline, hp, main, hv, Bool.false_eq_true, ↓reduceIte,
    dispatch_init, hw]

theorem tcIngressFunc_rejected {f : Frame} (hl : 14 ≤ f.length) (ht : be 16 f 12 ≠ 0x0800)
    (t : FwdTable) (port : Dev) : tcIngressFunc t port f = .shot := by
  simp only [tcIngressFunc, runPipeline, parser_other hl ht]

end P4tcExamples.Ipip
