import P4tcExamples.Pna.Rewrite

/-! # The redirect_l2 program

`redirect_l2_parser.p4` and `redirect_l2.p4`. The table declares no default action
and the control no condition: a miss runs `NoAction`, which leaves the frame to
the host stack, and a frame without an IPv4 header is looked up as 0.0.0.0.
-/
namespace P4tcExamples.RedirectL2
open BitFields

structure Headers where
  ethernet : Header EthernetT
  ipv4 : Header Ipv4T

def Headers.init : Headers := ⟨.absent EthernetT,.absent Ipv4T⟩

abbrev ETHERTYPE_IPV4 : BitVec 16 := 0x0800

def parseIpv4 (pkt : Frame) : Transition Headers :=
  extract pkt (fun h x => {h with ipv4 := x}) accept

def parseEthernet (pkt : Frame) : Transition Headers :=
  extract pkt (fun h x => {h with ethernet := x}) fun c =>
    if c.hdr.ethernet.fields.etherType = ETHERTYPE_IPV4 then parseIpv4 pkt c else reject c

def parser (pkt : Frame) : Option (Parsed Headers) := parseEthernet pkt ⟨Headers.init,0⟩

inductive NhAction
  | sendNh (portId : Dev) (dmac smac : BitVec 48)
  | noAction
deriving DecidableEq, Repr

/-- The parameters of the one action that an entry can name. -/
structure SendNh where
  portId : Dev
  dmac : BitVec 48
  smac : BitVec 48

/-- The entries, keyed on `hdr.ipv4.srcAddr`. -/
abbrev NhTable := BitVec 32 → Option SendNh

abbrev Context := Ctx Headers Unit

def sendNh (portId : Dev) (dmac smac : BitVec 48) (c : Context) : Context :=
  { c with
    hdr.ethernet.fields := {c.hdr.ethernet.fields with dstAddr := dmac, srcAddr := smac}
    out := sendToPort portId c.out }

def NhAction.apply : NhAction → Context → Context
  | .sendNh portId dmac smac => RedirectL2.sendNh portId dmac smac
  | .noAction => id

def nhTable (t : NhTable) (srcAddr : BitVec 32) : NhAction :=
  match t srcAddr with
  | some e => .sendNh e.portId e.dmac e.smac
  | none => .noAction

def ingress (t : NhTable) (_ : MainInput) (c : Context) : Context :=
  (nhTable t c.hdr.ipv4.fields.srcAddr).apply c

def deparser (h : Headers) (_ : Unit) : List Byte := emit h.ethernet ++ emit h.ipv4

def tcIngressFunc (t : NhTable) (port : Dev) (pkt : Frame) : Verdict :=
  runPipeline parser () (ingress t) deparser port pkt

def front : ParserFront Headers where
  setEthernet := fun h x => {h with ethernet := x}
  setIp := fun h x => {h with ipv4 := x}
  etherTypeOf := fun h => h.ethernet.fields.etherType
  etherTypeOf_setEthernet := fun _ _ => rfl

theorem parser_eq (f : Frame) : parser f = front.run f accept ⟨Headers.init,0⟩ := rfl

theorem tcIngressFunc_rejected {f : Frame} (hl : 14 ≤ f.length) (ht : be 16 f 12 ≠ 0x0800)
    (t : NhTable) (port : Dev) : tcIngressFunc t port f = .shot := by
  simp only [tcIngressFunc, runPipeline, parser_eq, front.run_rejected _ _ hl ht]

/-- The frame with both MAC addresses replaced. -/
def redirected (e : SendNh) (f : Frame) : Frame :=
  toBytes 6 e.dmac ++ (toBytes 6 e.smac ++ f.drop 12)

section Parsed
variable {f : Frame} {p : Parsed Headers} (hp : parser f = some p) {t : NhTable} (port : Dev)
include hp

theorem tcIngressFunc_entry {e : SendNh} (he : t p.hdr.ipv4.fields.srcAddr = some e) :
    tcIngressFunc t port f = .redirect e.portId.val
      (deparser (sendNh e.portId e.dmac e.smac ⟨p.hdr,(),GlobalMeta.init⟩).hdr () ++
        f.drop p.offset) := by
  simp only [tcIngressFunc, runPipeline, hp, ingress, nhTable, he]
  exact dispatch_send f p.offset _ e.portId GlobalMeta.init

theorem tcIngressFunc_noEntry (he : t p.hdr.ipv4.fields.srcAddr = none) :
    tcIngressFunc t port f = .kernel (deparser p.hdr () ++ f.drop p.offset) := by
  simp only [tcIngressFunc, runPipeline, hp, ingress, nhTable, he, NhAction.apply, id_eq,
    dispatch_init]

end Parsed

theorem parser_ipv4 {f : Frame} (h : Ipv4Frame f) :
    parser f = some ⟨⟨⟨true,ethernetOf f⟩,⟨true,ipOf f⟩⟩,34,.noError⟩ := by
  rw [parser_eq, front.run_ipv4 _ _ h]
  rfl

theorem tcIngressFunc_hit {f : Frame} (h : Ipv4Frame f) {t : NhTable} {e : SendNh}
    (he : t (ipOf f).srcAddr = some e) (port : Dev) :
    tcIngressFunc t port f = .redirect e.portId.val (redirected e f) := by
  have hl := h.length
  rw [tcIngressFunc_entry (parser_ipv4 h) port he]
  simp only [sendNh, deparser, emit_valid, List.append_assoc]
  rw [encode_ipOf hl, slice_append_drop f 14 20, encode_setMacs (by omega), redirected,
    List.append_assoc, List.append_assoc, slice_append_drop f 12 2]

theorem tcIngressFunc_miss {f : Frame} (h : Ipv4Frame f) {t : NhTable}
    (he : t (ipOf f).srcAddr = none) (port : Dev) : tcIngressFunc t port f = .kernel f := by
  rw [tcIngressFunc_noEntry (parser_ipv4 h) port he]
  simp only [deparser, emit_valid, List.append_assoc, frame_eq h.length]

theorem tcIngressFunc_truncated {f : Frame} (h : Truncated f) (t : NhTable) (port : Dev) :
    tcIngressFunc t port f ≠ .shot := by
  obtain ⟨p,hp⟩ : ∃ p, parser f = some p := by
    rcases front.run_truncated accept Headers.init h with hp | ⟨_,hp⟩
    · exact ⟨_,hp⟩
    · exact ⟨_,hp⟩
  cases he : t p.hdr.ipv4.fields.srcAddr with
  | none =>
    rw [tcIngressFunc_noEntry hp port he]
    exact Verdict.noConfusion
  | some e =>
    rw [tcIngressFunc_entry hp port he]
    exact Verdict.noConfusion

/-- Sent exactly when an entry is programmed for the source of a complete IPv4
packet, and dropped otherwise. -/
structure RedirectsExactly (t : NhTable) (port : Dev) (f : Frame) : Prop where
  sent : ∀ p g, tcIngressFunc t port f = .redirect p g ↔
    Ipv4Frame f ∧ ∃ e, t (be 32 f 26) = some e ∧ p = e.portId.val ∧ g = redirected e f
  dropped : ¬(Ipv4Frame f ∧ (t (be 32 f 26)).isSome) → tcIngressFunc t port f = .shot

theorem redirectsExactly_hit {f : Frame} (h : Ipv4Frame f) {t : NhTable} {e : SendNh}
    (he : t (be 32 f 26) = some e) (port : Dev) : RedirectsExactly t port f := by
  have hv := tcIngressFunc_hit h ((srcAddr_ipOf h.length).symm ▸ he) port
  refine ⟨fun p g => ?_,fun hn => absurd ⟨h,he ▸ rfl⟩ hn⟩
  rw [hv, he]
  constructor
  · intro hr
    cases hr
    exact ⟨h,e,rfl,rfl,rfl⟩
  · rintro ⟨_,e',hs,rfl,rfl⟩
    cases hs
    rfl

theorem not_redirectsExactly_miss {f : Frame} (h : Ipv4Frame f) {t : NhTable}
    (he : t (be 32 f 26) = none) (port : Dev) : ¬RedirectsExactly t port f := by
  intro hr
  have hd := hr.dropped (fun hm => by simp [he] at hm)
  rw [tcIngressFunc_miss h ((srcAddr_ipOf h.length).symm ▸ he)] at hd
  cases hd

theorem not_redirectsExactly_truncated {f : Frame} (h : Truncated f) (t : NhTable) (port : Dev) :
    ¬RedirectsExactly t port f := by
  intro hr
  refine tcIngressFunc_truncated h t port (hr.dropped ?_)
  rintro ⟨hf,_⟩
  have hl := hf.length
  rcases h with hs | ⟨_,hs⟩
  · omega
  · omega

theorem redirectsExactly_rejected {f : Frame} (hl : 14 ≤ f.length) (ht : be 16 f 12 ≠ 0x0800)
    (t : NhTable) (port : Dev) : RedirectsExactly t port f := by
  have hv := tcIngressFunc_rejected hl ht t port
  refine ⟨fun p g => ?_,fun _ => hv⟩
  rw [hv]
  exact ⟨fun hr => Verdict.noConfusion hr,fun hr => absurd hr.1.etherType ht⟩

/-- Exactly the misses and the frames that end inside a header escape. -/
theorem redirectsExactly_iff (t : NhTable) (port : Dev) (f : Frame) :
    RedirectsExactly t port f ↔
      ¬Truncated f ∧ (Ipv4Frame f → ∃ e, t (be 32 f 26) = some e) := by
  by_cases ht : Truncated f
  · exact ⟨fun hr => absurd hr (not_redirectsExactly_truncated ht t port),fun hn => absurd ht hn.1⟩
  · by_cases h : Ipv4Frame f
    · cases he : t (be 32 f 26) with
      | none =>
        refine ⟨fun hr => absurd hr (not_redirectsExactly_miss h he port),fun hn => ?_⟩
        obtain ⟨e,hc⟩ := hn.2 h
        cases hc
      | some e =>
        exact ⟨fun _ => ⟨ht,fun _ => ⟨e,rfl⟩⟩,fun _ => redirectsExactly_hit h he port⟩
    · obtain ⟨hl,hn⟩ := (not_ipv4Frame_cases h).resolve_left ht
      exact ⟨fun _ => ⟨ht,fun hf => absurd hf h⟩,fun _ => redirectsExactly_rejected hl hn t port⟩

def unprogrammed : Frame :=
  encode (⟨0x101011111111,0x020304050601,0x0800⟩ : EthernetT) ++
    (encode (⟨4,5,0,28,0,2,0,64,17,0x26c7,0x0a00000a,0x0a000001⟩ : Ipv4T) ++
    [0x04,0xb0,0x04,0xb1,0x00,0x08,0x00,0x00])

theorem unprogrammed_reaches_host :
    tcIngressFunc (fun _ => none) dev1 unprogrammed = .kernel unprogrammed ∧
    ¬RedirectsExactly (fun _ => none) dev1 unprogrammed ∧
    tcIngressFunc (fun _ => some ⟨dev2,0x131324242424,0x020304050601⟩) dev1
      (unprogrammed.take 33) = .redirect dev2.val
        (toBytes 6 (0x131324242424 : BitVec 48) ++ (toBytes 6 (0x020304050601 : BitVec 48) ++
          (unprogrammed.take 33).drop 12)) := by
  have h : Ipv4Frame unprogrammed := ipv4Frame_emitted _ _ _ rfl
  refine ⟨tcIngressFunc_miss h rfl dev1,not_redirectsExactly_miss h rfl dev1,?_⟩
  decide +kernel

end P4tcExamples.RedirectL2
