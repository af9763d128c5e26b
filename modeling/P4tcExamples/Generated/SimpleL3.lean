import P4tcExamples.Generated.Tables
import P4tcExamples.SimpleL3.Program

/-! # simple_l3 as generated

`simple_l3_parser.c` and `simple_l3_control_blocks.c`. The template makes `drop` the
default action of `nh_table`, so a lookup always returns an action.
-/
namespace P4tcExamples.SimpleL3
open BitFields Generated

/-- `struct my_ingress_headers_t`. -/
structure HeadersStruct where
  ethernet : HeaderStruct EthernetT
  ipv4 : HeaderStruct Ipv4T

structure HeadersStruct.Represents (o : ByteOrder) (c : HeadersStruct) (h : Headers) : Prop where
  ethernet : c.ethernet.Represents o h.ethernet
  ipv4 : c.ipv4.Represents o h.ipv4

abbrev INGRESS_NH_TABLE_ACT_INGRESS_SEND_NH : BitVec 32 := 1
abbrev INGRESS_NH_TABLE_ACT_INGRESS_DROP : BitVec 32 := 2

/-- `default_miss_action` of the template. -/
def defaultMissAction : ActBpf := ⟨2,[]⟩

section Code
variable (o : ByteOrder)

def parseIpv4Block (pkt : Frame) : Code HeadersStruct :=
  extractBlock o pkt (·.ipv4) (fun h x => {h with ipv4 := x}) fun l =>
    if l.hdr.ipv4.fields.protocol = 0x6 then acceptLabel l
    else defaultCase l.hdr.ipv4.fields.protocol (rejectLabel NoError) l

def startBlock (pkt : Frame) : Code HeadersStruct :=
  extractBlock o pkt (·.ethernet) (fun h x => {h with ethernet := x}) fun l =>
    if l.hdr.ethernet.fields.etherType = 0x800 then parseIpv4Block o pkt l
    else defaultCase l.hdr.ethernet.fields.etherType (rejectLabel NoError) l

/-- The `switch` on `value->action`. -/
def nhTableBlock (value : ActBpf) (c : ControlState HeadersStruct Unit) :
    ControlState HeadersStruct Unit :=
  if value.actId = INGRESS_NH_TABLE_ACT_INGRESS_SEND_NH then
    let c := {c with hdr.ethernet.fields.srcAddr := value.u64At o 4}
    let c := {c with hdr.ethernet.fields.dstAddr := value.u64At o 12}
    {c with compilerMeta := c.compilerMeta.sendToPort (value.u32At o 0)}
  else if value.actId = INGRESS_NH_TABLE_ACT_INGRESS_DROP then
    {c with compilerMeta := c.compilerMeta.dropPacket}
  else c

def ingressBlock (_ : BitVec 32) (entries : Entries) (c : ControlState HeadersStruct Unit) :
    Entries × ControlState HeadersStruct Unit :=
  if c.hdr.ipv4.ebpfValid ≠ 0 ∧ c.hdr.ipv4.fields.protocol = 0x6 then
    match tblRead entries (some defaultMissAction) (o.store 4 c.hdr.ipv4.fields.dstAddr) with
    | none => (entries,c)
    | some value => (entries,nhTableBlock o value c)
  else (entries,c)

def generated : Program Entries HeadersStruct Unit where
  hdr := ⟨.zero EthernetT,.zero Ipv4T⟩
  usermeta := ()
  start := startBlock o
  control := ingressBlock o
  deparser h _ := [emission o h.ethernet,emission o h.ipv4]

end Code

def source : Source NhTable Headers Unit where
  parser := parser
  usermeta := ()
  main t istd c := (t,ingress t istd c)
  deparser := deparser

theorem run_source (t : NhTable) (port : Dev) (pkt : Frame) :
    source.run t port pkt = (t,tcIngressFunc t port pkt) := by
  unfold tcIngressFunc runPipeline
  cases hp : parser pkt with
  | none => simp only [Source.run, source, hp]
  | some p => simp only [Source.run, source, hp, Source.control, Source.emitted]

def NhAction.Holds (o : ByteOrder) (v : ActBpf) : NhAction → Prop
  | .sendNh port srcMac dstMac =>
    v.actId = INGRESS_NH_TABLE_ACT_INGRESS_SEND_NH ∧ v.u32At o 0 = port.val ∧
      HoldsMac o (v.u64At o 4) srcMac ∧ HoldsMac o (v.u64At o 12) dstMac
  | .drop => v.actId = INGRESS_NH_TABLE_ACT_INGRESS_DROP

def Programmed (o : ByteOrder) : Entries → NhTable → Prop := Holds (toBytes 4) (NhAction.Holds o)

theorem simulates_parseEthernet (o : ByteOrder) (pkt : Frame) :
    Simulates (HeadersStruct.Represents o) pkt (startBlock o pkt) (parseEthernet pkt) := by
  refine .extract (fun hc ha x y hr hx => ⟨hx,hr.ipv4⟩) (.select ?_ ?_ (.default .reject))
  · intro l c hr
    rw [hr.ethernet.fields.etherType]
  · refine .extract (fun hc ha x y hr hx => ⟨hr.ethernet,hx⟩)
      (.select ?_ .accept (.default .reject))
    intro l c hr
    rw [hr.ipv4.fields.protocol]

theorem represents_init (o : ByteOrder) :
    HeadersStruct.Represents o (generated o).hdr Headers.init :=
  ⟨HeaderStruct.represents_zero o,HeaderStruct.represents_zero o⟩

theorem parser_laid {pkt : Frame} {p : Parsed Headers} (hp : parser pkt = some p) :
    pkt.length < 14 ∧ p = ⟨Headers.init,0,.packetTooShort⟩ ∨
      Laid 14 (deparser · ()) pkt p.hdr p.offset := by
  rw [parser, parseEthernet] at hp
  refine laid_or_short (fun x => ?_) ?_ hp
  · simp [deparser, Headers.init, Header.absent]
  · refine .select ?_ .reject
    refine .extract (R := fun c => Laid 14 (deparser · ()) pkt c.hdr c.offset) (fun c hc => hc.1.1)
      ?_ (.select (.accept fun c hc => hc.1) .reject)
    rintro c ⟨⟨hl,y,hy⟩,_⟩ hfit
    refine hl.extract hfit ?_
    simp [hy, deparser, Headers.init, Header.absent]

theorem length_emitted (t : NhTable) (port : Dev) (p : Parsed Headers) :
    (source.emitted t port p).length = (deparser p.hdr ()).length := by
  simp only [Source.emitted, Source.control, source, ingress]
  split
  · cases nhTable t p.hdr.ipv4.fields.dstAddr with
    | sendNh portId srcMac dstMac =>
      simp only [NhAction.apply, sendNh, deparser, List.length_append, length_emit]
    | drop => rfl
  · rfl

theorem emits_deparser {o : ByteOrder} {c : HeadersStruct} {h : Headers} (hr : c.Represents o h) :
    List.Forall₂ Emits [emission o c.ethernet,emission o c.ipv4] [emit h.ethernet,emit h.ipv4] :=
  .cons (emits_emission hr.ethernet) (.cons (emits_emission hr.ipv4) .nil)

theorem controlledAs {o : ByteOrder} {entries : Entries} {t : NhTable}
    (ht : Programmed o entries t) {hdr : HeadersStruct} {h : Headers} (hr : hdr.Represents o h)
    {m : CompilerMeta} {out : GlobalMeta} (hm : MetaAs m out) (ifindex : BitVec 32)
    (istd : MainInput) : ControlledAs (generated o) source (Programmed o)
      (ingressBlock o ifindex entries ⟨hdr,(),m⟩) (t,ingress t istd ⟨h,(),out⟩) := by
  have hcond : (hdr.ipv4.ebpfValid ≠ 0 ∧ hdr.ipv4.fields.protocol = 0x6) ↔
      (h.ipv4.isValid && h.ipv4.fields.protocol = IP_PROTO_TCP) = true := by
    rw [Bool.and_eq_true, decide_eq_true_eq, hr.ipv4.isValid, hr.ipv4.fields.protocol]
  unfold ingressBlock ingress
  by_cases hc : (h.ipv4.isValid && h.ipv4.fields.protocol = IP_PROTO_TCP) = true
  · have hk : o.store 4 hdr.ipv4.fields.dstAddr = toBytes 4 h.ipv4.fields.dstAddr :=
      hr.ipv4.fields.dstAddr
    obtain ⟨a,ha,hv⟩ := ht.tblRead_default (d := defaultMissAction) (v := .drop) rfl
      h.ipv4.fields.dstAddr
    simp only [if_pos hc, if_pos (hcond.mpr hc), hk, ha]
    change NhAction.Holds o a (nhTable t h.ipv4.fields.dstAddr) at hv
    cases hn : nhTable t h.ipv4.fields.dstAddr with
    | sendNh port srcMac dstMac =>
      rw [hn] at hv
      obtain ⟨hi,hp,hs,hd⟩ := hv
      rw [nhTableBlock, if_pos hi]
      have hr' : HeadersStruct.Represents o
          {hdr with ethernet.fields.srcAddr := a.u64At o 4, ethernet.fields.dstAddr := a.u64At o 12}
          (sendNh port srcMac dstMac ⟨h,(),out⟩).hdr :=
        ⟨⟨⟨hd,hs,hr.ethernet.fields.etherType⟩,hr.ethernet.isValid⟩,hr.ipv4⟩
      exact ⟨ht,⟨_,emits_deparser hr',by simp [source, deparser, NhAction.apply]⟩,rfl,hp⟩
    | drop =>
      rw [hn] at hv
      have hi : a.actId = INGRESS_NH_TABLE_ACT_INGRESS_DROP := hv
      rw [nhTableBlock, if_neg (by rw [hi]; decide), if_pos hi]
      exact ⟨ht,⟨_,emits_deparser hr,by simp [source, deparser, NhAction.apply, drop]⟩,rfl,
        hm.egressPort⟩
  · simp only [if_neg hc, if_neg (mt hcond.mp hc)]
    exact ⟨ht,⟨_,emits_deparser hr,by simp [source, deparser]⟩,hm.drop,hm.egressPort⟩

theorem eq_of_kernel {t : NhTable} {port : Dev} {f g : Frame}
    (h : tcIngressFunc t port f = .kernel g) : g = f ∧ parser f ≠ none := by
  rw [tcIngressFunc, runPipeline] at h
  cases hp : parser f with
  | none =>
    rw [hp] at h
    cases h
  | some p =>
    refine ⟨?_,by simp⟩
    rw [hp] at h
    simp only [ingress] at h
    split at h
    · cases hn : nhTable t p.hdr.ipv4.fields.dstAddr with
      | sendNh q srcMac dstMac =>
        simp only [hn, NhAction.apply, sendNh, dispatch_send] at h
        cases h
      | drop =>
        simp only [hn, NhAction.apply, drop, dispatch_drop] at h
        cases h
    · rw [dispatch_init] at h
      cases h
      exact reproduces_of_laid (parser_laid hp) rfl

theorem refines (o : ByteOrder) :
    RefinesInPlace (generated o) source (Programmed o) (HeadersStruct.Represents o) where
  parses pkt m := simulates_parseEthernet o pkt ⟨_,0,0,m⟩ ⟨Headers.init,0⟩
    ⟨represents_init o,rfl,rfl,Nat.zero_le _⟩
  controls port _ _ _ hs hr hd he := controlledAs hs hr ⟨hd,he⟩ port.val _
  framed t port hp := (framed_of_laid (parser_laid hp) rfl (length_emitted t port _)).1
  again t port pkt f hk := by
    rw [run_source] at hk
    obtain ⟨rfl,hn⟩ := eq_of_kernel hk
    exact hn
  unresized t port hp := (framed_of_laid (parser_laid hp) rfl (length_emitted t port _)).2

theorem control_tables (o : ByteOrder) (ifindex : BitVec 32) (entries : Entries)
    (c : ControlState HeadersStruct Unit) :
    ((generated o).control ifindex entries c).1 = entries := by
  change (ingressBlock o ifindex entries c).1 = entries
  unfold ingressBlock
  split
  · split
    · rfl
    · rfl
  · rfl

/-- On either kind of host, and whatever `bpf_skb_adjust_room` does, the generated
program delivers what simple_l3 says and leaves its tables alone. -/
theorem simpleL3_delivers (o : ByteOrder) (adjustRoom : AdjustRoom) {entries : Entries}
    {t : NhTable} (ht : Programmed o entries t) {skb : Skb} {port : Dev} (ha : Arrives skb port) :
    deliver (generated o) adjustRoom entries skb =
      (entries,if Runt skb then .shot else tcIngressFunc t port skb.data) := by
  have h := (refines o).deliver adjustRoom ha ht
  rw [run_source] at h
  exact Prod.ext (deliver_tables (control_tables o) adjustRoom entries skb) h.2

/-- The packet of `testpkt.yml`. -/
def sampleSegment : Frame :=
  encode (⟨0x0090fb65d6fe,0x020304050601,0x0800⟩ : EthernetT) ++
    (encode (⟨4,5,0,40,1,0,0,64,6,0x666b,0x0a000001,0x0a630001⟩ : Ipv4T) ++
    [0x04,0xd3,0x10,0xe1, 0,0,0,0, 0,0,0,0, 0x50,0x02,0x20,0x00, 0x65,0xca,0,0])

/-- The entry of the README on a big-endian host. -/
def sampleAct : ActBpf :=
  ⟨1,[0,0,0,2, 0x10,0,0,0x02,0xaa,0xbb,0,0, 0x10,0,0x01,0x02,0xaa,0xbb,0,0]⟩

def sampleEntries : Entries := fun key => if key = [10,99,0,1] then some sampleAct else none

def sampleTable : NhTable := fun addr =>
  if addr = 0x0a630001 then some (.sendNh dev2 0x10000002aabb 0x10000102aabb) else none

theorem sampleEntries_programmed : Programmed .big sampleEntries sampleTable := by
  intro addr
  rw [sampleTable, sampleEntries]
  by_cases h : addr = 0x0a630001
  · subst h
    rw [if_pos (by decide), if_pos rfl]
    refine .some ⟨rfl,by decide,?_,?_⟩
    · unfold HoldsMac
      decide
    · unfold HoldsMac
      decide
  · have hk : toBytes 4 addr ≠ [10,99,0,1] := by
      rw [show [10,99,0,1] = toBytes 4 (0x0a630001 : BitVec 32) from by decide]
      exact fun hk => h (store_injective (n := 4) .big rfl hk)
    rw [if_neg h, if_neg hk]
    exact .none

theorem simpleL3_delivers_sample :
    deliver (generated .big) (fun _ _ => none) sampleEntries ⟨sampleSegment,[],dev1.val,.zero⟩ =
      (sampleEntries,.redirect dev2.val
        (encode (⟨0x10000102aabb,0x10000002aabb,0x0800⟩ : EthernetT) ++
          sampleSegment.drop 14)) := by
  have hd := simpleL3_delivers .big (fun _ _ => none) sampleEntries_programmed
    (arrives_bare sampleSegment dev1)
  have hip : (ipOf sampleSegment).protocol = IP_PROTO_TCP := by rw [sampleSegment, ipOf_emitted]
  have hdst : (ipOf sampleSegment).dstAddr = 0x0a630001 := by rw [sampleSegment, ipOf_emitted]
  have heth : ethernetOf sampleSegment = ⟨0x0090fb65d6fe,0x020304050601,0x0800⟩ :=
    ethernetOf_emitted _ _
  have hf : Ipv4Frame sampleSegment := ipv4Frame_emitted _ _ _ rfl
  have ht := tcIngressFunc_tcp hf hip sampleTable dev1
  rw [hdst, heth] at ht
  rw [if_neg (not_runt_bare sampleSegment dev1), ht] at hd
  exact hd

end P4tcExamples.SimpleL3
