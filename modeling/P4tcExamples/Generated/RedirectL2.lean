import P4tcExamples.Generated.Tables
import P4tcExamples.Pna.ParserRules
import P4tcExamples.RedirectL2.Program

/-! # redirect_l2 as generated -/
namespace P4tcExamples.RedirectL2
open BitFields Generated

/-- `struct my_ingress_headers_t`. -/
structure HeadersStruct where
  ethernet : HeaderStruct EthernetT
  ipv4 : HeaderStruct Ipv4T

structure HeadersStruct.Represents (o : ByteOrder) (c : HeadersStruct) (h : Headers) : Prop where
  ethernet : c.ethernet.Represents o h.ethernet
  ipv4 : c.ipv4.Represents o h.ipv4

section Code
variable (o : ByteOrder)

def parseIpv4Block (pkt : Frame) : Code HeadersStruct :=
  extractBlock o pkt (·.ipv4) (fun h x => {h with ipv4 := x}) acceptLabel

def startBlock (pkt : Frame) : Code HeadersStruct :=
  extractBlock o pkt (·.ethernet) (fun h x => {h with ethernet := x}) fun l =>
    if l.hdr.ethernet.fields.etherType = 0x800 then parseIpv4Block o pkt l
    else defaultCase l.hdr.ethernet.fields.etherType (rejectLabel NoError) l

abbrev INGRESS_NH_TABLE_ACT_INGRESS_SEND_NH : BitVec 32 := 1

def ingressBlock (_ : BitVec 32) (entries : Entries) (c : ControlState HeadersStruct Unit) :
    Entries × ControlState HeadersStruct Unit :=
  match tblRead entries none (o.store 4 c.hdr.ipv4.fields.srcAddr) with
  | none => (entries,c)
  | some value =>
    if value.actId = INGRESS_NH_TABLE_ACT_INGRESS_SEND_NH then
      let c := {c with hdr.ethernet.fields.srcAddr := value.u64At o 12}
      let c := {c with hdr.ethernet.fields.dstAddr := value.u64At o 4}
      (entries,{c with compilerMeta := c.compilerMeta.sendToPort (value.u32At o 0)})
    else (entries,c)

def generated : Program Entries HeadersStruct Unit where
  hdr := ⟨.zero EthernetT,.zero Ipv4T⟩
  usermeta := ()
  start := startBlock o
  control := ingressBlock o
  deparser h _ := [emission o h.ethernet,emission o h.ipv4]

end Code

def source : Source NhTable Headers Unit where
  parser := parser
  usermeta := ()
  main t istd c := (t,ingress t istd c)
  deparser := deparser

theorem run_source (t : NhTable) (port : Dev) (pkt : Frame) :
    source.run t port pkt = (t,tcIngressFunc t port pkt) := by
  unfold tcIngressFunc runPipeline
  cases hp : parser pkt with
  | none => simp only [Source.run, source, hp]
  | some p => simp only [Source.run, source, hp, Source.control, Source.emitted]

structure SendNh.Holds (o : ByteOrder) (v : ActBpf) (e : SendNh) : Prop where
  actId : v.actId = INGRESS_NH_TABLE_ACT_INGRESS_SEND_NH
  portId : v.u32At o 0 = e.portId.val
  dmac : HoldsMac o (v.u64At o 4) e.dmac
  smac : HoldsMac o (v.u64At o 12) e.smac

def Programmed (o : ByteOrder) : Entries → NhTable → Prop := Holds (toBytes 4) (SendNh.Holds o)

theorem simulates_parseEthernet (o : ByteOrder) (pkt : Frame) :
    Simulates (HeadersStruct.Represents o) pkt (startBlock o pkt) (parseEthernet pkt) := by
  refine .extract (fun hc ha x y hr hx => ⟨hx,hr.ipv4⟩) (.select ?_ ?_ (.default .reject))
  · intro l c hr
    rw [hr.ethernet.fields.etherType]
  · exact .extract (fun hc ha x y hr hx => ⟨hr.ethernet,hx⟩) .accept

theorem represents_init (o : ByteOrder) :
    HeadersStruct.Represents o (generated o).hdr Headers.init :=
  ⟨HeaderStruct.represents_zero o,HeaderStruct.represents_zero o⟩

theorem parser_laid {pkt : Frame} {p : Parsed Headers} (hp : parser pkt = some p) :
    pkt.length < 14 ∧ p = ⟨Headers.init,0,.packetTooShort⟩ ∨
      Laid 14 (deparser · ()) pkt p.hdr p.offset := by
  rw [parser, parseEthernet] at hp
  refine laid_or_short (fun x => ?_) ?_ hp
  · simp [deparser, Headers.init, Header.absent]
  · refine .select ?_ .reject
    refine .laid_accept (fun c hc => hc.1.1) fun c x hc => ?_
    obtain ⟨⟨_,y,hy⟩,_⟩ := hc
    simp [hy, deparser, Headers.init, Header.absent]

theorem length_emitted (t : NhTable) (port : Dev) (p : Parsed Headers) :
    (source.emitted t port p).length = (deparser p.hdr ()).length := by
  simp only [Source.emitted, Source.control, source, ingress]
  cases nhTable t p.hdr.ipv4.fields.srcAddr with
  | sendNh portId dmac smac =>
    simp only [NhAction.apply, sendNh, deparser, List.length_append, length_emit]
  | noAction => rfl

theorem emits_deparser {o : ByteOrder} {c : HeadersStruct} {h : Headers} (hr : c.Represents o h) :
    List.Forall₂ Emits [emission o c.ethernet,emission o c.ipv4] [emit h.ethernet,emit h.ipv4] :=
  .cons (emits_emission hr.ethernet) (.cons (emits_emission hr.ipv4) .nil)

theorem controlledAs {o : ByteOrder} {entries : Entries} {t : NhTable}
    (ht : Programmed o entries t) {hdr : HeadersStruct} {h : Headers} (hr : hdr.Represents o h)
    {m : CompilerMeta} {out : GlobalMeta} (hm : MetaAs m out) (ifindex : BitVec 32)
    (istd : MainInput) : ControlledAs (generated o) source (Programmed o)
      (ingressBlock o ifindex entries ⟨hdr,(),m⟩) (t,ingress t istd ⟨h,(),out⟩) := by
  have hk : o.store 4 hdr.ipv4.fields.srcAddr = toBytes 4 h.ipv4.fields.srcAddr :=
    hr.ipv4.fields.srcAddr
  unfold ingressBlock ingress nhTable
  rw [hk, tblRead_none]
  rcases ht.lookup_cases h.ipv4.fields.srcAddr with ⟨he,ht'⟩ | ⟨v,e,he,ht',hv⟩
  · simp only [he, ht']
    exact ⟨ht,⟨_,emits_deparser hr,by simp [source, deparser, NhAction.apply]⟩,hm.drop,hm.egressPort⟩
  · simp only [he, ht', hv.actId, ↓reduceIte]
    have hr' : HeadersStruct.Represents o
        {hdr with ethernet.fields.srcAddr := v.u64At o 12, ethernet.fields.dstAddr := v.u64At o 4}
        (sendNh e.portId e.dmac e.smac ⟨h,(),out⟩).hdr :=
      ⟨⟨⟨hv.dmac,hv.smac,hr.ethernet.fields.etherType⟩,hr.ethernet.isValid⟩,hr.ipv4⟩
    exact ⟨ht,⟨_,emits_deparser hr',by simp [source, deparser, NhAction.apply]⟩,rfl,hv.portId⟩

theorem eq_of_kernel {t : NhTable} {port : Dev} {f g : Frame}
    (h : tcIngressFunc t port f = .kernel g) : g = f ∧ parser f ≠ none := by
  cases hp : parser f with
  | none =>
    rw [tcIngressFunc, runPipeline, hp] at h
    cases h
  | some p =>
    refine ⟨?_,by simp⟩
    cases he : t p.hdr.ipv4.fields.srcAddr with
    | none =>
      rw [tcIngressFunc_noEntry hp port he] at h
      cases h
      exact reproduces_of_laid (parser_laid hp) rfl
    | some e =>
      rw [tcIngressFunc_entry hp port he] at h
      cases h

theorem refines (o : ByteOrder) :
    RefinesInPlace (generated o) source (Programmed o) (HeadersStruct.Represents o) where
  parses pkt m := simulates_parseEthernet o pkt ⟨_,0,0,m⟩ ⟨Headers.init,0⟩
    ⟨represents_init o,rfl,rfl,Nat.zero_le _⟩
  controls port _ _ _ hs hr hd he := controlledAs hs hr ⟨hd,he⟩ port.val _
  framed t port hp := (framed_of_laid (parser_laid hp) rfl (length_emitted t port _)).1
  again t port pkt f hk := by
    rw [run_source] at hk
    obtain ⟨rfl,hn⟩ := eq_of_kernel hk
    exact hn
  unresized t port hp := (framed_of_laid (parser_laid hp) rfl (length_emitted t port _)).2

theorem control_tables (o : ByteOrder) (ifindex : BitVec 32) (entries : Entries)
    (c : ControlState HeadersStruct Unit) :
    ((generated o).control ifindex entries c).1 = entries := by
  change (ingressBlock o ifindex entries c).1 = entries
  unfold ingressBlock
  split
  · rfl
  · split
    · rfl
    · rfl

/-- On either kind of host, and whatever `bpf_skb_adjust_room` does, the generated
program delivers what redirect_l2 says and leaves its tables alone. -/
theorem redirectL2_delivers (o : ByteOrder) (adjustRoom : AdjustRoom) {entries : Entries} {t : NhTable}
    (ht : Programmed o entries t) {skb : Skb} {port : Dev} (ha : Arrives skb port) :
    deliver (generated o) adjustRoom entries skb =
      (entries,if Runt skb then .shot else tcIngressFunc t port skb.data) := by
  have h := (refines o).deliver adjustRoom ha ht
  rw [run_source] at h
  exact Prod.ext (deliver_tables (control_tables o) adjustRoom entries skb) h.2

def sampleNh : SendNh := ⟨dev2,0x131324242424,0x020304050601⟩

/-- `sampleNh` as a little-endian host keeps it, with garbage behind each MAC address. -/
def sampleAct : ActBpf :=
  ⟨1,[2,0,0,0, 0x13,0x13,0x24,0x24,0x24,0x24,0xaa,0xaa, 0x02,0x03,0x04,0x05,0x06,0x01,0xbb,0xbb]⟩

theorem sampleAct_holds : SendNh.Holds .little sampleAct sampleNh := by
  refine ⟨rfl,by decide,?_,?_⟩
  · unfold HoldsMac
    decide
  · unfold HoldsMac
    decide

/-- With metadata in front, as the XDP hook leaves it. -/
theorem redirectL2_delivers_sample :
    (deliver (generated .little) (fun _ _ => none) (fun _ => some sampleAct)
      ⟨unprogrammed,[0x08,0x00,0,0],dev1.val,.zero⟩).2 =
      .redirect dev2.val (redirected sampleNh unprogrammed) := by
  have hs : Programmed .little (fun _ => some sampleAct) (fun _ => some sampleNh) :=
    fun _ => .some sampleAct_holds
  have ha : Arrives ⟨unprogrammed,[0x08,0x00,0,0],dev1.val,.zero⟩ dev1 := ⟨rfl,rfl⟩
  have hd := congrArg Prod.snd (redirectL2_delivers .little (fun _ _ => none) hs ha)
  have hf : Ipv4Frame unprogrammed := ipv4Frame_emitted _ _ _ rfl
  exact hd.trans (tcIngressFunc_hit (t := fun _ => some sampleNh) (e := sampleNh) hf rfl dev1)

end P4tcExamples.RedirectL2
