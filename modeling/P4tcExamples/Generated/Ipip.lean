import P4tcExamples.Generated.Checksum
import P4tcExamples.Generated.Tables
import P4tcExamples.Ipip.Program

/-! # ipip as generated

`ipip_parser.c` and `ipip_control_blocks.c`. This is the one program whose deparser
writes more or fewer octets than were parsed, so the one in which
`bpf_skb_adjust_room` is called: with 20 to push and with -20 to pop.
-/
namespace P4tcExamples.Ipip
open BitFields Generated

/-- `struct headers_t`. -/
structure HeadersStruct where
  ethernet : HeaderStruct EthernetT
  outer : HeaderStruct Ipv4T
  inner : HeaderStruct Ipv4T

structure HeadersStruct.Represents (o : ByteOrder) (c : HeadersStruct) (h : Headers) : Prop where
  ethernet : c.ethernet.Represents o h.ethernet
  outer : c.outer.Represents o h.outer
  inner : c.inner.Represents o h.inner

/-- `struct metadata_t`. -/
structure MetadataStruct where
  src : BitVec 32
  dst : BitVec 32
  push : BitVec 8

structure MetadataStruct.Represents (o : ByteOrder) (c : MetadataStruct) (m : Metadata) : Prop where
  src : HoldsIpv4 o c.src m.src
  dst : HoldsIpv4 o c.dst m.dst
  push : c.push ≠ 0 ↔ m.push = true

abbrev MAIN_FWD_TABLE_ACT_MAIN_SET_IPIP : BitVec 32 := 1
abbrev MAIN_FWD_TABLE_ACT_MAIN_SET_NH : BitVec 32 := 2
abbrev MAIN_FWD_TABLE_ACT_MAIN_DROP : BitVec 32 := 3

def defaultMissAction : ActBpf := ⟨3,[]⟩

section Code
variable (o : ByteOrder)

def parseIpv4InnerBlock (pkt : Frame) : Code HeadersStruct :=
  extractBlock o pkt (·.inner) (fun h x => {h with inner := x}) acceptLabel

def parseIpv4Block (pkt : Frame) : Code HeadersStruct :=
  extractBlock o pkt (·.outer) (fun h x => {h with outer := x}) fun l =>
    if l.hdr.outer.fields.protocol = 0x4 then parseIpv4InnerBlock o pkt l
    else defaultCase l.hdr.outer.fields.protocol acceptLabel l

def startBlock (pkt : Frame) : Code HeadersStruct :=
  extractBlock o pkt (·.ethernet) (fun h x => {h with ethernet := x}) fun l =>
    if l.hdr.ethernet.fields.etherType = 0x800 then parseIpv4Block o pkt l
    else defaultCase l.hdr.ethernet.fields.etherType (rejectLabel NoError) l

def fwdTableBlock (value : ActBpf) (c : ControlState HeadersStruct MetadataStruct) :
    ControlState HeadersStruct MetadataStruct :=
  if value.actId = MAIN_FWD_TABLE_ACT_MAIN_SET_IPIP then
    let c := {c with usermeta.src := value.u32At o 0}
    let c := {c with usermeta.dst := value.u32At o 4}
    let c := {c with usermeta.push := 1}
    {c with compilerMeta := c.compilerMeta.sendToPort (value.u32At o 8)}
  else if value.actId = MAIN_FWD_TABLE_ACT_MAIN_SET_NH then
    let c := {c with hdr.ethernet.fields.dstAddr := value.u64At o 0}
    {c with compilerMeta := c.compilerMeta.sendToPort (value.u32At o 8)}
  else if value.actId = MAIN_FWD_TABLE_ACT_MAIN_DROP then
    {c with compilerMeta := c.compilerMeta.dropPacket}
  else c

/-- `hdr->outer.setInvalid()` when there is an inner header. -/
def popBlock (c : ControlState HeadersStruct MetadataStruct) :
    ControlState HeadersStruct MetadataStruct :=
  if c.hdr.inner.ebpfValid ≠ 0 then {c with hdr.outer.ebpfValid := 0} else c

def mainBlock (ifindex : BitVec 32) (entries : Entries)
    (c : ControlState HeadersStruct MetadataStruct) :
    Entries × ControlState HeadersStruct MetadataStruct :=
  if c.hdr.outer.ebpfValid ≠ 0 then
    match tblRead entries (some defaultMissAction) (o.store 4 ifindex) with
    | none => (entries,popBlock c)
    | some value => (entries,popBlock (fwdTableBlock o value c))
  else (entries,c)

def ipipPushBlock (h : HeadersStruct) (m : MetadataStruct) : HeadersStruct :=
  let h := {h with inner := h.outer}
  let h := {h with outer.fields.srcAddr := m.src}
  let h := {h with outer.fields.dstAddr := m.dst}
  let h := {h with outer.fields.ttl := 64}
  let h := {h with outer.fields.protocol := 4}
  let h := {h with outer.fields.totalLen := (h.outer.fields.totalLen.setWidth 32 + 20).setWidth 16}
  {h with outer.fields.hdrChecksum := 0}

def deparserBlock (h : HeadersStruct) (m : MetadataStruct) : HeadersStruct :=
  if m.push ≠ 0 ∧ h.outer.ebpfValid ≠ 0 then
    let h := ipipPushBlock h m
    let h := {h with outer.fields := ipChecksumBlock o h.outer.fields}
    {h with inner.fields := ipTtlDecBlock h.inner.fields}
  else h

def generated : Program Entries HeadersStruct MetadataStruct where
  hdr := ⟨.zero EthernetT,.zero Ipv4T,.zero Ipv4T⟩
  usermeta := ⟨0,0,0⟩
  start := startBlock o
  control := mainBlock o
  deparser h m :=
    let h := deparserBlock o h m
    [emission o h.ethernet,emission o h.outer,emission o h.inner]

end Code

def source : Source FwdTable Headers Metadata where
  parser := parser
  usermeta := Metadata.init
  main t istd c := (t,main t istd c)
  deparser := deparser

theorem run_source (t : FwdTable) (port : Dev) (pkt : Frame) :
    source.run t port pkt = (t,tcIngressFunc t port pkt) := by
  unfold tcIngressFunc runPipeline
  cases hp : parser pkt with
  | none => simp only [Source.run, source, hp]
  | some p => simp only [Source.run, source, hp, Source.control, Source.emitted]

def FwdAction.Holds (o : ByteOrder) (v : ActBpf) : FwdAction → Prop
  | .setIpip src dst port => v.actId = MAIN_FWD_TABLE_ACT_MAIN_SET_IPIP ∧
      HoldsIpv4 o (v.u32At o 0) src ∧ HoldsIpv4 o (v.u32At o 4) dst ∧ v.u32At o 8 = port.val
  | .setNh dmac port => v.actId = MAIN_FWD_TABLE_ACT_MAIN_SET_NH ∧
      HoldsMac o (v.u64At o 0) dmac ∧ v.u32At o 8 = port.val
  | .drop => v.actId = MAIN_FWD_TABLE_ACT_MAIN_DROP

def Programmed (o : ByteOrder) : Entries → FwdTable → Prop :=
  Holds (fun port : Dev => o.store 4 port.val) (FwdAction.Holds o)

theorem simulates_parseEthernet (o : ByteOrder) (pkt : Frame) :
    Simulates (HeadersStruct.Represents o) pkt (startBlock o pkt) (parseEthernet pkt) := by
  refine .extract (fun hc ha x y hr hx => ⟨hx,hr.outer,hr.inner⟩)
    (.select ?_ ?_ (.default .reject))
  · intro l c hr
    rw [hr.ethernet.fields.etherType]
  · refine .extract (fun hc ha x y hr hx => ⟨hr.ethernet,hx,hr.inner⟩)
      (.select ?_ ?_ (.default .accept))
    · intro l c hr
      rw [hr.outer.fields.protocol]
    · exact .extract (fun hc ha x y hr hx => ⟨hr.ethernet,hr.outer,hx⟩) .accept

theorem represents_init (o : ByteOrder) :
    HeadersStruct.Represents o (generated o).hdr Headers.init :=
  ⟨HeaderStruct.represents_zero o,HeaderStruct.represents_zero o,HeaderStruct.represents_zero o⟩

theorem represents_metadata (o : ByteOrder) :
    MetadataStruct.Represents o (generated o).usermeta Metadata.init :=
  ⟨holdsIpv4_zero o,holdsIpv4_zero o,by simp [generated, Metadata.init]⟩

theorem represents_pushed {o : ByteOrder} {c : Ipv4Struct} {ip : Ipv4T} (h : c.Represents o ip)
    {m : MetadataStruct} {u : Metadata} (hm : m.Represents o u) :
    Ipv4Struct.Represents o
      { c with
        srcAddr := m.src, dstAddr := m.dst, ttl := 64, protocol := 4
        totalLen := (c.totalLen.setWidth 32 + 20).setWidth 16, hdrChecksum := 0 }
      (pushed ip u) := by
  have hl : (c.totalLen.setWidth 32 + 20).setWidth 16 = ip.totalLen + 20 := by
    rw [h.totalLen]
    apply BitVec.eq_of_toNat_eq
    simp
  exact
    { h with
      totalLen := hl, ttl := rfl, protocol := rfl, hdrChecksum := rfl, srcAddr := hm.src
      dstAddr := hm.dst }

/-- The headers as the deparser has them when it starts to emit. -/
def deparsed (h : Headers) (m : Metadata) : Headers :=
  if m.push && h.outer.isValid then
    let h := ipipPush h m
    let h := {h with outer := {h.outer with fields := ipChecksum h.outer.fields}}
    {h with inner := {h.inner with fields := ipTtlDec h.inner.fields}}
  else h

theorem deparser_eq (h : Headers) (m : Metadata) :
    deparser h m = emit (deparsed h m).ethernet ++ emit (deparsed h m).outer ++
      emit (deparsed h m).inner := by
  unfold deparser deparsed
  split
  · rfl
  · rfl

theorem represents_deparsed {o : ByteOrder} {c : HeadersStruct} {h : Headers}
    (hr : c.Represents o h) {m : MetadataStruct} {u : Metadata} (hm : m.Represents o u) :
    (deparserBlock o c m).Represents o (deparsed h u) := by
  have hcond : (m.push ≠ 0 ∧ c.outer.ebpfValid ≠ 0) ↔ (u.push && h.outer.isValid) = true := by
    rw [Bool.and_eq_true, hm.push, hr.outer.isValid]
  unfold deparserBlock deparsed
  by_cases hc : (u.push && h.outer.isValid) = true
  · rw [if_pos hc, if_pos (hcond.mpr hc)]
    refine ⟨hr.ethernet,⟨?_,hr.outer.isValid⟩,⟨?_,hr.outer.isValid⟩⟩
    · exact Ipv4Struct.Represents.ipChecksum (represents_pushed hr.outer.fields hm)
    · exact Ipv4Struct.Represents.ipTtlDec hr.outer.fields
  · rw [if_neg hc, if_neg (mt hcond.mp hc)]
    exact hr

theorem emits_deparser {o : ByteOrder} {c : HeadersStruct} {h : Headers} (hr : c.Represents o h)
    {m : MetadataStruct} {u : Metadata} (hm : m.Represents o u) :
    ∃ bss, List.Forall₂ Emits ((generated o).deparser c m) bss ∧ bss.flatten = deparser h u := by
  have hd := represents_deparsed hr hm
  refine ⟨_,.cons (emits_emission hd.ethernet)
    (.cons (emits_emission hd.outer) (.cons (emits_emission hd.inner) .nil)),?_⟩
  simp [deparser_eq]

structure StateAs (o : ByteOrder) (c : ControlState HeadersStruct MetadataStruct) (x : Context) :
    Prop where
  hdr : c.hdr.Represents o x.hdr
  usermeta : c.usermeta.Represents o x.usermeta
  out : MetaAs c.compilerMeta x.out

theorem StateAs.fwdTableBlock {o : ByteOrder} {c : ControlState HeadersStruct MetadataStruct}
    {x : Context} (h : StateAs o c x) {v : ActBpf} {a : FwdAction} (hv : a.Holds o v) :
    StateAs o (fwdTableBlock o v c) (a.apply x) := by
  cases a with
  | setIpip src dst port =>
    obtain ⟨hi,hs,hd,hp⟩ := hv
    rw [Ipip.fwdTableBlock, if_pos hi]
    exact ⟨h.hdr,⟨hs,hd,by simp [FwdAction.apply, setIpip]⟩,⟨rfl,hp⟩⟩
  | setNh dmac port =>
    obtain ⟨hi,hd,hp⟩ := hv
    rw [Ipip.fwdTableBlock, if_neg (by rw [hi]; decide), if_pos hi]
    have he := h.hdr.ethernet
    exact ⟨⟨⟨⟨hd,he.fields.srcAddr,he.fields.etherType⟩,he.isValid⟩,h.hdr.outer,h.hdr.inner⟩,
      h.usermeta,⟨rfl,hp⟩⟩
  | drop =>
    have hi : v.actId = MAIN_FWD_TABLE_ACT_MAIN_DROP := hv
    rw [Ipip.fwdTableBlock, if_neg (by rw [hi]; decide), if_neg (by rw [hi]; decide), if_pos hi]
    exact ⟨h.hdr,h.usermeta,h.out.dropPacket⟩

theorem StateAs.popBlock {o : ByteOrder} {c : ControlState HeadersStruct MetadataStruct}
    {x : Context} (h : StateAs o c x) : StateAs o (popBlock c)
      (if x.hdr.inner.isValid then {x with hdr.outer := x.hdr.outer.setInvalid} else x) := by
  unfold Ipip.popBlock
  by_cases hi : x.hdr.inner.isValid = true
  · rw [if_pos hi, if_pos (h.hdr.inner.isValid.mpr hi)]
    exact ⟨⟨h.hdr.ethernet,⟨h.hdr.outer.fields,by simp [Header.setInvalid]⟩,h.hdr.inner⟩,
      h.usermeta,h.out⟩
  · rw [if_neg hi, if_neg (mt h.hdr.inner.isValid.mp hi)]
    exact h

theorem StateAs.controlledAs {o : ByteOrder} {c : ControlState HeadersStruct MetadataStruct}
    {x : Context} (h : StateAs o c x) {entries : Entries} {t : FwdTable}
    (ht : Programmed o entries t) :
    ControlledAs (generated o) source (Programmed o) (entries,c) (t,x) :=
  ⟨ht,emits_deparser h.hdr h.usermeta,h.out.drop,h.out.egressPort⟩

theorem StateAs.mainBlock {o : ByteOrder} {entries : Entries} {t : FwdTable}
    (ht : Programmed o entries t) {c : ControlState HeadersStruct MetadataStruct} {x : Context}
    (h : StateAs o c x) (istd : MainInput) : ControlledAs (generated o) source (Programmed o)
      (mainBlock o istd.inputPort.val entries c) (t,main t istd x) := by
  unfold Ipip.mainBlock main
  by_cases hc : x.hdr.outer.isValid = true
  · obtain ⟨a,ha,hv⟩ := ht.tblRead_default (d := defaultMissAction) (v := .drop) rfl istd.inputPort
    simp only [if_pos hc, if_pos (h.hdr.outer.isValid.mpr hc), ha]
    exact (h.fwdTableBlock hv).popBlock.controlledAs ht
  · simp only [if_neg hc, if_neg (mt h.hdr.outer.isValid.mp hc)]
    exact h.controlledAs ht

/-- Everything that the parser can hand over. -/
theorem parser_cases {f : Frame} {p : Parsed Headers} (hp : parser f = some p) :
    f.length < 14 ∧ p = ⟨Headers.init,0,.packetTooShort⟩ ∨
      14 ≤ p.offset ∧ p.hdr.ethernet.isValid = true := by
  rw [parser, parseEthernet] at hp
  by_cases hl : f.length < 14
  · rw [extract_short f _ _ (by simpa using hl)] at hp
    exact Or.inl ⟨hl,(Option.some.inj hp).symm⟩
  · right
    rw [extract_fits f _ _ (by simpa using hl)] at hp
    have he : Establishes (fun c : Cursor Headers => 14 ≤ c.offset ∧ c.hdr.ethernet.isValid = true)
        (fun c => if c.hdr.ethernet.fields.etherType = ETHERTYPE_IPV4 then parseIpv4 f c else reject c)
        (fun p => 14 ≤ p.offset ∧ p.hdr.ethernet.isValid = true) := by
      refine .select ?_ .reject
      refine .extract (R := fun c => 14 ≤ c.offset ∧ c.hdr.ethernet.isValid = true)
        (fun c hc => hc.1) (fun c hc _ => ⟨Nat.le_add_right_of_le hc.1.1,hc.1.2⟩) ?_
      refine .select ?_ (.accept fun c hc => hc.1)
      exact .extract (R := fun c => 14 ≤ c.offset ∧ c.hdr.ethernet.isValid = true)
        (fun c hc => hc.1) (fun c hc _ => ⟨Nat.le_add_right_of_le hc.1.1,hc.1.2⟩)
        (.accept fun c hc => hc)
    exact he _ p ⟨by simp,rfl⟩ hp

theorem deparsed_ethernet (h : Headers) (m : Metadata) : (deparsed h m).ethernet = h.ethernet := by
  unfold deparsed
  split
  · rfl
  · rfl

theorem main_ethernet (t : FwdTable) (istd : MainInput) (c : Context) :
    (main t istd c).hdr.ethernet.isValid = c.hdr.ethernet.isValid := by
  have happly (a : FwdAction) : (a.apply c).hdr.ethernet.isValid = c.hdr.ethernet.isValid := by
    cases a with
    | setIpip src dst port => rfl
    | setNh dmac port => rfl
    | drop => rfl
  unfold main
  split
  · dsimp only
    split
    · exact happly _
    · exact happly _
  · rfl

theorem framed {f : Frame} {p : Parsed Headers} (hp : parser f = some p) (t : FwdTable)
    (port : Dev) : Framed f p.offset (source.emitted t port p) := by
  rcases parser_cases hp with ⟨hl,rfl⟩ | ⟨ho,hv⟩
  · exact Or.inl ⟨hl,rfl,rfl⟩
  · refine Or.inr ⟨ho,?_⟩
    simp only [Source.emitted, Source.control, source, deparser_eq, List.length_append, length_emit,
      deparsed_ethernet, main_ethernet, hv, ↓reduceIte, size_ethernet]
    omega

theorem eq_of_kernel {t : FwdTable} {port : Dev} {f g : Frame}
    (h : tcIngressFunc t port f = .kernel g) : g = f ∧ parser f ≠ none := by
  by_cases hf : Ipv4Frame f
  · by_cases hi : CarriesInner f
    · rw [tcIngressFunc_inner hf hi] at h
      cases ht : fwdTable t port <;> rw [ht] at h <;> cases h
    · rw [tcIngressFunc_plain hf hi] at h
      cases ht : fwdTable t port <;> rw [ht] at h <;> cases h
  · rcases not_ipv4Frame_cases hf with ht | ⟨hl,he⟩
    · rw [tcIngressFunc_truncated ht] at h
      cases h
      obtain ⟨p,hp,_⟩ := parser_truncated ht
      exact ⟨rfl,by rw [hp]; exact Option.some_ne_none p⟩
    · rw [tcIngressFunc_rejected hl he] at h
      cases h

theorem refines (o : ByteOrder) :
    Refines (generated o) source (Programmed o) (HeadersStruct.Represents o) where
  parses pkt m := simulates_parseEthernet o pkt ⟨_,0,0,m⟩ ⟨Headers.init,0⟩
    ⟨represents_init o,rfl,rfl,Nat.zero_le _⟩
  controls port _ _ _ hs hr hd he := StateAs.mainBlock hs ⟨hr,represents_metadata o,⟨hd,he⟩⟩ ⟨port,_⟩
  framed t port hp := framed hp t port
  again t port pkt f hk := by
    rw [run_source] at hk
    obtain ⟨rfl,hn⟩ := eq_of_kernel hk
    exact hn

theorem length_encap {f : Frame} (h : 34 ≤ f.length) (src dst : BitVec 32) :
    (encap src dst f).length = f.length + 20 := by
  simp only [encap, List.length_append, length_encode, size_ethernet, size_ipv4, List.length_drop]
  omega

theorem length_decap {f : Frame} (h : 34 ≤ f.length) : (decap f).length = f.length - 20 := by
  simp only [decap, List.length_append, List.length_take, List.length_drop]
  omega

theorem length_setDst {f : Frame} (h : 6 ≤ f.length) (dmac : BitVec 48) :
    (setDst dmac f).length = f.length :=
  length_splice (by rwa [length_toBytes, Nat.zero_add])

/-- The room is only ever asked to change by one IPv4 header. -/
theorem growth_cases (t : FwdTable) (port : Dev) (f : Frame) :
    growth f (tcIngressFunc t port f) = 0 ∨ growth f (tcIngressFunc t port f) = 20 ∨
      growth f (tcIngressFunc t port f) = -20 := by
  by_cases hf : Ipv4Frame f
  · have hl := hf.length
    by_cases hi : CarriesInner f
    · have hd := length_decap hl
      rw [tcIngressFunc_inner hf hi]
      cases fwdTable t port with
      | setIpip src dst p =>
        simp only [growth, hd]
        omega
      | setNh dmac p =>
        simp only [growth, length_setDst (f := decap f) (by omega), hd]
        omega
      | drop => exact Or.inl rfl
    · rw [tcIngressFunc_plain hf hi]
      cases fwdTable t port with
      | setIpip src dst p =>
        simp only [growth, length_encap hl]
        omega
      | setNh dmac p =>
        simp only [growth, length_setDst (f := f) (by omega)]
        omega
      | drop => exact Or.inl rfl
  · rcases not_ipv4Frame_cases hf with ht | ⟨hl,he⟩
    · rw [tcIngressFunc_truncated ht, growth]
      omega
    · rw [tcIngressFunc_rejected hl he]
      exact Or.inl rfl

theorem control_tables (o : ByteOrder) (ifindex : BitVec 32) (entries : Entries)
    (c : ControlState HeadersStruct MetadataStruct) :
    ((generated o).control ifindex entries c).1 = entries := by
  change (mainBlock o ifindex entries c).1 = entries
  unfold mainBlock
  split
  · split
    · rfl
    · rfl
  · rfl

/-- The generated program delivers what ipip says, unless the frame has to be resized,
which is by one header, and cannot. -/
theorem ipip_delivers (o : ByteOrder) {adjustRoom : AdjustRoom} (ha : AdjustsRoom adjustRoom)
    {entries : Entries} {t : FwdTable} (ht : Programmed o entries t) {skb : Skb} {port : Dev}
    (hskb : Arrives skb port) :
    let verdict := tcIngressFunc t port skb.data
    let n := growth skb.data verdict
    (n = 0 ∨ n = 20 ∨ n = -20) ∧ deliver (generated o) adjustRoom entries skb =
      (entries,if Runt skb ∨ Stuck adjustRoom skb verdict then .shot else verdict) := by
  refine ⟨growth_cases t port skb.data,?_⟩
  have h := (refines o).deliver adjustRoom ha hskb ht
  rw [run_source] at h
  exact Prod.ext (deliver_tables (control_tables o) adjustRoom entries skb) h.2

def sampleAct : ActBpf := ⟨1,[2,2,2,2, 2,4,4,8, 2,0,0,0]⟩

def sampleFrame : Frame :=
  encode (⟨0x101011111111,0x020304050601,0x0800⟩ : EthernetT) ++
    (encode (plainHeader 20 17 0x0a000001 0x0a630001) ++ [])

theorem ipv4Frame_sampleFrame : Ipv4Frame sampleFrame := ipv4Frame_emitted _ _ _ rfl

theorem tcIngressFunc_sampleFrame {t : FwdTable}
    (ht : t dev1 = some (.setIpip 0x02020202 0x02040408 dev2)) :
    tcIngressFunc t dev1 sampleFrame =
      .redirect dev2.val (encap 0x02020202 0x02040408 sampleFrame) := by
  rw [tcIngressFunc_plain ipv4Frame_sampleFrame, fwdTable, ht]
  · rfl
  · decide

/-- A packet that is encapsulated where there is room, and lost where there is none. -/
theorem ipip_delivers_sample :
    (deliver (generated .little) adjustRoomMac (fun _ => some sampleAct)
      ⟨sampleFrame,[],dev1.val,.zero⟩).2 =
        .redirect dev2.val (encap 0x02020202 0x02040408 sampleFrame) ∧
    (deliver (generated .little) (fun _ _ => none) (fun _ => some sampleAct)
      ⟨sampleFrame,[],dev1.val,.zero⟩).2 = .shot := by
  have hs : Programmed .little (fun _ => some sampleAct)
      (fun _ => some (.setIpip 0x02020202 0x02040408 dev2)) := by
    intro _
    refine .some ⟨rfl,?_,?_,by decide⟩
    · unfold HoldsIpv4
      decide
    · unfold HoldsIpv4
      decide
  have hf := arrives_bare sampleFrame dev1
  have hn : AdjustsRoom fun _ _ => none := ⟨by simp,by simp⟩
  have hroom := congrArg Prod.snd (ipip_delivers .little adjustRoomMac_adjusts hs hf).2
  have hlost := congrArg Prod.snd (ipip_delivers .little hn hs hf).2
  simp only [tcIngressFunc_sampleFrame] at hroom hlost
  refine ⟨hroom.trans (if_neg ?_),hlost.trans (if_pos (Or.inr ⟨?_,rfl⟩))⟩
  · rintro (hr | hstuck)
    · exact not_runt_bare sampleFrame dev1 hr
    · exact not_stuck_adjustRoomMac _ _ hstuck
  · dsimp only
    rw [growth, length_encap ipv4Frame_sampleFrame.length]
    omega

end P4tcExamples.Ipip
