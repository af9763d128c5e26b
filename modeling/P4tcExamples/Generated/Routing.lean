import P4tcExamples.Generated.Checksum
import P4tcExamples.Generated.Tables
import P4tcExamples.Routing.Program

/-! # routing as generated

`routing_parser.c` and `routing_control_blocks.c`. The index that the first lookup
yields is kept in host order and is the key of the second one as it stands. The
deparser decrements the ttl of a copy, `ip_1`, and writes that copy.
-/
namespace P4tcExamples.Routing
open BitFields Generated

/-- `struct headers_t`. -/
structure HeadersStruct where
  ethernet : HeaderStruct EthernetT
  ip : HeaderStruct Ipv4T

structure HeadersStruct.Represents (o : ByteOrder) (c : HeadersStruct) (h : Headers) : Prop where
  ethernet : c.ethernet.Represents o h.ethernet
  ip : c.ip.Represents o h.ip

abbrev MAIN_FIB_TABLE_ACT_MAIN_SET_NHID : BitVec 32 := 3
abbrev MAIN_NH_TABLE_ACT_MAIN_DROP : BitVec 32 := 1
abbrev MAIN_NH_TABLE_ACT_MAIN_SET_NH : BitVec 32 := 2

/-- The two tables; a search of `fib` returns the entry of the longest prefix. -/
structure TableEntries where
  fib : Entries
  nh : Entries

def fibDefaultMissAction : ActBpf := ⟨3,[0,0,0,0]⟩

def nhDefaultMissAction : ActBpf := ⟨1,[]⟩

section Code
variable (o : ByteOrder)

def parseIpv4Block (pkt : Frame) : Code HeadersStruct :=
  extractBlock o pkt (·.ip) (fun h x => {h with ip := x}) acceptLabel

def startBlock (pkt : Frame) : Code HeadersStruct :=
  extractBlock o pkt (·.ethernet) (fun h x => {h with ethernet := x}) fun l =>
    if l.hdr.ethernet.fields.etherType = 0x800 then parseIpv4Block o pkt l
    else defaultCase l.hdr.ethernet.fields.etherType (rejectLabel NoError) l

/-- `nh_index_0` after the first lookup. -/
def fibTableBlock (fib : Entries) (dstAddr : BitVec 32) : BitVec 32 :=
  match tblRead fib (some fibDefaultMissAction) (o.store 4 dstAddr) with
  | none => 0
  | some value => if value.actId = MAIN_FIB_TABLE_ACT_MAIN_SET_NHID then value.u32At o 0 else 0

def nhTableBlock (value : ActBpf) (c : ControlState HeadersStruct Unit) :
    ControlState HeadersStruct Unit :=
  if value.actId = MAIN_NH_TABLE_ACT_MAIN_DROP then
    {c with compilerMeta := c.compilerMeta.dropPacket}
  else if value.actId = MAIN_NH_TABLE_ACT_MAIN_SET_NH then
    let c := {c with hdr.ethernet.fields.dstAddr := value.u64At o 0}
    {c with compilerMeta := c.compilerMeta.sendToPort (value.u32At o 8)}
  else c

def mainBlock (_ : BitVec 32) (entries : TableEntries) (c : ControlState HeadersStruct Unit) :
    TableEntries × ControlState HeadersStruct Unit :=
  if c.hdr.ip.ebpfValid ≠ 0 ∧ 1 < c.hdr.ip.fields.ttl then
    let nhIndex0 := fibTableBlock o entries.fib c.hdr.ip.fields.dstAddr
    match tblRead entries.nh (some nhDefaultMissAction) (o.store 4 nhIndex0) with
    | none => (entries,c)
    | some value => (entries,nhTableBlock o value c)
  else (entries,{c with compilerMeta := c.compilerMeta.dropPacket})

def ip1 (h : HeadersStruct) : HeaderStruct Ipv4T := {h.ip with fields := ipTtlDecBlock h.ip.fields}

def generated : Program TableEntries HeadersStruct Unit where
  hdr := ⟨.zero EthernetT,.zero Ipv4T⟩
  usermeta := ()
  start := startBlock o
  control := mainBlock o
  deparser h _ := [emission o h.ethernet,emission o (ip1 h)]

end Code

def source : Source Tables Headers Unit where
  parser := parser
  usermeta := ()
  main t istd c := (t,main t istd c)
  deparser := deparser

theorem run_source (t : Tables) (port : Dev) (pkt : Frame) :
    source.run t port pkt = (t,tcIngressFunc t port pkt) := by
  unfold tcIngressFunc runPipeline
  cases hp : parser pkt with
  | none => simp only [Source.run, source, hp]
  | some p => simp only [Source.run, source, hp, Source.control, Source.emitted]

def NhAction.Holds (o : ByteOrder) (v : ActBpf) : NhAction → Prop
  | .drop => v.actId = MAIN_NH_TABLE_ACT_MAIN_DROP
  | .setNh dmac port => v.actId = MAIN_NH_TABLE_ACT_MAIN_SET_NH ∧
      HoldsMac o (v.u64At o 0) dmac ∧ v.u32At o 8 = port.val

def HoldsNhid (o : ByteOrder) (v : ActBpf) (index : BitVec 32) : Prop :=
  v.actId = MAIN_FIB_TABLE_ACT_MAIN_SET_NHID ∧ v.u32At o 0 = index

structure Programmed (o : ByteOrder) (entries : TableEntries) (t : Tables) : Prop where
  fib : Holds (toBytes 4) (HoldsNhid o) entries.fib t.fib.lookup
  nh : Holds (o.store 4) (NhAction.Holds o) entries.nh t.nh

theorem simulates_parseEthernet (o : ByteOrder) (pkt : Frame) :
    Simulates (HeadersStruct.Represents o) pkt (startBlock o pkt) (parseEthernet pkt) := by
  refine .extract (fun hc ha x y hr hx => ⟨hx,hr.ip⟩) (.select ?_ ?_ (.default .reject))
  · intro l c hr
    rw [hr.ethernet.fields.etherType]
  · exact .extract (fun hc ha x y hr hx => ⟨hr.ethernet,hx⟩) .accept

theorem represents_init (o : ByteOrder) :
    HeadersStruct.Represents o (generated o).hdr Headers.init :=
  ⟨HeaderStruct.represents_zero o,HeaderStruct.represents_zero o⟩

/-- The headers as they were parsed. -/
def parsedOctets (h : Headers) : List Byte := emit h.ethernet ++ emit h.ip

theorem parser_laid {pkt : Frame} {p : Parsed Headers} (hp : parser pkt = some p) :
    pkt.length < 14 ∧ p = ⟨Headers.init,0,.packetTooShort⟩ ∨
      Laid 14 parsedOctets pkt p.hdr p.offset := by
  rw [parser, parseEthernet] at hp
  refine laid_or_short (fun x => ?_) ?_ hp
  · simp [parsedOctets, Headers.init, Header.absent]
  · refine .select ?_ .reject
    refine .laid_accept (fun c hc => hc.1.1) fun c x hc => ?_
    obtain ⟨⟨_,y,hy⟩,_⟩ := hc
    simp [hy, parsedOctets, Headers.init, Header.absent]

theorem length_emitted (t : Tables) (port : Dev) (p : Parsed Headers) :
    (source.emitted t port p).length = (parsedOctets p.hdr).length := by
  simp only [Source.emitted, Source.control, source, main]
  split
  · cases nhTable t (fibTable t p.hdr.ip.fields.dstAddr) with
    | drop => simp only [NhAction.apply, drop, deparser, parsedOctets, List.length_append, length_emit]
    | setNh dmac q =>
      simp only [NhAction.apply, setNh, deparser, parsedOctets, List.length_append, length_emit]
  · simp only [deparser, parsedOctets, List.length_append, length_emit]

theorem emits_deparser {o : ByteOrder} {c : HeadersStruct} {h : Headers} (hr : c.Represents o h) :
    List.Forall₂ Emits [emission o c.ethernet,emission o (ip1 c)]
      [emit h.ethernet,emit {h.ip with fields := ipTtlDec h.ip.fields}] :=
  .cons (emits_emission hr.ethernet)
    (.cons (emits_emission ⟨Ipv4Struct.Represents.ipTtlDec hr.ip.fields,hr.ip.isValid⟩) .nil)

theorem fibTableBlock_eq {o : ByteOrder} {entries : TableEntries} {t : Tables}
    (ht : Programmed o entries t) {x addr : BitVec 32} (hx : HoldsIpv4 o x addr) :
    fibTableBlock o entries.fib x = fibTable t addr := by
  have hd : HoldsNhid o fibDefaultMissAction 0 := ⟨rfl,by cases o <;> decide⟩
  obtain ⟨a,ha,hi,hn⟩ := ht.fib.tblRead_default hd addr
  have hk : o.store 4 x = toBytes 4 addr := hx
  rw [fibTableBlock, hk, ha]
  simp only [hi, ↓reduceIte, hn]
  rfl

theorem controlledAs {o : ByteOrder} {entries : TableEntries} {t : Tables}
    (ht : Programmed o entries t) {hdr : HeadersStruct} {h : Headers} (hr : hdr.Represents o h)
    {m : CompilerMeta} {out : GlobalMeta} (hm : MetaAs m out) (ifindex : BitVec 32)
    (istd : MainInput) : ControlledAs (generated o) source (Programmed o)
      (mainBlock o ifindex entries ⟨hdr,(),m⟩) (t,main t istd ⟨h,(),out⟩) := by
  have hcond : (hdr.ip.ebpfValid ≠ 0 ∧ 1 < hdr.ip.fields.ttl) ↔
      (h.ip.isValid && 1 < h.ip.fields.ttl) = true := by
    rw [Bool.and_eq_true, decide_eq_true_eq, hr.ip.isValid, hr.ip.fields.ttl]
  unfold mainBlock main
  by_cases hc : (h.ip.isValid && 1 < h.ip.fields.ttl) = true
  · obtain ⟨a,ha,hv⟩ := ht.nh.tblRead_default (d := nhDefaultMissAction) (v := .drop) rfl
      (fibTable t h.ip.fields.dstAddr)
    simp only [if_pos hc, if_pos (hcond.mpr hc), fibTableBlock_eq ht hr.ip.fields.dstAddr, ha]
    change NhAction.Holds o a (nhTable t (fibTable t h.ip.fields.dstAddr)) at hv
    cases hn : nhTable t (fibTable t h.ip.fields.dstAddr) with
    | drop =>
      rw [hn] at hv
      have hi : a.actId = MAIN_NH_TABLE_ACT_MAIN_DROP := hv
      rw [nhTableBlock, if_pos hi]
      exact ⟨ht,⟨_,emits_deparser hr,by simp [source, deparser, NhAction.apply, drop]⟩,rfl,
        hm.egressPort⟩
    | setNh dmac port =>
      rw [hn] at hv
      obtain ⟨hi,hd,hp⟩ := hv
      rw [nhTableBlock, if_neg (by rw [hi]; decide), if_pos hi]
      have hr' : HeadersStruct.Represents o {hdr with ethernet.fields.dstAddr := a.u64At o 0}
          (setNh dmac port ⟨h,(),out⟩).hdr :=
        ⟨⟨⟨hd,hr.ethernet.fields.srcAddr,hr.ethernet.fields.etherType⟩,hr.ethernet.isValid⟩,hr.ip⟩
      exact ⟨ht,⟨_,emits_deparser hr',by simp [source, deparser, NhAction.apply]⟩,rfl,hp⟩
  · simp only [if_neg hc, if_neg (mt hcond.mp hc)]
    exact ⟨ht,⟨_,emits_deparser hr,by simp [source, deparser]⟩,rfl,hm.egressPort⟩

theorem not_kernel (t : Tables) (port : Dev) (f g : Frame) : tcIngressFunc t port f ≠ .kernel g := by
  by_cases h : Ipv4Frame f
  · rw [tcIngressFunc_ipv4 h]
    split
    · cases nhTable t (fibTable t (ipOf f).dstAddr) with
      | drop => exact Verdict.noConfusion
      | setNh dmac p => exact Verdict.noConfusion
    · exact Verdict.noConfusion
  · rw [tcIngressFunc_other h]
    exact Verdict.noConfusion

theorem refines (o : ByteOrder) :
    RefinesInPlace (generated o) source (Programmed o) (HeadersStruct.Represents o) where
  parses pkt m := simulates_parseEthernet o pkt ⟨_,0,0,m⟩ ⟨Headers.init,0⟩
    ⟨represents_init o,rfl,rfl,Nat.zero_le _⟩
  controls port _ _ _ hs hr hd he := controlledAs hs hr ⟨hd,he⟩ port.val _
  framed t port hp := (framed_of_laid (parser_laid hp) rfl (length_emitted t port _)).1
  again t port pkt f hk := by
    rw [run_source] at hk
    exact absurd hk (not_kernel t port pkt f)
  unresized t port hp := (framed_of_laid (parser_laid hp) rfl (length_emitted t port _)).2

theorem control_tables (o : ByteOrder) (ifindex : BitVec 32) (entries : TableEntries)
    (c : ControlState HeadersStruct Unit) :
    ((generated o).control ifindex entries c).1 = entries := by
  change (mainBlock o ifindex entries c).1 = entries
  unfold mainBlock
  split
  · dsimp only
    split
    · rfl
    · rfl
  · rfl

/-- On either kind of host, and whatever `bpf_skb_adjust_room` does, the generated
program delivers what routing says and leaves its tables alone. -/
theorem routing_delivers (o : ByteOrder) (adjustRoom : AdjustRoom) {entries : TableEntries}
    {t : Tables} (ht : Programmed o entries t) {skb : Skb} {port : Dev} (ha : Arrives skb port) :
    deliver (generated o) adjustRoom entries skb =
      (entries,if Runt skb then .shot else tcIngressFunc t port skb.data) := by
  have h := (refines o).deliver adjustRoom ha ht
  rw [run_source] at h
  exact Prod.ext (deliver_tables (control_tables o) adjustRoom entries skb) h.2

/-- One route that covers everything, to next hop 7. -/
def sampleTables : Tables where
  fib := ⟨[⟨0,0,Nat.zero_le 32,7⟩],List.pairwise_singleton _ _⟩
  nh := fun _ => some (.setNh 0x131313131313 dev2)

def sampleEntries : TableEntries where
  fib := fun _ => some ⟨3,[7,0,0,0]⟩
  nh := fun _ => some ⟨2,[0x13,0x13,0x13,0x13,0x13,0x13,0xaa,0xaa,2,0,0,0]⟩

theorem sampleTables_lookup (addr : BitVec 32) : sampleTables.fib.lookup addr = some 7 := by
  simp [sampleTables, PrefixMatch.Table.lookup, PrefixMatch.longest, PrefixMatch.Route.Covers,
    PrefixMatch.leading, PrefixMatch.better, BitVec.ushiftRight_eq_zero (Nat.le_refl 32)]

theorem sampleEntries_programmed : Programmed .little sampleEntries sampleTables where
  fib addr := by
    rw [sampleTables_lookup]
    exact .some ⟨rfl,by decide⟩
  nh _ := .some ⟨rfl,by unfold HoldsMac; decide,by decide⟩

def sampleFrame : Frame :=
  encode (⟨0x101011111111,0x020304050601,0x0800⟩ : EthernetT) ++
    (encode (plainHeader 20 17 0x0a000001 0x0a630001) ++ [])

theorem ttl_sampleFrame : (ipOf sampleFrame).ttl.toNat = 64 := by
  rw [sampleFrame, ipOf_emitted]
  rfl

theorem ipv4Frame_sampleFrame : Ipv4Frame sampleFrame := ipv4Frame_emitted _ _ _ rfl

theorem tcIngressFunc_sampleFrame {t : Tables} {dmac : BitVec 48} {p : Dev}
    (h : nhTable t (fibTable t 0x0a630001) = .setNh dmac p) (port : Dev) :
    tcIngressFunc t port sampleFrame = .redirect p.val (hop dmac sampleFrame) := by
  have hd : (ipOf sampleFrame).dstAddr = 0x0a630001 := by
    rw [sampleFrame, ipOf_emitted]
    rfl
  refine forwards_iff.mpr ⟨ipv4Frame_sampleFrame,?_,dmac,p,by rw [hd, h],rfl,rfl⟩
  rw [BitVec.lt_def, ttl_sampleFrame]
  decide

theorem routing_delivers_sample :
    deliver (generated .little) (fun _ _ => none) sampleEntries
      ⟨sampleFrame,[],dev1.val,.zero⟩ =
        (sampleEntries,.redirect dev2.val (hop 0x131313131313 sampleFrame)) := by
  have hd := routing_delivers .little (fun _ _ => none) sampleEntries_programmed
    (arrives_bare sampleFrame dev1)
  rw [if_neg (not_runt_bare sampleFrame dev1), tcIngressFunc_sampleFrame rfl] at hd
  exact hd

end P4tcExamples.Routing
