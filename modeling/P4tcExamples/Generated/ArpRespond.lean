import P4tcExamples.Generated.Tables
import P4tcExamples.ArpRespond.Program

/-! # arp_respond as generated

`arp_respond_parser.c` and `arp_respond_control_blocks.c`. The key `tpa` and the MAC
addresses are moved as the octets they were copied as, in words whose last two octets
are never written to the packet.
-/
namespace P4tcExamples.ArpRespond
open BitFields Generated

section Arp

structure ArpStruct where
  htype : BitVec 16
  ptype : BitVec 16
  hlen : BitVec 8
  plen : BitVec 8
  oper : BitVec 16

def loadArp (o : ByteOrder) (pkt : Frame) (off : ℕ) (_ : ArpStruct) : ArpStruct :=
  let htype := loadHalf o pkt (bytes off)
  let off := off + 16
  let ptype := loadHalf o pkt (bytes off)
  let off := off + 16
  let hlen := loadByte pkt (bytes off)
  let off := off + 8
  let plen := loadByte pkt (bytes off)
  let off := off + 8
  let oper := loadHalf o pkt (bytes off)
  ⟨htype,ptype,hlen,plen,oper⟩

def writeArp (o : ByteOrder) (c : ArpStruct) (off : ℕ) (pkt : Frame) : Frame :=
  let pkt := writeOctets pkt (bytes off) (o.store 2 (bpfHtons o c.htype))
  let off := off + 16
  let pkt := writeOctets pkt (bytes off) (o.store 2 (bpfHtons o c.ptype))
  let off := off + 16
  let pkt := writeOctets pkt (bytes off) [c.hlen]
  let off := off + 8
  let pkt := writeOctets pkt (bytes off) [c.plen]
  let off := off + 8
  writeOctets pkt (bytes off) (o.store 2 (bpfHtons o c.oper))

/-- All members are numbers in host order. -/
def ArpT.struct (h : ArpT) : ArpStruct := ⟨h.htype,h.ptype,h.hlen,h.plen,h.oper⟩

theorem loadArp_eq (o : ByteOrder) {pkt : Frame} {a : ℕ} (old : ArpStruct)
    (h : a + 8 ≤ pkt.length) : loadArp o pkt (8*a) old = (headerAt ArpT pkt a).struct := by
  have h1 : loadHalf o pkt a = be 16 pkt a := loadHalf_eq o (by omega)
  have h2 : loadHalf o pkt (a + 2) = be 16 pkt (a + 2) := loadHalf_eq o (by omega)
  have h3 : loadByte pkt (a + 4) = be 8 pkt (a + 4) := loadByte_eq (by omega)
  have h4 : loadByte pkt (a + 5) = be 8 pkt (a + 5) := loadByte_eq (by omega)
  have h5 : loadHalf o pkt (a + 6) = be 16 pkt (a + 6) := loadHalf_eq o (by omega)
  rw [headerAt_arp h]
  simp only [loadArp, bytes_mul, bytes_mul_add, Nat.add_assoc, Nat.reduceAdd, Nat.reduceDiv, h1, h2,
    h3, h4, h5, ArpT.struct]

theorem writes_writeArp (o : ByteOrder) (a : ℕ) (h : ArpT) :
    Writes (writeArp o h.struct (8*a)) a (encode h) := by
  have hw := (Writes.nil a).octets rfl (toBytes 2 h.htype)
  have hw := hw.octets rfl (toBytes 2 h.ptype)
  have hw := hw.octets rfl [h.hlen]
  have hw := hw.octets rfl [h.plen]
  have hw := hw.octets rfl (toBytes 2 h.oper)
  rw [ArpT.encode_eq, toBytes_one, toBytes_one]
  unfold writeArp
  simp only [ArpT.struct, bytes_mul, bytes_mul_add, Nat.add_assoc, Nat.reduceAdd, Nat.reduceDiv,
    store_htons]
  simpa using hw

instance : Compiled ArpT where
  Struct := ArpStruct
  zero := ⟨0,0,0,0,0⟩
  bits := 64
  load := loadArp
  write := writeArp
  Represents _ c h := c = h.struct
  bits_eq := rfl
  represents_zero _ := by
    rw [zeroed_eq (x := ⟨0,0,0,0,0⟩) (by decide)]
    rfl
  represents_load o _ _ old := loadArp_eq o old
  writes o a _ h hr := by
    subst hr
    exact writes_writeArp o a h

structure ArpIpv4Struct where
  sha : BitVec 64
  spa : BitVec 32
  tha : BitVec 64
  tpa : BitVec 32

structure ArpIpv4Struct.Represents (o : ByteOrder) (c : ArpIpv4Struct) (h : ArpIpv4T) : Prop where
  sha : HoldsMac o c.sha h.sha
  spa : HoldsIpv4 o c.spa h.spa
  tha : HoldsMac o c.tha h.tha
  tpa : HoldsIpv4 o c.tpa h.tpa

def loadArpIpv4 (o : ByteOrder) (pkt : Frame) (off : ℕ) (old : ArpIpv4Struct) : ArpIpv4Struct :=
  let sha := o.memcpy 8 old.sha (slice pkt (bytes off) 6)
  let off := off + 48
  let spa := o.memcpy 4 old.spa (slice pkt (bytes off) 4)
  let off := off + 32
  let tha := o.memcpy 8 old.tha (slice pkt (bytes off) 6)
  let off := off + 48
  let tpa := o.memcpy 4 old.tpa (slice pkt (bytes off) 4)
  ⟨sha,spa,tha,tpa⟩

def writeArpIpv4 (o : ByteOrder) (c : ArpIpv4Struct) (off : ℕ) (pkt : Frame) : Frame :=
  let pkt := writeOctets pkt (bytes off) ((o.store 8 c.sha).take 6)
  let off := off + 48
  let pkt := writeOctets pkt (bytes off) (o.store 4 c.spa)
  let off := off + 32
  let pkt := writeOctets pkt (bytes off) ((o.store 8 c.tha).take 6)
  let off := off + 48
  writeOctets pkt (bytes off) (o.store 4 c.tpa)

theorem represents_loadArpIpv4 (o : ByteOrder) {pkt : Frame} {a : ℕ} (old : ArpIpv4Struct)
    (h : a + 20 ≤ pkt.length) :
    (loadArpIpv4 o pkt (8*a) old).Represents o (headerAt ArpIpv4T pkt a) := by
  rw [headerAt_arpIpv4 h]
  simp only [loadArpIpv4, bytes_mul, bytes_mul_add, Nat.add_assoc, Nat.reduceAdd, Nat.reduceDiv]
  exact ⟨holdsMac_memcpy o _ (by omega),holdsIpv4_memcpy o _ (by omega),
    holdsMac_memcpy o _ (by omega),holdsIpv4_memcpy o _ (by omega)⟩

theorem writes_writeArpIpv4 (o : ByteOrder) (a : ℕ) {c : ArpIpv4Struct} {h : ArpIpv4T}
    (hr : c.Represents o h) : Writes (writeArpIpv4 o c (8*a)) a (encode h) := by
  have hw := (Writes.nil a).octets rfl (toBytes 6 h.sha)
  have hw := hw.octets rfl (toBytes 4 h.spa)
  have hw := hw.octets rfl (toBytes 6 h.tha)
  have hw := hw.octets rfl (toBytes 4 h.tpa)
  rw [ArpIpv4T.encode_eq]
  unfold writeArpIpv4
  simp only [bytes_mul, bytes_mul_add, Nat.add_assoc, Nat.reduceAdd, Nat.reduceDiv,
    show (o.store 8 c.sha).take 6 = _ from hr.sha, show o.store 4 c.spa = _ from hr.spa,
    show (o.store 8 c.tha).take 6 = _ from hr.tha, show o.store 4 c.tpa = _ from hr.tpa]
  simpa using hw

theorem represents_zeroArpIpv4 (o : ByteOrder) :
    ArpIpv4Struct.Represents o ⟨0,0,0,0⟩ (zeroed ArpIpv4T) := by
  rw [zeroed_eq (x := ⟨0,0,0,0⟩) (by decide)]
  exact ⟨holdsMac_zero o,holdsIpv4_zero o,holdsMac_zero o,holdsIpv4_zero o⟩

theorem bits_arpIpv4 : 160 = 8*Layout.size ArpIpv4T := by rw [size_arpIpv4]

instance : Compiled ArpIpv4T where
  Struct := ArpIpv4Struct
  zero := ⟨0,0,0,0⟩
  bits := 160
  load := loadArpIpv4
  write := writeArpIpv4
  Represents := ArpIpv4Struct.Represents
  bits_eq := bits_arpIpv4
  represents_zero := represents_zeroArpIpv4
  represents_load o _ _ old := represents_loadArpIpv4 o old
  writes o a _ _ := writes_writeArpIpv4 o a

end Arp

/-- `struct my_ingress_headers_t`. -/
structure HeadersStruct where
  ethernet : HeaderStruct EthernetT
  arp : HeaderStruct ArpT
  arpIpv4 : HeaderStruct ArpIpv4T

structure HeadersStruct.Represents (o : ByteOrder) (c : HeadersStruct) (h : Headers) : Prop where
  ethernet : c.ethernet.Represents o h.ethernet
  arp : c.arp.Represents o h.arp
  arpIpv4 : c.arpIpv4.Represents o h.arpIpv4

abbrev INGRESS_ARP_TABLE_ACT_INGRESS_ARP_REPLY : BitVec 32 := 1
abbrev INGRESS_ARP_TABLE_ACT_INGRESS_DROP : BitVec 32 := 2

def defaultMissAction : ActBpf := ⟨2,[]⟩

section Code
variable (o : ByteOrder)

def parseArpBlock (pkt : Frame) : Code HeadersStruct :=
  extractBlock o pkt (·.arp) (fun h x => {h with arp := x}) <|
  extractBlock o pkt (·.arpIpv4) (fun h x => {h with arpIpv4 := x}) fun l =>
    if l.hdr.arp.fields.oper = 1 then acceptLabel l
    else defaultCase l.hdr.arp.fields.oper (rejectLabel NoError) l

def startBlock (pkt : Frame) : Code HeadersStruct :=
  extractBlock o pkt (·.ethernet) (fun h x => {h with ethernet := x}) fun l =>
    if l.hdr.ethernet.fields.etherType = 0x806 then parseArpBlock o pkt l
    else defaultCase l.hdr.ethernet.fields.etherType acceptLabel l

def arpTableBlock (ifindex : BitVec 32) (value : ActBpf) (c : ControlState HeadersStruct Unit) :
    ControlState HeadersStruct Unit :=
  if value.actId = INGRESS_ARP_TABLE_ACT_INGRESS_ARP_REPLY then
    let c := {c with hdr.arp.fields.oper := 2}
    let c := {c with hdr.arpIpv4.fields.tha := c.hdr.arpIpv4.fields.sha}
    let c := {c with hdr.arpIpv4.fields.sha := value.u64At o 0}
    let c := {c with hdr.arpIpv4.fields.spa := c.hdr.arpIpv4.fields.tpa}
    let c := {c with hdr.ethernet.fields.dstAddr := c.hdr.ethernet.fields.srcAddr}
    let c := {c with hdr.ethernet.fields.srcAddr := value.u64At o 0}
    {c with compilerMeta := c.compilerMeta.sendToPort ifindex}
  else if value.actId = INGRESS_ARP_TABLE_ACT_INGRESS_DROP then
    {c with compilerMeta := c.compilerMeta.dropPacket}
  else c

def ingressBlock (ifindex : BitVec 32) (entries : Entries) (c : ControlState HeadersStruct Unit) :
    Entries × ControlState HeadersStruct Unit :=
  match tblRead entries (some defaultMissAction) (o.store 4 c.hdr.arpIpv4.fields.tpa) with
  | none => (entries,c)
  | some value => (entries,arpTableBlock o ifindex value c)

def generated : Program Entries HeadersStruct Unit where
  hdr := ⟨.zero EthernetT,.zero ArpT,.zero ArpIpv4T⟩
  usermeta := ()
  start := startBlock o
  control := ingressBlock o
  deparser h _ := [emission o h.ethernet,emission o h.arp,emission o h.arpIpv4]

end Code

def source : Source ArpTable Headers Unit where
  parser := parser
  usermeta := ()
  main t istd c := (t,ingress t istd c)
  deparser := deparser

theorem run_source (t : ArpTable) (port : Dev) (pkt : Frame) :
    source.run t port pkt = (t,tcIngressFunc t port pkt) := by
  unfold tcIngressFunc runPipeline
  cases hp : parser pkt with
  | none => simp only [Source.run, source, hp]
  | some p => simp only [Source.run, source, hp, Source.control, Source.emitted]

def ArpAction.Holds (o : ByteOrder) (v : ActBpf) : ArpAction → Prop
  | .arpReply rmac =>
    v.actId = INGRESS_ARP_TABLE_ACT_INGRESS_ARP_REPLY ∧ HoldsMac o (v.u64At o 0) rmac
  | .drop => v.actId = INGRESS_ARP_TABLE_ACT_INGRESS_DROP

def Programmed (o : ByteOrder) : Entries → ArpTable → Prop := Holds (toBytes 4) (ArpAction.Holds o)

theorem simulates_parseEthernet (o : ByteOrder) (pkt : Frame) :
    Simulates (HeadersStruct.Represents o) pkt (startBlock o pkt) (parseEthernet pkt) := by
  refine .extract (fun hc ha x y hr hx => ⟨hx,hr.arp,hr.arpIpv4⟩) (.select ?_ ?_ (.default .accept))
  · intro l c hr
    rw [hr.ethernet.fields.etherType]
  · refine .extract (fun hc ha x y hr hx => ⟨hr.ethernet,hx,hr.arpIpv4⟩) ?_
    refine .extract (fun hc ha x y hr hx => ⟨hr.ethernet,hr.arp,hx⟩)
      (.select ?_ .accept (.default .reject))
    intro l c hr
    rw [show l.hdr.arp.fields = c.hdr.arp.fields.struct from hr.arp.fields]
    rfl

theorem represents_init (o : ByteOrder) :
    HeadersStruct.Represents o (generated o).hdr Headers.init :=
  ⟨HeaderStruct.represents_zero o,HeaderStruct.represents_zero o,HeaderStruct.represents_zero o⟩

theorem parser_laid {pkt : Frame} {p : Parsed Headers} (hp : parser pkt = some p) :
    pkt.length < 14 ∧ p = ⟨Headers.init,0,.packetTooShort⟩ ∨
      Laid 14 (deparser · ()) pkt p.hdr p.offset := by
  rw [parser, parseEthernet] at hp
  refine laid_or_short (fun x => ?_) ?_ hp
  · simp [deparser, Headers.init, Header.absent]
  · refine .select ?_ (.accept fun c hc => hc.1.1)
    refine .extract (R := fun c => Laid 14 (deparser · ()) pkt c.hdr c.offset ∧
      c.hdr.arpIpv4 = .absent ArpIpv4T) (fun c hc => hc.1.1) ?_ ?_
    · rintro c ⟨⟨hl,y,hy⟩,_⟩ hfit
      refine ⟨hl.extract hfit ?_,by rw [hy]; rfl⟩
      simp [hy, deparser, Headers.init, Header.absent]
    · refine .extract (R := fun c => Laid 14 (deparser · ()) pkt c.hdr c.offset)
        (fun c hc => hc.1) ?_ (.select (.accept fun c hc => hc.1) .reject)
      rintro c ⟨hl,hz⟩ hfit
      refine hl.extract hfit ?_
      simp [hz, deparser, Header.absent]

theorem length_emitted (t : ArpTable) (port : Dev) (p : Parsed Headers) :
    (source.emitted t port p).length = (deparser p.hdr ()).length := by
  simp only [Source.emitted, Source.control, source, ingress]
  cases arpTable t p.hdr.arpIpv4.fields.tpa with
  | arpReply rmac =>
    simp only [ArpAction.apply, arpReply, deparser, List.length_append, length_emit]
  | drop => rfl

theorem emits_deparser {o : ByteOrder} {c : HeadersStruct} {h : Headers} (hr : c.Represents o h) :
    ∃ bss, List.Forall₂ Emits ((generated o).deparser c ()) bss ∧ bss.flatten = deparser h () := by
  refine ⟨_,.cons (emits_emission hr.ethernet)
    (.cons (emits_emission hr.arp) (.cons (emits_emission hr.arpIpv4) .nil)),?_⟩
  simp [deparser]

theorem controlledAs {o : ByteOrder} {entries : Entries} {t : ArpTable}
    (ht : Programmed o entries t) {hdr : HeadersStruct} {h : Headers} (hr : hdr.Represents o h)
    {m : CompilerMeta} {out : GlobalMeta} (hm : MetaAs m out) (istd : MainInput) :
    ControlledAs (generated o) source (Programmed o)
      (ingressBlock o istd.inputPort.val entries ⟨hdr,(),m⟩) (t,ingress t istd ⟨h,(),out⟩) := by
  have hk : o.store 4 hdr.arpIpv4.fields.tpa = toBytes 4 h.arpIpv4.fields.tpa :=
    hr.arpIpv4.fields.tpa
  obtain ⟨a,ha,hv⟩ := ht.tblRead_default (d := defaultMissAction) (v := .drop) rfl
    h.arpIpv4.fields.tpa
  unfold ingressBlock ingress
  simp only [hk, ha]
  change ArpAction.Holds o a (arpTable t h.arpIpv4.fields.tpa) at hv
  cases hn : arpTable t h.arpIpv4.fields.tpa with
  | arpReply rmac =>
    rw [hn] at hv
    obtain ⟨hi,hmac⟩ := hv
    rw [arpTableBlock, if_pos hi]
    refine ⟨ht,emits_deparser ?_,rfl,rfl⟩
    have he := hr.ethernet
    have hq := hr.arpIpv4
    refine ⟨⟨⟨he.fields.srcAddr,hmac,he.fields.etherType⟩,he.isValid⟩,⟨?_,hr.arp.isValid⟩,
      ⟨⟨hmac,hq.fields.tpa,hq.fields.sha,hq.fields.tpa⟩,hq.isValid⟩⟩
    have harp : hdr.arp.fields = h.arp.fields.struct := hr.arp.fields
    show ArpStruct.mk _ _ _ _ _ = _
    rw [harp]
    rfl
  | drop =>
    rw [hn] at hv
    have hi : a.actId = INGRESS_ARP_TABLE_ACT_INGRESS_DROP := hv
    rw [arpTableBlock, if_neg (by rw [hi]; decide), if_pos hi]
    exact ⟨ht,emits_deparser hr,rfl,hm.egressPort⟩

theorem not_kernel (t : ArpTable) (port : Dev) (f g : Frame) :
    tcIngressFunc t port f ≠ .kernel g := by
  cases hp : parser f with
  | none =>
    rw [tcIngressFunc, runPipeline, hp]
    exact Verdict.noConfusion
  | some p =>
    rw [tcIngressFunc_parsed hp]
    cases arpTable t p.hdr.arpIpv4.fields.tpa with
    | arpReply rmac => exact Verdict.noConfusion
    | drop => exact Verdict.noConfusion

theorem refines (o : ByteOrder) :
    RefinesInPlace (generated o) source (Programmed o) (HeadersStruct.Represents o) where
  parses pkt m := simulates_parseEthernet o pkt ⟨_,0,0,m⟩ ⟨Headers.init,0⟩
    ⟨represents_init o,rfl,rfl,Nat.zero_le _⟩
  controls port _ _ _ hs hr hd he := controlledAs hs hr ⟨hd,he⟩ ⟨port,_⟩
  framed t port hp := (framed_of_laid (parser_laid hp) rfl (length_emitted t port _)).1
  again t port pkt f hk := by
    rw [run_source] at hk
    exact absurd hk (not_kernel t port pkt f)
  unresized t port hp := (framed_of_laid (parser_laid hp) rfl (length_emitted t port _)).2

theorem control_tables (o : ByteOrder) (ifindex : BitVec 32) (entries : Entries)
    (c : ControlState HeadersStruct Unit) :
    ((generated o).control ifindex entries c).1 = entries := by
  change (ingressBlock o ifindex entries c).1 = entries
  unfold ingressBlock
  split
  · rfl
  · rfl

/-- On either kind of host, and whatever `bpf_skb_adjust_room` does, the generated
program delivers what arp_respond says and leaves its tables alone. -/
theorem arpRespond_delivers (o : ByteOrder) (adjustRoom : AdjustRoom) {entries : Entries}
    {t : ArpTable} (ht : Programmed o entries t) {skb : Skb} {port : Dev} (ha : Arrives skb port) :
    deliver (generated o) adjustRoom entries skb =
      (entries,if Runt skb then .shot else tcIngressFunc t port skb.data) := by
  have h := (refines o).deliver adjustRoom ha ht
  rw [run_source] at h
  exact Prod.ext (deliver_tables (control_tables o) adjustRoom entries skb) h.2

def sampleRequest : Frame :=
  encode (⟨0xffffffffffff,0x020304050601,0x0806⟩ : EthernetT) ++
    (encode (⟨1,0x0800,6,4,1⟩ : ArpT) ++
    encode (⟨0x020304050601,0x0a000001,0,0x0a000002⟩ : ArpIpv4T))

theorem arpFrame_sampleRequest : ArpFrame sampleRequest := ⟨by decide +kernel,by decide⟩

theorem tcIngressFunc_sampleRequest (t : ArpTable) (port : Dev) :
    tcIngressFunc t port sampleRequest =
      outcome port (fun rmac => reply rmac sampleRequest) (arpTable t 0x0a000002) := by
  have ho : (arpOf sampleRequest).oper = ARP_REQ := by decide +kernel
  have ht : (arpIpv4Of sampleRequest).tpa = 0x0a000002 := by decide +kernel
  rw [tcIngressFunc_arpFrame arpFrame_sampleRequest, if_pos ho, ht]

theorem arpRespond_delivers_request :
    deliver (generated .big) (fun _ _ => none)
      (fun _ => some ⟨1,[0x13,0x13,0x13,0x13,0x13,0x13,0xaa,0xaa]⟩)
      ⟨sampleRequest,[],dev1.val,.zero⟩ =
        (fun _ => some ⟨1,[0x13,0x13,0x13,0x13,0x13,0x13,0xaa,0xaa]⟩,
          .redirect dev1.val (reply 0x131313131313 sampleRequest)) := by
  have hs : Programmed .big (fun _ => some ⟨1,[0x13,0x13,0x13,0x13,0x13,0x13,0xaa,0xaa]⟩)
      (fun _ => some (.arpReply 0x131313131313)) := by
    intro _
    refine .some ⟨rfl,?_⟩
    unfold HoldsMac
    decide
  have hd := arpRespond_delivers .big (fun _ _ => none) hs (arrives_bare sampleRequest dev1)
  rw [if_neg (not_runt_bare sampleRequest dev1), tcIngressFunc_sampleRequest] at hd
  exact hd

end P4tcExamples.ArpRespond
