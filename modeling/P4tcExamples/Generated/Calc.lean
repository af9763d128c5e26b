import P4tcExamples.Generated.Tables
import P4tcExamples.Calc.Replies

/-! # calc as generated

`calc_parser.c` and `calc_control_blocks.c`. The three members that the signature
compares are looked ahead for one by one and packed into one 24-bit value. The MAC
addresses change places through a temporary in host order. The entries of the table
are constants of the P4 program and stand in the template.
-/
namespace P4tcExamples.Calc
open BitFields Generated

section P4calc

structure P4calcStruct where
  p : BitVec 8
  four : BitVec 8
  ver : BitVec 8
  op : BitVec 8
  operandA : BitVec 32
  operandB : BitVec 32
  res : BitVec 32

def loadP4calc (o : ByteOrder) (pkt : Frame) (off : ℕ) (_ : P4calcStruct) : P4calcStruct :=
  let p := loadByte pkt (bytes off)
  let off := off + 8
  let four := loadByte pkt (bytes off)
  let off := off + 8
  let ver := loadByte pkt (bytes off)
  let off := off + 8
  let op := loadByte pkt (bytes off)
  let off := off + 8
  let operandA := loadWord o pkt (bytes off)
  let off := off + 32
  let operandB := loadWord o pkt (bytes off)
  let off := off + 32
  let res := loadWord o pkt (bytes off)
  ⟨p,four,ver,op,operandA,operandB,res⟩

def writeP4calc (o : ByteOrder) (c : P4calcStruct) (off : ℕ) (pkt : Frame) : Frame :=
  let pkt := writeOctets pkt (bytes off) [c.p]
  let off := off + 8
  let pkt := writeOctets pkt (bytes off) [c.four]
  let off := off + 8
  let pkt := writeOctets pkt (bytes off) [c.ver]
  let off := off + 8
  let pkt := writeOctets pkt (bytes off) [c.op]
  let off := off + 8
  let pkt := writeOctets pkt (bytes off) (o.store 4 (bpfHtonl o c.operandA))
  let off := off + 32
  let pkt := writeOctets pkt (bytes off) (o.store 4 (bpfHtonl o c.operandB))
  let off := off + 32
  writeOctets pkt (bytes off) (o.store 4 (bpfHtonl o c.res))

/-- All members are numbers in host order. -/
def P4calcT.struct (h : P4calcT) : P4calcStruct :=
  ⟨h.p,h.four,h.ver,h.op,h.operandA,h.operandB,h.res⟩

theorem loadP4calc_eq (o : ByteOrder) {pkt : Frame} {a : ℕ} (old : P4calcStruct)
    (h : a + 16 ≤ pkt.length) : loadP4calc o pkt (8*a) old = (headerAt P4calcT pkt a).struct := by
  have h0 : loadByte pkt a = be 8 pkt a := loadByte_eq (by omega)
  have h1 : loadByte pkt (a + 1) = be 8 pkt (a + 1) := loadByte_eq (by omega)
  have h2 : loadByte pkt (a + 2) = be 8 pkt (a + 2) := loadByte_eq (by omega)
  have h3 : loadByte pkt (a + 3) = be 8 pkt (a + 3) := loadByte_eq (by omega)
  have h4 : loadWord o pkt (a + 4) = be 32 pkt (a + 4) := loadWord_eq o (by omega)
  have h8 : loadWord o pkt (a + 8) = be 32 pkt (a + 8) := loadWord_eq o (by omega)
  have h12 : loadWord o pkt (a + 12) = be 32 pkt (a + 12) := loadWord_eq o (by omega)
  rw [headerAt_p4calc h]
  simp only [loadP4calc, bytes_mul, bytes_mul_add, Nat.add_assoc, Nat.reduceAdd, Nat.reduceDiv, h0,
    h1, h2, h3, h4, h8, h12, P4calcT.struct]

theorem writes_writeP4calc (o : ByteOrder) (a : ℕ) (h : P4calcT) :
    Writes (writeP4calc o h.struct (8*a)) a (encode h) := by
  have hw := (Writes.nil a).octets rfl [h.p]
  have hw := hw.octets rfl [h.four]
  have hw := hw.octets rfl [h.ver]
  have hw := hw.octets rfl [h.op]
  have hw := hw.octets rfl (toBytes 4 h.operandA)
  have hw := hw.octets rfl (toBytes 4 h.operandB)
  have hw := hw.octets rfl (toBytes 4 h.res)
  rw [P4calcT.encode_eq, toBytes_one, toBytes_one, toBytes_one, toBytes_one]
  unfold writeP4calc
  simp only [P4calcT.struct, bytes_mul, bytes_mul_add, Nat.add_assoc, Nat.reduceAdd, Nat.reduceDiv,
    store_htonl]
  simpa using hw

instance : Compiled P4calcT where
  Struct := P4calcStruct
  zero := ⟨0,0,0,0,0,0,0⟩
  bits := 128
  load := loadP4calc
  write := writeP4calc
  Represents _ c h := c = h.struct
  bits_eq := rfl
  represents_zero _ := by
    rw [zeroed_eq (x := ⟨0,0,0,0,0,0,0⟩) (by decide)]
    rfl
  represents_load o _ _ old := loadP4calc_eq o old
  writes o a _ h hr := by
    subst hr
    exact writes_writeP4calc o a h

end P4calc

/-- `struct headers_t`. -/
structure HeadersStruct where
  ethernet : HeaderStruct EthernetT
  p4calc : HeaderStruct P4calcT

structure HeadersStruct.Represents (o : ByteOrder) (c : HeadersStruct) (h : Headers) : Prop where
  ethernet : c.ethernet.Represents o h.ethernet
  p4calc : c.p4calc.Represents o h.p4calc

abbrev ACT_OPERATION_ADD : BitVec 32 := 1
abbrev ACT_OPERATION_SUB : BitVec 32 := 2
abbrev ACT_OPERATION_AND : BitVec 32 := 3
abbrev ACT_OPERATION_OR : BitVec 32 := 4
abbrev ACT_OPERATION_XOR : BitVec 32 := 5
abbrev ACT_OPERATION_DROP : BitVec 32 := 6

/-- The entries that `calc.template` creates, and its `default_miss_action`. -/
def calculateEntries : Entries := fun key =>
  if key = [0x2b] then some ⟨1,[]⟩
  else if key = [0x2d] then some ⟨2,[]⟩
  else if key = [0x26] then some ⟨3,[]⟩
  else if key = [0x7c] then some ⟨4,[]⟩
  else if key = [0x5e] then some ⟨5,[]⟩
  else none

def defaultMissAction : ActBpf := ⟨6,[]⟩

def mask24 : BitVec 32 := (1 <<< 24) - 1

/-- `select_0` of `check_p4calc`. -/
def select0 (p four ver : BitVec 8) : BitVec 32 :=
  ((((((p.setWidth 16).setWidth 32 <<< 8) ||| ((four.setWidth 16).setWidth 32 &&& 0xff)) <<< 8) &&&
    mask24) ||| ((ver.setWidth 32 &&& 0xff) &&& mask24)) &&& mask24

section Code
variable (o : ByteOrder)

def parseP4calcBlock (pkt : Frame) : Code HeadersStruct :=
  extractBlock o pkt (·.p4calc) (fun h x => {h with p4calc := x}) acceptLabel

def checkP4calcBlock (pkt : Frame) : Code HeadersStruct :=
  lookaheadBlock (α := P4calcT) o pkt Compiled.zero fun tmp0 =>
  lookaheadBlock (α := P4calcT) o pkt Compiled.zero fun tmp2 =>
  lookaheadBlock (α := P4calcT) o pkt Compiled.zero fun tmp4 l =>
    if select0 tmp0.p tmp2.four tmp4.ver = 0x503401 then parseP4calcBlock o pkt l
    else defaultCase (select0 tmp0.p tmp2.four tmp4.ver) acceptLabel l

def startBlock (pkt : Frame) : Code HeadersStruct :=
  extractBlock o pkt (·.ethernet) (fun h x => {h with ethernet := x}) fun l =>
    if l.hdr.ethernet.fields.etherType = 0x1234 then checkP4calcBlock o pkt l
    else defaultCase l.hdr.ethernet.fields.etherType acceptLabel l

/-- The five actions differ in the operator alone. -/
def operationBlock (f : BitVec 32 → BitVec 32 → BitVec 32) (ifindex : BitVec 32)
    (c : ControlState HeadersStruct Unit) : ControlState HeadersStruct Unit :=
  let c := {c with
    hdr.p4calc.fields.res := f c.hdr.p4calc.fields.operandA c.hdr.p4calc.fields.operandB}
  let tmp5 := bpfBe64ToCpu o c.hdr.ethernet.fields.dstAddr
  let c := {c with hdr.ethernet.fields.dstAddr := c.hdr.ethernet.fields.srcAddr}
  let c := {c with hdr.ethernet.fields.srcAddr := bpfCpuToBe64 o tmp5}
  {c with compilerMeta := c.compilerMeta.sendToPort ifindex}

def calculateBlock (ifindex : BitVec 32) (value : ActBpf) (c : ControlState HeadersStruct Unit) :
    ControlState HeadersStruct Unit :=
  if value.actId = ACT_OPERATION_ADD then operationBlock o (· + ·) ifindex c
  else if value.actId = ACT_OPERATION_SUB then operationBlock o (· - ·) ifindex c
  else if value.actId = ACT_OPERATION_AND then operationBlock o (· &&& ·) ifindex c
  else if value.actId = ACT_OPERATION_OR then operationBlock o (· ||| ·) ifindex c
  else if value.actId = ACT_OPERATION_XOR then operationBlock o (· ^^^ ·) ifindex c
  else if value.actId = ACT_OPERATION_DROP then {c with compilerMeta := c.compilerMeta.dropPacket}
  else c

def mainBlock (ifindex : BitVec 32) (_ : Unit) (c : ControlState HeadersStruct Unit) :
    Unit × ControlState HeadersStruct Unit :=
  if c.hdr.p4calc.ebpfValid ≠ 0 then
    match tblRead calculateEntries (some defaultMissAction) [c.hdr.p4calc.fields.op] with
    | none => ((),c)
    | some value => ((),calculateBlock o ifindex value c)
  else ((),{c with compilerMeta := c.compilerMeta.dropPacket})

def generated : Program Unit HeadersStruct Unit where
  hdr := ⟨.zero EthernetT,.zero P4calcT⟩
  usermeta := ()
  start := startBlock o
  control := mainBlock o
  deparser h _ := [emission o h.ethernet,emission o h.p4calc]

end Code

def source : Source Unit Headers Unit where
  parser := parser
  usermeta := ()
  main _ istd c := ((),main istd c)
  deparser := deparser

theorem run_source (port : Dev) (pkt : Frame) :
    source.run () port pkt = ((),tcIngressFunc port pkt) := by
  unfold tcIngressFunc runPipeline
  cases hp : parser pkt with
  | none => simp only [Source.run, source, hp]
  | some p => simp only [Source.run, source, hp, Source.control, Source.emitted]

theorem select0_eq (p four ver : BitVec 8) : select0 p four ver = (p ++ four ++ ver).setWidth 32 := by
  apply BitVec.eq_of_getLsbD_eq
  intro i hi
  have hb : ∀ j : Fin 32, (select0 p four ver).getLsbD j = ((p ++ four ++ ver).setWidth 32).getLsbD j := by
    intro j
    simp only [select0, mask24, BitVec.getLsbD_setWidth, BitVec.getLsbD_or, BitVec.getLsbD_and,
      BitVec.getLsbD_shiftLeft, BitVec.getLsbD_append]
    fin_cases j <;> simp
  exact hb ⟨i,hi⟩

theorem append_inj {u v : ℕ} {a b : BitVec u} {c d : BitVec v} (h : a ++ c = b ++ d) :
    a = b ∧ c = d := by
  constructor
  · rw [← BitVec.extractLsb'_append_eq_left (a := a) (b := c), h, BitVec.extractLsb'_append_eq_left]
  · rw [← BitVec.extractLsb'_append_eq_right (a := a) (b := c), h, BitVec.extractLsb'_append_eq_right]

/-- The packed comparison is the comparison of the three members. -/
theorem select0_iff (p four ver : BitVec 8) :
    select0 p four ver = 0x503401 ↔ p = P4CALC_P ∧ four = P4CALC_4 ∧ ver = P4CALC_VER := by
  have hc : (0x503401 : BitVec 32) = (P4CALC_P ++ P4CALC_4 ++ P4CALC_VER).setWidth 32 := by decide
  rw [select0_eq, hc]
  constructor
  · intro h
    have ht := congrArg BitVec.toNat h
    rw [BitVec.toNat_setWidth_of_le (by decide), BitVec.toNat_setWidth_of_le (by decide)] at ht
    obtain ⟨hpf,hv⟩ := append_inj (BitVec.eq_of_toNat_eq ht)
    obtain ⟨hp,hf⟩ := append_inj hpf
    exact ⟨hp,hf,hv⟩
  · rintro ⟨rfl,rfl,rfl⟩
    rfl

theorem simulates_parseP4calc (o : ByteOrder) (pkt : Frame) :
    Simulates (HeadersStruct.Represents o) pkt (parseP4calcBlock o pkt) (parseP4calc pkt) :=
  .extract (fun _ _ _ _ hr hx => ⟨hr.ethernet,hx⟩) .accept

theorem simulates_checkP4calc (o : ByteOrder) (pkt : Frame) :
    Simulates (HeadersStruct.Represents o) pkt (checkP4calcBlock o pkt) (checkP4calc pkt) := by
  have hone : checkP4calc pkt = lookahead pkt fun l0 : P4calcT => lookahead pkt fun l2 : P4calcT =>
      lookahead pkt fun l4 : P4calcT =>
        if l0.p = P4CALC_P ∧ l2.four = P4CALC_4 ∧ l4.ver = P4CALC_VER then parseP4calc pkt
        else accept := by
    simp only [lookahead_lookahead]
    rfl
  rw [hone]
  refine .lookahead fun tmp0 l0 h0 => .lookahead fun tmp2 l2 h2 => .lookahead fun tmp4 l4 h4 => ?_
  have hsel : select0 tmp0.p tmp2.four tmp4.ver = 0x503401 ↔
      l0.p = P4CALC_P ∧ l2.four = P4CALC_4 ∧ l4.ver = P4CALC_VER := by
    rw [show tmp0 = l0.struct from h0, show tmp2 = l2.struct from h2,
      show tmp4 = l4.struct from h4]
    exact select0_iff l0.p l2.four l4.ver
  by_cases h : l0.p = P4CALC_P ∧ l2.four = P4CALC_4 ∧ l4.ver = P4CALC_VER
  · simp only [if_pos h, if_pos (hsel.mpr h)]
    exact simulates_parseP4calc o pkt
  · simp only [if_neg h, if_neg (mt hsel.mp h)]
    exact .default .accept

theorem simulates_start (o : ByteOrder) (pkt : Frame) :
    Simulates (HeadersStruct.Represents o) pkt (startBlock o pkt) (start pkt) := by
  refine .extract (fun hc ha x y hr hx => ⟨hx,hr.p4calc⟩)
    (.select ?_ (simulates_checkP4calc o pkt) (.default .accept))
  intro l c hr
  rw [hr.ethernet.fields.etherType]

theorem represents_init (o : ByteOrder) :
    HeadersStruct.Represents o (generated o).hdr Headers.init :=
  ⟨HeaderStruct.represents_zero o,HeaderStruct.represents_zero o⟩

theorem parser_laid {pkt : Frame} {p : Parsed Headers} (hp : parser pkt = some p) :
    pkt.length < 14 ∧ p = ⟨Headers.init,0,.packetTooShort⟩ ∨
      Laid 14 (deparser · ()) pkt p.hdr p.offset := by
  rw [parser, start] at hp
  refine laid_or_short (fun x => ?_) ?_ hp
  · simp [deparser, Headers.init, Header.absent]
  · refine .select (.lookahead (fun c hc => hc.1.1) fun l => ?_) (.accept fun c hc => hc.1.1)
    split
    · refine .laid_accept (fun c hc => hc.1.1) fun c x hc => ?_
      obtain ⟨⟨_,y,hy⟩,_⟩ := hc
      simp [hy, deparser, Headers.init, Header.absent]
    · exact .accept fun c hc => hc.1.1

theorem main_isValid (istd : MainInput) (c : Context) :
    (main istd c).hdr.ethernet.isValid = c.hdr.ethernet.isValid ∧
      (main istd c).hdr.p4calc.isValid = c.hdr.p4calc.isValid := by
  unfold main
  split
  · rw [Operation.apply_eq]
    split
    · exact ⟨rfl,rfl⟩
    · exact ⟨rfl,rfl⟩
  · exact ⟨rfl,rfl⟩

theorem length_emitted (port : Dev) (p : Parsed Headers) :
    (source.emitted () port p).length = (deparser p.hdr ()).length := by
  obtain ⟨he,hc⟩ := main_isValid ⟨port,p.parserError⟩ ⟨p.hdr,(),GlobalMeta.init⟩
  simp only [Source.emitted, Source.control, source, deparser, List.length_append, length_emit, he, hc]

theorem emits_deparser {o : ByteOrder} {c : HeadersStruct} {h : Headers} (hr : c.Represents o h) :
    ∃ bss, List.Forall₂ Emits ((generated o).deparser c ()) bss ∧ bss.flatten = deparser h () := by
  refine ⟨_,.cons (emits_emission hr.ethernet) (.cons (emits_emission hr.p4calc) .nil),?_⟩
  simp [deparser]

def Operation.actId : Operation → BitVec 32
  | .add => ACT_OPERATION_ADD
  | .sub => ACT_OPERATION_SUB
  | .and => ACT_OPERATION_AND
  | .or => ACT_OPERATION_OR
  | .xor => ACT_OPERATION_XOR
  | .drop => ACT_OPERATION_DROP

/-- The template programs the constant entries of the source. -/
theorem tblRead_calculate (op : BitVec 8) :
    tblRead calculateEntries (some defaultMissAction) [op] = some ⟨(calculate op).actId,[]⟩ := by
  unfold tblRead calculateEntries calculate
  simp only [List.cons.injEq, and_true]
  split
  · rfl
  · split
    · rfl
    · split
      · rfl
      · split
        · rfl
        · split
          · rfl
          · rfl

structure StateAs (o : ByteOrder) (c : ControlState HeadersStruct Unit) (x : Context) : Prop where
  hdr : c.hdr.Represents o x.hdr
  out : MetaAs c.compilerMeta x.out

theorem StateAs.operationBlock {o : ByteOrder} {c : ControlState HeadersStruct Unit} {x : Context}
    (h : StateAs o c x) (f : BitVec 32 → BitVec 32 → BitVec 32) (istd : MainInput) :
    StateAs o (operationBlock o f istd.inputPort.val c) (operation f istd x) := by
  have he := h.hdr.ethernet
  have hswap : bpfCpuToBe64 o (bpfBe64ToCpu o c.hdr.ethernet.fields.dstAddr) =
      c.hdr.ethernet.fields.dstAddr := hton_hton o (show 64 = 8*8 from rfl) _
  have hcalc : c.hdr.p4calc.fields = x.hdr.p4calc.fields.struct := h.hdr.p4calc.fields
  refine ⟨⟨⟨⟨he.fields.srcAddr,?_,he.fields.etherType⟩,he.isValid⟩,⟨?_,h.hdr.p4calc.isValid⟩⟩,⟨rfl,rfl⟩⟩
  · show HoldsMac o (bpfCpuToBe64 o (bpfBe64ToCpu o c.hdr.ethernet.fields.dstAddr)) _
    rw [hswap]
    exact he.fields.dstAddr
  · show P4calcStruct.mk _ _ _ _ _ _ _ = _
    rw [hcalc]
    rfl

theorem StateAs.calculateBlock {o : ByteOrder} {c : ControlState HeadersStruct Unit} {x : Context}
    (h : StateAs o c x) (a : Operation) (istd : MainInput) :
    StateAs o (calculateBlock o istd.inputPort.val ⟨a.actId,[]⟩ c) (a.apply istd x) := by
  cases a with
  | add => exact h.operationBlock (· + ·) istd
  | sub => exact h.operationBlock (· - ·) istd
  | and => exact h.operationBlock (· &&& ·) istd
  | or => exact h.operationBlock (· ||| ·) istd
  | xor => exact h.operationBlock (· ^^^ ·) istd
  | drop => exact ⟨h.hdr,h.out.dropPacket⟩

theorem StateAs.mainBlock {o : ByteOrder} {c : ControlState HeadersStruct Unit} {x : Context}
    (h : StateAs o c x) (istd : MainInput) :
    StateAs o (mainBlock o istd.inputPort.val () c).2 (main istd x) := by
  have hop : c.hdr.p4calc.fields.op = x.hdr.p4calc.fields.op := by
    rw [show c.hdr.p4calc.fields = x.hdr.p4calc.fields.struct from h.hdr.p4calc.fields]
    rfl
  unfold Calc.mainBlock main
  by_cases hv : x.hdr.p4calc.isValid = true
  · simp only [if_pos hv, if_pos (h.hdr.p4calc.isValid.mpr hv), hop, tblRead_calculate]
    exact h.calculateBlock _ istd
  · simp only [if_neg hv, if_neg (mt h.hdr.p4calc.isValid.mp hv)]
    exact ⟨h.hdr,h.out.dropPacket⟩

theorem not_kernel (port : Dev) (f g : Frame) : tcIngressFunc port f ≠ .kernel g := by
  rw [tcIngressFunc, runPipeline]
  cases parser f with
  | none => exact Verdict.noConfusion
  | some p =>
    simp only [main]
    split
    · rw [Operation.apply_eq]
      split
      · simp only [sendBack, dispatch_send]
        exact Verdict.noConfusion
      · simp only [operationDrop, dispatch_drop]
        exact Verdict.noConfusion
    · simp only [operationDrop, dispatch_drop]
      exact Verdict.noConfusion

theorem refines (o : ByteOrder) :
    RefinesInPlace (generated o) source (fun _ _ => True) (HeadersStruct.Represents o) where
  parses pkt m := simulates_start o pkt ⟨_,0,0,m⟩ ⟨Headers.init,0⟩
    ⟨represents_init o,rfl,rfl,Nat.zero_le _⟩
  controls := by
    intro pkt p _ _ port hdr m _ _ hr hd he
    have hc : StateAs o ⟨hdr,(),m⟩ ⟨p.hdr,(),GlobalMeta.init⟩ := ⟨hr,⟨hd,he⟩⟩
    have h := hc.mainBlock ⟨port,p.parserError⟩
    exact ⟨trivial,emits_deparser h.hdr,h.out.drop,h.out.egressPort⟩
  framed t port hp := (framed_of_laid (parser_laid hp) rfl (length_emitted port _)).1
  again t port pkt f hk := by
    rw [run_source] at hk
    exact absurd hk (not_kernel port pkt f)
  unresized t port hp := (framed_of_laid (parser_laid hp) rfl (length_emitted port _)).2

/-- On either kind of host, and whatever `bpf_skb_adjust_room` does, the generated
program with the table of its template delivers what calc says. -/
theorem calc_delivers (o : ByteOrder) (adjustRoom : AdjustRoom) {skb : Skb} {port : Dev}
    (ha : Arrives skb port) :
    (deliver (generated o) adjustRoom () skb).2 =
      if Runt skb then .shot else tcIngressFunc port skb.data := by
  have h := (refines o).deliver adjustRoom (s := ()) (t := ()) ha trivial
  rw [h.2, run_source]

def sampleRequest : Frame :=
  encode (⟨0x000400000000,0x020304050601,0x1234⟩ : EthernetT) ++
    encode (⟨0x50,0x34,0x01,0x2d,3,5,0xdeadbabe⟩ : P4calcT)

theorem calc_delivers_request :
    (deliver (generated .little) (fun _ _ => none) () ⟨sampleRequest,[],dev1.val,.zero⟩).2 =
      .redirect dev1.val (answer (-2) sampleRequest) := by
  have hd := calc_delivers .little (fun _ _ => none) (arrives_bare sampleRequest dev1)
  have hr : Request sampleRequest :=
    request_iff_signed.mpr ⟨by decide,by decide,by decide,by decide,by decide⟩
  have ho : (calculate (calcOf sampleRequest).op).compute (calcOf sampleRequest).operandA
      (calcOf sampleRequest).operandB = some (-2) := by decide +kernel
  refine hd.trans ((tcIngressFunc_request hr dev1).trans ?_)
  rw [ho]

end P4tcExamples.Calc
