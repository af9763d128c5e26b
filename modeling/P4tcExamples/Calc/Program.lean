import P4tcExamples.Pna.Rewrite

/-! # The calc program

`calc_parser.p4` and `calc.p4`. The parser looks ahead for the signature before it
extracts the `p4calc` header; every frame without that header, whatever exit the
parser took, is dropped by the control.
-/
namespace P4tcExamples.Calc
open BitFields

structure P4calcT where
  p : BitVec 8
  four : BitVec 8
  ver : BitVec 8
  op : BitVec 8
  operandA : BitVec 32
  operandB : BitVec 32
  res : BitVec 32
deriving DecidableEq, Repr

instance : Layout P4calcT where
  widths := [8,8,8,8,32,32,32]
  size := 16
  aligned := rfl
  fields :=
    { toFun := fun h => (h.p,h.four,h.ver,h.op,h.operandA,h.operandB,h.res,())
      invFun := fun (p,f,v,o,a,b,r,_) => ⟨p,f,v,o,a,b,r⟩
      left_inv := fun _ => rfl
      right_inv := fun _ => rfl }

@[simp] theorem size_p4calc : Layout.size P4calcT = 16 := rfl

theorem P4calcT.encode_eq (h : P4calcT) :
    encode h = toBytes 1 h.p ++ (toBytes 1 h.four ++ (toBytes 1 h.ver ++ (toBytes 1 h.op ++
      (toBytes 4 h.operandA ++ (toBytes 4 h.operandB ++ toBytes 4 h.res))))) := by
  change toBytes (1 + (1 + (1 + (1 + (4 + (4 + 4))))))
    (h.p ++ (h.four ++ (h.ver ++ (h.op ++ (h.operandA ++ (h.operandB ++ (h.res ++ 0#0))))))) = _
  rw [toBytes_append _ _ 1 _ rfl, toBytes_append _ _ 1 _ rfl, toBytes_append _ _ 1 _ rfl,
    toBytes_append _ _ 1 _ rfl, toBytes_append _ _ 4 _ rfl, toBytes_append _ _ 4 _ rfl,
    toBytes_append_nil]

structure Headers where
  ethernet : Header EthernetT
  p4calc : Header P4calcT

def Headers.init : Headers := ⟨.absent EthernetT,.absent P4calcT⟩

abbrev P4CALC_ETYPE : BitVec 16 := 0x1234
abbrev P4CALC_P : BitVec 8 := 0x50
abbrev P4CALC_4 : BitVec 8 := 0x34
abbrev P4CALC_VER : BitVec 8 := 0x01
abbrev P4CALC_PLUS : BitVec 8 := 0x2b
abbrev P4CALC_MINUS : BitVec 8 := 0x2d
abbrev P4CALC_AND : BitVec 8 := 0x26
abbrev P4CALC_OR : BitVec 8 := 0x7c
abbrev P4CALC_CARET : BitVec 8 := 0x5e

def parseP4calc (pkt : Frame) : Transition Headers :=
  extract pkt (fun h x => {h with p4calc := x}) accept

def checkP4calc (pkt : Frame) : Transition Headers :=
  lookahead pkt fun (l : P4calcT) =>
    if l.p = P4CALC_P ∧ l.four = P4CALC_4 ∧ l.ver = P4CALC_VER then parseP4calc pkt else accept

def start (pkt : Frame) : Transition Headers :=
  extract pkt (fun h x => {h with ethernet := x}) fun c =>
    if c.hdr.ethernet.fields.etherType = P4CALC_ETYPE then checkP4calc pkt c else accept c

def parser (pkt : Frame) : Option (Parsed Headers) := start pkt ⟨Headers.init,0⟩

abbrev Context := Ctx Headers Unit

def sendBack (istd : MainInput) (result : BitVec 32) (c : Context) : Context :=
  { c with
    hdr :=
      { ethernet :=
          { c.hdr.ethernet with
            fields.dstAddr := c.hdr.ethernet.fields.srcAddr
            fields.srcAddr := c.hdr.ethernet.fields.dstAddr }
        p4calc := {c.hdr.p4calc with fields.res := result} }
    out := sendToPort istd.inputPort c.out }

def operation (f : BitVec 32 → BitVec 32 → BitVec 32) (istd : MainInput) (c : Context) : Context :=
  sendBack istd (f c.hdr.p4calc.fields.operandA c.hdr.p4calc.fields.operandB) c

def operationAdd : MainInput → Context → Context := operation (· + ·)
def operationSub : MainInput → Context → Context := operation (· - ·)
def operationAnd : MainInput → Context → Context := operation (· &&& ·)
def operationOr : MainInput → Context → Context := operation (· ||| ·)
def operationXor : MainInput → Context → Context := operation (· ^^^ ·)
def operationDrop (_ : MainInput) (c : Context) : Context := {c with out := dropPacket c.out}

inductive Operation
  | add
  | sub
  | and
  | or
  | xor
  | drop
deriving DecidableEq, Repr

def Operation.apply : Operation → MainInput → Context → Context
  | .add => operationAdd
  | .sub => operationSub
  | .and => operationAnd
  | .or => operationOr
  | .xor => operationXor
  | .drop => operationDrop

/-- The constant entries of the table and its default action. -/
def calculate (op : BitVec 8) : Operation :=
  if op = P4CALC_PLUS then .add
  else if op = P4CALC_MINUS then .sub
  else if op = P4CALC_AND then .and
  else if op = P4CALC_OR then .or
  else if op = P4CALC_CARET then .xor
  else .drop

def main (istd : MainInput) (c : Context) : Context :=
  if c.hdr.p4calc.isValid then (calculate c.hdr.p4calc.fields.op).apply istd c
  else operationDrop istd c

def deparser (h : Headers) (_ : Unit) : List Byte := emit h.ethernet ++ emit h.p4calc

def tcIngressFunc (port : Dev) (pkt : Frame) : Verdict :=
  runPipeline parser () main deparser port pkt

def Operation.compute (a b : BitVec 32) : Operation → Option (BitVec 32)
  | .add => some (a + b)
  | .sub => some (a - b)
  | .and => some (a &&& b)
  | .or => some (a ||| b)
  | .xor => some (a ^^^ b)
  | .drop => none

theorem Operation.apply_eq (o : Operation) (istd : MainInput) (c : Context) : o.apply istd c =
    match o.compute c.hdr.p4calc.fields.operandA c.hdr.p4calc.fields.operandB with
    | some result => sendBack istd result c
    | none => operationDrop istd c := by
  cases o <;> rfl

abbrev calcOf (f : Frame) : P4calcT := headerAt P4calcT f 14

structure Request (f : Frame) : Prop where
  etherType : be 16 f 12 = P4CALC_ETYPE
  length : 30 ≤ f.length
  p : (calcOf f).p = P4CALC_P
  four : (calcOf f).four = P4CALC_4
  ver : (calcOf f).ver = P4CALC_VER

theorem parser_request {f : Frame} (h : Request f) :
    parser f = some ⟨⟨⟨true,ethernetOf f⟩,⟨true,calcOf f⟩⟩,30,.noError⟩ := by
  have hl := h.length
  have ht : (ethernetOf f).etherType = P4CALC_ETYPE :=
    (etherType_ethernetOf (by omega)).trans h.etherType
  rw [parser, start, extract_fits f _ _ (by simp only [size_ethernet]; omega)]
  simp only [ht, ↓reduceIte]
  rw [checkP4calc, lookahead_fits f _ (by simp only [size_ethernet, size_p4calc]; omega),
    if_pos ⟨h.p,h.four,h.ver⟩, parseP4calc,
    extract_fits f _ _ (by simp only [size_ethernet, size_p4calc]; omega)]
  rfl

def answer (result : BitVec 32) (f : Frame) : Frame :=
  encode { ethernetOf f with
      dstAddr := (ethernetOf f).srcAddr, srcAddr := (ethernetOf f).dstAddr } ++
    (encode {calcOf f with res := result} ++ f.drop 30)

theorem tcIngressFunc_request {f : Frame} (h : Request f) (port : Dev) :
    tcIngressFunc port f =
      match (calculate (calcOf f).op).compute (calcOf f).operandA (calcOf f).operandB with
      | some result => .redirect port.val (answer result f)
      | none => .shot := by
  simp only [tcIngressFunc, runPipeline, parser_request h, main, ↓reduceIte, Operation.apply_eq]
  cases (calculate (calcOf f).op).compute (calcOf f).operandA (calcOf f).operandB with
  | none => simp only [operationDrop, dispatch_drop]
  | some result =>
    simp only [sendBack, dispatch_send, deparser, emit_valid, List.append_assoc]
    rfl

end P4tcExamples.Calc
