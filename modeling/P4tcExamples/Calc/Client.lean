import P4tcExamples.Library.Regex
import P4tcExamples.Pna.Pipeline

/-! # The calculator client

`calc.py`: the two token parsers and their sequencing, the packet that scapy builds
from the field list of `P4calc`, and the field read from the reply. Text is a list
of characters. What is taken from Python and scapy is stated here once: the class
of `\\s`, decimal conversion by `int`, and the packing of each kind of field.
-/
namespace P4tcExamples.Calc.Client
open BitFields Regex

/-- The class `\\s` of a pattern on text: the white space of the character database. -/
def isSpace (c : Char) : Bool :=
  let n := c.toNat
  (0x09 ≤ n && n ≤ 0x0d) || (0x1c ≤ n && n ≤ 0x20) || n == 0x85 || n == 0xa0 || n == 0x1680 ||
    (0x2000 ≤ n && n ≤ 0x200a) || n == 0x2028 || n == 0x2029 || n == 0x202f || n == 0x205f ||
    n == 0x3000

def isDigit (c : Char) : Bool := 0x30 ≤ c.toNat && c.toNat ≤ 0x39

def isOp (c : Char) : Bool := c == '-' || c == '+' || c == '&' || c == '|' || c == '^'

structure Token where
  type : String
  value : List Char

inductive Error
  | numParseError (message : String)
  | indexError
  | structError
deriving DecidableEq, Repr

abbrev Parser := List Char → ℕ → List Token → Except Error (ℕ × List Token)

/-- The common body of the token parsers; both tag their token `num`. -/
def tokenParser (pattern : Pattern) (message : String) : Parser := fun s i ts =>
  match pattern.matchStart (s.drop i) with
  | some m => .ok (i + m.text.length,ts ++ [⟨"num",m.groups.headD []⟩])
  | none => .error (.numParseError message)

def numParser : Parser :=
  tokenParser (.padded isSpace (.many1 isDigit)) "Expected number literal."

def opParser : Parser :=
  tokenParser (.padded isSpace (.one isOp))
    "Expected binary operator '-', '+', '&', '|', or '^'."

def makeSeq (p1 p2 : Parser) : Parser := fun s i ts => do
  let (i,ts2) ← p1 s i ts
  p2 s i ts2

/-- `int` on a string of decimal digits. The limit on their number, which depends on the
interpreter and how it is set, is left out. -/
def int (s : List Char) : ℕ := s.foldl (fun n c => 10*n + (c.toNat - 0x30)) 0

def raw (s : List Char) : List Byte := (s.flatMap String.utf8EncodeChar).map UInt8.toBitVec

/-- `StrFixedLenField`: the encoded text, cut or filled with zeros. -/
def strFixedLenField (length : ℕ) (s : List Char) : List Byte :=
  (raw s ++ List.replicate length 0).take length

def xByteField (n : BitVec 8) : List Byte := [n]

/-- `IntField`: four octets in network order. Packing a larger number fails. -/
def intField (n : ℕ) : Except Error (List Byte) :=
  if n < 2 ^ 32 then .ok (toBytes 4 (BitVec.ofNat 32 n)) else .error .structError

structure P4calc where
  P : List Char := ['P']
  Four : List Char := ['4']
  version : BitVec 8 := 0x01
  op : List Char := ['+']
  operandA : ℕ := 0
  operandB : ℕ := 0
  result : ℕ := 0

def P4calc.build (pkt : P4calc) : Except Error (List Byte) := do
  let operandA ← intField pkt.operandA
  let operandB ← intField pkt.operandB
  let result ← intField pkt.result
  return strFixedLenField 1 pkt.P ++ (strFixedLenField 1 pkt.Four ++ (xByteField pkt.version ++
    (strFixedLenField 1 pkt.op ++ (operandA ++ (operandB ++ result)))))

structure Ether where
  dst : BitVec 48
  src : BitVec 48
  type : BitVec 16

def Ether.build (e : Ether) : List Byte := toBytes 6 e.dst ++ (toBytes 6 e.src ++ toBytes 2 e.type)

def valueAt (ts : List Token) (i : ℕ) : Except Error (List Char) :=
  match ts[i]? with
  | some t => .ok t.value
  | none => .error .indexError

def request (ts : List Token) : Except Error Frame := do
  let op ← valueAt ts 1
  let a ← valueAt ts 0
  let b ← valueAt ts 2
  let p4calc ← P4calc.build {op := op, operandA := int a, operandB := int b}
  let ether : Ether := {dst := 0x10000002AABB, src := 0x10000001AABB, type := 0x1234}
  return ether.build ++ (p4calc ++ raw [' '])

inductive Outcome
  | quit
  | failed (error : Error)
  | sent (pkt : Frame)

/-- One turn of the loop of `main`, up to the transmission. A packet that cannot be packed
counts as failed here; scapy packs it inside `srp1`, which sends nothing then. -/
def main (s : List Char) : Outcome :=
  if s = ['q','u','i','t'] then .quit
  else
    match makeSeq numParser (makeSeq opParser numParser) s 0 [] with
    | .error e => .failed e
    | .ok (_,ts) =>
      match request ts with
      | .error e => .failed e
      | .ok pkt => .sent pkt

def takeField (n : ℕ) (bs : List Byte) : Option (List Byte × List Byte) :=
  if n ≤ bs.length then some (bs.take n,bs.drop n) else none

/-- `resp[P4calc].result`: the fields before it are skipped one by one. -/
def result (resp : Frame) : Option ℕ := do
  let (_,bs) ← takeField 6 resp
  let (_,bs) ← takeField 6 bs
  let (type,bs) ← takeField 2 bs
  if beNat type = 0x1234 then
    let (_,bs) ← takeField 1 bs
    let (_,bs) ← takeField 1 bs
    let (_,bs) ← takeField 1 bs
    let (_,bs) ← takeField 1 bs
    let (_,bs) ← takeField 4 bs
    let (_,bs) ← takeField 4 bs
    let (r,_) ← takeField 4 bs
    return beNat r
  else none

end P4tcExamples.Calc.Client
