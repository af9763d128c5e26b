import P4tcExamples.Library.Octets

/-! # The PNA pipeline as the generated code runs it

`runParser` is the common shape of the generated `run_parser` functions, and
`dispatch` that of the end of `process` and of `tc_ingress_func`. An explicit
reject ends with `TC_ACT_SHOT` before any control runs, whereas an extract that
does not fit the frame records `PacketTooShort` and lets the control run on the
headers extracted so far. User metadata, header fields and the global metadata
start zeroed.
-/
namespace P4tcExamples
open BitFields

abbrev Frame := List Byte

/-- A net device number. The kernel numbers devices from one, and the generated
code reads zero as "no egress port chosen". -/
abbrev Dev := {ifindex : BitVec 32 // ifindex ≠ 0}

def dev1 : Dev := ⟨1,by decide⟩
def dev2 : Dev := ⟨2,by decide⟩
def dev3 : Dev := ⟨3,by decide⟩

inductive ParserError
  | noError
  | packetTooShort
deriving DecidableEq, Repr

structure Header (α : Type) where
  isValid : Bool
  fields : α
deriving DecidableEq, Repr

/-- The value of a record whose memory was set to zero. -/
def zeroed (α : Type) [Layout α] : α := decode α (List.replicate (Layout.size α) 0)

def Header.absent (α : Type) [Layout α] : Header α := ⟨false,zeroed α⟩

def Header.setInvalid {α : Type} (h : Header α) : Header α := {h with isValid := false}

/-- `pkt.emit`: an invalid header writes nothing. -/
def emit {α : Type} [Layout α] (h : Header α) : List Byte :=
  if h.isValid then encode h.fields else []

structure Cursor (H : Type) where
  hdr : H
  offset : ℕ

structure Parsed (H : Type) where
  hdr : H
  offset : ℕ
  parserError : ParserError

/-- The rest of a parser run; `none` is an explicit reject. -/
abbrev Transition (H : Type) := Cursor H → Option (Parsed H)

section Parser
variable {H α : Type} [Layout α] (pkt : Frame)

def accept : Transition H := fun c => some ⟨c.hdr,c.offset,.noError⟩

def reject : Transition H := fun _ => none

def headerAt (α : Type) [Layout α] (pkt : Frame) (offset : ℕ) : α :=
  decode α (slice pkt offset (Layout.size α))

/-- `pkt.extract`: the too-short exit joins the accept path with the error set. -/
def extract (store : H → Header α → H) (next : Transition H) : Transition H := fun c =>
  if pkt.length < c.offset + Layout.size α then some ⟨c.hdr,c.offset,.packetTooShort⟩
  else next ⟨store c.hdr ⟨true,headerAt α pkt c.offset⟩,c.offset + Layout.size α⟩

/-- `pkt.lookahead`: reads like an extract but leaves the cursor in place. -/
def lookahead (next : α → Transition H) : Transition H := fun c =>
  if pkt.length < c.offset + Layout.size α then some ⟨c.hdr,c.offset,.packetTooShort⟩
  else next (headerAt α pkt c.offset) c

theorem lookahead_short (next : α → Transition H) {c : Cursor H}
    (h : pkt.length < c.offset + Layout.size α) :
    lookahead pkt next c = some ⟨c.hdr,c.offset,.packetTooShort⟩ := if_pos h

theorem lookahead_fits (next : α → Transition H) {c : Cursor H}
    (h : c.offset + Layout.size α ≤ pkt.length) :
    lookahead pkt next c = next (headerAt α pkt c.offset) c := if_neg (Nat.not_lt.mpr h)

theorem extract_short (store : H → Header α → H) (next : Transition H) {c : Cursor H}
    (h : pkt.length < c.offset + Layout.size α) :
    extract pkt store next c = some ⟨c.hdr,c.offset,.packetTooShort⟩ := if_pos h

theorem extract_fits (store : H → Header α → H) (next : Transition H) {c : Cursor H}
    (h : c.offset + Layout.size α ≤ pkt.length) :
    extract pkt store next c =
      next ⟨store c.hdr ⟨true,headerAt α pkt c.offset⟩,c.offset + Layout.size α⟩ :=
  if_neg (Nat.not_lt.mpr h)

end Parser

structure MainInput where
  inputPort : Dev
  parserError : ParserError

/-- The part of `pna_global_metadata` that decides the verdict. -/
structure GlobalMeta where
  drop : Bool
  egressPort : BitVec 32
deriving DecidableEq, Repr

def GlobalMeta.init : GlobalMeta := ⟨false,0⟩

def sendToPort (port : Dev) (g : GlobalMeta) : GlobalMeta :=
  {g with drop := false, egressPort := port.val}

def dropPacket (g : GlobalMeta) : GlobalMeta := {g with drop := true}

structure Ctx (H M : Type) where
  hdr : H
  usermeta : M
  out : GlobalMeta

inductive Verdict
  | shot
  /-- handed to the host stack of the ingress device -/
  | kernel (frame : Frame)
  | redirect (port : BitVec 32) (frame : Frame)
deriving DecidableEq, Repr

/-- The end of `process` and `tc_ingress_func`: the emitted headers take the
place of the parsed ones and the unparsed rest follows. Making room for longer
headers always succeeds here, as the source assumes of the MTU. -/
def dispatch (pkt : Frame) (offset : ℕ) (emitted : List Byte) (g : GlobalMeta) : Verdict :=
  if g.drop then .shot
  else if g.egressPort = 0 then .kernel (emitted ++ pkt.drop offset)
  else .redirect g.egressPort (emitted ++ pkt.drop offset)

def runPipeline {H M : Type} (parser : Frame → Option (Parsed H)) (usermeta : M)
    (main : MainInput → Ctx H M → Ctx H M) (deparser : H → M → List Byte)
    (port : Dev) (pkt : Frame) : Verdict :=
  match parser pkt with
  | none => .shot
  | some p =>
    let c := main ⟨port,p.parserError⟩ ⟨p.hdr,usermeta,GlobalMeta.init⟩
    dispatch pkt p.offset (deparser c.hdr c.usermeta) c.out

@[simp] theorem emit_valid {α : Type} [Layout α] (x : α) : emit ⟨true,x⟩ = encode x := rfl

@[simp] theorem emit_invalid {α : Type} [Layout α] (x : α) : emit ⟨false,x⟩ = [] := rfl

@[simp] theorem dispatch_send (pkt : Frame) (offset : ℕ) (emitted : List Byte) (port : Dev)
    (g : GlobalMeta) : dispatch pkt offset emitted (sendToPort port g) =
      .redirect port.val (emitted ++ pkt.drop offset) := by
  rw [dispatch, sendToPort, if_neg Bool.false_ne_true, if_neg port.property]

@[simp] theorem dispatch_drop (pkt : Frame) (offset : ℕ) (emitted : List Byte) (g : GlobalMeta) :
    dispatch pkt offset emitted (dropPacket g) = .shot := rfl

@[simp] theorem dispatch_init (pkt : Frame) (offset : ℕ) (emitted : List Byte) :
    dispatch pkt offset emitted GlobalMeta.init = .kernel (emitted ++ pkt.drop offset) := rfl

theorem encode_headerAt {α : Type} [Layout α] {pkt : Frame} {offset : ℕ}
    (h : offset + Layout.size α ≤ pkt.length) :
    encode (headerAt α pkt offset) = slice pkt offset (Layout.size α) :=
  encode_decode (length_slice h)

theorem headerAt_append_right {α : Type} [Layout α] {a b : Frame} {offset : ℕ}
    (h : a.length ≤ offset) : headerAt α (a ++ b) offset = headerAt α b (offset - a.length) := by
  rw [headerAt, headerAt, slice_append_right h]

@[simp] theorem headerAt_encode {α : Type} [Layout α] (x : α) (b : Frame) :
    headerAt α (encode x ++ b) 0 = x := by
  rw [headerAt, slice_append_left (by simp), slice_zero (length_encode x), decode_encode]

end P4tcExamples
