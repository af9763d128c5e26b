import P4tcExamples.Generated.Structs

/-! # The parsers as generated

`run_parser` keeps two positions: `hdr_start`, which the bounds checks use, and the
bit offset, which the loads use. Every state is a block that ends with a `goto`, so
a block takes the code it continues with. `Simulates` compares a block with a
transition of the P4 parser and has one rule for each kind of block; the label
`reject` goes to `accept` when an error is set and returns `TC_ACT_SHOT` otherwise.
-/
namespace P4tcExamples.Generated
open BitFields

abbrev NoError : BitVec 8 := 0
abbrev PacketTooShort : BitVec 8 := 1

/-- `struct pna_global_metadata`, kept in `skb->cb`, without the mirror fields. -/
structure CompilerMeta where
  recirculated : Bool
  drop : Bool
  egressPort : BitVec 32
  parserError : BitVec 8
  mark : BitVec 8
  passToKernel : Bool
deriving DecidableEq, Repr

def CompilerMeta.zero : CompilerMeta := ⟨false,false,0,0,0,false⟩

/-- A header struct with its `ebpf_valid` member. -/
structure HeaderStruct (α : Type) [Layout α] [Compiled α] where
  fields : Compiled.Struct α
  ebpfValid : BitVec 8

def HeaderStruct.zero (α : Type) [Layout α] [Compiled α] : HeaderStruct α := ⟨Compiled.zero,0⟩

structure HeaderStruct.Represents {α : Type} [Layout α] [Compiled α] (o : ByteOrder)
    (c : HeaderStruct α) (h : Header α) : Prop where
  fields : Compiled.Represents o c.fields h.fields
  isValid : c.ebpfValid ≠ 0 ↔ h.isValid = true

theorem HeaderStruct.represents_zero {α : Type} [Layout α] [Compiled α] (o : ByteOrder) :
    (HeaderStruct.zero α).Represents o (Header.absent α) :=
  ⟨Compiled.represents_zero o,by simp [HeaderStruct.zero, Header.absent]⟩

/-- The locals of `run_parser` that change; `hdr_start` counts from `pkt`. -/
structure Locals (H : Type) where
  hdr : H
  hdrStart : ℕ
  ebpfPacketOffsetInBits : ℕ
  compilerMeta : CompilerMeta

structure ParserResult (H : Type) where
  hdr : H
  ebpfPacketOffsetInBits : ℕ
  compilerMeta : CompilerMeta

/-- The rest of a run of the parser; `none` returns `TC_ACT_SHOT`. -/
abbrev Code (H : Type) := Locals H → Option (ParserResult H)

section Blocks
variable {H α : Type} [Layout α] [Compiled α] (o : ByteOrder) (pkt : Frame)

def acceptLabel : Code H := fun l => some ⟨l.hdr,l.ebpfPacketOffsetInBits,l.compilerMeta⟩

def rejectLabel (ebpfErrorCode : BitVec 8) : Code H := fun l =>
  if ebpfErrorCode = 0 then none
  else acceptLabel {l with compilerMeta.parserError := ebpfErrorCode}

/-- `if ((select & 0x0) == (0x0 & 0x0)) goto code; else goto reject;` -/
def defaultCase {w : ℕ} (select : BitVec w) (code : Code H) : Code H := fun l =>
  if select &&& 0 = 0 &&& 0 then code l else rejectLabel NoError l

/-- `extract(hdr->h)` for the member `h` that `get` and `set` reach. -/
def extractBlock (get : H → HeaderStruct α) (set : H → HeaderStruct α → H) (next : Code H) :
    Code H := fun l =>
  if pkt.length < l.hdrStart + bytes (Compiled.bits α + 0) then rejectLabel PacketTooShort l
  else next
    { l with
      hdr := set l.hdr ⟨Compiled.load o pkt l.ebpfPacketOffsetInBits (get l.hdr).fields,1⟩
      hdrStart := l.hdrStart + bytes (Compiled.bits α)
      ebpfPacketOffsetInBits := l.ebpfPacketOffsetInBits + Compiled.bits α }

/-- A lookahead into an uninitialised local; both positions are restored. -/
def lookaheadBlock (tmp : Compiled.Struct α) (next : Compiled.Struct α → Code H) : Code H :=
  fun l =>
    if pkt.length < l.hdrStart + bytes (Compiled.bits α + 0) then rejectLabel PacketTooShort l
    else next (Compiled.load o pkt l.ebpfPacketOffsetInBits tmp) l

end Blocks

/-- What the error leaves in `compiler_meta__`. -/
def recorded : ParserError → CompilerMeta → CompilerMeta
  | .noError, m => m
  | .packetTooShort, m => {m with parserError := PacketTooShort}

/-- The results of both parsers, started at `offset`. -/
structure ParsedAs {H A : Type} (R : H → A → Prop) (pkt : Frame) (m : CompilerMeta) (offset : ℕ)
    (r : ParserResult H) (p : Parsed A) : Prop where
  hdr : R r.hdr p.hdr
  offset_eq : r.ebpfPacketOffsetInBits = 8*p.offset
  offset_le : p.offset ≤ pkt.length
  le_offset : offset ≤ p.offset
  compilerMeta : r.compilerMeta = recorded p.parserError m

/-- The positions of both parsers agree and lie inside the packet. -/
structure AtCursor {H A : Type} (R : H → A → Prop) (pkt : Frame) (l : Locals H) (c : Cursor A) :
    Prop where
  hdr : R l.hdr c.hdr
  hdrStart : l.hdrStart = c.offset
  offset : l.ebpfPacketOffsetInBits = 8*c.offset
  le : c.offset ≤ pkt.length

def Simulates {H A : Type} (R : H → A → Prop) (pkt : Frame) (code : Code H) (t : Transition A) :
    Prop :=
  ∀ l c, AtCursor R pkt l c → Option.Rel (ParsedAs R pkt l.compilerMeta c.offset) (code l) (t c)

section Rules
variable {H A α : Type} [Layout α] [Compiled α] {o : ByteOrder} {pkt : Frame} {R : H → A → Prop}

theorem Simulates.accept : Simulates R pkt acceptLabel P4tcExamples.accept := by
  intro l c hc
  exact .some ⟨hc.hdr,hc.offset,hc.le,le_rfl,rfl⟩

theorem Simulates.reject : Simulates R pkt (rejectLabel NoError) P4tcExamples.reject := by
  intro l c _
  exact .none

theorem rejectLabel_tooShort {l : Locals H} {c : Cursor A} (hc : AtCursor R pkt l c) :
    Option.Rel (ParsedAs R pkt l.compilerMeta c.offset) (rejectLabel PacketTooShort l)
      (some ⟨c.hdr,c.offset,.packetTooShort⟩) :=
  .some ⟨hc.hdr,hc.offset,hc.le,le_rfl,rfl⟩

/-- `if (select == v) goto code; ... else goto code'`. -/
theorem Simulates.select {b : Locals H → Prop} {d : Cursor A → Prop} [DecidablePred b]
    [DecidablePred d] {code code' : Code H} {t t' : Transition A}
    (hb : ∀ l c, R l.hdr c.hdr → (b l ↔ d c)) (ht : Simulates R pkt code t)
    (he : Simulates R pkt code' t') :
    Simulates R pkt (fun l => if b l then code l else code' l)
      fun c => if d c then t c else t' c := by
  intro l c hc
  by_cases h : d c
  · simp only [if_pos h, if_pos ((hb l c hc.hdr).mpr h)]
    exact ht l c hc
  · simp only [if_neg h, if_neg (mt (hb l c hc.hdr).mp h)]
    exact he l c hc

theorem Simulates.default {w : ℕ} {select : Locals H → BitVec w} {code : Code H}
    {t : Transition A} (h : Simulates R pkt code t) :
    Simulates R pkt (fun l => defaultCase (select l) code l) t := by
  intro l c hc
  simp only [defaultCase, BitVec.and_zero, ↓reduceIte, BitVec.ofNat_eq_ofNat]
  exact h l c hc

theorem ParsedAs.mono {m : CompilerMeta} {i j : ℕ} (hij : i ≤ j)
    {x : Option (ParserResult H)} {y : Option (Parsed A)}
    (h : Option.Rel (ParsedAs R pkt m j) x y) : Option.Rel (ParsedAs R pkt m i) x y := by
  cases h with
  | none => exact .none
  | some h => exact .some {h with le_offset := hij.trans h.le_offset}

theorem bytes_bits : bytes (Compiled.bits α) = Layout.size α := by
  rw [Compiled.bits_eq, bytes_mul]

theorem Simulates.extract {get : H → HeaderStruct α} {set : H → HeaderStruct α → H}
    {store : A → Header α → A} {code : Code H} {t : Transition A}
    (hset : ∀ hc ha x y, R hc ha → x.Represents o y → R (set hc x) (store ha y))
    (h : Simulates R pkt code t) :
    Simulates R pkt (extractBlock o pkt get set code) (P4tcExamples.extract pkt store t) := by
  intro l c hc
  rw [extractBlock, Nat.add_zero, bytes_bits, hc.hdrStart]
  by_cases hl : pkt.length < c.offset + Layout.size α
  · rw [if_pos hl, extract_short pkt _ _ hl]
    exact rejectLabel_tooShort hc
  · have hfit : c.offset + Layout.size α ≤ pkt.length := Nat.not_lt.mp hl
    rw [if_neg hl, extract_fits pkt _ _ hfit]
    have hr : HeaderStruct.Represents o
        ⟨Compiled.load o pkt l.ebpfPacketOffsetInBits (get l.hdr).fields,1⟩
        ⟨true,headerAt α pkt c.offset⟩ := by
      refine ⟨?_,by simp⟩
      rw [hc.offset]
      exact Compiled.represents_load o _ hfit
    have hnext : AtCursor R pkt
        ⟨set l.hdr ⟨Compiled.load o pkt l.ebpfPacketOffsetInBits (get l.hdr).fields,1⟩,
          c.offset + Layout.size α,l.ebpfPacketOffsetInBits + Compiled.bits α,l.compilerMeta⟩
        ⟨store c.hdr ⟨true,headerAt α pkt c.offset⟩,c.offset + Layout.size α⟩ := by
      refine ⟨hset _ _ _ _ hc.hdr hr,rfl,?_,hfit⟩
      rw [hc.offset, Compiled.bits_eq, Nat.mul_add]
    exact ParsedAs.mono (Nat.le_add_right c.offset (Layout.size α)) (h _ _ hnext)

theorem Simulates.lookahead {tmp : Compiled.Struct α} {code : Compiled.Struct α → Code H}
    {t : α → Transition A}
    (h : ∀ x y, Compiled.Represents o x y → Simulates R pkt (code x) (t y)) :
    Simulates R pkt (lookaheadBlock o pkt tmp code) (P4tcExamples.lookahead pkt t) := by
  intro l c hc
  rw [lookaheadBlock, Nat.add_zero, bytes_bits, hc.hdrStart]
  by_cases hl : pkt.length < c.offset + Layout.size α
  · rw [if_pos hl, lookahead_short pkt _ hl]
    exact rejectLabel_tooShort hc
  · have hfit : c.offset + Layout.size α ≤ pkt.length := Nat.not_lt.mp hl
    rw [if_neg hl, lookahead_fits pkt _ hfit]
    refine h _ _ ?_ l c hc
    rw [hc.offset]
    exact Compiled.represents_load o tmp hfit

end Rules

end P4tcExamples.Generated
