import P4tcExamples.Generated.Parser
import P4tcExamples.Pna.ParserRules

/-! # From the socket buffer to the verdict

The rest of the generated code is the same text in every program: the deparser makes
room for the headers it is going to write, and `tc_ingress_func` redirects. A frame
for the host is redirected to its own device with `pass_to_kernel` set, so that the
programs see it twice and the second visit returns `TC_ACT_OK`; `deliver` follows it
through both. A program whose parser and control are simulated delivers what the P4
program says: always where its headers keep their length (`RefinesInPlace.deliver`),
and else unless `bpf_skb_adjust_room` refuses to resize the frame (`Refines.deliver`).
-/
namespace P4tcExamples.Generated
open BitFields

section Deparser

/-- One `if (hdr->h.ebpf_valid)` block of the deparser. -/
structure Emission where
  ebpfValid : BitVec 8
  bits : ℕ
  write : ℕ → Frame → Frame

def emission {α : Type} [Layout α] [Compiled α] (o : ByteOrder) (c : HeaderStruct α) : Emission :=
  ⟨c.ebpfValid,Compiled.bits α,Compiled.write o c.fields⟩

def outHeaderLength : List Emission → ℕ
  | [] => 0
  | e :: es => (if e.ebpfValid = 0 then 0 else e.bits) + outHeaderLength es

def emitAll : List Emission → ℕ → Frame → Option Frame
  | [], _, pkt => some pkt
  | e :: es, off, pkt =>
    if e.ebpfValid = 0 then emitAll es off pkt
    else if pkt.length < bytes (off + e.bits) then none
    else emitAll es (off + e.bits) (e.write off pkt)

/-- `bpf_skb_adjust_room(skb, len_diff, 1, 0)`; `none` is a nonzero return code. -/
abbrev AdjustRoom := Frame → ℤ → Option Frame

/-- Everything behind the control: `none` returns `TC_ACT_SHOT`. -/
def deparse (adjustRoom : AdjustRoom) (es : List Emission) (hdrStart : ℕ) (data : Frame) :
    Option Frame :=
  let outHeaderOffset : ℤ := bytes (outHeaderLength es) - hdrStart
  if outHeaderOffset ≠ 0 then (adjustRoom data outHeaderOffset).bind (emitAll es 0)
  else emitAll es 0 data

/-- What `bpf_skb_adjust_room` documents of `BPF_ADJ_ROOM_MAC`: room is added or
removed behind the Ethernet header. It does not say what new room holds. -/
structure AdjustsRoom (adjustRoom : AdjustRoom) : Prop where
  grow : ∀ (data : Frame) (n : ℕ) (data' : Frame), adjustRoom data n = some data' →
    ∃ room : Frame, room.length = n ∧ data' = data.take 14 ++ (room ++ data.drop 14)
  shrink : ∀ (data : Frame) (n : ℕ) (data' : Frame), adjustRoom data (-n) = some data' →
    data' = data.take 14 ++ data.drop (14 + n)

/-- A helper that always succeeds and clears new room. -/
def adjustRoomMac : AdjustRoom := fun data n =>
  if 0 ≤ n then some (data.take 14 ++ (List.replicate n.toNat 0 ++ data.drop 14))
  else some (data.take 14 ++ data.drop (14 + n.natAbs))

theorem adjustRoomMac_adjusts : AdjustsRoom adjustRoomMac where
  grow data n data' h := by
    rw [adjustRoomMac, if_pos (by omega)] at h
    exact ⟨List.replicate n 0,List.length_replicate,(Option.some.inj h).symm⟩
  shrink data n data' h := by
    rw [adjustRoomMac] at h
    split at h
    · have hn : n = 0 := by omega
      subst hn
      exact (Option.some.inj h).symm
    · rw [Int.natAbs_neg, Int.natAbs_natCast] at h
      exact (Option.some.inj h).symm

inductive Emits (e : Emission) : List Byte → Prop
  | invalid (h : e.ebpfValid = 0) : Emits e []
  | valid {bs : List Byte} (h : e.ebpfValid ≠ 0) (hb : e.bits = 8*bs.length)
      (hw : ∀ a, Writes (e.write (8*a)) a bs) : Emits e bs

theorem emits_emission {α : Type} [Layout α] [Compiled α] {o : ByteOrder} {c : HeaderStruct α}
    {h : Header α} (hr : c.Represents o h) : Emits (emission o c) (emit h) := by
  cases hv : h.isValid with
  | false =>
    have hc : c.ebpfValid = 0 := by
      by_contra hn
      rw [hr.isValid.mp hn] at hv
      cases hv
    rw [emit, if_neg (by rw [hv]; decide)]
    exact .invalid hc
  | true =>
    rw [emit, if_pos hv]
    refine .valid (hr.isValid.mpr hv) ?_ fun a => Compiled.writes o a hr.fields
    rw [length_encode]
    exact Compiled.bits_eq

theorem outHeaderLength_eq {es : List Emission} {bss : List (List Byte)}
    (h : List.Forall₂ Emits es bss) : outHeaderLength es = 8*bss.flatten.length := by
  induction h with
  | nil => rfl
  | cons he _ ih =>
    rw [outHeaderLength, ih, List.flatten_cons, List.length_append]
    cases he with
    | invalid hv =>
      rw [if_pos hv, List.length_nil]
      omega
    | valid hv hb _ =>
      rw [if_neg hv, hb]
      omega

theorem emitAll_eq {es : List Emission} {bss : List (List Byte)} (h : List.Forall₂ Emits es bss)
    {a : ℕ} {pkt : Frame} (hl : a + bss.flatten.length ≤ pkt.length) :
    emitAll es (8*a) pkt = some (splice a bss.flatten pkt) := by
  induction h generalizing a pkt with
  | nil => rw [emitAll, List.flatten_nil, splice_nil]
  | @cons e bs es bss he _ ih =>
    rw [List.flatten_cons, List.length_append] at hl
    rw [emitAll, List.flatten_cons]
    cases he with
    | invalid hv =>
      rw [if_pos hv, ih (by rw [List.length_nil] at hl; omega), List.nil_append]
    | valid hv hb hw =>
      have hfit : a + bs.length ≤ pkt.length := by omega
      rw [if_neg hv, hb, ← Nat.mul_add, bytes_mul, if_neg (Nat.not_lt.mpr hfit), hw a pkt hfit,
        ih (by rw [length_splice hfit]; omega), splice_splice (by omega)]

theorem splice_zero_eq (bs f : List Byte) : splice 0 bs f = bs ++ f.drop bs.length := by
  rw [splice, List.take_zero, List.nil_append, Nat.zero_add]

section Room
variable {adjustRoom : AdjustRoom} (ha : AdjustsRoom adjustRoom) {data data' emitted : Frame}
  {offset : ℕ} (hoff : 14 ≤ offset) (hlen : 14 ≤ emitted.length) (hle : offset ≤ data.length)
include ha hoff hlen hle

/-- Whatever the new room holds is overwritten, and nothing behind the old headers
moves relative to the end of the frame. -/
theorem splice_adjustRoom (h : adjustRoom data (emitted.length - offset) = some data') :
    emitted.length ≤ data'.length ∧ splice 0 emitted data' = emitted ++ data.drop offset := by
  have ht : (data.take 14).length = 14 := by
    rw [List.length_take]
    omega
  rw [splice_zero_eq]
  by_cases hg : offset ≤ emitted.length
  · have hn : (emitted.length : ℤ) - offset = (emitted.length - offset : ℕ) := by omega
    rw [hn] at h
    obtain ⟨room,hr,rfl⟩ := ha.grow data _ _ h
    constructor
    · simp only [List.length_append, ht, hr, List.length_drop]
      omega
    · rw [List.drop_append, List.drop_append, ht, List.drop_eq_nil_of_le (by rw [ht]; omega),
        List.drop_eq_nil_of_le (by omega), List.drop_drop, List.nil_append, List.nil_append]
      congr 2
      omega
  · have hn : (emitted.length : ℤ) - offset = -(offset - emitted.length : ℕ) := by omega
    rw [hn] at h
    obtain rfl := ha.shrink data _ _ h
    constructor
    · simp only [List.length_append, ht, List.length_drop]
      omega
    · rw [List.drop_append, ht, List.drop_eq_nil_of_le (by rw [ht]; omega), List.drop_drop,
        List.nil_append]
      congr 2
      omega

end Room

/-- Either no header was reached, or both sides start with the Ethernet header. -/
def Framed (pkt : Frame) (offset : ℕ) (emitted : List Byte) : Prop :=
  pkt.length < 14 ∧ offset = 0 ∧ emitted = [] ∨ 14 ≤ offset ∧ 14 ≤ emitted.length

/-- A deparser that writes as many octets as were parsed. -/
theorem framed_of_laid {A : Type} {out : A → List Byte} {init : A} {pkt : Frame} {p : Parsed A}
    (h : pkt.length < 14 ∧ p = ⟨init,0,.packetTooShort⟩ ∨ Laid 14 out pkt p.hdr p.offset)
    (hinit : out init = []) {emitted : List Byte} (he : emitted.length = (out p.hdr).length) :
    Framed pkt p.offset emitted ∧ emitted.length = p.offset := by
  rcases h with ⟨hl,rfl⟩ | h
  · rw [hinit, List.length_nil] at he
    exact ⟨Or.inl ⟨hl,rfl,List.length_eq_zero_iff.mp he⟩,he⟩
  · rw [h.length_eq] at he
    have hle := h.le_offset
    exact ⟨Or.inr ⟨hle,by omega⟩,he⟩

theorem reproduces_of_laid {A : Type} {out : A → List Byte} {init : A} {pkt : Frame} {p : Parsed A}
    (h : pkt.length < 14 ∧ p = ⟨init,0,.packetTooShort⟩ ∨ Laid 14 out pkt p.hdr p.offset)
    (hinit : out init = []) : out p.hdr ++ pkt.drop p.offset = pkt := by
  rcases h with ⟨_,rfl⟩ | h
  · rw [hinit]
    rfl
  · exact h.reemits

/-- The deparser has to resize the frame and cannot. -/
def NoRoom (adjustRoom : AdjustRoom) (data : Frame) (offset : ℕ) (emitted : List Byte) : Prop :=
  emitted.length ≠ offset ∧ adjustRoom data (emitted.length - offset) = none

instance (adjustRoom : AdjustRoom) (data : Frame) (offset : ℕ) (emitted : List Byte) :
    Decidable (NoRoom adjustRoom data offset emitted) :=
  inferInstanceAs (Decidable (_ ∧ _))

theorem deparse_eq (adjustRoom : AdjustRoom) (data : Frame) {es : List Emission}
    {bss : List (List Byte)} (h : List.Forall₂ Emits es bss) {offset : ℕ}
    (ha : bss.flatten.length ≠ offset → AdjustsRoom adjustRoom)
    (hf : Framed data offset bss.flatten) (hle : offset ≤ data.length) :
    deparse adjustRoom es offset data =
      if NoRoom adjustRoom data offset bss.flatten then none
      else some (bss.flatten ++ data.drop offset) := by
  have hz {pkt : Frame} (hl : bss.flatten.length ≤ pkt.length) :
      emitAll es 0 pkt = some (splice 0 bss.flatten pkt) := emitAll_eq h (a := 0) (by omega)
  rw [deparse, outHeaderLength_eq h, bytes_mul]
  by_cases hn : bss.flatten.length = offset
  · have hr : ¬NoRoom adjustRoom data offset bss.flatten := fun hc => hc.1 hn
    rw [if_neg hr, if_neg (by omega), hz (by omega), splice_zero_eq, hn]
  · obtain ⟨hoff,hlen⟩ : 14 ≤ offset ∧ 14 ≤ bss.flatten.length := by
      rcases hf with ⟨_,ho,hb⟩ | hf
      · rw [ho, hb] at hn
        exact absurd rfl hn
      · exact hf
    rw [if_pos (by omega)]
    cases hadj : adjustRoom data (bss.flatten.length - offset) with
    | none => rw [if_pos ⟨hn,hadj⟩, Option.bind_none]
    | some data' =>
      have hr : ¬NoRoom adjustRoom data offset bss.flatten := by
        rintro ⟨_,hc⟩
        rw [hadj] at hc
        cases hc
      obtain ⟨hfit,hs⟩ := splice_adjustRoom (ha hn) hoff hlen hle hadj
      rw [if_neg hr, Option.bind_some, hz hfit, hs]

end Deparser

section TrafficControl

inductive TcAct
  | ok
  | shot
  | pipe
  | redirect (ifindex : BitVec 32) (flags : BitVec 64)
deriving DecidableEq, Repr

abbrev BPF_F_INGRESS : BitVec 64 := 1

/-- `struct __sk_buff`; `dataMeta` are the octets from `data_meta` to `data`. The frame is
linear: all of it lies between `data` and `data_end`, so that `len` is its length. -/
structure Skb where
  data : Frame
  dataMeta : List Byte
  ifindex : BitVec 32
  cb : CompilerMeta

/-- `struct hdr_md`, one for each processor. -/
structure HdrMd (H M : Type) where
  cpumapHdr : H
  cpumapUsermeta : M
  ebpfPacketOffsetInBits : ℕ

/-- What a control block reads and writes. -/
structure ControlState (H M : Type) where
  hdr : H
  usermeta : M
  compilerMeta : CompilerMeta

/-- The parts in which the generated programs differ; `σ` is what the tables hold. -/
structure Program (σ H M : Type) where
  hdr : H
  usermeta : M
  start : Frame → Code H
  control : BitVec 32 → σ → ControlState H M → σ × ControlState H M
  deparser : H → M → List Emission

variable {σ H M : Type} (g : Program σ H M) (adjustRoom : AdjustRoom)

def runParser (pkt : Frame) (compilerMeta : CompilerMeta) : Option (ParserResult H) :=
  g.start pkt ⟨g.hdr,0,0,compilerMeta⟩

/-- `none` returns `TC_ACT_SHOT`, and a result `TC_ACT_PIPE`. -/
def tcParseFunc (skb : Skb) : Option (HdrMd H M × Skb) :=
  (runParser g skb.data skb.cb).map fun r =>
    (⟨r.hdr,g.usermeta,r.ebpfPacketOffsetInBits⟩,{skb with cb := r.compilerMeta})

def process (hdrMd : HdrMd H M) (s : σ) (skb : Skb) : σ × CompilerMeta × Option Frame :=
  let hdrStart := bytes hdrMd.ebpfPacketOffsetInBits
  let r := g.control skb.ifindex s ⟨hdrMd.cpumapHdr,hdrMd.cpumapUsermeta,skb.cb⟩
  let c := r.2
  if c.compilerMeta.drop then (r.1,c.compilerMeta,none)
  else (r.1,c.compilerMeta,deparse adjustRoom (g.deparser c.hdr c.usermeta) hdrStart skb.data)

/-- Metadata in front of the frame holds its ether type; `none` returns `TC_ACT_SHOT`. -/
def restoreEtherType (skb : Skb) : Option Skb :=
  if 4 ≤ skb.dataMeta.length then
    if skb.data.length < 14 then none
    else some {skb with data := splice 12 (skb.dataMeta.take 2) skb.data}
  else some skb

def tcIngressFunc (hdrMd : HdrMd H M) (s : σ) (skb : Skb) : TcAct × σ × Skb :=
  if skb.cb.passToKernel then (.ok,s,skb)
  else
    match if skb.cb.recirculated then some skb else restoreEtherType {skb with cb.mark := 153} with
    | none => (.shot,s,skb)
    | some skb =>
      match process g adjustRoom hdrMd s skb with
      | (s,m,none) => (.shot,s,{skb with cb := m})
      | (s,m,some data) =>
        if !m.drop && m.egressPort = 0 then
          (.redirect skb.ifindex BPF_F_INGRESS,s,
            {skb with data, cb := {m with passToKernel := true}})
        else (.redirect m.egressPort 0,s,{skb with data, cb := m})

/-- The two programs of the filter, one after the other. -/
def visit (s : σ) (skb : Skb) : TcAct × σ × Skb :=
  match tcParseFunc g skb with
  | none => (.shot,s,skb)
  | some (hdrMd,skb) => tcIngressFunc g adjustRoom hdrMd s skb

/-- Where a frame is after a visit that does not send it back to its own device. -/
def outcome : TcAct × σ × Skb → σ × Verdict
  | (.ok,s,skb) => (s,.kernel skb.data)
  | (.redirect port _,s,skb) => (s,.redirect port skb.data)
  | (_,s,_) => (s,.shot)

def deliver (s : σ) (skb : Skb) : σ × Verdict :=
  match visit g adjustRoom s skb with
  | (.redirect port flags,s,skb) =>
    if flags = BPF_F_INGRESS then outcome (visit g adjustRoom s {skb with ifindex := port})
    else outcome (.redirect port flags,s,skb)
  | r => outcome r

end TrafficControl

/-- A P4 program; what its tables hold is passed through. -/
structure Source (τ A B : Type) where
  parser : Frame → Option (Parsed A)
  usermeta : B
  main : τ → MainInput → Ctx A B → τ × Ctx A B
  deparser : A → B → List Byte

namespace Source
variable {τ A B : Type} (P : Source τ A B) (t : τ) (port : Dev)

def control (p : Parsed A) : τ × Ctx A B :=
  P.main t ⟨port,p.parserError⟩ ⟨p.hdr,P.usermeta,GlobalMeta.init⟩

def emitted (p : Parsed A) : List Byte :=
  P.deparser (P.control t port p).2.hdr (P.control t port p).2.usermeta

def run (pkt : Frame) : τ × Verdict :=
  match P.parser pkt with
  | none => (t,.shot)
  | some p =>
    ((P.control t port p).1,dispatch pkt p.offset (P.emitted t port p) (P.control t port p).2.out)

end Source

/-- By how many octets a frame grows on its way. -/
def growth (pkt : Frame) : Verdict → ℤ
  | .shot => 0
  | .kernel f => f.length - pkt.length
  | .redirect _ f => f.length - pkt.length

section Refinement
variable {σ τ H M A B : Type}

structure ControlledAs (g : Program σ H M) (P : Source τ A B) (S : σ → τ → Prop)
    (r : σ × ControlState H M) (x : τ × Ctx A B) : Prop where
  tables : S r.1 x.1
  emits : ∃ bss, List.Forall₂ Emits (g.deparser r.2.hdr r.2.usermeta) bss ∧
    bss.flatten = P.deparser x.2.hdr x.2.usermeta
  drop : r.2.compilerMeta.drop = x.2.out.drop
  egressPort : r.2.compilerMeta.egressPort = x.2.out.egressPort

/-- A generated program refines its source: related tables stay related, and the
headers that reach the deparser have the same wire image. A frame that the source
leaves to the host has to pass its parser once more. -/
structure Refines (g : Program σ H M) (P : Source τ A B) (S : σ → τ → Prop) (R : H → A → Prop) :
    Prop where
  parses : ∀ pkt m, Option.Rel (ParsedAs R pkt m 0) (runParser g pkt m) (P.parser pkt)
  controls : ∀ {pkt : Frame} {p : Parsed A} {s : σ} {t : τ} (port : Dev) {hdr : H}
      {m : CompilerMeta},
    P.parser pkt = some p → S s t → R hdr p.hdr → m.drop = false → m.egressPort = 0 →
    ControlledAs g P S (g.control port.val s ⟨hdr,g.usermeta,m⟩) (P.control t port p)
  framed : ∀ {pkt : Frame} {p : Parsed A} (t : τ) (port : Dev),
    P.parser pkt = some p → Framed pkt p.offset (P.emitted t port p)
  again : ∀ (t : τ) (port : Dev) (pkt f : Frame),
    (P.run t port pkt).2 = .kernel f → P.parser f ≠ none

/-- The deparser writes as many octets as were parsed. -/
structure RefinesInPlace (g : Program σ H M) (P : Source τ A B) (S : σ → τ → Prop)
    (R : H → A → Prop) : Prop extends Refines g P S R where
  unresized : ∀ {pkt : Frame} {p : Parsed A} (t : τ) (port : Dev),
    P.parser pkt = some p → (P.emitted t port p).length = p.offset

/-- The frame as `process` finds it. -/
def received (skb : Skb) : Frame :=
  if 4 ≤ skb.dataMeta.length then splice 12 (skb.dataMeta.take 2) skb.data else skb.data

/-- An skb as the driver hands it over, with nothing in `cb` yet. The P4 program is run on
`data` as it stands here, before `tc_ingress_func` puts back the ether type that
`dataMeta` holds. -/
structure Arrives (skb : Skb) (port : Dev) : Prop where
  cb : skb.cb = CompilerMeta.zero
  ifindex : skb.ifindex = port.val

theorem arrives_bare (data : Frame) (port : Dev) : Arrives ⟨data,[],port.val,.zero⟩ port :=
  ⟨rfl,rfl⟩

/-- Metadata in front of a frame that has no room for an ether type. -/
def Runt (skb : Skb) : Prop := 4 ≤ skb.dataMeta.length ∧ skb.data.length < 14

instance (skb : Skb) : Decidable (Runt skb) := inferInstanceAs (Decidable (_ ∧ _))

theorem not_runt_bare (data : Frame) (port : Dev) : ¬Runt ⟨data,[],port.val,.zero⟩ :=
  fun h => absurd h.1 (by rw [List.length_nil]; decide)

structure Fresh (skb : Skb) (port : Dev) : Prop extends Arrives skb port where
  dataMeta : 4 ≤ skb.dataMeta.length → 14 ≤ skb.data.length

/-- A frame as it reaches its device. -/
structure Arrival (P : Skb → Dev → Prop) where
  skb : Skb
  port : Dev
  arrives : P skb port

def Arrival.frame {P : Skb → Dev → Prop} (a : Arrival P) : Dev × Frame := (a.port,a.skb.data)

theorem Arrives.fresh {skb : Skb} {port : Dev} (h : Arrives skb port) (hr : ¬Runt skb) :
    Fresh skb port := ⟨h,fun hm => Nat.not_lt.mp fun hl => hr ⟨hm,hl⟩⟩

theorem Runt.restoreEtherType {skb : Skb} (h : Runt skb) (m : CompilerMeta) :
    restoreEtherType {skb with cb := m} = none := by
  rw [Generated.restoreEtherType, if_pos h.1, if_pos h.2]

theorem Fresh.restoreEtherType {skb : Skb} {port : Dev} (h : Fresh skb port) (m : CompilerMeta) :
    restoreEtherType {skb with cb := m} = some {skb with data := received skb, cb := m} := by
  unfold Generated.restoreEtherType received
  by_cases hm : 4 ≤ skb.dataMeta.length
  · simp only [if_pos hm, if_neg (Nat.not_lt.mpr (h.dataMeta hm))]
  · simp only [if_neg hm]

theorem Fresh.length_received {skb : Skb} {port : Dev} (h : Fresh skb port) :
    (received skb).length = skb.data.length := by
  unfold received
  by_cases hm : 4 ≤ skb.dataMeta.length
  · have hd := h.dataMeta hm
    rw [if_pos hm, length_splice (by rw [List.length_take]; omega)]
  · rw [if_neg hm]

/-- The ether type that is put back is overwritten or not parsed at all. -/
theorem Fresh.drop_received {skb : Skb} {port : Dev} (h : Fresh skb port) {offset : ℕ}
    {emitted : List Byte} (hf : Framed skb.data offset emitted) :
    (received skb).drop offset = skb.data.drop offset := by
  unfold received
  by_cases hm : 4 ≤ skb.dataMeta.length
  · have hd := h.dataMeta hm
    have ho : 14 ≤ offset := by
      rcases hf with ⟨hs,_⟩ | hf
      · omega
      · exact hf.1
    have ht : (skb.data.take 12 ++ skb.dataMeta.take 2).length = 14 := by
      simp only [List.length_append, List.length_take]
      omega
    have hl : (skb.dataMeta.take 2).length = 2 := by
      rw [List.length_take]
      omega
    rw [if_pos hm, splice, List.drop_append, ht, List.drop_eq_nil_of_le (by omega),
      List.nil_append, List.drop_drop, hl]
    congr 1
    omega
  · rw [if_neg hm]

/-- What a first visit leaves behind, by the verdict of the control. -/
def visited (s : σ) (skb : Skb) (m : CompilerMeta) (data : Option Frame) : TcAct × σ × Skb :=
  match data with
  | none => (.shot,s,{skb with data := received skb, cb := m})
  | some data =>
    if m.egressPort = 0 then
      (.redirect skb.ifindex BPF_F_INGRESS,s,{skb with data, cb := {m with passToKernel := true}})
    else (.redirect m.egressPort 0,s,{skb with data, cb := m})

/-- The `cb` that the control finds on a first visit. -/
structure Unmarked (m : CompilerMeta) : Prop where
  recirculated : m.recirculated = false
  drop : m.drop = false
  egressPort : m.egressPort = 0
  passToKernel : m.passToKernel = false

theorem unmarked_recorded (e : ParserError) : Unmarked (recorded e CompilerMeta.zero) := by
  cases e with
  | noError => exact ⟨rfl,rfl,rfl,rfl⟩
  | packetTooShort => exact ⟨rfl,rfl,rfl,rfl⟩

theorem Fresh.tcIngressFunc_eq {skb : Skb} {port : Dev} (h : Fresh skb port) (g : Program σ H M)
    (adjustRoom : AdjustRoom) (hdrMd : HdrMd H M) (s : σ) {m : CompilerMeta} (hm : Unmarked m)
    {r : σ × ControlState H M} (hr : g.control port.val s
      ⟨hdrMd.cpumapHdr,hdrMd.cpumapUsermeta,{m with mark := 153}⟩ = r) :
    tcIngressFunc g adjustRoom hdrMd s {skb with cb := m} =
      visited r.1 skb r.2.compilerMeta
        (if r.2.compilerMeta.drop then none
        else deparse adjustRoom (g.deparser r.2.hdr r.2.usermeta)
          (bytes hdrMd.ebpfPacketOffsetInBits) (received skb)) := by
  rw [tcIngressFunc, if_neg (by simp [hm.passToKernel]), if_neg (by simp [hm.recirculated]),
    h.restoreEtherType]
  simp only [process, h.ifindex, hr]
  cases hd : r.2.compilerMeta.drop with
  | true => simp only [↓reduceIte, visited, h.ifindex]
  | false =>
    simp only [Bool.false_eq_true, ↓reduceIte]
    cases deparse adjustRoom (g.deparser r.2.hdr r.2.usermeta)
        (bytes hdrMd.ebpfPacketOffsetInBits) (received skb) with
    | none => simp only [visited, h.ifindex]
    | some data =>
      simp only [visited, hd, Bool.not_false, Bool.true_and, decide_eq_true_eq, h.ifindex]

variable {g : Program σ H M} {P : Source τ A B} {S : σ → τ → Prop} {R : H → A → Prop}
  (hg : Refines g P S R) (adjustRoom : AdjustRoom) {s : σ} {t : τ} {skb : Skb} {port : Dev}
include hg

theorem Refines.tcParseFunc_none (hp : P.parser skb.data = none) : tcParseFunc g skb = none := by
  have h := hg.parses skb.data skb.cb
  rw [hp] at h
  cases hr : runParser g skb.data skb.cb with
  | none => rw [tcParseFunc, hr, Option.map_none]
  | some r =>
    rw [hr] at h
    cases h

theorem Refines.tcParseFunc_some {p : Parsed A} (hp : P.parser skb.data = some p) :
    ∃ hdr, R hdr p.hdr ∧ p.offset ≤ skb.data.length ∧ tcParseFunc g skb =
      some (⟨hdr,g.usermeta,8*p.offset⟩,{skb with cb := recorded p.parserError skb.cb}) := by
  have h := hg.parses skb.data skb.cb
  rw [hp] at h
  cases hr : runParser g skb.data skb.cb with
  | none =>
    rw [hr] at h
    cases h
  | some r =>
    rw [hr] at h
    cases h with
    | some h =>
      refine ⟨r.hdr,h.hdr,h.offset_le,?_⟩
      rw [tcParseFunc, hr, Option.map_some, h.offset_eq, h.compilerMeta]

theorem Refines.visit_rejected (hp : P.parser skb.data = none) :
    visit g adjustRoom s skb = (.shot,s,skb) := by
  rw [visit, hg.tcParseFunc_none hp]

omit hg in
theorem tcIngressFunc_passToKernel (hdrMd : HdrMd H M) (hk : skb.cb.passToKernel = true) :
    tcIngressFunc g adjustRoom hdrMd s skb = (.ok,s,skb) := by
  rw [tcIngressFunc, if_pos hk]

omit hg in
theorem passToKernel_recorded (e : ParserError) (m : CompilerMeta) :
    (recorded e m).passToKernel = m.passToKernel := by
  cases e with
  | noError => rfl
  | packetTooShort => rfl

theorem Refines.visit_again {b : Skb} (hp : P.parser b.data ≠ none)
    (hk : b.cb.passToKernel = true) :
    ∃ m, visit g adjustRoom s b = (.ok,s,{b with cb := m}) := by
  obtain ⟨p,hp⟩ := Option.ne_none_iff_exists'.mp hp
  obtain ⟨hdr,_,_,hr⟩ := hg.tcParseFunc_some hp
  refine ⟨recorded p.parserError b.cb,?_⟩
  rw [visit, hr]
  exact tcIngressFunc_passToKernel adjustRoom _ ((passToKernel_recorded _ _).trans hk)

theorem Refines.visit_parsed (hs : S s t) (hf : Fresh skb port) {p : Parsed A}
    (hp : P.parser skb.data = some p)
    (ha : (P.emitted t port p).length ≠ p.offset → AdjustsRoom adjustRoom) :
    ∃ s' m, S s' (P.control t port p).1 ∧ m.drop = (P.control t port p).2.out.drop ∧
      m.egressPort = (P.control t port p).2.out.egressPort ∧
      visit g adjustRoom s skb = visited s' skb m
        (if m.drop ∨ NoRoom adjustRoom (received skb) p.offset (P.emitted t port p) then none
        else some (P.emitted t port p ++ skb.data.drop p.offset)) := by
  obtain ⟨hdr,hh,hle,hr⟩ := hg.tcParseFunc_some hp
  have hm : Unmarked (recorded p.parserError skb.cb) := by
    rw [hf.cb]
    exact unmarked_recorded p.parserError
  have hc := hg.controls (t := t) port (m := {recorded p.parserError skb.cb with mark := 153}) hp hs
    hh hm.drop hm.egressPort
  have hin := hf.tcIngressFunc_eq g adjustRoom ⟨hdr,g.usermeta,8*p.offset⟩ s hm rfl
  generalize g.control port.val s _ = x at hc hin
  obtain ⟨ht,⟨bss,he,hb⟩,hd,hq⟩ := hc
  have hfr := hg.framed t port hp
  have hrec : Framed (received skb) p.offset (P.emitted t port p) := by
    rw [Framed, hf.length_received]
    exact hfr
  have hdep := deparse_eq adjustRoom (received skb) he (by rw [hb]; exact ha)
    (by rw [hb]; exact hrec) (by rw [hf.length_received]; exact hle)
  rw [hb, hf.drop_received hfr] at hdep
  simp only [bytes_mul, hdep] at hin
  refine ⟨x.1,x.2.compilerMeta,ht,hd,hq,?_⟩
  rw [visit, hr]
  refine hin.trans ?_
  rw [ite_or]
  rfl

omit hg in
theorem deliver_shot {s' : σ} {b : Skb} (h : visit g adjustRoom s skb = (.shot,s',b)) :
    deliver g adjustRoom s skb = (s',.shot) := by
  rw [deliver, h]
  rfl

omit hg in
theorem deliver_redirect {s' : σ} {skb' : Skb} {q : BitVec 32}
    (h : visit g adjustRoom s skb = (.redirect q 0,s',skb')) :
    deliver g adjustRoom s skb = (s',.redirect q skb'.data) := by
  rw [deliver, h]
  rfl

theorem Refines.deliver_kernel {s' : σ} {skb' : Skb} {q : BitVec 32}
    (h : visit g adjustRoom s skb = (.redirect q BPF_F_INGRESS,s',skb'))
    (hk : skb'.cb.passToKernel = true) (hp : P.parser skb'.data ≠ none) :
    deliver g adjustRoom s skb = (s',.kernel skb'.data) := by
  obtain ⟨m,hm⟩ := hg.visit_again adjustRoom (s := s') (b := {skb' with ifindex := q}) hp hk
  simp only [deliver, h, hm, ↓reduceIte]
  rfl

/-- The ether type of a runt cannot be put back. -/
theorem Refines.deliver_runt (ha : Arrives skb port) (hr : Runt skb) :
    deliver g adjustRoom s skb = (s,.shot) := by
  cases hp : P.parser skb.data with
  | none => exact deliver_shot adjustRoom (hg.visit_rejected adjustRoom hp)
  | some p =>
    obtain ⟨hdr,_,_,hparse⟩ := hg.tcParseFunc_some hp
    have hm : Unmarked (recorded p.parserError skb.cb) := by
      rw [ha.cb]
      exact unmarked_recorded p.parserError
    refine deliver_shot adjustRoom (b := {skb with cb := recorded p.parserError skb.cb}) ?_
    rw [visit, hparse]
    simp only [tcIngressFunc, hm.passToKernel, hm.recirculated, Bool.false_eq_true, ↓reduceIte,
      hr.restoreEtherType]

theorem Refines.deliver_noRoom (hs : S s t) (hf : Fresh skb port) {p : Parsed A}
    (hp : P.parser skb.data = some p) (ha : AdjustsRoom adjustRoom)
    (hn : NoRoom adjustRoom (received skb) p.offset (P.emitted t port p)) :
    S (deliver g adjustRoom s skb).1 (P.run t port skb.data).1 ∧
      (deliver g adjustRoom s skb).2 = .shot := by
  obtain ⟨s',m,ht,_,_,hv⟩ := hg.visit_parsed adjustRoom hs hf hp fun _ => ha
  rw [if_pos (Or.inr hn)] at hv
  rw [deliver_shot adjustRoom hv, Source.run, hp]
  exact ⟨ht,rfl⟩

/-- Where the frame can be resized, both visits together do what the P4 program says. -/
theorem Refines.deliver_eq (hs : S s t) (hf : Fresh skb port)
    (hroom : ∀ p, P.parser skb.data = some p → (P.emitted t port p).length = p.offset ∨
      AdjustsRoom adjustRoom ∧
        (adjustRoom (received skb) ((P.emitted t port p).length - p.offset)).isSome) :
    S (deliver g adjustRoom s skb).1 (P.run t port skb.data).1 ∧
      (deliver g adjustRoom s skb).2 = (P.run t port skb.data).2 := by
  cases hp : P.parser skb.data with
  | none =>
    rw [deliver_shot adjustRoom (hg.visit_rejected adjustRoom hp), Source.run, hp]
    exact ⟨hs,rfl⟩
  | some p =>
    have hr : P.run t port skb.data = ((P.control t port p).1,
        dispatch skb.data p.offset (P.emitted t port p) (P.control t port p).2.out) := by
      rw [Source.run, hp]
    have hagain := hg.again t port skb.data
    obtain ⟨s',m,ht,hd,hq,hv⟩ := hg.visit_parsed adjustRoom hs hf hp fun hl =>
      ((hroom p hp).resolve_left hl).1
    have hn : ¬NoRoom adjustRoom (received skb) p.offset (P.emitted t port p) := by
      rintro ⟨hl,hc⟩
      have hsome := ((hroom p hp).resolve_left hl).2
      rw [hc] at hsome
      cases hsome
    rw [hr] at hagain ⊢
    simp only [dispatch, ← hd, ← hq] at hagain ⊢
    cases hdrop : m.drop with
    | true =>
      rw [hdrop, if_pos (Or.inl rfl)] at hv
      rw [deliver_shot adjustRoom hv]
      exact ⟨ht,rfl⟩
    | false =>
      rw [hdrop, if_neg (by simp [hn])] at hv
      simp only [hdrop, Bool.false_eq_true, ↓reduceIte] at hagain ⊢
      by_cases he : m.egressPort = 0
      · rw [visited, if_pos he] at hv
        rw [if_pos he] at hagain ⊢
        rw [hg.deliver_kernel adjustRoom hv rfl (hagain _ rfl)]
        exact ⟨ht,rfl⟩
      · rw [visited, if_neg he] at hv
        rw [if_neg he, deliver_redirect adjustRoom hv]
        exact ⟨ht,rfl⟩

omit hg in
/-- A frame which need not be resized is delivered whatever `bpf_skb_adjust_room` does. -/
theorem RefinesInPlace.deliver (hg : RefinesInPlace g P S R) (ha : Arrives skb port) (hs : S s t) :
    S (deliver g adjustRoom s skb).1 (if Runt skb then t else (P.run t port skb.data).1) ∧
      (deliver g adjustRoom s skb).2 = if Runt skb then .shot else (P.run t port skb.data).2 := by
  by_cases hr : Runt skb
  · rw [hg.deliver_runt adjustRoom ha hr, if_pos hr, if_pos hr]
    exact ⟨hs,rfl⟩
  · rw [if_neg hr, if_neg hr]
    exact hg.deliver_eq adjustRoom hs (ha.fresh hr) fun p hp => Or.inl (hg.unresized t port hp)

omit hg in
theorem growth_dispatch {pkt : Frame} {offset : ℕ} (hle : offset ≤ pkt.length)
    (emitted : List Byte) {out : GlobalMeta} (hd : out.drop = false) :
    growth pkt (dispatch pkt offset emitted out) = emitted.length - offset := by
  have hl : (emitted ++ pkt.drop offset).length = emitted.length + (pkt.length - offset) := by
    rw [List.length_append, List.length_drop]
  rw [dispatch, hd, if_neg Bool.false_ne_true]
  split
  · rw [growth, hl]
    omega
  · rw [growth, hl]
    omega

/-- The frame has to be resized for a verdict and cannot be. -/
def Stuck (adjustRoom : AdjustRoom) (skb : Skb) (verdict : Verdict) : Prop :=
  growth skb.data verdict ≠ 0 ∧ adjustRoom (received skb) (growth skb.data verdict) = none

instance (adjustRoom : AdjustRoom) (skb : Skb) (verdict : Verdict) :
    Decidable (Stuck adjustRoom skb verdict) := inferInstanceAs (Decidable (_ ∧ _))

omit hg in
theorem not_stuck_adjustRoomMac (skb : Skb) (verdict : Verdict) :
    ¬Stuck adjustRoomMac skb verdict := by
  rintro ⟨_,hc⟩
  rw [adjustRoomMac] at hc
  split at hc
  · cases hc
  · cases hc

theorem Refines.deliver_resized (ha : AdjustsRoom adjustRoom) (hs : S s t) (hf : Fresh skb port) :
    S (deliver g adjustRoom s skb).1 (P.run t port skb.data).1 ∧
      (deliver g adjustRoom s skb).2 =
        if Stuck adjustRoom skb (P.run t port skb.data).2 then .shot
        else (P.run t port skb.data).2 := by
  cases hp : P.parser skb.data with
  | none =>
    rw [deliver_shot adjustRoom (hg.visit_rejected adjustRoom hp), Source.run, hp, ite_self]
    exact ⟨hs,rfl⟩
  | some p =>
    have hstuck (hd : (P.control t port p).2.out.drop = false) :
        Stuck adjustRoom skb (P.run t port skb.data).2 ↔
          NoRoom adjustRoom (received skb) p.offset (P.emitted t port p) := by
      obtain ⟨_,_,hle,_⟩ := hg.tcParseFunc_some hp
      have hr : growth skb.data (P.run t port skb.data).2 =
          (P.emitted t port p).length - p.offset := by
        simp only [Source.run, hp]
        exact growth_dispatch hle _ hd
      rw [Stuck, NoRoom, hr, sub_ne_zero, Ne, Nat.cast_inj]
    by_cases hn : NoRoom adjustRoom (received skb) p.offset (P.emitted t port p)
    · refine ⟨(hg.deliver_noRoom adjustRoom hs hf hp ha hn).1,?_⟩
      rw [(hg.deliver_noRoom adjustRoom hs hf hp ha hn).2]
      cases hd : (P.control t port p).2.out.drop with
      | true => simp [Source.run, hp, dispatch, hd]
      | false => rw [if_pos ((hstuck hd).mpr hn)]
    · have hroom : ∀ q, P.parser skb.data = some q → (P.emitted t port q).length = q.offset ∨
          AdjustsRoom adjustRoom ∧
            (adjustRoom (received skb) ((P.emitted t port q).length - q.offset)).isSome := by
        intro q hq
        rw [hp] at hq
        cases hq
        by_cases hl : (P.emitted t port p).length = p.offset
        · exact Or.inl hl
        · right
          refine ⟨ha,Option.isSome_iff_ne_none.mpr fun hc => hn ⟨hl,hc⟩⟩
      obtain ⟨ht,hv⟩ := hg.deliver_eq adjustRoom hs hf hroom
      refine ⟨ht,?_⟩
      rw [hv]
      cases hd : (P.control t port p).2.out.drop with
      | true => simp [Source.run, hp, dispatch, hd]
      | false => rw [if_neg (mt (hstuck hd).mp hn)]

/-- In general the verdict is the source's, except that a runt is lost, and so is a
frame which would have to be resized when `bpf_skb_adjust_room` fails. -/
theorem Refines.deliver (ha : AdjustsRoom adjustRoom) (hskb : Arrives skb port) (hs : S s t) :
    S (deliver g adjustRoom s skb).1 (if Runt skb then t else (P.run t port skb.data).1) ∧
      (deliver g adjustRoom s skb).2 =
        if Runt skb ∨ Stuck adjustRoom skb (P.run t port skb.data).2 then .shot
        else (P.run t port skb.data).2 := by
  by_cases hr : Runt skb
  · rw [hg.deliver_runt adjustRoom hskb hr, if_pos hr, if_pos (Or.inl hr)]
    exact ⟨hs,rfl⟩
  · simp only [hr, false_or, if_false]
    exact hg.deliver_resized adjustRoom ha hs (hskb.fresh hr)

end Refinement

section ReadOnly
variable {σ H M : Type} {g : Program σ H M} (h : ∀ ifindex s c, (g.control ifindex s c).1 = s)
  (adjustRoom : AdjustRoom)
include h

theorem process_tables (hdrMd : HdrMd H M) (s : σ) (skb : Skb) :
    (process g adjustRoom hdrMd s skb).1 = s := by
  dsimp only [process]
  split
  · exact h skb.ifindex s _
  · exact h skb.ifindex s _

theorem tcIngressFunc_tables (hdrMd : HdrMd H M) (s : σ) (skb : Skb) :
    (tcIngressFunc g adjustRoom hdrMd s skb).2.1 = s := by
  rw [tcIngressFunc]
  by_cases hk : skb.cb.passToKernel
  · rw [if_pos hk]
  rw [if_neg hk]
  cases (if skb.cb.recirculated then some skb else restoreEtherType {skb with cb.mark := 153}) with
  | none => rfl
  | some skb =>
    have hp := process_tables h adjustRoom hdrMd s skb
    dsimp only
    generalize process g adjustRoom hdrMd s skb = r at hp ⊢
    obtain ⟨s',m,data⟩ := r
    cases data with
    | none => exact hp
    | some data =>
      dsimp only
      split
      · exact hp
      · exact hp

theorem visit_tables (s : σ) (skb : Skb) : (visit g adjustRoom s skb).2.1 = s := by
  rw [visit]
  cases tcParseFunc g skb with
  | none => rfl
  | some r => exact tcIngressFunc_tables h adjustRoom r.1 s r.2

omit h in
theorem outcome_tables (r : TcAct × σ × Skb) : (outcome r).1 = r.2.1 := by
  obtain ⟨act,s,skb⟩ := r
  cases act with
  | ok => rfl
  | shot => rfl
  | pipe => rfl
  | redirect port flags => rfl

/-- A control that only reads its tables leaves them as they are. -/
theorem deliver_tables (s : σ) (skb : Skb) : (deliver g adjustRoom s skb).1 = s := by
  have hv := visit_tables h adjustRoom s skb
  rw [deliver]
  generalize visit g adjustRoom s skb = r at hv ⊢
  obtain ⟨act,s',skb'⟩ := r
  cases act with
  | ok => exact hv
  | shot => exact hv
  | pipe => exact hv
  | redirect port flags =>
    dsimp only
    split
    · rw [outcome_tables, visit_tables h]
      exact hv
    · exact hv

end ReadOnly

end P4tcExamples.Generated
