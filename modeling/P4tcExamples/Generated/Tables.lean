import P4tcExamples.Generated.Pipeline

/-! # Table lookups of the generated controls

`bpf_p4tc_tbl_read` compares the octets of a key and returns the action of the entry
it finds, the default action of the table, or nothing. The action is an id and the
octets of its parameters, which the code reads through packed structs: device numbers
in host order, addresses as they are sent.
-/
namespace P4tcExamples.Generated
open BitFields

/-- `struct p4tc_table_entry_act_bpf`. -/
structure ActBpf where
  actId : BitVec 32
  params : List Byte

abbrev Entries := List Byte → Option ActBpf

def tblRead (entries : Entries) (defaultMiss : Option ActBpf) (key : List Byte) : Option ActBpf :=
  (entries key).or defaultMiss

namespace ActBpf

def u32At (v : ActBpf) (o : ByteOrder) (k : ℕ) : BitVec 32 := o.load 32 (slice v.params k 4)

def u64At (v : ActBpf) (o : ByteOrder) (k : ℕ) : BitVec 64 := o.load 64 (slice v.params k 8)

end ActBpf

/-- The action ids and parameters that entries hold are those of the source's actions. -/
def Holds {κ ν : Type} (image : κ → List Byte) (holds : ActBpf → ν → Prop) (entries : Entries)
    (t : κ → Option ν) : Prop :=
  ∀ key, Option.Rel holds (entries (image key)) (t key)

section Lookup
variable {κ ν : Type} {image : κ → List Byte} {holds : ActBpf → ν → Prop} {entries : Entries}
  {t : κ → Option ν}

theorem Holds.lookup_cases (h : Holds image holds entries t) (key : κ) :
    entries (image key) = none ∧ t key = none ∨
      ∃ a v, entries (image key) = some a ∧ t key = some v ∧ holds a v := by
  have hk := h key
  generalize entries (image key) = x at hk
  generalize t key = y at hk
  cases hk with
  | none => exact Or.inl ⟨rfl,rfl⟩
  | some hk => exact Or.inr ⟨_,_,rfl,rfl,hk⟩

theorem Holds.tblRead_default (h : Holds image holds entries t) {d : ActBpf} {v : ν}
    (hd : holds d v) (key : κ) :
    ∃ a, tblRead entries (some d) (image key) = some a ∧ holds a ((t key).getD v) := by
  rcases h.lookup_cases key with ⟨he,ht⟩ | ⟨a,x,he,ht,hx⟩
  · exact ⟨d,by rw [tblRead, he, Option.none_or],by rw [ht]; exact hd⟩
  · exact ⟨a,by rw [tblRead, he, Option.some_or],by rw [ht]; exact hx⟩

theorem tblRead_none (entries : Entries) (key : List Byte) :
    tblRead entries none key = entries key := Option.or_none

end Lookup

namespace CompilerMeta

def sendToPort (port : BitVec 32) (m : CompilerMeta) : CompilerMeta :=
  {m with drop := false, egressPort := port}

def dropPacket (m : CompilerMeta) : CompilerMeta := {m with drop := true}

end CompilerMeta

/-- The part of `compiler_meta__` that the verdict depends on. -/
structure MetaAs (m : CompilerMeta) (out : GlobalMeta) : Prop where
  drop : m.drop = out.drop
  egressPort : m.egressPort = out.egressPort

theorem MetaAs.sendToPort {m : CompilerMeta} {out : GlobalMeta} {q : BitVec 32} {port : Dev}
    (hq : q = port.val) : MetaAs (m.sendToPort q) (P4tcExamples.sendToPort port out) := ⟨rfl,hq⟩

theorem MetaAs.dropPacket {m : CompilerMeta} {out : GlobalMeta} (h : MetaAs m out) :
    MetaAs m.dropPacket (P4tcExamples.dropPacket out) := ⟨rfl,h.egressPort⟩

end P4tcExamples.Generated
