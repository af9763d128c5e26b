import Mathlib.Data.List.Pairwise
import Mathlib.Order.Nat

/-! # Longest-prefix match

A route covers the addresses that agree with it on its leading bits. Lookup
returns a covering route of greatest length. In a table no two routes have the
same length and the same leading bits, so at most one route of each length
covers an address and the result does not depend on the order of the entries.
-/
namespace P4tcExamples.PrefixMatch
variable {w : ℕ} {α : Type}

structure Route (w : ℕ) (α : Type) where
  address : BitVec w
  len : ℕ
  len_le : len ≤ w
  value : α

def leading (len : ℕ) (a : BitVec w) : BitVec w := a >>> (w - len)

def Route.Covers (r : Route w α) (a : BitVec w) : Prop := leading r.len a = leading r.len r.address

instance (r : Route w α) (a : BitVec w) : Decidable (r.Covers a) :=
  inferInstanceAs (Decidable (_ = _))

def Route.SameKey (r s : Route w α) : Prop :=
  r.len = s.len ∧ leading r.len r.address = leading r.len s.address

instance : Std.Symm fun r s : Route w α => ¬r.SameKey s where
  symm _ _ h hk := h ⟨hk.1.symm,by rw [← hk.1]; exact hk.2.symm⟩

structure Table (w : ℕ) (α : Type) where
  routes : List (Route w α)
  distinct : routes.Pairwise (fun r s => ¬r.SameKey s)

def Table.empty : Table w α := ⟨[],.nil⟩

/-- The longer of a covering route and the best one of the remaining entries. -/
def better (r : Route w α) : Option (Route w α) → Route w α
  | none => r
  | some s => if r.len < s.len then s else r

def longest (a : BitVec w) : List (Route w α) → Option (Route w α)
  | [] => none
  | r :: rs => if r.Covers a then some (better r (longest a rs)) else longest a rs

def Table.lookup (t : Table w α) (a : BitVec w) : Option α := (longest a t.routes).map Route.value

theorem longest_eq_none {a : BitVec w} {rs : List (Route w α)} :
    longest a rs = none ↔ ∀ r ∈ rs, ¬r.Covers a := by
  induction rs with
  | nil => simp [longest]
  | cons r rs ih =>
    by_cases h : r.Covers a
    · simp [longest, h]
    · simp [longest, h, ih]

/-- What lookup returns covers the address and no covering route is longer. -/
theorem longest_spec {a : BitVec w} {rs : List (Route w α)} {r : Route w α}
    (h : longest a rs = some r) :
    r ∈ rs ∧ r.Covers a ∧ ∀ s ∈ rs, s.Covers a → s.len ≤ r.len := by
  induction rs generalizing r with
  | nil => simp [longest] at h
  | cons q rs ih =>
    by_cases hq : q.Covers a
    · simp only [longest, if_pos hq, Option.some.injEq] at h
      cases hb : longest a rs with
      | none =>
        rw [hb] at h
        subst h
        have hnone := longest_eq_none.mp hb
        refine ⟨List.mem_cons_self,hq,List.forall_mem_cons.mpr ⟨fun _ => le_rfl,?_⟩⟩
        exact fun s hs hc => absurd hc (hnone s hs)
      | some b =>
        obtain ⟨hm,hc,hmax⟩ := ih hb
        rw [hb] at h
        by_cases hl : q.len < b.len
        · simp only [better, if_pos hl] at h
          subst h
          exact ⟨List.mem_cons_of_mem _ hm,hc,List.forall_mem_cons.mpr ⟨fun _ => hl.le,hmax⟩⟩
        · simp only [better, if_neg hl] at h
          subst h
          refine ⟨List.mem_cons_self,hq,List.forall_mem_cons.mpr ⟨fun _ => le_rfl,?_⟩⟩
          exact fun s hs hsc => (hmax s hs hsc).trans (Nat.not_lt.mp hl)
    · simp only [longest, if_neg hq] at h
      obtain ⟨hm,hc,hmax⟩ := ih h
      refine ⟨List.mem_cons_of_mem _ hm,hc,List.forall_mem_cons.mpr ⟨?_,hmax⟩⟩
      exact fun hsc => absurd hsc hq

/-- The route of the longest prefix that contains the address. -/
structure Table.Selects (t : Table w α) (a : BitVec w) (r : Route w α) : Prop where
  mem : r ∈ t.routes
  covers : r.Covers a
  longest : ∀ s ∈ t.routes, s.Covers a → s.len ≤ r.len

theorem Table.Selects.unique {t : Table w α} {a : BitVec w} {r s : Route w α}
    (hr : t.Selects a r) (hs : t.Selects a s) : r = s := by
  have hl : r.len = s.len :=
    le_antisymm (hs.longest r hr.mem hr.covers) (hr.longest s hs.mem hs.covers)
  have hc : leading r.len a = leading r.len s.address := by
    rw [hl]
    exact hs.covers
  by_contra hn
  exact t.distinct.forall hr.mem hs.mem hn ⟨hl,hr.covers.symm.trans hc⟩

theorem Table.lookup_eq_some {t : Table w α} {a : BitVec w} {v : α} :
    t.lookup a = some v ↔ ∃ r, t.Selects a r ∧ r.value = v := by
  rw [Table.lookup, Option.map_eq_some_iff]
  constructor
  · rintro ⟨r,hr,hv⟩
    obtain ⟨hm,hc,hmax⟩ := longest_spec hr
    exact ⟨r,⟨hm,hc,hmax⟩,hv⟩
  · rintro ⟨r,hr,hv⟩
    cases hb : PrefixMatch.longest a t.routes with
    | none => exact absurd hr.covers (longest_eq_none.mp hb r hr.mem)
    | some b =>
      obtain ⟨hm,hc,hmax⟩ := longest_spec hb
      have he : b = r := Table.Selects.unique ⟨hm,hc,hmax⟩ hr
      exact ⟨b,rfl,he ▸ hv⟩

theorem Table.lookup_eq_none {t : Table w α} {a : BitVec w} :
    t.lookup a = none ↔ ∀ r ∈ t.routes, ¬r.Covers a := by
  rw [Table.lookup, Option.map_eq_none_iff, longest_eq_none]

/-- The entries of a table under other keys than one. -/
def Route.OtherKey (address : BitVec w) (len : ℕ) (r : Route w α) : Prop :=
  ¬(r.len = len ∧ leading len r.address = leading len address)

instance (address : BitVec w) (len : ℕ) (r : Route w α) : Decidable (r.OtherKey address len) :=
  inferInstanceAs (Decidable ¬_)

def Table.others (t : Table w α) (address : BitVec w) (len : ℕ) : List (Route w α) :=
  t.routes.filter (·.OtherKey address len)

/-- Puts an entry under a key in place of what is there, or removes what is there. -/
def Table.set (t : Table w α) (address : BitVec w) (len : ℕ) (len_le : len ≤ w) :
    Option α → Table w α
  | none => ⟨t.others address len,t.distinct.filter _⟩
  | some v =>
    ⟨⟨address,len,len_le,v⟩ :: t.others address len,List.pairwise_cons.mpr ⟨fun r hr hk => by
      have ho := of_decide_eq_true (List.mem_filter.mp hr).2
      exact ho ⟨hk.1.symm,hk.2.symm⟩,t.distinct.filter _⟩⟩

theorem Table.length_set_le (t : Table w α) (address : BitVec w) (len : ℕ) (len_le : len ≤ w)
    (value : Option α) : (t.set address len len_le value).routes.length ≤ t.routes.length + 1 := by
  have hl : (t.others address len).length ≤ t.routes.length := List.length_filter_le _ _
  cases value with
  | none => exact hl.trans (Nat.le_succ _)
  | some v => exact Nat.succ_le_succ hl

end P4tcExamples.PrefixMatch
