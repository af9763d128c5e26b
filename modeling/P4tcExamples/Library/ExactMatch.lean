import Mathlib.Data.Set.Card
import Mathlib.Data.List.Infix

/-! # Exact-match tables with entries added on a miss

A table lists keys with their actions. Abstractly it is the set of keys seen since
they were last forgotten; `run_represents` says that adding on a miss and removing
by key keeps the list in step with that set, without duplicates, as long as the
set fits the capacity.
-/
namespace P4tcExamples.ExactMatch
variable {κ α : Type}

abbrev Table (κ α : Type) := List (κ × α)

def keys (t : Table κ α) : List κ := t.map Prod.fst

inductive Event (κ : Type)
  | seen (k : κ)
  | forgotten (k : κ)

/-- The keys seen after they were last forgotten. -/
def Live (h : List (Event κ)) : Set κ :=
  {k | ∃ before after, h = before ++ .seen k :: after ∧ .forgotten k ∉ after}

@[simp] theorem live_nil : Live ([] : List (Event κ)) = ∅ := by
  ext k
  simp [Live]

theorem mem_live_concat {h : List (Event κ)} {e : Event κ} {k : κ} :
    k ∈ Live (h ++ [e]) ↔ e = .seen k ∨ k ∈ Live h ∧ e ≠ .forgotten k := by
  constructor
  · rintro ⟨before,after,he,ha⟩
    rcases List.eq_nil_or_concat' after with rfl | ⟨mid,x,rfl⟩
    · left
      exact List.singleton_inj.mp (List.append_inj' he rfl).2
    · right
      have hs : h ++ [e] = (before ++ .seen k :: mid) ++ [x] := by
        rw [he, List.append_assoc, List.cons_append]
      obtain ⟨hh,hx⟩ := List.append_inj' hs rfl
      cases hx
      refine ⟨⟨before,mid,hh,fun hm => ha (List.mem_append_left _ hm)⟩,?_⟩
      rintro rfl
      exact ha (List.mem_append_right _ List.mem_cons_self)
  · rintro (rfl | ⟨⟨before,after,rfl,ha⟩,he⟩)
    · exact ⟨h,[],rfl,List.not_mem_nil⟩
    · refine ⟨before,after ++ [e],by rw [List.append_assoc, List.cons_append],?_⟩
      intro hm
      rcases List.mem_append.mp hm with hm | hm
      · exact ha hm
      · exact he (List.mem_singleton.mp hm).symm

theorem live_seen (h : List (Event κ)) (k : κ) : Live (h ++ [.seen k]) = insert k (Live h) := by
  ext x
  rw [mem_live_concat, Set.mem_insert_iff]
  simp [eq_comm]

theorem live_forgotten (h : List (Event κ)) (k : κ) :
    Live (h ++ [.forgotten k]) = Live h \ {k} := by
  ext x
  rw [mem_live_concat, Set.mem_sdiff, Set.mem_singleton_iff]
  simp [eq_comm]

theorem live_subset_seen (h : List (Event κ)) : Live h ⊆ {k | .seen k ∈ h} := by
  rintro k ⟨before,after,rfl,_⟩
  exact List.mem_append_right _ List.mem_cons_self

theorem live_of_forall_seen {h : List (Event κ)} (hs : ∀ k, .forgotten k ∉ h) :
    Live h = {k | .seen k ∈ h} := by
  apply Set.Subset.antisymm (live_subset_seen h)
  intro k hk
  obtain ⟨before,after,rfl⟩ := List.append_of_mem hk
  refine ⟨before,after,rfl,fun hm => hs k ?_⟩
  exact List.mem_append_right _ (List.mem_cons_of_mem _ hm)

theorem ncard_live_le (h : List (Event κ)) : (Live h).Finite ∧ (Live h).ncard ≤ h.length := by
  induction h using List.reverseRecOn with
  | nil => simp
  | append_singleton h e ih =>
    obtain ⟨hf,hc⟩ := ih
    rw [List.length_append, List.length_singleton]
    cases e with
    | seen k =>
      rw [live_seen]
      exact ⟨hf.insert k,(Set.ncard_insert_le k (Live h)).trans (Nat.succ_le_succ hc)⟩
    | forgotten k =>
      rw [live_forgotten]
      have hd := Set.ncard_le_ncard (Set.sdiff_subset (s := Live h) (t := {k})) hf
      exact ⟨hf.sdiff,by omega⟩

/-- No moment of the history has more live keys than the table has room for. -/
def Fits (capacity : ℕ) (h : List (Event κ)) : Prop :=
  ∀ before, before <+: h → (Live before).ncard ≤ capacity

theorem fits_of_length_le {capacity : ℕ} {h : List (Event κ)} (hl : h.length ≤ capacity) :
    Fits capacity h :=
  fun before hb => (ncard_live_le before).2.trans (hb.length_le.trans hl)

theorem fits_perm {capacity : ℕ} {h g : List (Event κ)} (hs : ∀ k, .forgotten k ∉ h)
    (hp : g.Perm h) (hf : Fits capacity h) : Fits capacity g := by
  intro before hb
  refine le_trans (Set.ncard_le_ncard ?_ (ncard_live_le h).1) (hf h List.prefix_rfl)
  intro k hk
  rw [live_of_forall_seen hs]
  exact hp.subset (hb.subset (live_subset_seen before hk))

/-- The table lists each key of the set once, and no other key. -/
structure Represents (t : Table κ α) (S : Set κ) : Prop where
  nodup : (keys t).Nodup
  mem_iff : ∀ k, k ∈ keys t ↔ k ∈ S

theorem represents_nil : Represents ([] : Table κ α) ∅ := ⟨List.nodup_nil,fun _ => by simp [keys]⟩

variable [DecidableEq κ]

def position (t : Table κ α) (k : κ) : Option ℕ := t.findIdx? fun e => e.1 = k

def lookup (t : Table κ α) (k : κ) : Option α := (t.find? fun e => e.1 = k).map Prod.snd

/-- A new entry, refused by a full table. -/
def add (capacity : ℕ) (k : κ) (a : α) (t : Table κ α) : Table κ α :=
  if t.length < capacity then t ++ [(k,a)] else t

def addOnMiss (capacity : ℕ) (k : κ) (a : α) (t : Table κ α) : Table κ α :=
  if k ∈ keys t then t else add capacity k a t

def remove (k : κ) (t : Table κ α) : Table κ α := t.filter fun e => e.1 ≠ k

theorem lookup_eq_none {t : Table κ α} {k : κ} : lookup t k = none ↔ k ∉ keys t := by
  rw [lookup, Option.map_eq_none_iff, List.find?_eq_none, keys, List.mem_map]
  constructor
  · rintro h ⟨e,he,hk⟩
    exact h e he (decide_eq_true hk)
  · intro h e he hk
    exact h ⟨e,he,of_decide_eq_true hk⟩

theorem addOnMiss_eq_self {capacity : ℕ} {k : κ} {a : α} {t : Table κ α} :
    addOnMiss capacity k a t = t ↔ k ∈ keys t ∨ capacity ≤ t.length := by
  unfold addOnMiss add
  split
  · rename_i h
    simp [h]
  · rename_i h
    split
    · rename_i hl
      simp [h, Nat.not_le.mpr hl]
    · rename_i hl
      simp [Nat.not_lt.mp hl]

theorem mem_addOnMiss {capacity : ℕ} {k : κ} {a : α} {t : Table κ α} {e : κ × α}
    (h : e ∈ addOnMiss capacity k a t) : e ∈ t ∨ e = (k,a) := by
  unfold addOnMiss add at h
  split at h
  · exact Or.inl h
  · split at h
    · simpa using h
    · exact Or.inl h

theorem position_eq_iff {t : Table κ α} {j k : κ} {m n : ℕ} (hj : position t j = some m)
    (hk : position t k = some n) : m = n ↔ j = k := by
  constructor
  · rintro rfl
    obtain ⟨hm,hj,_⟩ := List.findIdx?_eq_some_iff_getElem.mp hj
    obtain ⟨_,hk,_⟩ := List.findIdx?_eq_some_iff_getElem.mp hk
    rw [decide_eq_true_eq] at hj hk
    exact hj.symm.trans hk
  · rintro rfl
    rw [hj] at hk
    exact Option.some.inj hk

theorem Represents.length_eq {t : Table κ α} {S : Set κ} (h : Represents t S) :
    t.length = S.ncard := by
  have hS : S = ↑(keys t).toFinset := by
    ext k
    rw [Finset.mem_coe, List.mem_toFinset, h.mem_iff]
  rw [hS, Set.ncard_coe_finset, List.toFinset_card_of_nodup h.nodup, keys, List.length_map]

theorem Represents.addOnMiss {t : Table κ α} {S : Set κ} (h : Represents t S) {capacity : ℕ}
    {k : κ} (hc : (insert k S).ncard ≤ capacity) (a : α) :
    Represents (addOnMiss capacity k a t) (insert k S) := by
  unfold ExactMatch.addOnMiss
  by_cases hk : k ∈ keys t
  · rw [if_pos hk, Set.insert_eq_of_mem ((h.mem_iff k).mp hk)]
    exact h
  · have hS : k ∉ S := fun hm => hk ((h.mem_iff k).mpr hm)
    have hfin : S.Finite := by
      apply (keys t).toFinset.finite_toSet.subset
      intro x hx
      exact List.mem_toFinset.mpr ((h.mem_iff x).mpr hx)
    rw [Set.ncard_insert_of_notMem hS hfin, ← h.length_eq] at hc
    rw [if_neg hk, add, if_pos (show t.length < capacity from hc)]
    have hkeys : keys (t ++ [(k,a)]) = keys t ++ [k] := by simp [keys]
    refine ⟨?_,fun x => ?_⟩
    · rw [hkeys, List.nodup_append]
      refine ⟨h.nodup,List.nodup_singleton k,?_⟩
      rintro x hx y hy rfl
      exact hk (List.mem_singleton.mp hy ▸ hx)
    · rw [hkeys, List.mem_append, List.mem_singleton, h.mem_iff, Set.mem_insert_iff, or_comm]

theorem Represents.remove {t : Table κ α} {S : Set κ} (h : Represents t S) (k : κ) :
    Represents (remove k t) (S \ {k}) := by
  have hkeys : keys (ExactMatch.remove k t) = (keys t).filter (fun x => x ≠ k) := by
    rw [keys, keys, List.filter_map]
    rfl
  refine ⟨?_,fun x => ?_⟩
  · rw [hkeys]
    exact h.nodup.filter _
  · rw [hkeys, List.mem_filter, h.mem_iff, Set.mem_sdiff, Set.mem_singleton_iff, decide_eq_true_eq]

def step (capacity : ℕ) (a : α) (t : Table κ α) : Event κ → Table κ α
  | .seen k => addOnMiss capacity k a t
  | .forgotten k => remove k t

def run (capacity : ℕ) (a : α) (h : List (Event κ)) : Table κ α := h.foldl (step capacity a) []

theorem run_represents {capacity : ℕ} (a : α) {h : List (Event κ)} (hf : Fits capacity h) :
    Represents (run capacity a h) (Live h) := by
  induction h using List.reverseRecOn with
  | nil =>
    rw [live_nil]
    exact represents_nil
  | append_singleton h e ih =>
    have hr := ih fun before hb => hf before (hb.trans (List.prefix_append h [e]))
    have hc := hf (h ++ [e]) List.prefix_rfl
    rw [run, List.foldl_append]
    change Represents (step capacity a (run capacity a h) e) _
    cases e with
    | seen k =>
      rw [live_seen] at hc ⊢
      exact hr.addOnMiss hc a
    | forgotten k =>
      rw [live_forgotten]
      exact hr.remove k

/-- The same table under other names for its keys. -/
def mapEntries {ι β : Type} (f : κ → ι) (g : α → β) (t : Table κ α) : Table ι β :=
  t.map (Prod.map f g)

section Rename
variable {ι β : Type} [DecidableEq ι] {f : κ → ι} (hf : Function.Injective f) (g : α → β)
  (t : Table κ α) (k : κ)
include hf

omit [DecidableEq κ] [DecidableEq ι] in
theorem mem_keys_mapEntries : f k ∈ keys (mapEntries f g t) ↔ k ∈ keys t := by
  have hk : keys (mapEntries f g t) = (keys t).map f := by
    rw [keys, keys, mapEntries, List.map_map, List.map_map]
    rfl
  rw [hk, List.mem_map_of_injective hf]

theorem lookup_mapEntries : lookup (mapEntries f g t) (f k) = (lookup t k).map g := by
  have hp : ((fun e : ι × β => decide (e.1 = f k)) ∘ Prod.map f g) = fun e => decide (e.1 = k) := by
    funext e
    exact decide_eq_decide.mpr hf.eq_iff
  rw [lookup, lookup, mapEntries, List.find?_map, hp, Option.map_map, Option.map_map]
  rfl

theorem addOnMiss_mapEntries (capacity : ℕ) (a : α) :
    mapEntries f g (addOnMiss capacity k a t) =
      addOnMiss capacity (f k) (g a) (mapEntries f g t) := by
  have hl : (mapEntries f g t).length = t.length := List.length_map _
  unfold addOnMiss add
  by_cases hk : k ∈ keys t
  · rw [if_pos hk, if_pos ((mem_keys_mapEntries hf g t k).mpr hk)]
  · rw [if_neg hk, if_neg (mt (mem_keys_mapEntries hf g t k).mp hk), hl]
    split
    · rw [mapEntries, List.map_append]
      rfl
    · rfl

theorem remove_mapEntries : mapEntries f g (remove k t) = remove (f k) (mapEntries f g t) := by
  rw [remove, remove, mapEntries, mapEntries, List.filter_map]
  congr 2
  funext e
  exact decide_eq_decide.mpr (not_congr hf.eq_iff.symm)

end Rename

end P4tcExamples.ExactMatch
