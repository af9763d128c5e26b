import Mathlib.Data.List.TakeWhile

/-! # Greedy patterns over character classes

A backtracking matcher tries the ways a pattern can match a start of the text in
a fixed order; `attempts` lists them in that order and `matchStart` takes the
first. Repetition is greedy: longer runs come first.
-/
namespace P4tcExamples.Regex

inductive Pattern
  | one (p : Char → Bool)
  | many (p : Char → Bool)
  | seq (r t : Pattern)
  | group (r : Pattern)

structure Match where
  text : List Char
  groups : List (List Char)
  rest : List Char

def runs (p : Char → Bool) : List Char → List Match
  | [] => [⟨[],[],[]⟩]
  | c :: cs =>
    if p c then (runs p cs).map (fun m => {m with text := c :: m.text}) ++ [⟨[],[],c :: cs⟩]
    else [⟨[],[],c :: cs⟩]

def Pattern.attempts : Pattern → List Char → List Match
  | .one _, [] => []
  | .one p, c :: cs => if p c then [⟨[c],[],cs⟩] else []
  | .many p, s => runs p s
  | .seq r t, s => (r.attempts s).flatMap fun m =>
      (t.attempts m.rest).map fun n => ⟨m.text ++ n.text,m.groups ++ n.groups,n.rest⟩
  | .group r, s => (r.attempts s).map fun m => {m with groups := m.text :: m.groups}

def Pattern.matchStart (r : Pattern) (s : List Char) : Option Match := (r.attempts s).head?

/-- The text does not go on with a character of the class. -/
def Stops (p : Char → Bool) (s : List Char) : Prop := ∀ c ∈ s.head?, p c = false

theorem stops_nil (p : Char → Bool) : Stops p [] := fun _ h => nomatch h

theorem stops_cons {p : Char → Bool} {c : Char} (h : p c = false) (s : List Char) :
    Stops p (c :: s) := by
  intro d hd
  rw [List.head?_cons, Option.mem_some_iff] at hd
  rw [← hd, h]

theorem stops_append {p q : Char → Bool} (hpq : ∀ c, q c = true → p c = false) {xs : List Char}
    (hne : xs ≠ []) (hx : ∀ c ∈ xs, q c = true) (s : List Char) : Stops p (xs ++ s) := by
  cases xs with
  | nil => exact absurd rfl hne
  | cons c cs => exact stops_cons (hpq c (hx c List.mem_cons_self)) _

theorem stops_dropWhile (p : Char → Bool) (s : List Char) : Stops p (s.dropWhile p) := by
  intro c hc
  have h := List.head?_dropWhile_not p s
  rw [Option.mem_def.mp hc] at h
  exact h

theorem exists_cons_of_not_stops {p : Char → Bool} {s : List Char} (h : ¬Stops p s) :
    ∃ c cs, s = c :: cs ∧ p c = true := by
  cases s with
  | nil => exact absurd (stops_nil p) h
  | cons c cs =>
    refine ⟨c,cs,rfl,?_⟩
    by_contra hc
    exact h (stops_cons (Bool.not_eq_true _ ▸ hc) cs)

theorem matchStart_many {p : Char → Bool} {xs s : List Char} (hx : ∀ c ∈ xs, p c = true)
    (hs : Stops p s) : (Pattern.many p).matchStart (xs ++ s) = some ⟨xs,[],s⟩ := by
  rw [Pattern.matchStart, Pattern.attempts]
  induction xs with
  | nil =>
    cases s with
    | nil => rfl
    | cons c cs => rw [List.nil_append, runs, hs c rfl]; rfl
  | cons c cs ih =>
    have hc := ih fun d hd => hx d (List.mem_cons_of_mem c hd)
    rw [List.cons_append, runs, if_pos (hx c List.mem_cons_self), List.head?_append,
      List.head?_map, hc]
    rfl

theorem matchStart_one {p : Char → Bool} {c : Char} (h : p c = true) (s : List Char) :
    (Pattern.one p).matchStart (c :: s) = some ⟨[c],[],s⟩ := by
  rw [Pattern.matchStart, Pattern.attempts, if_pos h]
  rfl

/-- When the preferred match of the first part lets the second part match, no
backtracking happens. -/
theorem matchStart_seq {r t : Pattern} {s : List Char} {m n : Match} (hm : r.matchStart s = some m)
    (hn : t.matchStart m.rest = some n) : (Pattern.seq r t).matchStart s =
      some ⟨m.text ++ n.text,m.groups ++ n.groups,n.rest⟩ := by
  rw [Pattern.matchStart] at hm hn ⊢
  rw [Pattern.attempts]
  cases hr : r.attempts s with
  | nil =>
    rw [hr] at hm
    cases hm
  | cons x xs =>
    rw [hr, List.head?_cons, Option.some.injEq] at hm
    subst hm
    rw [List.flatMap_cons, List.head?_append, List.head?_map, hn]
    rfl

theorem matchStart_group {r : Pattern} {s : List Char} {m : Match} (h : r.matchStart s = some m) :
    (Pattern.group r).matchStart s = some {m with groups := m.text :: m.groups} := by
  rw [Pattern.matchStart] at h ⊢
  rw [Pattern.attempts, List.head?_map, h]
  rfl

def Pattern.many1 (p : Char → Bool) : Pattern := .seq (.one p) (.many p)

theorem matchStart_many1 {p : Char → Bool} {xs s : List Char} (hne : xs ≠ [])
    (hx : ∀ c ∈ xs, p c = true) (hs : Stops p s) :
    (Pattern.many1 p).matchStart (xs ++ s) = some ⟨xs,[],s⟩ := by
  cases xs with
  | nil => exact absurd rfl hne
  | cons c cs =>
    have hone := matchStart_one (hx c List.mem_cons_self) (cs ++ s)
    have hmany := matchStart_many (fun d hd => hx d (List.mem_cons_of_mem c hd)) hs
    exact matchStart_seq hone hmany

def Pattern.padded (p : Char → Bool) (r : Pattern) : Pattern :=
  .seq (.many p) (.seq (.group r) (.many p))

theorem matchStart_padded {p : Char → Bool} {r : Pattern} {lead token trail s : List Char}
    (hl : ∀ c ∈ lead, p c = true) (ht : ∀ c ∈ trail, p c = true)
    (htok : Stops p (token ++ (trail ++ s))) (hs : Stops p s)
    (hr : r.matchStart (token ++ (trail ++ s)) = some ⟨token,[],trail ++ s⟩) :
    (Pattern.padded p r).matchStart (lead ++ (token ++ (trail ++ s))) =
      some ⟨lead ++ (token ++ trail),[token],s⟩ := by
  have hgroup := matchStart_group hr
  have hinner := matchStart_seq hgroup (matchStart_many ht hs)
  exact matchStart_seq (matchStart_many hl htok) hinner

/-- A run of the class stops where the longest one does, or in front of a
character of the class. -/
theorem rest_of_mem_runs {p : Char → Bool} {s : List Char} {m : Match} (h : m ∈ runs p s) :
    m.rest = s.dropWhile p ∨ ∃ c cs, m.rest = c :: cs ∧ p c = true := by
  induction s generalizing m with
  | nil =>
    rw [runs, List.mem_singleton] at h
    rw [h]
    exact Or.inl rfl
  | cons c cs ih =>
    by_cases hc : p c = true
    · rw [runs, if_pos hc, List.mem_append, List.mem_map, List.mem_singleton] at h
      rcases h with ⟨n,hn,rfl⟩ | rfl
      · rw [List.dropWhile_cons_of_pos hc]
        exact ih (m := n) hn
      · exact Or.inr ⟨c,cs,rfl,hc⟩
    · rw [runs, if_neg hc, List.mem_singleton] at h
      rw [h, List.dropWhile_cons_of_neg hc]
      exact Or.inl rfl

theorem attempts_one_stops {q : Char → Bool} {s : List Char} (h : Stops q s) :
    (Pattern.one q).attempts s = [] := by
  cases s with
  | nil => rfl
  | cons c cs => rw [Pattern.attempts, h c rfl, if_neg Bool.false_ne_true]

theorem attempts_many1_stops {q : Char → Bool} {s : List Char} (h : Stops q s) :
    (Pattern.many1 q).attempts s = [] := by
  rw [Pattern.many1, Pattern.attempts, attempts_one_stops h, List.flatMap_nil]

section Padded
variable {p q : Char → Bool} {r : Pattern} (hpq : ∀ c, p c = true → q c = false)
  (hfail : ∀ s, Stops q s → r.attempts s = [])
include hpq hfail

/-- Backtracking into the padding does not help: there the pattern meets either a
padding character or the text behind all of them. -/
theorem matchStart_padded_eq_none {s : List Char} (h : Stops q (s.dropWhile p)) :
    (Pattern.padded p r).matchStart s = none := by
  have hnil : (Pattern.padded p r).attempts s = [] := by
    rw [Pattern.padded, Pattern.attempts, List.flatMap_eq_nil_iff]
    intro m hm
    have hs : Stops q m.rest := by
      rcases rest_of_mem_runs hm with hr | ⟨c,cs,hr,hc⟩
      · rwa [hr]
      · rw [hr]
        exact stops_cons (hpq c hc) cs
    rw [Pattern.attempts, Pattern.attempts, hfail _ hs, List.map_nil, List.flatMap_nil, List.map_nil]
  rw [Pattern.matchStart, hnil, List.head?_nil]

/-- A padded pattern fails or matches as much padding as there is on both sides of
what the pattern itself prefers. `T` is what is known of that. -/
theorem matchStart_padded_cases {T : List Char → List Char → Prop}
    (hmatch : ∀ s, ¬Stops q s → ∃ token v, s = token ++ v ∧ T token v ∧
      r.matchStart s = some ⟨token,[],v⟩) (s : List Char) :
    (Pattern.padded p r).matchStart s = none ∨ ∃ lead token trail rest,
      (∀ c ∈ lead, p c = true) ∧ (∀ c ∈ trail, p c = true) ∧
      s = (lead ++ (token ++ trail)) ++ rest ∧ Stops p rest ∧ T token (trail ++ rest) ∧
      (Pattern.padded p r).matchStart s = some ⟨lead ++ (token ++ trail),[token],rest⟩ := by
  by_cases h : Stops q (s.dropWhile p)
  · exact Or.inl (matchStart_padded_eq_none hpq hfail h)
  · right
    obtain ⟨token,v,hv,hT,hm⟩ := hmatch _ h
    have hlead : ∀ c ∈ s.takeWhile p, p c = true := fun c hc => List.mem_takeWhile_imp hc
    have htrail : ∀ c ∈ v.takeWhile p, p c = true := fun c hc => List.mem_takeWhile_imp hc
    have hsplit : v = v.takeWhile p ++ v.dropWhile p := (List.takeWhile_append_dropWhile).symm
    have hs : s = s.takeWhile p ++ (token ++ (v.takeWhile p ++ v.dropWhile p)) := by
      rw [← hsplit, ← hv, List.takeWhile_append_dropWhile]
    refine ⟨s.takeWhile p,token,v.takeWhile p,v.dropWhile p,hlead,htrail,?_,stops_dropWhile p v,?_,?_⟩
    · simpa only [List.append_assoc] using hs
    · rwa [← hsplit]
    · have hstop := stops_dropWhile p s
      rw [hv, hsplit] at hstop hm
      have hpad := matchStart_padded hlead htrail hstop (stops_dropWhile p v) hm
      rwa [← hs] at hpad

end Padded

end P4tcExamples.Regex
