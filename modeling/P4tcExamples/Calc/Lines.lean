import P4tcExamples.Calc.Client

/-! # The lines the client accepts as expressions

A line is two numerals around an operator, with white space before, between and
behind. The token parsers cut it into its three tokens without backtracking, since
white space, digits and operators are disjoint classes.
-/
namespace P4tcExamples.Calc
open Regex

inductive Op
  | plus
  | minus
  | and
  | or
  | caret

def Op.char : Op → Char
  | .plus => '+'
  | .minus => '-'
  | .and => '&'
  | .or => '|'
  | .caret => '^'

theorem Op.char_injective {o o' : Op} (h : o.char = o'.char) : o = o' := by
  cases o <;> cases o' <;> first | rfl | exact absurd h (by decide)

namespace Client

/-- A decimal numeral, leading zeros allowed. -/
structure Numeral (s : List Char) (n : ℕ) : Prop where
  nonempty : s ≠ []
  digits : ∀ c ∈ s, isDigit c = true
  value : int s = n

theorem numeral_toDigits (n : ℕ) : Numeral (Nat.toDigits 10 n) n := by
  refine ⟨Nat.toDigits_ne_nil,?_,?_⟩
  · intro c hc
    have hd := Nat.isDigit_of_mem_toDigits (by decide) (by decide) hc
    simp only [isDigit, Bool.and_eq_true, decide_eq_true_eq]
    exact Char.isDigit_iff_toNat.mp hd
  · have hv := Nat.ofDigitChars_ten_toDigits (n := n)
    rw [Nat.ofDigitChars_eq_foldl] at hv
    exact hv

theorem not_isSpace_of_isDigit (c : Char) (h : isDigit c = true) : isSpace c = false := by
  simp only [isDigit, Bool.and_eq_true, decide_eq_true_eq] at h
  simp only [isSpace, Bool.or_eq_false_iff, Bool.and_eq_false_imp, decide_eq_true_eq,
    decide_eq_false_iff_not, beq_eq_false_iff_ne]
  omega

theorem not_isDigit_of_isSpace (c : Char) (h : isSpace c = true) : isDigit c = false := by
  by_contra hd
  rw [Bool.not_eq_false] at hd
  rw [not_isSpace_of_isDigit c hd] at h
  cases h

theorem not_isSpace_char (o : Op) : isSpace o.char = false := by
  cases o <;> rfl

theorem not_isDigit_char (o : Op) : isDigit o.char = false := by
  cases o <;> rfl

theorem isOp_char (o : Op) : isOp o.char = true := by
  cases o <;> rfl

theorem makeSeq_ok {p1 p2 : Parser} {s : List Char} {i j : ℕ} {ts us : List Token}
    (h : p1 s i ts = .ok (j,us)) : makeSeq p1 p2 s i ts = p2 s j us := by
  rw [makeSeq, h]
  rfl

theorem tokenParser_ok {pattern : Pattern} {s text token rest : List Char} {i : ℕ}
    (hd : s.drop i = text ++ rest)
    (hm : pattern.matchStart (text ++ rest) = some ⟨text,[token],rest⟩) (message : String)
    (ts : List Token) :
    tokenParser pattern message s i ts = .ok (i + text.length,ts ++ [⟨"num",token⟩]) := by
  rw [tokenParser, hd, hm]
  rfl

theorem drop_text {s text rest : List Char} {i : ℕ} (h : s.drop i = text ++ rest) :
    s.drop (i + text.length) = rest := by
  rw [← List.drop_drop, h, List.drop_left]

theorem numParser_ok {s lead d trail rest : List Char} {i n : ℕ} (hd : Numeral d n)
    (hl : ∀ c ∈ lead, isSpace c = true) (ht : ∀ c ∈ trail, isSpace c = true)
    (hs : Stops isSpace rest) (hstop : Stops isDigit (trail ++ rest))
    (h : s.drop i = (lead ++ (d ++ trail)) ++ rest) (ts : List Token) :
    numParser s i ts = .ok (i + (lead ++ (d ++ trail)).length,ts ++ [⟨"num",d⟩]) := by
  refine tokenParser_ok h ?_ _ ts
  rw [List.append_assoc, List.append_assoc]
  exact matchStart_padded hl ht (stops_append not_isSpace_of_isDigit hd.nonempty hd.digits _) hs
    (matchStart_many1 hd.nonempty hd.digits hstop)

theorem opParser_ok (o : Op) {s trail rest : List Char} {i : ℕ}
    (ht : ∀ c ∈ trail, isSpace c = true) (hs : Stops isSpace rest)
    (h : s.drop i = (o.char :: trail) ++ rest) (ts : List Token) :
    opParser s i ts = .ok (i + (o.char :: trail).length,ts ++ [⟨"num",[o.char]⟩]) := by
  have hstop : Stops isSpace ([o.char] ++ (trail ++ rest)) := stops_cons (not_isSpace_char o) _
  refine tokenParser_ok h ?_ _ ts
  change (Pattern.padded isSpace (.one isOp)).matchStart ([] ++ ([o.char] ++ (trail ++ rest))) =
    some ⟨[] ++ ([o.char] ++ trail),[[o.char]],rest⟩
  exact matchStart_padded (List.forall_mem_nil _) ht hstop hs
    (matchStart_one (isOp_char o) (trail ++ rest))

end Client

structure Spaces where
  before : List Char
  left : List Char
  right : List Char
  behind : List Char
  before_space : ∀ c ∈ before, Client.isSpace c = true
  left_space : ∀ c ∈ left, Client.isSpace c = true
  right_space : ∀ c ∈ right, Client.isSpace c = true
  behind_space : ∀ c ∈ behind, Client.isSpace c = true

def line (w : Spaces) (da : List Char) (o : Op) (db : List Char) : List Char :=
  w.before ++ da ++ w.left ++ [o.char] ++ w.right ++ db ++ w.behind

namespace Client

theorem stops_isDigit_append {trail rest : List Char} (ht : ∀ c ∈ trail, isSpace c = true)
    (hs : Stops isDigit rest) : Stops isDigit (trail ++ rest) := by
  cases trail with
  | nil => exact hs
  | cons c cs => exact stops_cons (not_isDigit_of_isSpace c (ht c List.mem_cons_self)) _

/-- What follows an expression is not looked at, as long as it does not continue
its last token or the white space behind that. -/
theorem parse_line_append (w : Spaces) (o : Op) {da db rest : List Char} {a b : ℕ}
    (hda : Numeral da a) (hdb : Numeral db b) (hs : Stops isSpace rest)
    (hd : Stops isDigit (w.behind ++ rest)) :
    makeSeq numParser (makeSeq opParser numParser) (line w da o db ++ rest) 0 [] =
      .ok ((line w da o db).length,[⟨"num",da⟩,⟨"num",[o.char]⟩,⟨"num",db⟩]) := by
  have hline : (line w da o db ++ rest).drop 0 = (w.before ++ (da ++ w.left)) ++
      ((o.char :: w.right) ++ (([] ++ (db ++ w.behind)) ++ rest)) := by
    simp [line]
  have hop := drop_text hline
  have hlast := drop_text hop
  have hdb' : Stops isSpace (([] ++ (db ++ w.behind)) ++ rest) := by
    rw [List.nil_append, List.append_assoc]
    exact stops_append not_isSpace_of_isDigit hdb.nonempty hdb.digits _
  have h1 := numParser_ok hda w.before_space w.left_space (stops_cons (not_isSpace_char o) _)
    (stops_isDigit_append w.left_space (stops_cons (not_isDigit_char o) _)) hline []
  have h2 := opParser_ok o w.right_space hdb' hop [⟨"num",da⟩]
  have h3 := numParser_ok hdb (List.forall_mem_nil _) w.behind_space hs hd hlast
    [⟨"num",da⟩,⟨"num",[o.char]⟩]
  have hlen : 0 + (w.before ++ (da ++ w.left)).length + (o.char :: w.right).length +
      ([] ++ (db ++ w.behind)).length = (line w da o db).length := by
    simp only [line, List.length_append, List.length_cons, List.length_nil]
    omega
  rw [← hlen]
  exact (makeSeq_ok h1).trans ((makeSeq_ok h2).trans h3)

theorem parse_line (w : Spaces) (o : Op) {da db : List Char} {a b : ℕ} (hda : Numeral da a)
    (hdb : Numeral db b) : ∃ i, makeSeq numParser (makeSeq opParser numParser) (line w da o db) 0 [] =
      .ok (i,[⟨"num",da⟩,⟨"num",[o.char]⟩,⟨"num",db⟩]) := by
  have h := parse_line_append w o hda hdb (stops_nil isSpace)
    (stops_isDigit_append w.behind_space (stops_nil isDigit))
  rw [List.append_nil] at h
  exact ⟨_,h⟩

theorem line_ne_quit (w : Spaces) (o : Op) {da db : List Char} {a : ℕ} (hda : Numeral da a) :
    line w da o db ≠ ['q','u','i','t'] := by
  intro h
  obtain ⟨c,hc⟩ := List.exists_mem_of_ne_nil da hda.nonempty
  have hm : c ∈ line w da o db := by simp [line, hc]
  have hd := hda.digits c hc
  rw [h] at hm
  simp only [List.mem_cons, List.not_mem_nil, or_false] at hm
  rcases hm with rfl | rfl | rfl | rfl <;> exact absurd hd (by decide)

end Client

end P4tcExamples.Calc
