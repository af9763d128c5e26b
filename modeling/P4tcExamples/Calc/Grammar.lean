import P4tcExamples.Calc.EndToEnd

/-! # The lines the client sends

The parsers return how far they read, and `main` does not look at it. A line is
therefore sent exactly when it starts with an expression; it is one when nothing
is left.
-/
namespace P4tcExamples.Calc.Client
open BitFields Regex

def parse (s : List Char) : Except Error (ℕ × List Token) :=
  makeSeq numParser (makeSeq opParser numParser) s 0 []

/-- The text is an expression and what the parsers leave behind it. -/
structure Reads (s : List Char) (w : Spaces) (da : List Char) (o : Op) (db rest : List Char) :
    Prop where
  text : s = line w da o db ++ rest
  left : Numeral da (int da)
  right : Numeral db (int db)
  spaces : Stops isSpace rest
  digits : Stops isDigit (w.behind ++ rest)

theorem exists_op {c : Char} (h : isOp c = true) : ∃ o : Op, c = o.char := by
  simp only [isOp, Bool.or_eq_true, beq_iff_eq] at h
  rcases h with (((rfl | rfl) | rfl) | rfl) | rfl
  · exact ⟨.minus,rfl⟩
  · exact ⟨.plus,rfl⟩
  · exact ⟨.and,rfl⟩
  · exact ⟨.or,rfl⟩
  · exact ⟨.caret,rfl⟩

theorem not_isOp_of_isSpace (c : Char) (h : isSpace c = true) : isOp c = false := by
  by_contra hc
  obtain ⟨o,rfl⟩ := exists_op (Bool.not_eq_false _ ▸ hc)
  rw [not_isSpace_char o] at h
  cases h

theorem digits_prefer {s : List Char} (h : ¬Stops isDigit s) : ∃ token v, s = token ++ v ∧
    (Numeral token (int token) ∧ Stops isDigit v) ∧
      (Pattern.many1 isDigit).matchStart s = some ⟨token,[],v⟩ := by
  obtain ⟨c,cs,rfl,hc⟩ := exists_cons_of_not_stops h
  have hne : (c :: cs).takeWhile isDigit ≠ [] := by
    rw [List.takeWhile_cons_of_pos hc]
    exact List.cons_ne_nil _ _
  have hd : ∀ x ∈ (c :: cs).takeWhile isDigit, isDigit x = true :=
    fun x hx => List.mem_takeWhile_imp hx
  have hs := stops_dropWhile isDigit (c :: cs)
  have hm := matchStart_many1 hne hd hs
  rw [List.takeWhile_append_dropWhile] at hm
  exact ⟨_,_,List.takeWhile_append_dropWhile.symm,⟨⟨hne,hd,rfl⟩,hs⟩,hm⟩

theorem op_prefers {s : List Char} (h : ¬Stops isOp s) : ∃ token v, s = token ++ v ∧
    (∃ o : Op, token = [o.char]) ∧ (Pattern.one isOp).matchStart s = some ⟨token,[],v⟩ := by
  obtain ⟨c,cs,rfl,hc⟩ := exists_cons_of_not_stops h
  obtain ⟨o,ho⟩ := exists_op hc
  exact ⟨[c],cs,rfl,⟨o,by rw [ho]⟩,matchStart_one hc cs⟩

/-- A token parser fails, or reads a token with all the white space around it. -/
theorem tokenParser_cases {q : Char → Bool} {r : Pattern} {T : List Char → List Char → Prop}
    (hq : ∀ c, isSpace c = true → q c = false) (hfail : ∀ s, Stops q s → r.attempts s = [])
    (hmatch : ∀ s, ¬Stops q s → ∃ token v, s = token ++ v ∧ T token v ∧
      r.matchStart s = some ⟨token,[],v⟩)
    (message : String) (s : List Char) (i : ℕ) (ts : List Token) :
    (∃ e, tokenParser (.padded isSpace r) message s i ts = .error e) ∨
    ∃ lead token trail rest, (∀ c ∈ lead, isSpace c = true) ∧ (∀ c ∈ trail, isSpace c = true) ∧
      s.drop i = (lead ++ (token ++ trail)) ++ rest ∧ Stops isSpace rest ∧
      T token (trail ++ rest) ∧ tokenParser (.padded isSpace r) message s i ts =
        .ok (i + (lead ++ (token ++ trail)).length,ts ++ [⟨"num",token⟩]) := by
  rcases matchStart_padded_cases hq hfail hmatch (s.drop i) with hn |
    ⟨lead,token,trail,rest,hl,ht,hd,hs,hT,hm⟩
  · left
    rw [tokenParser, hn]
    exact ⟨_,rfl⟩
  · rw [hd] at hm
    exact Or.inr ⟨lead,token,trail,rest,hl,ht,hd,hs,hT,tokenParser_ok hd hm message ts⟩

theorem numParser_cases (s : List Char) (i : ℕ) (ts : List Token) :
    (∃ e, numParser s i ts = .error e) ∨
    ∃ lead d trail rest, (∀ c ∈ lead, isSpace c = true) ∧ (∀ c ∈ trail, isSpace c = true) ∧
      s.drop i = (lead ++ (d ++ trail)) ++ rest ∧ Stops isSpace rest ∧
      (Numeral d (int d) ∧ Stops isDigit (trail ++ rest)) ∧
      numParser s i ts = .ok (i + (lead ++ (d ++ trail)).length,ts ++ [⟨"num",d⟩]) :=
  tokenParser_cases not_isDigit_of_isSpace (fun _ => attempts_many1_stops) (fun _ => digits_prefer)
    _ s i ts

theorem opParser_cases (s : List Char) (i : ℕ) (ts : List Token) :
    (∃ e, opParser s i ts = .error e) ∨
    ∃ lead token trail rest, (∀ c ∈ lead, isSpace c = true) ∧ (∀ c ∈ trail, isSpace c = true) ∧
      s.drop i = (lead ++ (token ++ trail)) ++ rest ∧ Stops isSpace rest ∧
      (∃ o : Op, token = [o.char]) ∧
      opParser s i ts = .ok (i + (lead ++ (token ++ trail)).length,ts ++ [⟨"num",token⟩]) :=
  tokenParser_cases not_isOp_of_isSpace (fun _ => attempts_one_stops) (fun _ => op_prefers) _ s i ts

theorem makeSeq_error {p1 p2 : Parser} {s : List Char} {i : ℕ} {ts : List Token} {e : Error}
    (h : p1 s i ts = .error e) : makeSeq p1 p2 s i ts = .error e := by
  rw [makeSeq, h]
  rfl

theorem parse_cases (s : List Char) :
    (∃ e, parse s = .error e) ∨ ∃ w da o db rest, Reads s w da o db rest := by
  rcases numParser_cases s 0 [] with ⟨e,he⟩ | ⟨l₁,da,t₁,r₁,hl₁,ht₁,hd₁,_,⟨hda,_⟩,h₁⟩
  · exact Or.inl ⟨e,makeSeq_error he⟩
  have hr₁ := drop_text hd₁
  rcases opParser_cases s (0 + (l₁ ++ (da ++ t₁)).length) ([] ++ [⟨"num",da⟩]) with
    ⟨e,he⟩ | ⟨l₂,token,t₂,r₂,hl₂,ht₂,hd₂,_,⟨o,rfl⟩,h₂⟩
  · exact Or.inl ⟨e,(makeSeq_ok h₁).trans (makeSeq_error he)⟩
  have hr₂ := drop_text hd₂
  rcases numParser_cases s (0 + (l₁ ++ (da ++ t₁)).length + (l₂ ++ ([o.char] ++ t₂)).length)
    ([] ++ [⟨"num",da⟩] ++ [⟨"num",[o.char]⟩]) with
    ⟨e,he⟩ | ⟨l₃,db,t₃,rest,hl₃,ht₃,hd₃,hs,⟨hdb,hsd⟩,_⟩
  · exact Or.inl ⟨e,(makeSeq_ok h₁).trans ((makeSeq_ok h₂).trans he)⟩
  right
  refine ⟨⟨l₁,t₁ ++ l₂,t₂ ++ l₃,t₃,hl₁,List.forall_mem_append.mpr ⟨ht₁,hl₂⟩,
    List.forall_mem_append.mpr ⟨ht₂,hl₃⟩,ht₃⟩,da,o,db,rest,?_,hda,hdb,hs,hsd⟩
  have htext : s = (l₁ ++ (da ++ t₁)) ++ ((l₂ ++ ([o.char] ++ t₂)) ++ ((l₃ ++ (db ++ t₃)) ++ rest)) := by
    rw [← hd₃, hr₂, ← hd₂, hr₁, ← hd₁, List.drop_zero]
  simpa [line] using htext

theorem parse_reads {s da db rest : List Char} {w : Spaces} {o : Op}
    (h : Reads s w da o db rest) : parse s =
      .ok ((line w da o db).length,[⟨"num",da⟩,⟨"num",[o.char]⟩,⟨"num",db⟩]) := by
  unfold parse
  rw [h.text]
  exact parse_line_append w o h.left h.right h.spaces h.digits

theorem reads_line (w : Spaces) (o : Op) {da db : List Char} {a b : ℕ} (hda : Numeral da a)
    (hdb : Numeral db b) : Reads (line w da o db) w da o db [] where
  text := (List.append_nil _).symm
  left := ⟨hda.nonempty,hda.digits,rfl⟩
  right := ⟨hdb.nonempty,hdb.digits,rfl⟩
  spaces := stops_nil isSpace
  digits := stops_isDigit_append w.behind_space (stops_nil isDigit)

/-- Two readings of one line have the same tokens and leave the same. -/
theorem Reads.unique {s da db rest da' db' rest' : List Char} {w w' : Spaces} {o o' : Op}
    (h : Reads s w da o db rest) (h' : Reads s w' da' o' db' rest') :
    da = da' ∧ db = db' ∧ rest = rest' := by
  have hp := (parse_reads h).symm.trans (parse_reads h')
  simp only [Except.ok.injEq, Prod.mk.injEq, List.cons.injEq, Token.mk.injEq, true_and,
    and_true] at hp
  obtain ⟨hl,hda,_,hdb⟩ := hp
  have ht := h.text.symm.trans h'.text
  exact ⟨hda,hdb,(List.append_inj ht hl).2⟩

theorem intField_error {n : ℕ} (h : ¬n < 2 ^ 32) : intField n = .error .structError := if_neg h

theorem request_error (o : Op) {da db : List Char} (h : ¬(int da < 2 ^ 32 ∧ int db < 2 ^ 32)) :
    ∃ e, request [⟨"num",da⟩,⟨"num",[o.char]⟩,⟨"num",db⟩] = .error e := by
  simp only [request, valueAt, List.getElem?_cons_zero, List.getElem?_cons_succ, bind, Except.bind,
    P4calc.build]
  by_cases ha : int da < 2 ^ 32
  · have hb : ¬int db < 2 ^ 32 := fun hb => h ⟨ha,hb⟩
    rw [intField_error hb, intField, if_pos ha]
    exact ⟨_,rfl⟩
  · rw [intField_error ha]
    exact ⟨_,rfl⟩

theorem main_reads {s da db rest : List Char} {w : Spaces} {o : Op}
    (h : Reads s w da o db rest) (hq : s ≠ ['q','u','i','t']) :
    (int da < 2 ^ 32 ∧ int db < 2 ^ 32 → main s = .sent (packet o (int da) (int db))) ∧
    (¬(int da < 2 ^ 32 ∧ int db < 2 ^ 32) → ∃ e, main s = .failed e) := by
  have hp : makeSeq numParser (makeSeq opParser numParser) s 0 [] = _ := parse_reads h
  rw [main, if_neg hq, hp]
  constructor
  · rintro ⟨ha,hb⟩
    dsimp only
    rw [request_eq o h.left h.right ha hb]
  · intro hn
    obtain ⟨e,he⟩ := request_error o hn
    dsimp only
    rw [he]
    exact ⟨e,rfl⟩

theorem main_error {s : List Char} {e : Error} (h : parse s = .error e)
    (hq : s ≠ ['q','u','i','t']) : main s = .failed e := by
  have hp : makeSeq numParser (makeSeq opParser numParser) s 0 [] = .error e := h
  rw [main, if_neg hq, hp]

/-- The grammar: two numerals below 2^32 around an operator, white space anywhere
between them, and nothing else. -/
def Expression (s : List Char) : Prop :=
  ∃ w da o db a b, s = line w da o db ∧ Numeral da a ∧ Numeral db b ∧ a < 2 ^ 32 ∧ b < 2 ^ 32

structure AcceptsExactly (s : List Char) : Prop where
  sent_iff : (∃ pkt, main s = .sent pkt) ↔ Expression s
  failed : ¬Expression s → ∃ e, main s = .failed e
  tokens : ∀ pkt, main s = .sent pkt → ∃ w da o db, s = line w da o db ∧
    (parse s).map (fun r => r.2.map Token.value) = .ok [da,[o.char],db] ∧
    pkt = packet o (int da) (int db)

/-- An expression with something left behind it. -/
def Leftover (s : List Char) : Prop :=
  ∃ w da o db rest, Reads s w da o db rest ∧ rest ≠ [] ∧ int da < 2 ^ 32 ∧ int db < 2 ^ 32

theorem Expression.reads {s : List Char} (h : Expression s) :
    ∃ w da o db, Reads s w da o db [] ∧ int da < 2 ^ 32 ∧ int db < 2 ^ 32 := by
  obtain ⟨w,da,o,db,a,b,rfl,hda,hdb,ha,hb⟩ := h
  exact ⟨w,da,o,db,reads_line w o hda hdb,hda.value ▸ ha,hdb.value ▸ hb⟩

theorem not_leftover_of_expression {s : List Char} (h : Expression s) : ¬Leftover s := by
  rintro ⟨w,da,o,db,rest,hr,hne,_⟩
  obtain ⟨w',da',o',db',hr',_⟩ := h.reads
  exact hne (hr.unique hr').2.2

theorem leftover_sent {s : List Char} (h : Leftover s) (hq : s ≠ ['q','u','i','t']) :
    ∃ pkt, main s = .sent pkt := by
  obtain ⟨w,da,o,db,rest,hr,_,hv⟩ := h
  exact ⟨_,(main_reads hr hq).1 hv⟩

theorem acceptsExactly_failed {s : List Char} {e : Error} (h : main s = .failed e)
    (hn : ¬Expression s) : AcceptsExactly s where
  sent_iff := by simp [h, hn]
  failed := fun _ => ⟨e,h⟩
  tokens := by simp [h]

theorem acceptsExactly_line {s da db : List Char} {w : Spaces} {o : Op}
    (h : Reads s w da o db []) (hq : s ≠ ['q','u','i','t'])
    (hv : int da < 2 ^ 32 ∧ int db < 2 ^ 32) : AcceptsExactly s := by
  have hs := (main_reads h hq).1 hv
  have ht : s = line w da o db := h.text.trans (List.append_nil _)
  have he : Expression s := ⟨w,da,o,db,_,_,ht,h.left,h.right,hv.1,hv.2⟩
  refine ⟨⟨fun _ => he,fun _ => ⟨_,hs⟩⟩,fun hn => absurd he hn,fun pkt hp => ?_⟩
  refine ⟨w,da,o,db,ht,?_,?_⟩
  · rw [parse_reads h]
    rfl
  · rw [hs] at hp
    cases hp
    rfl

/-- A line other than `quit` is treated as the grammar says, unless it starts with
an expression and goes on. -/
theorem acceptsExactly_iff {s : List Char} (hq : s ≠ ['q','u','i','t']) :
    AcceptsExactly s ↔ ¬Leftover s := by
  constructor
  · intro h hl
    exact not_leftover_of_expression (h.sent_iff.mp (leftover_sent hl hq)) hl
  · intro hl
    rcases parse_cases s with ⟨e,he⟩ | ⟨w,da,o,db,rest,hr⟩
    · refine acceptsExactly_failed (main_error he hq) fun hx => ?_
      obtain ⟨w,da,o,db,hr,_⟩ := hx.reads
      rw [parse_reads hr] at he
      cases he
    · by_cases hv : int da < 2 ^ 32 ∧ int db < 2 ^ 32
      · have hrest : rest = [] := by
          by_contra hne
          exact hl ⟨w,da,o,db,rest,hr,hne,hv⟩
        subst hrest
        exact acceptsExactly_line hr hq hv
      · obtain ⟨e,he⟩ := (main_reads hr hq).2 hv
        refine acceptsExactly_failed he fun hx => ?_
        obtain ⟨w',da',o',db',hr',hv'⟩ := hx.reads
        obtain ⟨rfl,rfl,_⟩ := hr.unique hr'
        exact hv hv'

theorem acceptsExactly_difference : AcceptsExactly ['3',' ','-',' ','4'] := by
  refine (acceptsExactly_iff (by decide)).mpr (not_leftover_of_expression ?_)
  exact ⟨singleSpaces,['3'],.minus,['4'],3,4,rfl,numeral_toDigits 3,numeral_toDigits 4,by decide,
    by decide⟩

/-- Of `1 + 2+3` the client sends `1 + 2`. -/
theorem secondOperator_ignored :
    main ['1',' ','+',' ','2','+','3'] = .sent (packet .plus 1 2) ∧
    ¬Expression ['1',' ','+',' ','2','+','3'] ∧ ¬AcceptsExactly ['1',' ','+',' ','2','+','3'] := by
  have hr : Reads ['1',' ','+',' ','2','+','3'] singleSpaces ['1'] .plus ['2'] ['+','3'] :=
    ⟨rfl,numeral_toDigits 1,numeral_toDigits 2,stops_cons rfl _,stops_cons rfl _⟩
  have hs := (main_reads hr (by decide)).1 ⟨by decide,by decide⟩
  have he : ¬Expression ['1',' ','+',' ','2','+','3'] := fun hx =>
    not_leftover_of_expression hx ⟨_,_,_,_,_,hr,by decide,by decide,by decide⟩
  exact ⟨hs,he,fun ha => he (ha.sent_iff.mp ⟨_,hs⟩)⟩

end P4tcExamples.Calc.Client
