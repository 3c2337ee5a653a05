import SqlBoundary.Proofs.Lex.Growth
import SqlBoundary.Proofs.Scan.WellFormed

/-! # Scanning a text that goes on

More text after a text neither adds nor takes away nor moves a separator or a closed comment in it.
The lexemes of the longer text are those of the shorter one up to the lexeme in which the shorter
one ends.
-/

namespace SqlBoundary

variable {standardStrings : Bool} {before : Option Char}

/-- A block comment, or a line comment through the end of its line. -/
def isClosedComment : Text → Bool
  | '/' :: '*' :: _ => true
  | '-' :: '-' :: t => t.getLast? = some '\n'
  | _ => false

def Lexeme.isClosed : Lexeme → Bool
  | separator => true
  | comment t => isClosedComment t
  | plain _ | literal _ => false

@[simp] theorem Lexeme.isClosed_plain (t : Text) : (plain t).isClosed = false := rfl

/-- Whether a split point of a text is a separator or a closed comment. -/
def SplitPoint.isClosed (s : Text) : SplitPoint → Bool
  | semicolon _ => true
  | comment start stop => isClosedComment (s.slice start stop)

theorem isClosed_of_point? {l : Lexeme} {head rest : Text} {x : SplitPoint}
    (hx : l.point? head.length = some x) :
    x.isClosed (head ++ (l.text ++ rest)) = l.isClosed := by
  cases l with
  | plain t => cases hx
  | literal t => cases hx
  | separator => cases hx; rfl
  | comment t =>
    cases hx
    rw [SplitPoint.isClosed, ← List.length_append, Lexeme.text_comment, Text.slice_append]
    rfl

/-- The characters that a mark can begin with. -/
def markStarts : Text := [';', '\'', '"', '$', '-', '/']

theorem Mark.read?_eq_none {c : Char} (hc : c ∉ markStarts) (s : Text) :
    Mark.read? (c :: s) = none := by
  unfold Mark.read?
  split <;> simp_all [markStarts]

theorem search_mark_eq_none {p : Char → Bool} (hp : markStarts.any p = false) {s : Text}
    (hs : s.all p = true) : search Mark.read? s = none := by
  induction s with
  | nil => rfl
  | cons c s ih =>
    rw [List.all_cons, Bool.and_eq_true] at hs
    have hc : c ∉ markStarts := fun hmem => List.any_eq_false.1 hp c hmem hs.1
    exact search_cons_eq_none.2 ⟨Mark.read?_eq_none hc s, ih hs.2⟩

theorem toOption_readLexeme_quote (previous : Option Char) (q : Quote) (s : Text) :
    (readLexeme standardStrings previous (.quote q) s).toOption =
      (readQuoted? q (allowsBackslash standardStrings previous q) s).map
        (Prod.map (fun body => .literal (q.char :: body)) id) := by
  simp only [readLexeme]
  cases readQuoted? q (allowsBackslash standardStrings previous q) s with
  | some r => rfl
  | none => cases q <;> rfl

theorem toOption_readLexeme_block (previous : Option Char) (s : Text) :
    (readLexeme standardStrings previous .blockComment s).toOption =
      (readBlock? 0 s).map (Prod.map (fun body => .comment ('/' :: '*' :: body)) id) := by
  simp only [readLexeme]
  cases readBlock? 0 s <;> rfl

/-- A dollar sign as a lexeme, once its tag is known. -/
theorem toOption_readLexeme_dollar_of_some {previous : Option Char} {s tag rest : Text}
    (h : (if opensDollarQuote previous then readTag? s else none) = some (tag, rest)) :
    (readLexeme standardStrings previous .dollar s).toOption =
      (readThrough? ('$' :: tag) rest).map
        (Prod.map (fun body => .literal ('$' :: tag ++ body)) id) := by
  simp only [readLexeme, h]
  cases readThrough? ('$' :: tag) rest <;> rfl

theorem readLexeme_dollar_of_none {previous : Option Char} {s : Text}
    (h : (if opensDollarQuote previous then readTag? s else none) = none) :
    readLexeme standardStrings previous .dollar s = .ok (.plain ['$'], s) := by
  simp only [readLexeme, h]

/-- The reading of a lexeme, which may be left in a text without marks. -/
abbrev LexemeGrows :=
  Grows Lexeme.text fun l rest => l.isClosed = false ∧ search Mark.read? rest = none

theorem readLexeme_quote_grows (previous : Option Char) (q : Quote) (s u : Text) :
    LexemeGrows (1 + s.length) u
      (readLexeme standardStrings previous (.quote q) s).toOption
      (readLexeme standardStrings previous (.quote q) (s ++ u)).toOption := by
  rw [toOption_readLexeme_quote, toOption_readLexeme_quote]
  refine (readQuoted?_grows q _ s u).map _ ?_ ?_
  · intro body
    simp only [Lexeme.text_literal, List.length_cons, id]
    omega
  · intro body rest hblank
    exact ⟨rfl, search_mark_eq_none rfl hblank⟩

theorem readLexeme_block_grows (previous : Option Char) (s u : Text) :
    LexemeGrows (2 + s.length) u
      (readLexeme standardStrings previous .blockComment s).toOption
      (readLexeme standardStrings previous .blockComment (s ++ u)).toOption := by
  rw [toOption_readLexeme_block, toOption_readLexeme_block]
  refine (readBlock?_grows 0 s u).map _ ?_ ?_
  · intro body
    simp only [Lexeme.text_comment, List.length_cons, id]
    omega
  · intro body rest h
    exact h.elim

theorem readLexeme_line_grows (previous : Option Char) (s u : Text) :
    LexemeGrows (2 + s.length) u
      (readLexeme standardStrings previous .lineComment s).toOption
      (readLexeme standardStrings previous .lineComment (s ++ u)).toOption := by
  obtain ⟨hs, hnone⟩ | ⟨line, rest, rfl, hnone, hs⟩ := readLine_cases s
  · cases u with
    | nil =>
      rw [List.append_nil, readLexeme, Except.toOption, hs]
      exact .same _ []
    | cons c u =>
      refine .beyond ?_ ?_
      · rintro l rest ⟨⟩
        rw [hs]
        refine ⟨decide_eq_false fun hlast => ?_, rfl⟩
        exact hnone (List.mem_of_getLast? hlast)
      · rintro l rest ⟨⟩
        rw [readLine_append_of_not_mem hnone]
        have := List.length_pos_iff.2 (readLine_ne_nil c u)
        simp only [Lexeme.text_comment, List.length_cons, List.length_append]
        omega
  · have hlonger := readLine_append_of_not_mem hnone ('\n' :: (rest ++ u))
    rw [readLine_newline] at hlonger
    simp only [readLexeme, Except.toOption, hs, List.append_assoc, List.cons_append, hlonger]
    exact .same _ rest

theorem readLexeme_dollar_grows (previous : Option Char) (s u : Text) :
    LexemeGrows (1 + s.length) u
      (readLexeme standardStrings previous .dollar s).toOption
      (readLexeme standardStrings previous .dollar (s ++ u)).toOption := by
  cases hopens : opensDollarQuote previous with
  | false =>
    rw [readLexeme_dollar_of_none (by simp [hopens]), readLexeme_dollar_of_none (by simp [hopens])]
    exact .same (Lexeme.plain ['$']) s
  | true =>
    cases hshort : readTag? s with
    | some r =>
      obtain ⟨tag, rest⟩ := r
      have hlong := readTag?_stable.append readTag?_spells hshort u
      rw [toOption_readLexeme_dollar_of_some (by rw [hopens, if_pos rfl, hshort]),
        toOption_readLexeme_dollar_of_some (by rw [hopens, if_pos rfl, hlong])]
      rw [← readTag?_spells _ _ _ hshort, List.length_append, ← Nat.add_assoc]
      refine (readThrough?_grows (List.cons_ne_nil _ _) rest u).map _ ?_ ?_
      · intro body
        simp only [Lexeme.text_literal, List.length_append, List.length_cons, id]
        omega
      · intro body rest h
        exact h.elim
    | none =>
      rw [readLexeme_dollar_of_none (by rw [hopens, if_pos rfl, hshort])]
      cases hlong : readTag? (s ++ u) with
      | none =>
        rw [readLexeme_dollar_of_none (by rw [hopens, if_pos rfl, hlong])]
        exact .same (Lexeme.plain ['$']) s
      | some r =>
        obtain ⟨tag, rest⟩ := r
        obtain ⟨hname, hlength⟩ := isTagChar_of_readTag?_append hshort hlong
        rw [toOption_readLexeme_dollar_of_some (by rw [hopens, if_pos rfl, hlong])]
        refine .beyond ?_ ?_
        · rintro l rest ⟨⟩
          exact ⟨rfl, search_mark_eq_none rfl hname⟩
        · intro l rest' hl
          obtain ⟨⟨body, rest''⟩, -, ⟨⟩⟩ := Option.map_eq_some_iff.1 hl
          simp only [Lexeme.text_literal, List.length_append, List.length_cons]
          omega

/-- The lexeme of a mark in a text that goes on. -/
theorem readLexeme_grows (standardStrings : Bool) (previous : Option Char) (mark : Mark)
    (s u : Text) :
    LexemeGrows (mark.text.length + s.length) u
      (readLexeme standardStrings previous mark s).toOption
      (readLexeme standardStrings previous mark (s ++ u)).toOption := by
  cases mark with
  | semicolon => exact .same Lexeme.separator s
  | quote q => exact readLexeme_quote_grows previous q s u
  | dollar => exact readLexeme_dollar_grows previous s u
  | lineComment => exact readLexeme_line_grows previous s u
  | blockComment => exact readLexeme_block_grows previous s u

theorem eq_ok_of_toOption {ε β : Type} {r : Except ε β} {b : β} (h : r.toOption = some b) :
    r = .ok b := by
  cases r with
  | ok c => exact congrArg Except.ok (Option.some.inj h)
  | error e => cases h

/-- No split point of the lexemes ends within their first `n` characters. -/
def Overruns (n : Nat) (ls : List Lexeme) : Prop :=
  ∀ k, ∀ x ∈ pointsFrom k ls, k + n < x.stop

theorem overruns_plain (n : Nat) (t : Text) : Overruns n [.plain t] := fun _ _ h => nomatch h

theorem overruns_plain_cons {n : Nat} {t : Text} {l : Lexeme}
    (h : n < t.length + l.text.length) (ls : List Lexeme) : Overruns n (.plain t :: l :: ls) := by
  intro k x hx
  have hx : x ∈ (l.point? (k + t.length)).toList ++ pointsFrom (k + t.length + l.text.length) ls :=
    hx
  rw [List.mem_append, Option.mem_toList] at hx
  obtain hx | hx := hx
  · rw [Lexeme.stop_of_point? hx]
    omega
  · have := bounds_of_mem_pointsFrom hx
    omega

/-- The lexemes from a mark on. -/
def lexemesAfter (standardStrings : Bool) : Option (Lexeme × Text) → List Lexeme
  | some (l, rest) => l :: (lexFrom standardStrings l.text.getLast? rest).lexemes
  | none => []

theorem lexemes_of_search_eq_some {s : Text} {f : Found Mark}
    (h : search Mark.read? s = some f) :
    (lexFrom standardStrings before s).lexemes = .plain f.skipped :: lexemesAfter standardStrings
      (readLexeme standardStrings (f.skipped.getLast?.or before) f.value f.rest).toOption := by
  cases hl : readLexeme standardStrings (f.skipped.getLast?.or before) f.value f.rest with
  | ok r => rw [lexFrom_of_readLexeme_eq_ok h hl]; rfl
  | error construct => rw [lexFrom_of_readLexeme_eq_error h hl]; rfl

theorem overruns_lexemesAfter {n : Nat} {t : Text} {read : Option (Lexeme × Text)}
    (h : ∀ l rest, read = some (l, rest) → n < t.length + l.text.length) :
    Overruns n (.plain t :: lexemesAfter standardStrings read) := by
  cases read with
  | none => exact overruns_plain n t
  | some r => exact overruns_plain_cons (h r.1 r.2 rfl) _

theorem isClosed_lexemesAfter {t : Text} {read : Option (Lexeme × Text)}
    (h : ∀ l rest, read = some (l, rest) → l.isClosed = false ∧ search Mark.read? rest = none) :
    ∀ l ∈ .plain t :: lexemesAfter standardStrings read, l.isClosed = false := by
  cases read with
  | none => simp [lexemesAfter]
  | some r =>
    obtain ⟨hclosed, hnone⟩ := h r.1 r.2 rfl
    simp [lexemesAfter, lexFrom_of_search_eq_none hnone, hclosed]

/-- A text without marks has none before its end when it goes on. -/
theorem overruns_lexFrom_append {s : Text} (h : search Mark.read? s = none) (u : Text) :
    Overruns s.length (lexFrom standardStrings before (s ++ u)).lexemes := by
  cases hu : search Mark.read? (s ++ u) with
  | none =>
    rw [lexFrom_of_search_eq_none hu]
    exact overruns_plain _ _
  | some f =>
    rw [lexemes_of_search_eq_some hu]
    refine overruns_lexemesAfter fun l rest hread => ?_
    have hbeyond := Mark.read?_short.length_lt_of_search_append h hu
    have hlength := length_text_le_of_readLexeme (eq_ok_of_toOption hread)
    rw [List.length_append] at hbeyond
    omega

/-- Two texts begin with the same lexemes. Of the first `n` characters the others cover neither a
closed lexeme in the first text nor a split point in the second one. -/
def AgreeUpTo (n : Nat) (ls ms : List Lexeme) : Prop :=
  ∃ shared short long m, ls = shared ++ short ∧ ms = shared ++ long ∧
    n = (spelling shared).length + m ∧ (∀ l ∈ short, l.isClosed = false) ∧ Overruns m long

theorem AgreeUpTo.of_overruns {n : Nat} {ls ms : List Lexeme}
    (hls : ∀ l ∈ ls, l.isClosed = false) (hms : Overruns n ms) : AgreeUpTo n ls ms :=
  ⟨[], ls, ms, n, rfl, rfl, (Nat.zero_add n).symm, hls, hms⟩

theorem AgreeUpTo.cons {n : Nat} {ls ms : List Lexeme} (h : AgreeUpTo n ls ms) (l : Lexeme) :
    AgreeUpTo (l.text.length + n) (l :: ls) (l :: ms) := by
  obtain ⟨shared, short, long, m, rfl, rfl, rfl, hshort, hlong⟩ := h
  refine ⟨l :: shared, short, long, m, rfl, rfl, ?_, hshort, hlong⟩
  rw [spelling_cons, List.length_append, Nat.add_assoc]

theorem AgreeUpTo.mem_pointsFrom_iff {n : Nat} {ls ms : List Lexeme} (h : AgreeUpTo n ls ms)
    {x : SplitPoint} (hstop : x.stop ≤ n)
    (hclosed : ∀ pre l post, ls = pre ++ l :: post → l.point? (spelling pre).length = some x →
      l.isClosed = true) :
    x ∈ pointsFrom 0 ls ↔ x ∈ pointsFrom 0 ms := by
  obtain ⟨shared, short, long, m, rfl, rfl, rfl, hshort, hlong⟩ := h
  rw [pointsFrom_append, pointsFrom_append, List.mem_append, List.mem_append, Nat.zero_add]
  refine or_congr_right ⟨fun hx => ?_, fun hx => ?_⟩
  · obtain ⟨pre, l, post, rfl, hl⟩ := exists_lexeme_of_mem_pointsFrom hx
    have hopen := hshort l (List.mem_append_right _ List.mem_cons_self)
    have := hclosed (shared ++ pre) l post (List.append_assoc _ _ _).symm (by
      rw [spelling_append, List.length_append]
      exact hl)
    rw [hopen] at this
    cases this
  · have := hlong _ x hx
    omega

/-- The lexemes of a text agree with those of the same text with `u` after it. -/
theorem agreeUpTo_lexFrom_append (standardStrings : Bool) (before : Option Char) (s u : Text) :
    AgreeUpTo s.length (lexFrom standardStrings before s).lexemes
      (lexFrom standardStrings before (s ++ u)).lexemes := by
  induction hs : s.length using Nat.strongRecOn generalizing before s with
  | ind n ih =>
    subst hs
    cases hf : search Mark.read? s with
    | none =>
      refine .of_overruns ?_ (overruns_lexFrom_append hf u)
      rw [lexFrom_of_search_eq_none hf]
      simp
    | some f =>
      have hlength := congrArg List.length (search_spells Mark.read?_spells hf)
      have hlonger := Mark.read?_short.search_append hf u
      have hgrows := readLexeme_grows standardStrings (f.skipped.getLast?.or before) f.value
        f.rest u
      rw [lexemes_of_search_eq_some hf, lexemes_of_search_eq_some hlonger]
      simp only [List.length_append] at hlength ⊢
      generalize hread : (readLexeme standardStrings _ f.value f.rest).toOption = short at hgrows ⊢
      generalize (readLexeme standardStrings _ f.value (f.rest ++ u)).toOption = long at hgrows ⊢
      cases hgrows with
      | same l rest =>
        have hl := eq_ok_of_toOption hread
        have htext := congrArg List.length (readLexeme_append hl)
        have hsum : s.length = f.skipped.length + (l.text.length + rest.length) := by
          simp only [List.length_append] at htext
          omega
        rw [hsum]
        exact ((ih rest.length (length_lt_of_readLexeme hf hl) _ rest rfl).cons l).cons
          (.plain f.skipped)
      | beyond hshort hlong =>
        refine .of_overruns (isClosed_lexemesAfter hshort) (overruns_lexemesAfter ?_)
        intro l rest hl
        have := hlong l rest hl
        omega

/-- More text after a text leaves the separators and the closed comments in it as they are. -/
theorem mem_points_append_iff {s : Text} {x : SplitPoint} (hstop : x.stop ≤ s.length)
    (hclosed : x.isClosed s = true) (u : Text) (standardStrings : Bool) :
    x ∈ (scan s standardStrings).points ↔ x ∈ (scan (s ++ u) standardStrings).points := by
  have hagree := agreeUpTo_lexFrom_append standardStrings none s u
  refine hagree.mem_pointsFrom_iff hstop fun pre l post hls hx => ?_
  have hspell : spelling (lexFrom standardStrings none s).lexemes ++ _ = s := spelling_lexFrom s
  rw [hls, spelling_append, spelling_cons, List.append_assoc, List.append_assoc] at hspell
  rwa [← isClosed_of_point? hx, hspell]

/-- A block comment stays, although the literal after it goes on. -/
theorem mem_points_append_iff_blockComment :
    (SplitPoint.comment 0 5).stop ≤ (String.toList "/*;*/'a'\n").length ∧
      (SplitPoint.comment 0 5).isClosed "/*;*/'a'\n" = true ∧
      (.comment 0 5 ∈ (scan "/*;*/'a'\n" true).points ↔
        .comment 0 5 ∈ (scan (String.toList "/*;*/'a'\n" ++ String.toList "';'") true).points) := by
  have hstop : (SplitPoint.comment 0 5).stop ≤ (String.toList "/*;*/'a'\n").length := by decide
  have hclosed : (SplitPoint.comment 0 5).isClosed "/*;*/'a'\n" = true := by decide
  exact ⟨hstop, hclosed, mem_points_append_iff hstop hclosed _ true⟩

end SqlBoundary
