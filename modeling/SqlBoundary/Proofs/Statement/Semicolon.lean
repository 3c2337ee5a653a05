import SqlBoundary.Proofs.Report.RoundTrip

/-! # A semicolon after a text

A semicolon that is written after a text is a separator, unless a line comment runs to the end of
the text and takes it in. On a line of its own it always is one.
-/

namespace SqlBoundary

open Text

variable {standardStrings : Bool} {before : Option Char}

theorem open_comment_append_semicolon {s c : Text}
    (hc : .comment c ∈ (lexFrom standardStrings before s).lexemes)
    (hopen : isClosedComment c = false) :
    .comment (c ++ [';']) ∈ (lexFrom standardStrings before (s ++ [';'])).lexemes := by
  fun_induction lexFrom standardStrings before s with
  | case1 | case3 => simp at hc
  | case2 before s f hf l rest hl ih =>
    by_cases hclosed : ∀ d, l = .comment d → isClosedComment d = true
    · have ends := (endsBefore_of_readLexeme hl).append hclosed (detached_semicolon [])
      have hrest : .comment c ∈ (lexFrom standardStrings l.text.getLast? rest).lexemes := by
        have hne : .comment c ≠ l := fun hl => by
          rw [hclosed c hl.symm] at hopen
          cases hopen
        simpa [Lexing.prepend, hne] using hc
      rw [eq_append_of_readLexeme hf hl, List.append_assoc, List.append_assoc,
        lexFrom_replace hf hl ends]
      exact List.mem_append_right _ (ih hrest)
    · -- The comment that is not closed is the last lexeme, so it is `c`.
      obtain ⟨d, rfl, hd⟩ : ∃ d, l = .comment d ∧ isClosedComment d = false := by
        simpa using hclosed
      obtain ⟨hmark, hnone, rfl, rfl⟩ := of_readLexeme_open_comment hl hd
      obtain rfl : c = '-' :: '-' :: f.rest := by simpa [Lexing.prepend, lexFrom_nil] using hc
      have hlonger : readLexeme standardStrings (f.skipped.getLast?.or before) f.value
          (f.rest ++ [';']) = .ok (.comment ('-' :: '-' :: (f.rest ++ [';'])), []) := by
        simp only [hmark, readLexeme, readLine_append_of_not_mem hnone]
        rfl
      rw [lexFrom_of_readLexeme_eq_ok (Mark.read?_short.search_append hf [';']) hlonger]
      exact List.mem_cons_of_mem _ List.mem_cons_self

/-- A semicolon in an open line comment is no separator. -/
theorem semicolon_not_mem_of_open_comment {s c : Text}
    (hc : .comment c ∈ (lex s standardStrings).lexemes) (hopen : isClosedComment c = false) :
    .semicolon s.length ∉ (scan (s ++ [';']) standardStrings).points := by
  have hlast : isClosedComment (c ++ [';']) = false := by
    obtain ⟨-, line, -, rfl, -⟩ := exists_append_of_open_comment hc hopen
    simp [isClosedComment]
  obtain ⟨pre, -, hlexemes, -, -, hs⟩ :=
    exists_append_of_open_comment (open_comment_append_semicolon hc hopen) hlast
  have hlength := congrArg List.length hs
  simp only [List.length_append, List.length_singleton] at hlength
  intro hmem
  rw [scan, hlexemes, pointsFrom_append, List.mem_append] at hmem
  obtain hmem | hmem := hmem
  · have hstop := (bounds_of_mem_pointsFrom hmem).2.2
    simp only [SplitPoint.stop] at hstop
    omega
  · simp [pointsFrom, Lexeme.point?] at hmem

/-- A semicolon after a text in which nothing is open is its last separator. -/
theorem scan_append_semicolon {s : Text}
    (finished : (lex s standardStrings).unfinished = none)
    (closed : ∀ c, .comment c ∈ (lex s standardStrings).lexemes → isClosedComment c = true) :
    scan (s ++ [';']) standardStrings =
      ⟨(scan s standardStrings).points ++ [.semicolon s.length], none⟩ := by
  have hlex : lex (s ++ [';']) standardStrings =
      (lex [] standardStrings).prepend ((lex s standardStrings).lexemes ++ [.separator]) :=
    lexFrom_append_separator finished closed []
  have hnil : lex [] standardStrings = ⟨[.plain []], none⟩ := lexFrom_nil
  rw [scan, hlex, hnil]
  simp [Lexing.prepend, pointsFrom_append, pointsFrom, Lexeme.point?,
    spelling_lex_of_finished finished, scan]

/-- A comment that ends where the text does is the last part of it. -/
theorem exists_comment_of_stop_eq_length {s : Text} {start : Nat}
    (h : .comment start s.length ∈ (scan s standardStrings).points) :
    ∃ previous c, .comment c ∈ (lex s standardStrings).lexemes ∧ s = previous ++ c ∧
      previous.length = start := by
  obtain ⟨pre, l, post, hlexemes, hl⟩ := exists_lexeme_of_mem_pointsFrom h
  obtain ⟨c, rfl⟩ : ∃ c, l = .comment c := by
    cases l with
    | comment c => exact ⟨c, rfl⟩
    | separator | plain | literal => cases hl
  obtain ⟨hstart, hstop⟩ : (spelling pre).length = start ∧
      (spelling pre).length + c.length = s.length := by
    simpa [Lexeme.point?] using hl
  obtain ⟨-, -, -, rest, -, htext, -⟩ :=
    exists_readLexeme_of_lexemes_eq (fun t h => by cases h) hlexemes
  have hrest : rest = [] := by
    have hlength := congrArg List.length htext
    simp only [Lexeme.text_comment, List.length_append] at hlength
    exact List.length_eq_zero_iff.1 (by omega)
  rw [hrest, List.append_nil, Lexeme.text_comment] at htext
  exact ⟨spelling pre, c, by simp [hlexemes], htext, hstart⟩

/-- The line comment that runs to the end of a text is its last comment, and is not closed if no
line end ends the text. -/
theorem exists_open_comment_of_endsInLineComment {s : Text} (hs : s.getLast? ≠ some '\n')
    (hends : endsInLineComment s standardStrings = true) :
    ∃ c, .comment c ∈ (lex s standardStrings).lexemes ∧ isClosedComment c = false := by
  unfold endsInLineComment Scan.endsInLineComment at hends
  split at hends
  next start stop hpoint =>
    obtain ⟨rfl, hline⟩ : stop = s.length ∧ ['-', '-'] <+: s.drop start := by simpa using hends
    obtain ⟨previous, c, hc, rfl, rfl⟩ :=
      exists_comment_of_stop_eq_length (List.mem_of_getLast? hpoint)
    rw [List.drop_left] at hline
    obtain ⟨t, rfl⟩ := hline
    refine ⟨_, hc, decide_eq_false fun (hlast : t.getLast? = some '\n') => hs ?_⟩
    rw [List.getLast?_append, List.getLast?_append, hlast]
    rfl
  next => cases hends

/-- A semicolon right after a text that does not end in white space is a separator unless a line
comment runs to the end of the text. On the next line it always is one, and the last. -/
theorem endsInLineComment_iff_semicolon_not_mem {s : Text}
    (hs : ∀ c, s.getLast? = some c → isSpace c = false)
    (h : (scan s standardStrings).unterminated = none) :
    (endsInLineComment s standardStrings = true ↔
        .semicolon s.length ∉ (scan (s ++ [';']) standardStrings).points) ∧
      (scan (s ++ ['\n', ';']) standardStrings).unterminated = none ∧
      (scan (s ++ ['\n', ';']) standardStrings).points.getLast? =
        some (.semicolon (s.length + 1)) := by
  have hfinished : (lex s standardStrings).unfinished = none := Option.map_eq_none_iff.1 h
  have hline : s.getLast? ≠ some '\n' := fun hlast => by
    have := hs '\n' hlast
    revert this
    decide
  refine ⟨⟨fun hends => ?_, fun hmem => ?_⟩, ?_⟩
  · obtain ⟨c, hc, hopen⟩ := exists_open_comment_of_endsInLineComment hline hends
    exact semicolon_not_mem_of_open_comment hc hopen
  · rw [← Bool.not_eq_false]
    intro hends
    rw [scan_append_semicolon hfinished fun c =>
      isClosedComment_of_endsInLineComment_eq_false hends] at hmem
    exact hmem (List.mem_append_right _ (List.mem_singleton.2 rfl))
  · have hblank : isBlank ['\n'] = true := by decide
    have hnext : (lex (s ++ ['\n']) standardStrings).unfinished = none :=
      Lexing.unfinished_eq_none_of_shape_eq (shape_append_blank standardStrings none hblank s)
        hfinished
    have hscan := scan_append_semicolon hnext fun c => isClosedComment_of_getLast? (by simp)
    rw [List.append_assoc, List.length_append] at hscan
    rw [show ['\n', ';'] = ['\n'] ++ [';'] from rfl, hscan]
    exact ⟨rfl, List.getLast?_concat⟩

/-- A line comment after an escape string, a block comment and identifier text takes the semicolon
in. -/
theorem endsInLineComment_iff_semicolon_not_mem_dollar :
    (∀ c, (String.toList "E'\\';' /*--*/ a$$--").getLast? = some c → isSpace c = false) ∧
      (scan "E'\\';' /*--*/ a$$--" true).unterminated = none ∧
      endsInLineComment "E'\\';' /*--*/ a$$--" true = true ∧
      .semicolon 19 ∉ (scan (String.toList "E'\\';' /*--*/ a$$--" ++ [';']) true).points ∧
      (scan (String.toList "E'\\';' /*--*/ a$$--" ++ ['\n', ';']) true).points.getLast? =
        some (.semicolon 20) := by
  have hlast : ∀ c, (String.toList "E'\\';' /*--*/ a$$--").getLast? = some c →
      isSpace c = false := by
    rintro _ ⟨⟩
    decide
  have hscan : (scan "E'\\';' /*--*/ a$$--" true).unterminated = none := by decide +kernel
  have hends : endsInLineComment "E'\\';' /*--*/ a$$--" true = true := by decide +kernel
  obtain ⟨hafter, -, hnext⟩ := endsInLineComment_iff_semicolon_not_mem hlast hscan
  exact ⟨hlast, hscan, hends, hafter.1 hends, hnext⟩

end SqlBoundary
