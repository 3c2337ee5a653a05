import SqlBoundary.Report
import SqlBoundary.Proofs.Statement.Content

/-! # Statements written and split again

A written statement is a slice: its semicolon stands outside its last line comment, and the white
space of a record separator before it changes nothing. What is written for the statements of a text
is therefore split into the same statements, with an empty one after the last semicolon.
-/

namespace SqlBoundary

open Text

variable {standardStrings : Bool}

/-- A line comment that is not closed runs to the end of the text. -/
theorem exists_append_of_open_comment {s c : Text}
    (hc : .comment c ∈ (lex s standardStrings).lexemes) (hopen : isClosedComment c = false) :
    ∃ pre line, (lex s standardStrings).lexemes = pre ++ [.comment c, .plain []] ∧
      c = '-' :: '-' :: line ∧ '\n' ∉ line ∧ s = spelling pre ++ c := by
  obtain ⟨pre, post, h⟩ := List.append_of_mem hc
  obtain ⟨previous, mark, rest, rest', hread, hs, hpost⟩ :=
    exists_readLexeme_of_lexemes_eq (l := .comment c) (fun _ => nofun) h
  obtain ⟨-, hline, rfl, rfl⟩ := of_readLexeme_open_comment hread hopen
  rw [lexFrom_nil, Lexing.mk.injEq] at hpost
  refine ⟨pre, rest, ?_, rfl, hline, by simpa using hs⟩
  rw [h, ← hpost.1]

theorem isClosedComment_of_getLast? {s : Text} (hs : s.getLast? = some '\n') {c : Text}
    (hc : .comment c ∈ (lex s standardStrings).lexemes) : isClosedComment c = true := by
  rw [← Bool.not_eq_false]
  intro hopen
  obtain ⟨pre, line, -, rfl, hline, rfl⟩ := exists_append_of_open_comment hc hopen
  rw [List.getLast?_append_cons] at hs
  have hmem := List.mem_of_getLast? hs
  simp [hline] at hmem

theorem endsInLineComment_of_open_comment {s c : Text}
    (hc : .comment c ∈ (lex s standardStrings).lexemes) (hopen : isClosedComment c = false) :
    endsInLineComment s standardStrings = true := by
  obtain ⟨pre, line, hlexemes, hline, -, hs⟩ := exists_append_of_open_comment hc hopen
  have hlength : s.length = (spelling pre).length + c.length := by rw [hs, List.length_append]
  have hpoints : (scan s standardStrings).points = pointsFrom 0 pre ++
      [.comment (spelling pre).length s.length] := by
    rw [scan, hlexemes, pointsFrom_append, Nat.zero_add, hlength]
    rfl
  have hdrop : s.drop (spelling pre).length = c := by rw [hs, List.drop_left]
  rw [endsInLineComment, Scan.endsInLineComment, hpoints, List.getLast?_concat]
  simp [hdrop, hline]

theorem isClosedComment_of_endsInLineComment_eq_false {s c : Text}
    (h : endsInLineComment s standardStrings = false)
    (hc : .comment c ∈ (lex s standardStrings).lexemes) : isClosedComment c = true := by
  rw [← Bool.not_eq_false]
  intro hopen
  rw [endsInLineComment_of_open_comment hc hopen] at h
  cases h

theorem IsSlice.blank_append {w t : Text} (h : IsSlice standardStrings t) (hw : isBlank w = true)
    (hlast : w.getLast?.any isIdentifierChar = false) : IsSlice standardStrings (w ++ t) := by
  obtain ⟨q, ls, unfinished, ht, hwt⟩ := lexFrom_blank_append standardStrings none hw t
  rw [Option.or_none, lexFrom_eq_lex hlast] at ht
  obtain ⟨finished, undivided, closed⟩ := h
  rw [ht] at finished undivided closed
  rw [← lex] at hwt
  refine ⟨by rw [hwt]; exact finished, ?_, ?_⟩
  · rw [hwt]
    simpa using undivided
  · rw [hwt]
    simpa using closed

/-- A statement on its own: trimmed, with no separator in it and nothing left open. -/
structure IsStatement (standardStrings : Bool) (t : Text) : Prop where
  trimmed : IsTrimmed t
  finished : (lex t standardStrings).unfinished = none
  undivided : .separator ∉ (lex t standardStrings).lexemes

/-- What stands between a statement and its semicolon. -/
def closing (standardStrings : Bool) (t : Text) : Text :=
  if endsInLineComment t standardStrings then ['\n'] else []

theorem isBlank_closing (standardStrings : Bool) (t : Text) :
    isBlank (closing standardStrings t) = true := by
  unfold closing
  split <;> decide

/-- A statement stands before a semicolon once its last line is closed. -/
theorem IsStatement.isSlice {t : Text} (h : IsStatement standardStrings t) :
    IsSlice standardStrings (t ++ closing standardStrings t) := by
  have hshape := shape_append_blank standardStrings none (isBlank_closing standardStrings t) t
  refine ⟨?_, ?_, fun c hc => ?_⟩
  · exact Lexing.unfinished_eq_none_of_shape_eq hshape h.finished
  · exact mt (Lexing.separator_mem_of_shape_eq hshape).1 h.undivided
  · cases hends : endsInLineComment t standardStrings with
    | true =>
      rw [closing, hends, if_pos rfl] at hc
      exact isClosedComment_of_getLast? List.getLast?_concat hc
    | false =>
      rw [closing, hends, if_neg Bool.false_ne_true, List.append_nil] at hc
      exact isClosedComment_of_endsInLineComment_eq_false hends hc

theorem isStatement_trim {s r : Text} (hascii : IsAsciiSpaced s)
    (h : (scan s standardStrings).unterminated = none) (hr : r ∈ slices s standardStrings) :
    IsStatement standardStrings (trim r) := by
  have hshape := shape_trim standardStrings (hascii.slice hr).hidesDollarQuote_eq_false
  obtain ⟨finished, undivided⟩ := lex_slice_of_terminated h hr
  refine ⟨isTrimmed_trim r, ?_, ?_⟩
  · exact Lexing.unfinished_eq_none_of_shape_eq hshape finished
  · exact mt (Lexing.separator_mem_of_shape_eq hshape).1 undivided

section Written
variable {markUp : Text → Text} {settings : Settings}

/-- The slices of what is written for statements, after a margin `w`. -/
def writtenSlices (settings : Settings) (w : Text) : List Text → List Text
  | [] => [w]
  | t :: ts => (w ++ (t ++ closing settings.standardStrings t)) ::
      writtenSlices settings settings.recordSeparator ts

theorem statement_of_not_colored (hcolored : settings.colored = false) (t : Text) :
    Report.statement markUp settings t =
      t ++ closing settings.standardStrings t ++ ';' :: settings.recordSeparator := by
  simp [Report.statement, Report.colorize, closing, hcolored]

/-- A margin of white space that has no effect on what is read after it. -/
structure IsMargin (w : Text) : Prop where
  blank : isBlank w = true
  outside : w.getLast?.any isIdentifierChar = false

theorem slices_statements (hcolored : settings.colored = false)
    (hseparator : IsMargin settings.recordSeparator) {w : Text} (hw : IsMargin w) {ts : List Text}
    (hts : ∀ t ∈ ts, IsStatement settings.standardStrings t) :
    slices (w ++ Report.statements markUp settings ts) settings.standardStrings =
        writtenSlices settings w ts ∧
      (lex (w ++ Report.statements markUp settings ts) settings.standardStrings).unfinished =
        none := by
  induction ts generalizing w with
  | nil =>
    have hlex : lex w settings.standardStrings = ⟨[.plain w], none⟩ :=
      lexFrom_of_search_eq_none (search_mark_of_isBlank hw.blank)
    rw [Report.statements, List.flatMap_nil, List.append_nil, hlex]
    exact ⟨slices_of_not_mem (by simp [hlex]), rfl⟩
  | cons t ts ih =>
    obtain ⟨hslices, hfinished⟩ := ih hseparator fun u hu => hts u (List.mem_cons_of_mem t hu)
    have hslice := (hts t List.mem_cons_self).isSlice.blank_append hw.blank hw.outside
    have htext : w ++ Report.statements markUp settings (t :: ts) =
        w ++ (t ++ closing settings.standardStrings t) ++
          ';' :: (settings.recordSeparator ++ Report.statements markUp settings ts) := by
      simp [Report.statements, statement_of_not_colored hcolored]
    rw [htext, hslice.slices_append, hslices, hslice.lex_append]
    exact ⟨rfl, hfinished⟩

theorem map_trim_filter_writtenSlices (hseparator : IsMargin settings.recordSeparator)
    (keepEmpty : Bool) {w : Text} (hw : IsMargin w) {ts : List Text}
    (hts : ∀ t ∈ ts, IsTrimmed t)
    (hkept : ∀ t ∈ ts, (keepEmpty || (lex t settings.standardStrings).shape.hasContent) = true) :
    ((writtenSlices settings w ts).filter fun r =>
        keepEmpty || (lex r settings.standardStrings).shape.hasContent).map trim =
      if keepEmpty then ts ++ [[]] else ts := by
  induction ts generalizing w with
  | nil =>
    have hlex : lex w settings.standardStrings = ⟨[.plain w], none⟩ :=
      lexFrom_of_search_eq_none (search_mark_of_isBlank hw.blank)
    have hcontent : (lex w settings.standardStrings).shape.hasContent = false := by
      simp [hlex, Lexing.shape, Lexeme.kind, hw.blank, Shape.hasContent, LexemeKind.isContent]
    cases keepEmpty <;> simp [writtenSlices, hcontent, trim_eq_nil_iff.2 hw.blank]
  | cons t ts ih =>
    have hblank := isBlank_closing settings.standardStrings t
    have hshape := shape_margins settings.standardStrings hw.blank hw.outside hblank t
    have htrim : trim (w ++ (t ++ closing settings.standardStrings t)) = t := by
      rw [trim_blank_append hw.blank, trim_append_of_isBlank hblank,
        (hts t List.mem_cons_self).trim_eq]
    rw [writtenSlices, List.filter_cons, hshape, if_pos (hkept t List.mem_cons_self), List.map_cons,
      htrim, ih hseparator (fun u hu => hts u (List.mem_cons_of_mem t hu))
        fun u hu => hkept u (List.mem_cons_of_mem t hu)]
    cases keepEmpty <;> rfl

/-- What is written for the statements of a text is split into these statements, and with empty ones
there is one more after the last semicolon. -/
theorem splitCommand_statements {s : Text} {keepEmpty : Bool} {ts : List Text}
    (hascii : IsAsciiSpaced s) (hcolored : settings.colored = false)
    (hblank : isBlank settings.recordSeparator = true)
    (hseparator : IsAsciiSpaced settings.recordSeparator)
    (hsplit : splitCommand s settings.standardStrings false keepEmpty = .ok ts) :
    splitCommand (Report.statements markUp settings ts) settings.standardStrings false keepEmpty =
      .ok (if keepEmpty then ts ++ [[]] else ts) := by
  have hmargin : IsMargin settings.recordSeparator := ⟨hblank, hseparator.getLast? hblank⟩
  have hnone : IsMargin [] := ⟨rfl, rfl⟩
  obtain ⟨hscan, rfl⟩ := splitCommand_eq_ok_iff.1 hsplit
  rw [selectStatements_eq_map_filter hscan]
  have hstatement : ∀ t ∈ ((slices s settings.standardStrings).filter fun r =>
      keepEmpty || (lex r settings.standardStrings).shape.hasContent).map trim,
      IsStatement settings.standardStrings t ∧
        (keepEmpty || (lex t settings.standardStrings).shape.hasContent) = true := by
    rw [List.forall_mem_map]
    intro r hr
    obtain ⟨hr, hkept⟩ := List.mem_filter.1 hr
    rw [shape_trim settings.standardStrings (hascii.slice hr).hidesDollarQuote_eq_false]
    exact ⟨isStatement_trim hascii hscan hr, hkept⟩
  obtain ⟨hslices, hfinished⟩ :=
    slices_statements hcolored hmargin hnone fun t ht => (hstatement t ht).1
  rw [List.nil_append] at hslices hfinished
  have hwritten :
      (scan (Report.statements markUp settings _) settings.standardStrings).unterminated = none :=
    Option.map_eq_none_iff.2 hfinished
  rw [splitCommand_eq_ok_iff]
  refine ⟨hwritten, ?_⟩
  rw [selectStatements_eq_map_filter hwritten, hslices, map_trim_filter_writtenSlices hmargin
    keepEmpty hnone (fun t ht => (hstatement t ht).1.trimmed) fun t ht => (hstatement t ht).2]

/-- A record separator is not needed: each semicolon stands after its line comment. -/
theorem splitCommand_statements_lineComment :
    IsAsciiSpaced "/*;*/; E'\\';' --x\n;$$;$$--y" ∧
      Settings.colored { recordSeparator := [] } = false ∧
      isBlank (Settings.recordSeparator { recordSeparator := [] }) = true ∧
      IsAsciiSpaced (Settings.recordSeparator { recordSeparator := [] }) ∧
      splitCommand "/*;*/; E'\\';' --x\n;$$;$$--y" true false false =
        .ok ["E'\\';' --x", "$$;$$--y"] ∧
      splitCommand (Report.statements id { recordSeparator := [] } ["E'\\';' --x", "$$;$$--y"])
        true false false = .ok ["E'\\';' --x", "$$;$$--y"] := by
  have hascii : IsAsciiSpaced "/*;*/; E'\\';' --x\n;$$;$$--y" := by decide +kernel
  have hsplit : splitCommand "/*;*/; E'\\';' --x\n;$$;$$--y" true false false =
      .ok ["E'\\';' --x", "$$;$$--y"] := by
    rw [splitCommand_eq_ok_iff]
    decide +kernel
  exact ⟨hascii, rfl, rfl, nofun, hsplit, splitCommand_statements hascii rfl rfl nofun hsplit⟩

end Written

end SqlBoundary
