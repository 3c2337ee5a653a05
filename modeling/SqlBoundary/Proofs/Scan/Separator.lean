import SqlBoundary.Proofs.Scan.Context

/-! # A text between its separators

What stands before a separator is lexed on its own as it is in front of the separator, and so is
what stands after it. A text is therefore a list of slices that do not depend on each other.
-/

namespace SqlBoundary

variable {standardStrings : Bool} {before : Option Char}

/-- A text that can stand before a separator: it holds none, and nothing in it is left open, not
even a line. -/
structure IsSlice (standardStrings : Bool) (t : Text) : Prop where
  finished : (lex t standardStrings).unfinished = none
  undivided : .separator ∉ (lex t standardStrings).lexemes
  closed : ∀ c, .comment c ∈ (lex t standardStrings).lexemes → isClosedComment c = true

/-- A separator after a text that is closed leaves its lexemes as they are. -/
theorem lexFrom_append_separator {s : Text}
    (finished : (lexFrom standardStrings before s).unfinished = none)
    (closed : ∀ c, .comment c ∈ (lexFrom standardStrings before s).lexemes →
      isClosedComment c = true) (rest : Text) :
    lexFrom standardStrings before (s ++ ';' :: rest) =
      (lex rest standardStrings).prepend
        ((lexFrom standardStrings before s).lexemes ++ [.separator]) := by
  fun_induction lexFrom standardStrings before s with
  | case1 before s hs =>
    have hsearch : search Mark.read? (s ++ ';' :: rest) = some ⟨s, .semicolon, rest⟩ :=
      search_append_mark hs (fun c hc => Mark.read?_last_eq_none hs hc (by simp)) rfl
    have hl : readLexeme standardStrings (s.getLast?.or before) .semicolon rest =
        .ok (.separator, rest) := rfl
    rw [lexFrom_of_readLexeme_eq_ok hsearch hl, Lexeme.text_separator, List.getLast?_singleton,
      lexFrom_some_eq_none (by decide)]
    rfl
  | case2 before s f hf l tail hl ih =>
    have hclosed (c : Text) (hc : l = .comment c) : isClosedComment c = true :=
      closed c (by simp [Lexing.prepend, hc])
    have ends := (endsBefore_of_readLexeme hl).append hclosed (detached_semicolon rest)
    rw [eq_append_of_readLexeme hf hl, List.append_assoc, List.append_assoc,
      lexFrom_replace hf hl ends, ih finished fun c hc => closed c (by simp [Lexing.prepend, hc])]
    simp [Lexing.prepend]
  | case3 before s f hf construct hl => cases finished

/-- A text with a separator is a closed text in front of its first separator. -/
theorem exists_append_separator {s : Text}
    (h : .separator ∈ (lexFrom standardStrings before s).lexemes) :
    ∃ t rest, s = t ++ ';' :: rest ∧ (lexFrom standardStrings before t).unfinished = none ∧
      .separator ∉ (lexFrom standardStrings before t).lexemes ∧
      ∀ c, .comment c ∈ (lexFrom standardStrings before t).lexemes → isClosedComment c = true := by
  fun_induction lexFrom standardStrings before s with
  | case1 | case3 => simp at h
  | case2 before s f hf l tail hl ih =>
    have hs := eq_append_of_readLexeme hf hl
    by_cases hsep : l = .separator
    · subst hsep
      have hskipped := Mark.read?_short.search_skipped hf
      refine ⟨f.skipped, tail, hs, ?_⟩
      rw [lexFrom_of_search_eq_none hskipped]
      simp
    · have hmem : .separator ∈ (lexFrom standardStrings l.text.getLast? tail).lexemes := by
        simpa [Lexing.prepend, Ne.symm hsep] using h
      obtain ⟨t, rest, rfl, hfinished, hundivided, hclosed⟩ := ih hmem
      have ends := endsBefore_of_readLexeme hl
      have hcomment (c : Text) (hc : l = .comment c) : isClosedComment c = true := by
        rw [hc] at ends
        exact ends.resolve_right (by simp)
      refine ⟨f.skipped ++ (l.text ++ t), rest, by rw [hs]; simp, ?_⟩
      rw [lexFrom_replace hf hl (ends.of_isPrefix (List.prefix_append t _))]
      refine ⟨hfinished, ?_, ?_⟩
      · simp only [Lexing.prepend, List.cons_append, List.nil_append, List.mem_cons, not_or]
        exact ⟨by simp, Ne.symm hsep, hundivided⟩
      · intro c hc
        simp only [Lexing.prepend, List.cons_append, List.nil_append, List.mem_cons] at hc
        obtain hc | hc | hc := hc
        · cases hc
        · exact hcomment c hc.symm
        · exact hclosed c hc

/-- To prove something of every text, prove it of texts without separators, and of a slice, a
separator and a text of which it holds. -/
@[elab_as_elim]
theorem separator_induction {motive : Text → Prop} (standardStrings : Bool)
    (last : ∀ s, .separator ∉ (lex s standardStrings).lexemes → motive s)
    (cut : ∀ t rest, IsSlice standardStrings t → motive rest → motive (t ++ ';' :: rest))
    (s : Text) : motive s := by
  induction hs : s.length using Nat.strongRecOn generalizing s with
  | ind n ih =>
    by_cases h : .separator ∈ (lex s standardStrings).lexemes
    · obtain ⟨t, rest, rfl, finished, undivided, closed⟩ := exists_append_separator h
      refine cut t rest ⟨finished, undivided, closed⟩ (ih rest.length ?_ rest rfl)
      rw [← hs, List.length_append, List.length_cons]
      omega
    · exact last s h

namespace Lexing

/-- The lexemes, with what is left open as plain text. -/
def whole (l : Lexing) : List Lexeme := l.lexemes ++ (l.unfinished.map (.plain ·.2)).toList

theorem spelling_whole (l : Lexing) : spelling l.whole = l.text := by
  cases h : l.unfinished <;> simp [whole, text, spelling, h]

theorem pointsFrom_whole (k : Nat) (l : Lexing) :
    pointsFrom k l.whole = pointsFrom k l.lexemes := by
  rw [whole, pointsFrom_append]
  cases l.unfinished <;> simp [pointsFrom, Lexeme.point?]

theorem separator_mem_whole {l : Lexing} : .separator ∈ l.whole ↔ .separator ∈ l.lexemes := by
  cases h : l.unfinished <;> simp [whole, h]

theorem whole_prepend (head : List Lexeme) (l : Lexing) :
    (l.prepend head).whole = head ++ l.whole := by simp [whole, prepend]

theorem whole_of_finished {l : Lexing} (h : l.unfinished = none) : l.whole = l.lexemes := by
  simp [whole, h]

end Lexing

/-- The texts between the separators of a text. -/
def slices (s : Text) (standardStrings : Bool) : List Text :=
  ((lex s standardStrings).whole.splitOn .separator).map spelling

theorem slices_of_not_mem {s : Text} (h : .separator ∉ (lex s standardStrings).lexemes) :
    slices s standardStrings = [s] := by
  rw [slices, List.splitOn_eq_singleton (mt Lexing.separator_mem_whole.1 h), List.map_singleton,
    Lexing.spelling_whole, text_lex]

theorem IsSlice.lex_append {t : Text} (h : IsSlice standardStrings t) (rest : Text) :
    lex (t ++ ';' :: rest) standardStrings =
      (lex rest standardStrings).prepend ((lex t standardStrings).lexemes ++ [.separator]) :=
  lexFrom_append_separator h.finished h.closed rest

theorem spelling_lexFrom_of_finished {s : Text}
    (h : (lexFrom standardStrings before s).unfinished = none) :
    spelling (lexFrom standardStrings before s).lexemes = s := by
  rw [← Lexing.whole_of_finished h, Lexing.spelling_whole, text_lexFrom]

theorem spelling_lex_of_finished {s : Text} (h : (lex s standardStrings).unfinished = none) :
    spelling (lex s standardStrings).lexemes = s := spelling_lexFrom_of_finished h

theorem IsSlice.slices_append {t : Text} (h : IsSlice standardStrings t) (rest : Text) :
    slices (t ++ ';' :: rest) standardStrings = t :: slices rest standardStrings := by
  rw [slices, h.lex_append, Lexing.whole_prepend, List.append_assoc, List.singleton_append,
    List.splitOn_append_cons_self_of_not_mem h.undivided, List.map_cons,
    spelling_lex_of_finished h.finished, slices]

end SqlBoundary
