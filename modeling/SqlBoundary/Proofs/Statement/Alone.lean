import SqlBoundary.Proofs.Scan.Shape
import SqlBoundary.Proofs.Statement.Slice

/-! # Statements on their own

A statement is a slice without the white space around it. It holds no separator, and only the last
one can leave something open. What the text holds before the slice has no effect on it, and the
white space has one only where it hides the tag of a dollar quote.
-/

namespace SqlBoundary

open Text

variable {standardStrings : Bool}

theorem slices_ne_nil (s : Text) (standardStrings : Bool) : slices s standardStrings ≠ [] := by
  simp [slices, List.splitOn_ne_nil]

theorem mem_of_mem_slices {s r : Text} (hr : r ∈ slices s standardStrings) {c : Char} (hc : c ∈ r) :
    c ∈ s := by
  induction s using separator_induction standardStrings with
  | last s hs =>
    rw [slices_of_not_mem hs, List.mem_singleton] at hr
    exact hr ▸ hc
  | cut t rest ht ih =>
    rw [ht.slices_append, List.mem_cons] at hr
    obtain rfl | hr := hr
    · exact List.mem_append_left _ hc
    · exact List.mem_append_right _ (List.mem_cons_of_mem _ (ih hr))

theorem IsAsciiSpaced.slice {s r : Text} (h : IsAsciiSpaced s) (hr : r ∈ slices s standardStrings) :
    IsAsciiSpaced r := fun c hc => h c (mem_of_mem_slices hr hc)

theorem exists_semicolon_pointsFrom {k : Nat} {ls : List Lexeme} :
    (∃ x ∈ pointsFrom k ls, x.isSemicolon = true) ↔ .separator ∈ ls := by
  induction ls generalizing k with
  | nil => simp [pointsFrom]
  | cons l ls ih =>
    simp only [pointsFrom, List.mem_append, or_and_right, exists_or, ih, List.mem_cons]
    cases l <;> simp [Lexeme.point?, SplitPoint.isSemicolon]

/-- A slice holds no separator, and nothing is left open in it but what is left open in the whole
text. -/
theorem lex_slice {s r : Text} {i : Nat} (h : (slices s standardStrings)[i]? = some r) :
    .separator ∉ (lex r standardStrings).lexemes ∧
      (lex r standardStrings).unfinished =
        if i + 1 = (slices s standardStrings).length then (lex s standardStrings).unfinished
        else none := by
  induction s using separator_induction standardStrings generalizing i with
  | last s hs =>
    rw [slices_of_not_mem hs] at h ⊢
    cases i with
    | zero =>
      obtain rfl := Option.some.inj h
      exact ⟨hs, (if_pos rfl).symm⟩
    | succ i => cases h
  | cut t rest ht ih =>
    have hpos := List.length_pos_iff.2 (slices_ne_nil rest standardStrings)
    rw [ht.slices_append] at h ⊢
    cases i with
    | zero =>
      obtain rfl := Option.some.inj h
      rw [if_neg (by simp only [List.length_cons]; omega)]
      exact ⟨ht.undivided, ht.finished⟩
    | succ i =>
      simpa [ht.lex_append, Lexing.prepend] using ih h

theorem lex_slice_of_terminated {s r : Text} (h : (scan s standardStrings).unterminated = none)
    (hr : r ∈ slices s standardStrings) :
    (lex r standardStrings).unfinished = none ∧ .separator ∉ (lex r standardStrings).lexemes := by
  obtain ⟨i, hi⟩ := List.getElem?_of_mem hr
  obtain ⟨undivided, unfinished⟩ := lex_slice hi
  rw [Option.map_eq_none_iff.1 h, ite_self] at unfinished
  exact ⟨unfinished, undivided⟩

/-- A text without the white space around it, where that hides no dollar quote, holds a separator
or leaves something open just as it did with the white space. -/
theorem scan_trim (standardStrings : Bool) {r : Text} (h : hidesDollarQuote r = false) :
    ((∃ x ∈ (scan (trim r) standardStrings).points, x.isSemicolon = true) ↔
        .separator ∈ (lex r standardStrings).lexemes) ∧
      (scan (trim r) standardStrings).unterminated =
        (lex r standardStrings).unfinished.map (·.1) := by
  have hshape := shape_trim standardStrings h
  refine ⟨?_, congrArg Shape.unfinished hshape⟩
  exact exists_semicolon_pointsFrom.trans (Lexing.separator_mem_of_shape_eq hshape)

/-- Every statement stands on its own: it holds no semicolon that separates, and nothing is left
open in it, but for the last one, which leaves open what the text does. Only a statement in front of
which white space hid a dollar quote may be read in another way. -/
theorem splitStatements_alone (s : Text) (standardStrings : Bool) :
    splitStatements s (scan s standardStrings).points false =
        (slices s standardStrings).map trim ∧
      joinWith [';'] (slices s standardStrings) = s ∧
      ∀ i r, (slices s standardStrings)[i]? = some r → hidesDollarQuote r = false →
        (∀ x ∈ (scan (trim r) standardStrings).points, x.isSemicolon = false) ∧
          (scan (trim r) standardStrings).unterminated =
            if i + 1 = (slices s standardStrings).length then (scan s standardStrings).unterminated
            else none := by
  refine ⟨splitStatements_false s standardStrings, joinWith_slices s standardStrings, ?_⟩
  intro i r hr hides
  obtain ⟨undivided, unfinished⟩ := lex_slice hr
  obtain ⟨hseparator, hunterminated⟩ := scan_trim standardStrings hides
  refine ⟨fun x hx => ?_, ?_⟩
  · rw [← Bool.not_eq_true]
    exact fun hsemicolon => undivided (hseparator.1 ⟨x, hx, hsemicolon⟩)
  · rw [hunterminated, unfinished, apply_ite (Option.map _)]
    rfl

/-- A space that is an identifier character hides no dollar quote where no tag comes next. -/
theorem splitStatements_alone_open :
    (slices "';';\u00a0$1--;\n '" true)[1]? = some "\u00a0$1--;\n '".toList ∧
      hidesDollarQuote "\u00a0$1--;\n '" = false ∧
      (∀ x ∈ (scan (trim "\u00a0$1--;\n '") true).points, x.isSemicolon = false) ∧
      (scan (trim "\u00a0$1--;\n '") true).unterminated =
        if 1 + 1 = (slices "';';\u00a0$1--;\n '" true).length then
          (scan "';';\u00a0$1--;\n '" true).unterminated
        else none := by
  have hslice : (slices "';';\u00a0$1--;\n '" true)[1]? = some "\u00a0$1--;\n '".toList := by
    decide +kernel
  have hides : hidesDollarQuote "\u00a0$1--;\n '" = false := by decide +kernel
  exact ⟨hslice, hides, (splitStatements_alone _ true).2.2 1 _ hslice hides⟩

/-- Without the space in front of it the dollar quote opens, and it ends before the semicolon. -/
theorem not_alone_of_hidden_dollarQuote :
    ¬∀ (s : Text) (standardStrings : Bool) (i : Nat) (t : Text),
      (splitStatements s (scan s standardStrings).points false)[i]? = some t →
        (∀ x ∈ (scan t standardStrings).points, x.isSemicolon = false) ∧
          (scan t standardStrings).unterminated =
            if i + 1 = (splitStatements s (scan s standardStrings).points false).length then
              (scan s standardStrings).unterminated
            else none := by
  intro h
  have halone := h "\u00a0$$'$$;'" true 0 "$$'$$;'" (by decide +kernel)
  revert halone
  decide +kernel

end SqlBoundary
