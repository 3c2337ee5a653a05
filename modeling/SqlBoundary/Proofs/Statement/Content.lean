import SqlBoundary.Proofs.Statement.Strip

/-! # Statements with content

A statement is empty when its slice holds nothing but comments and white space. White space around a
slice makes no difference to that.
-/

namespace SqlBoundary

open Text

variable {standardStrings : Bool}

def LexemeKind.isContent : LexemeKind → Bool
  | blank | comment => false
  | words | separator | literal => true

def Shape.hasContent (s : Shape) : Bool := s.kinds.any LexemeKind.isContent

theorem isBlank_eq_false_of_head? {t : Text} {c : Char} (h : t.head? = some c)
    (hc : isSpace c = false) : isBlank t = false := by
  obtain ⟨u, rfl⟩ := List.head?_eq_some_iff.1 h
  simp [isBlank, hc]

theorem isBlank_kept {l : Lexeme} (hl : (∀ t, l ≠ .plain t) → isBlank l.text = false)
    (last next : Option Char) : isBlank (l.kept last next) = !l.kind.isContent := by
  cases l with
  | plain t =>
    simp only [Lexeme.kept, Lexeme.kind]
    cases isBlank t <;> rfl
  | comment t => exact isBlank_gap last next
  | separator => rfl
  | literal t => exact hl (by simp)

/-- Without comments, lexemes leave nothing but white space where none of them is content. -/
theorem isBlank_stripped {ls : List Lexeme} (hopen : MarksOpen ls) (last : Option Char) :
    isBlank (stripped last ls) = !(ls.map Lexeme.kind).any LexemeKind.isContent := by
  induction ls generalizing last with
  | nil => rfl
  | cons l ls ih =>
    have hl (hplain : ∀ t, l ≠ .plain t) : isBlank l.text = false := by
      obtain ⟨c, hc, hspace⟩ := hopen l List.mem_cons_self hplain
      exact isBlank_eq_false_of_head? hc hspace
    rw [stripped, isBlank_append_eq, isBlank_kept hl, ih hopen.tail, List.map_cons, List.any_cons,
      Bool.not_or]

theorem trim_stripped_eq_nil_iff {s : Text} :
    trim (stripped none (lex s standardStrings).lexemes) = [] ↔
      (lex s standardStrings).shape.hasContent = false := by
  have hopen : MarksOpen (lex s standardStrings).lexemes := marksOpen_lexFrom standardStrings none s
  rw [trim_eq_nil_iff, isBlank_stripped hopen, Bool.not_eq_true']
  rfl

theorem filterMap_zip_map {f g : Text → Text} {p : Text → Bool} {rs : List Text}
    (h : ∀ r ∈ rs, (g r).isEmpty = !p r) :
    ((rs.map f).zip (rs.map g)).filterMap
        (fun (statement, stripped) => if stripped.isEmpty then none else some statement) =
      (rs.filter p).map f := by
  induction rs with
  | nil => rfl
  | cons r rs ih =>
    have hr := h r List.mem_cons_self
    rw [List.map_cons, List.map_cons, List.zip_cons_cons, List.filterMap_cons,
      ih fun r hr => h r (List.mem_cons_of_mem _ hr), List.filter_cons]
    cases hp : p r <;> simp [hr, hp]

theorem splitCommand_eq_ok_iff {s : Text} {stripComments keepEmpty : Bool} {ts : List Text} :
    splitCommand s standardStrings stripComments keepEmpty = .ok ts ↔
      (scan s standardStrings).unterminated = none ∧
        selectStatements s (scan s standardStrings).points stripComments keepEmpty = ts := by
  cases h : (scan s standardStrings).unterminated <;> simp [splitCommand, h]

/-- With their comments kept, the statements are the trimmed slices, or those with content. -/
theorem selectStatements_eq_map_filter {s : Text} (h : (scan s standardStrings).unterminated = none)
    (keepEmpty : Bool) :
    selectStatements s (scan s standardStrings).points false keepEmpty =
      ((slices s standardStrings).filter fun r =>
        keepEmpty || (lex r standardStrings).shape.hasContent).map trim := by
  cases keepEmpty with
  | true =>
    simp [selectStatements, splitStatements_false]
  | false =>
    simp only [selectStatements, nonEmptyStatements, splitStatements_false, splitStatements_true,
      Bool.false_eq_true, if_false, Bool.false_or]
    refine filterMap_zip_map fun r hr => ?_
    rw [Lexing.whole_of_finished (lex_slice_of_terminated h hr).1, Bool.eq_iff_iff,
      List.isEmpty_iff, trim_stripped_eq_nil_iff, Bool.not_eq_true']

end SqlBoundary
