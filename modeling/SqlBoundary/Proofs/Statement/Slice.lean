import SqlBoundary.Statement
import SqlBoundary.Proofs.Scan.Separator
import SqlBoundary.Proofs.Scan.WellFormed
import SqlBoundary.Proofs.Text.Slice
import SqlBoundary.Proofs.Text.Trim

/-! # Statements and slices

Cutting a text at the positions of its split points is going through its lexemes. With comments the
statements are the trimmed slices, and nothing else of the text is lost.
-/

namespace SqlBoundary

open Text

variable {standardStrings : Bool}

/-- The space that takes the place of a comment between two characters. -/
def gap (last next : Option Char) : Text :=
  if last.any (!isSpace ·) && next.any (!isSpace ·) then [' '] else []

/-- The statements of consecutive lexemes; `kept` is what the first one holds so far. -/
def statementsFrom (stripComments : Bool) (kept : Text) : List Lexeme → List Text
  | [] => [trim kept]
  | .separator :: ls => trim kept :: statementsFrom stripComments [] ls
  | .comment t :: ls =>
    if stripComments then
      statementsFrom stripComments (kept ++ gap kept.getLast? (spelling ls).head?) ls
    else statementsFrom stripComments (kept ++ t) ls
  | .plain t :: ls => statementsFrom stripComments (kept ++ t) ls
  | .literal t :: ls => statementsFrom stripComments (kept ++ t) ls

/-- Cutting at positions is going through the lexemes; `pending` is what was passed over since the
last cut. -/
theorem cutFrom_pointsFrom (stripComments : Bool) {s pending : Text} {start : Nat}
    {ls : List Lexeme} (h : s.drop start = pending ++ spelling ls) (kept : Text) :
    cutFrom s stripComments start kept (pointsFrom (start + pending.length) ls) =
      statementsFrom stripComments (kept ++ pending) ls := by
  induction ls generalizing start pending kept with
  | nil =>
    rw [pointsFrom, cutFrom, statementsFrom, slice, List.take_of_length_le
      (by rw [List.length_drop]), h, spelling_nil, List.append_nil]
  | cons l ls ih =>
    have hslice := slice_of_drop_eq h
    have hdrop : s.drop (start + pending.length + l.text.length) = spelling ls := by
      rw [Nat.add_assoc, ← List.drop_drop, h, spelling_cons, ← List.append_assoc,
        ← List.length_append, List.drop_left]
    -- A lexeme without a split point is passed over; after one with a split point a new cut starts.
    have passed (t : Text) (ht : l.text = t) : cutFrom s stripComments start kept
        (pointsFrom (start + pending.length + t.length) ls) =
          statementsFrom stripComments (kept ++ pending ++ t) ls := by
      have := ih (show s.drop start = (pending ++ t) ++ spelling ls by
        rw [h, spelling_cons, ht, List.append_assoc]) kept
      rwa [List.length_append, ← Nat.add_assoc, ← List.append_assoc kept] at this
    have restarted (kept' : Text) : cutFrom s stripComments (start + pending.length + l.text.length)
        kept' (pointsFrom (start + pending.length + l.text.length) ls) =
          statementsFrom stripComments kept' ls := by
      have := ih (show s.drop _ = [] ++ spelling ls from hdrop) kept'
      rwa [List.length_nil, Nat.add_zero, List.append_nil] at this
    cases l with
    | plain t => exact passed t rfl
    | literal t => exact passed t rfl
    | separator =>
      change trim (kept ++ s.slice start (start + pending.length)) :: _ = _
      rw [hslice, statementsFrom]
      exact congrArg _ (restarted [])
    | comment t =>
      cases stripComments with
      | false => exact passed t rfl
      | true =>
        change cutFrom s true (start + pending.length + t.length)
          (kept ++ s.slice start (start + pending.length) ++
            if wouldTouch (kept ++ s.slice start (start + pending.length))
              (s.drop (start + pending.length + t.length)) then [' '] else []) _ = _
        rw [hslice]
        rw [Lexeme.text_comment] at hdrop
        rw [hdrop]
        exact restarted _

theorem splitStatements_eq_statementsFrom (s : Text) (standardStrings stripComments : Bool) :
    splitStatements s (scan s standardStrings).points stripComments =
      statementsFrom stripComments [] (lex s standardStrings).whole := by
  have hwhole : s.drop 0 = [] ++ spelling (lex s standardStrings).whole := by
    rw [Lexing.spelling_whole, text_lex]
    rfl
  have := cutFrom_pointsFrom stripComments hwhole []
  rwa [List.length_nil, Lexing.pointsFrom_whole] at this

/-- With comments the statements are the trimmed texts between the separators. -/
theorem statementsFrom_false (kept : Text) (ls : List Lexeme) :
    statementsFrom false kept ls =
      (((ls.splitOn .separator).map spelling).modifyHead (kept ++ ·)).map trim := by
  induction ls generalizing kept with
  | nil => simp [statementsFrom]
  | cons l ls ih =>
    rw [List.splitOn_cons_eq_if_modifyHead]
    cases l with
    | separator =>
      rw [statementsFrom, ih]
      cases ls.splitOn .separator <;> simp
    | plain t | literal t | comment t =>
      simp only [statementsFrom, ih]
      cases ls.splitOn .separator <;> simp

theorem splitStatements_false (s : Text) (standardStrings : Bool) :
    splitStatements s (scan s standardStrings).points false =
      (slices s standardStrings).map trim := by
  rw [splitStatements_eq_statementsFrom, statementsFrom_false, slices]
  cases (lex s standardStrings).whole.splitOn .separator <;> simp

theorem spelling_intercalate (lss : List (List Lexeme)) :
    spelling ([Lexeme.separator].intercalate lss) = joinWith [';'] (lss.map spelling) := by
  induction lss with
  | nil => rfl
  | cons ls lss ih =>
    cases lss with
    | nil => simp [List.intercalate, joinWith]
    | cons ms lss =>
      simp only [List.intercalate, joinWith, List.map_cons, List.intersperse_cons_cons,
        List.flatten_cons, spelling_append] at ih ⊢
      rw [ih]
      simp

/-- The slices with a semicolon between neighbours are the text. -/
theorem joinWith_slices (s : Text) (standardStrings : Bool) :
    joinWith [';'] (slices s standardStrings) = s := by
  rw [slices, ← spelling_intercalate, List.intercalate_splitOn, Lexing.spelling_whole, text_lex]

/-- The white space that is cut off the two ends of a text. -/
def margins (r : Text) : Text × Text := (r.takeWhile isSpace, (trimStart r).rtakeWhile isSpace)

theorem isBlank_margins (r : Text) :
    isBlank (margins r).1 = true ∧ isBlank (margins r).2 = true :=
  ⟨isBlank_takeWhile r, isBlank_iff.2 fun _ hc => List.mem_rtakeWhile_imp hc⟩

theorem margins_append_trim (r : Text) : (margins r).1 ++ trim r ++ (margins r).2 = r := by
  rw [List.append_assoc, margins, trim, trimEnd_eq_rdropWhile, List.rdropWhile_append_rtakeWhile,
    takeWhile_append_trimStart]

/-- Nothing of a text is lost or doubled: its statements, each between two margins of white space
and with one semicolon between neighbours, are the text. -/
theorem splitStatements_rejoin (s : Text) (standardStrings : Bool) :
    (splitStatements s (scan s standardStrings).points false).length =
        (scan s standardStrings).points.countP SplitPoint.isSemicolon + 1 ∧
      (∀ t ∈ splitStatements s (scan s standardStrings).points false, IsTrimmed t) ∧
      ∃ around : List (Text × Text),
        around.length = (splitStatements s (scan s standardStrings).points false).length ∧
        (∀ m ∈ around, isBlank m.1 = true ∧ isBlank m.2 = true) ∧
        joinWith [';'] (List.zipWith (fun m t => m.1 ++ t ++ m.2) around
          (splitStatements s (scan s standardStrings).points false)) = s := by
  refine ⟨length_cutFrom _ _ _ _ _, ?_⟩
  rw [splitStatements_false]
  refine ⟨?_, (slices s standardStrings).map margins, by simp, ?_, ?_⟩
  · intro t ht
    obtain ⟨r, -, rfl⟩ := List.mem_map.1 ht
    exact isTrimmed_trim r
  · intro m hm
    obtain ⟨r, -, rfl⟩ := List.mem_map.1 hm
    exact isBlank_margins r
  · rw [List.zipWith_map, List.zipWith_self]
    simp only [margins_append_trim, List.map_id']
    exact joinWith_slices s standardStrings

end SqlBoundary
