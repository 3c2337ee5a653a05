import SqlBoundary.Lex.Pattern

/-! # Comments

A line comment runs through the end of its line. Block comments nest.
-/

namespace SqlBoundary

/-- Reads through the next line break, which may be missing at the end of the text. -/
def readLine (s : Text) : Text × Text :=
  match s.dropWhile (· ≠ '\n') with
  | [] => (s, [])
  | newline :: rest => (s.takeWhile (· ≠ '\n') ++ [newline], rest)

theorem readLine_append (s : Text) : (readLine s).1 ++ (readLine s).2 = s := by
  unfold readLine
  split
  next => simp
  next newline rest tail =>
    rw [List.append_assoc, List.singleton_append, ← tail, List.takeWhile_append_dropWhile]

theorem length_rest_lt_of_search_delimiter {s : Text} {f : Found BlockDelimiter}
    (found : search BlockDelimiter.read? s = some f) : f.rest.length < s.length :=
  length_rest_lt_of_search BlockDelimiter.read?_spells found (BlockDelimiter.text_ne_nil _)

/-- Reads to the end of a block comment that encloses `inner` further open ones. -/
def readBlock? (inner : Nat) (s : Text) : Option (Text × Text) :=
  match _ : search BlockDelimiter.read? s with
  | none => none
  | some f =>
    match f.value, inner with
    | .closer, 0 => some (f.skipped ++ f.value.text, f.rest)
    | .closer, inner + 1 => prepend (f.skipped ++ f.value.text) (readBlock? inner f.rest)
    | .opener, inner => prepend (f.skipped ++ f.value.text) (readBlock? (inner + 1) f.rest)
termination_by s.length
decreasing_by all_goals exact length_rest_lt_of_search_delimiter ‹_›

theorem readBlock?_append {inner : Nat} {s body rest : Text}
    (h : readBlock? inner s = some (body, rest)) : body ++ rest = s := by
  fun_induction readBlock? inner s generalizing body rest with
  | case1 => simp at h
  | case2 s f found closer =>
    cases h
    exact search_spells BlockDelimiter.read?_spells found
  | case3 s f found inner closer ih =>
    obtain ⟨tail, read, rfl⟩ := prepend_eq_some.1 h
    rw [List.append_assoc, ih read]
    exact search_spells BlockDelimiter.read?_spells found
  | case4 s f found inner opener ih =>
    obtain ⟨tail, read, rfl⟩ := prepend_eq_some.1 h
    rw [List.append_assoc, ih read]
    exact search_spells BlockDelimiter.read?_spells found

end SqlBoundary
