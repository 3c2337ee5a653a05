import SqlBoundary.Text.Basic

/-! # Readers and searches

A reader takes what it recognises off the front of a text. A search skips to the first place
where its reader succeeds. Nothing is lost: what is skipped, what is read and what is left make
up the text again.
-/

namespace SqlBoundary

abbrev Reader (α : Type) := Text → Option (α × Text)

/-- Puts a text that was read earlier in front of what a reader took. -/
def prepend (head : Text) (read : Option (Text × Text)) : Option (Text × Text) :=
  read.map fun (body, rest) => (head ++ body, rest)

theorem prepend_eq_some {head body rest : Text} {read : Option (Text × Text)} :
    prepend head read = some (body, rest) ↔
      ∃ tail, read = some (tail, rest) ∧ body = head ++ tail := by
  simp only [prepend, Option.map_eq_some_iff, Prod.mk.injEq]
  constructor
  · rintro ⟨⟨tail, _⟩, h, rfl, rfl⟩
    exact ⟨tail, h, rfl⟩
  · rintro ⟨tail, h, rfl⟩
    exact ⟨(tail, rest), h, rfl, rfl⟩

/-- What a search passes over, what it finds and what is left. -/
structure Found (α : Type) where
  skipped : Text
  value : α
  rest : Text

namespace Found

def skip {α : Type} (c : Char) (f : Found α) : Found α := { f with skipped := c :: f.skipped }

end Found

def search {α : Type} (read : Reader α) : Text → Option (Found α)
  | [] => (read []).map fun (value, rest) => ⟨[], value, rest⟩
  | c :: s =>
    match read (c :: s) with
    | some (value, rest) => some ⟨[], value, rest⟩
    | none => (search read s).map (Found.skip c)

/-- A reader loses nothing when its value spells out what it took. -/
def Reader.Spells {α : Type} (read : Reader α) (spell : α → Text) : Prop :=
  ∀ s value rest, read s = some (value, rest) → spell value ++ rest = s

theorem search_spells {α : Type} {read : Reader α} {spell : α → Text} (spells : read.Spells spell) :
    ∀ {s : Text} {f : Found α}, search read s = some f → f.skipped ++ spell f.value ++ f.rest = s
  | [], f, h => by
    simp only [search, Option.map_eq_some_iff] at h
    obtain ⟨⟨value, rest⟩, read_eq, rfl⟩ := h
    simpa using spells _ _ _ read_eq
  | c :: s, f, h => by
    unfold search at h
    split at h
    next value rest read_eq =>
      cases h
      simpa using spells _ _ _ read_eq
    next =>
      obtain ⟨g, found, rfl⟩ := Option.map_eq_some_iff.1 h
      simp only [Found.skip, List.cons_append]
      rw [search_spells spells found]

/-- The reader succeeds at the place found. -/
theorem search_read {α : Type} {read : Reader α} :
    ∀ {s : Text} {f : Found α}, search read s = some f →
      ∃ t, s = f.skipped ++ t ∧ read t = some (f.value, f.rest)
  | [], f, h => by
    simp only [search, Option.map_eq_some_iff] at h
    obtain ⟨⟨value, rest⟩, read_eq, rfl⟩ := h
    exact ⟨[], rfl, read_eq⟩
  | c :: s, f, h => by
    unfold search at h
    split at h
    next value rest read_eq =>
      cases h
      exact ⟨c :: s, rfl, read_eq⟩
    next =>
      obtain ⟨g, found, rfl⟩ := Option.map_eq_some_iff.1 h
      obtain ⟨t, rfl, read_eq⟩ := search_read found
      exact ⟨t, rfl, read_eq⟩

theorem length_rest_lt_of_search {α : Type} {read : Reader α} {spell : α → Text}
    (spells : read.Spells spell) {s : Text} {f : Found α} (found : search read s = some f)
    (nonempty : spell f.value ≠ []) : f.rest.length < s.length := by
  have := congrArg List.length (search_spells spells found)
  have := List.length_pos_iff.2 nonempty
  simp only [List.length_append] at *
  omega

end SqlBoundary
