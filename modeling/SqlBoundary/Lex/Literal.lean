import SqlBoundary.Lex.Pattern

/-! # Quoted and dollar-quoted literals

A reader of a literal starts after its opening quote or tag and takes the text through its close.
A doubled quote stands for itself. Two single-quoted literals with a line break and nothing but
white space between them are one literal. A dollar-quoted literal ends at the next copy of its
tag.
-/

namespace SqlBoundary

/-- Single quotes allow a backslash where the dialect does or after an `E`. -/
def allowsBackslash (standardStrings : Bool) (previous : Option Char) : Quote → Bool
  | .single => !standardStrings || previous = some 'E' || previous = some 'e'
  | .double => false

/-- The characters at which a quoted literal needs a decision. -/
def Quote.isDelimiter (escapes : Bool) : Quote → Char → Bool
  | .single, c => c = '\'' || (escapes && c = '\\')
  | .double, c => c = '"'

theorem length_rest_lt_of_search_char {accept : Char → Bool} {s : Text} {f : Found Char}
    (found : search (readChar? accept) s = some f) : f.rest.length < s.length :=
  length_rest_lt_of_search (readChar?_spells accept) found (by simp)

/-- Reads from the close of a literal through the opening quote of the literal that continues
it. -/
def readJoint? : Quote → Reader Text
  | .single, s => readContinuation? s
  | .double, _ => none

theorem readJoint?_spells (quote : Quote) : Reader.Spells (readJoint? quote) id := by
  cases quote with
  | single => exact readContinuation?_spells
  | double => intro s value rest h; cases h

theorem length_rest_lt_of_readJoint? {quote : Quote} {s joint rest : Text}
    (h : readJoint? quote s = some (joint, rest)) : rest.length < s.length := by
  have spelt := congrArg List.length (readJoint?_spells quote _ _ _ h)
  cases quote with
  | single =>
    simp only [readJoint?, readContinuation?] at h
    split at h
    next =>
      simp only [Option.ite_none_right_eq_some, Option.some.injEq, Prod.mk.injEq] at h
      obtain ⟨-, rfl, rfl⟩ := h
      simp only [id, List.length_append, List.length_singleton] at spelt
      omega
    next => simp at h
  | double => cases h

theorem length_lt_of_afterPrefix? {head s rest : Text} (nonempty : head ≠ [])
    (h : Text.afterPrefix? head s = some rest) : rest.length < s.length := by
  have := List.length_pos_iff.2 nonempty
  rw [Text.afterPrefix?_eq_some.1 h, List.length_append]
  omega

def readQuoted? (quote : Quote) (escapes : Bool) (s : Text) : Option (Text × Text) :=
  match _ : search (readChar? (quote.isDelimiter escapes)) s with
  | none => none
  | some f =>
    if f.value = '\\' then
      match _ : f.rest with
      | [] => none
      | c :: rest => prepend (f.skipped ++ ['\\', c]) (readQuoted? quote escapes rest)
    else
      match _ : Text.afterPrefix? [quote.char] f.rest with
      | some rest =>
        prepend (f.skipped ++ [quote.char, quote.char]) (readQuoted? quote escapes rest)
      | none =>
        match _ : readJoint? quote f.rest with
        | some (joint, rest) =>
          prepend (f.skipped ++ quote.char :: joint) (readQuoted? quote escapes rest)
        | none => some (f.skipped ++ [quote.char], f.rest)
termination_by s.length
decreasing_by
  · have := length_rest_lt_of_search_char ‹_›
    simp_all only [List.length_cons]
    omega
  · have := length_rest_lt_of_search_char ‹_›
    have := length_lt_of_afterPrefix? (List.cons_ne_nil _ _) ‹_›
    omega
  · have := length_rest_lt_of_search_char ‹_›
    have := length_rest_lt_of_readJoint? ‹_›
    omega

/-- Reads a given text and gives it back. -/
def readText? (t : Text) : Reader Text := fun s => (Text.afterPrefix? t s).map (t, ·)

/-- Reads through the first copy of a text. -/
def readThrough? (t s : Text) : Option (Text × Text) :=
  (search (readText? t) s).map fun f => (f.skipped ++ f.value, f.rest)

theorem readChar?_accepts {accept : Char → Bool} {s rest : Text} {c : Char}
    (h : readChar? accept s = some (c, rest)) : accept c = true := by
  unfold readChar? at h
  split at h
  next => grind
  next => cases h

theorem eq_char_of_isDelimiter {escapes : Bool} {quote : Quote} {c : Char}
    (delimiter : quote.isDelimiter escapes c = true) (plain : ¬c = '\\') : c = quote.char := by
  cases quote <;> simp_all [Quote.isDelimiter, Quote.char]

theorem eq_char_of_search {escapes : Bool} {quote : Quote} {s : Text} {f : Found Char}
    (found : search (readChar? (quote.isDelimiter escapes)) s = some f)
    (plain : ¬f.value = '\\') : f.value = quote.char := by
  obtain ⟨t, -, read⟩ := search_read found
  exact eq_char_of_isDelimiter (readChar?_accepts read) plain

theorem readQuoted?_append {quote : Quote} {escapes : Bool} {s body rest : Text}
    (h : readQuoted? quote escapes s = some (body, rest)) : body ++ rest = s := by
  fun_induction readQuoted? quote escapes s generalizing body rest with
  | case1 => simp at h
  | case2 => simp at h
  | case3 s f found backslash c rest' tail ih =>
    obtain ⟨body', read, rfl⟩ := prepend_eq_some.1 h
    rw [← search_spells (readChar?_spells _) found, backslash, tail, ← ih read]
    simp
  | case4 s f found plain rest' tail ih =>
    obtain ⟨body', read, rfl⟩ := prepend_eq_some.1 h
    rw [← search_spells (readChar?_spells _) found, eq_char_of_search found plain,
      Text.afterPrefix?_eq_some.1 tail, ← ih read]
    simp
  | case5 s f found plain undoubled joint rest' joined ih =>
    obtain ⟨body', read, rfl⟩ := prepend_eq_some.1 h
    rw [← search_spells (readChar?_spells _) found, eq_char_of_search found plain,
      ← readJoint?_spells _ _ _ _ joined, ← ih read]
    simp
  | case6 s f found plain undoubled unjoined =>
    cases h
    rw [← search_spells (readChar?_spells _) found, eq_char_of_search found plain]

theorem readText?_spells (t : Text) : Reader.Spells (readText? t) id := by
  intro s value rest h
  simp only [readText?, Option.map_eq_some_iff, Prod.mk.injEq] at h
  obtain ⟨tail, read, rfl, rfl⟩ := h
  rw [Text.afterPrefix?_eq_some.1 read, id]

theorem readThrough?_append {t s body rest : Text} (h : readThrough? t s = some (body, rest)) :
    body ++ rest = s := by
  simp only [readThrough?, Option.map_eq_some_iff, Prod.mk.injEq] at h
  obtain ⟨f, found, rfl, rfl⟩ := h
  exact search_spells (readText?_spells t) found

/-- A dollar sign inside an identifier opens nothing. -/
def opensDollarQuote (previous : Option Char) : Bool := !previous.any isIdentifierChar

end SqlBoundary
