import SqlBoundary.Lex.Search

/-! # The marks that a scan looks for

`Mark` is what can end a stretch of plain text. `Pattern` collects the marks and the other texts
that a scan searches for; each is read at a place or searched for from there.
-/

namespace SqlBoundary

/-- Identifiers may hold a dollar sign and every character outside ASCII. -/
def isIdentifierChar (c : Char) : Bool :=
  c.isAlphanum || c = '_' || c = '$' || 0x80 ≤ c.toNat

/-- Tags of dollar quotes are identifiers without a dollar sign. -/
def isTagChar (c : Char) : Bool := c.isAlphanum || c = '_' || 0x80 ≤ c.toNat

inductive Quote
  | single
  | double
deriving DecidableEq

def Quote.char : Quote → Char
  | .single => '\''
  | .double => '"'

inductive Mark
  | semicolon
  | quote (q : Quote)
  | dollar
  | lineComment
  | blockComment
deriving DecidableEq

namespace Mark

def text : Mark → Text
  | semicolon => [';']
  | quote q => [q.char]
  | dollar => ['$']
  | lineComment => ['-', '-']
  | blockComment => ['/', '*']

def read? : Reader Mark
  | ';' :: rest => some (semicolon, rest)
  | '\'' :: rest => some (quote .single, rest)
  | '"' :: rest => some (quote .double, rest)
  | '$' :: rest => some (dollar, rest)
  | '-' :: '-' :: rest => some (lineComment, rest)
  | '/' :: '*' :: rest => some (blockComment, rest)
  | _ => none

theorem text_ne_nil (m : Mark) : m.text ≠ [] := by cases m <;> simp [text]

theorem read?_spells : Reader.Spells read? text := by
  intro s value rest h
  unfold read? at h
  split at h <;> simp_all [text, Quote.char] <;> obtain ⟨rfl, rfl⟩ := h <;> simp

end Mark

inductive Pattern
  | special
  | doubleQuote
  | singleQuote
  | singleQuoteOrBackslash
  | spaceThenSingleQuote
  | blockDelimiter
  | dollarTag
deriving DecidableEq

/-- Reads white space that breaks the line and the single quote right after it. -/
def readContinuation? : Reader Text := fun s =>
  match s.dropWhile isSpace with
  | '\'' :: rest =>
    let space := s.takeWhile isSpace
    if space.contains '\n' then some (space ++ ['\''], rest) else none
  | _ => none

/-- Reads the tag of a dollar quote after its first dollar sign, through its second one. -/
def readTag? : Reader Text := fun s =>
  match s.dropWhile isTagChar with
  | '$' :: rest =>
    let name := s.takeWhile isTagChar
    if name.head?.any Char.isDigit then none else some (name ++ ['$'], rest)
  | _ => none

inductive BlockDelimiter
  | opener
  | closer
deriving DecidableEq

namespace BlockDelimiter

def text : BlockDelimiter → Text
  | opener => ['/', '*']
  | closer => ['*', '/']

def read? : Reader BlockDelimiter
  | '/' :: '*' :: rest => some (opener, rest)
  | '*' :: '/' :: rest => some (closer, rest)
  | _ => none

theorem text_ne_nil (d : BlockDelimiter) : d.text ≠ [] := by cases d <;> simp [text]

theorem read?_spells : Reader.Spells read? text := by
  intro s value rest h
  unfold read? at h
  split at h <;> simp_all [text] <;> obtain ⟨rfl, rfl⟩ := h <;> simp

end BlockDelimiter

/-- Reads one character that a test accepts. -/
def readChar? (accept : Char → Bool) : Reader Char
  | c :: rest => if accept c then some (c, rest) else none
  | [] => none

theorem readChar?_spells (accept : Char → Bool) : Reader.Spells (readChar? accept) ([·]) := by
  intro s value rest h
  unfold readChar? at h
  split at h <;> simp_all

theorem readContinuation?_spells : Reader.Spells readContinuation? id := by
  intro s value rest h
  unfold readContinuation? at h
  split at h
  next tail quote =>
    simp only [Option.ite_none_right_eq_some, Option.some.injEq, Prod.mk.injEq] at h
    obtain ⟨-, rfl, rfl⟩ := h
    simp only [id, List.append_assoc, List.singleton_append]
    rw [← quote, List.takeWhile_append_dropWhile]
  next => simp at h

theorem readTag?_spells : Reader.Spells readTag? id := by
  intro s value rest h
  unfold readTag? at h
  split at h
  next tail dollar =>
    simp only [Option.ite_none_left_eq_some, Option.some.injEq, Prod.mk.injEq] at h
    obtain ⟨-, rfl, rfl⟩ := h
    simp only [id, List.append_assoc, List.singleton_append]
    rw [← dollar, List.takeWhile_append_dropWhile]
  next => simp at h

namespace Pattern

/-- Reads the pattern at the front of a text, giving the text that it matched. -/
def read? : Pattern → Reader Text
  | special, s => (Mark.read? s).map fun (mark, rest) => (mark.text, rest)
  | doubleQuote, s => (readChar? (· = '"') s).map fun (c, rest) => ([c], rest)
  | singleQuote, s => (readChar? (· = '\'') s).map fun (c, rest) => ([c], rest)
  | singleQuoteOrBackslash, s =>
    (readChar? (fun c => c = '\'' || c = '\\') s).map fun (c, rest) => ([c], rest)
  | spaceThenSingleQuote, s => readContinuation? s
  | blockDelimiter, s => (BlockDelimiter.read? s).map fun (mark, rest) => (mark.text, rest)
  | dollarTag, s => readTag? s

/-- The position just past the pattern when it stands at a given position. -/
def matchAfter? (p : Pattern) (s : Text) (start : Nat) : Option Nat :=
  (p.read? (s.drop start)).map fun (matched, _) => start + matched.length

/-- The position just past the first place of the pattern at or after a given position. -/
def indexAfter? (p : Pattern) (s : Text) (start : Nat) : Option Nat :=
  (search p.read? (s.drop start)).map fun f => start + f.skipped.length + f.value.length

end Pattern
end SqlBoundary
