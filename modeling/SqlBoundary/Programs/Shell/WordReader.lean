import SqlBoundary.Programs.Shell.Grammar

/-! # Reading words

What a character stands for depends on where it is: in a word, in quotes, in the braces of an
expansion, or in an arithmetic expression. The commands of an expansion are read by a function that
is given.
-/

namespace SqlBoundary.Shell.Word

/-- Where characters stand. In the braces of a quoted expansion further quotes only shield a closing
brace. -/
inductive Place
  | word
  | braces
  | quotes (inBraces : Bool)
  | quotedBraces (shielded : Bool)
  | arithmetic (depth : Nat)
deriving DecidableEq

namespace Place

def isQuoted : Place → Bool
  | word | braces => false
  | quotes _ | quotedBraces _ | arithmetic _ => true

def escapes (place : Place) (c : Char) : Bool :=
  match place with
  | word | braces => true
  | quotes false | arithmetic _ => ("\\\x60$\"" : Text).contains c
  | quotes true | quotedBraces _ => ("\\\x60$\"\x7d" : Text).contains c

end Place

def endsWord (c : Char) : Bool := (" \t\n;&|<>()" : Text).contains c

/-- The name and the use at the front of a braced expansion, what follows them, and whether the
closing brace has been read. -/
structure Header where
  name : Text
  use : Use
  rest : Text
  closed : Bool := false

def useOf? (emptyIsNone : Bool) : Char → Option Use
  | '-' => some (.orElse emptyIsNone)
  | '=' => some (.orAssign emptyIsNone)
  | '?' => some (.orFail emptyIsNone)
  | '+' => some (.ifSet emptyIsNone)
  | _ => none

def headerUse (name : Text) : Text → Header
  | '}' :: rest => ⟨name, .value, rest, true⟩
  | ':' :: '}' :: rest => ⟨name, .value, rest, false⟩
  | ':' :: c :: rest => ⟨name, (useOf? true c).getD .invalid, rest, false⟩
  | '%' :: '%' :: rest => ⟨name, .trimBack true, rest, false⟩
  | '%' :: rest => ⟨name, .trimBack false, rest, false⟩
  | '#' :: '#' :: rest => ⟨name, .trimFront true, rest, false⟩
  | '#' :: rest => ⟨name, .trimFront false, rest, false⟩
  | c :: rest => ⟨name, (useOf? false c).getD .invalid, rest, false⟩
  | [] => ⟨name, .invalid, [], false⟩

def parameterName (s : Text) : Text :=
  match s with
  | [] => []
  | c :: _ =>
    if isNameStart c then s.takeWhile isNameChar
    else if c.isDigit then s.takeWhile Char.isDigit
    else if isSign c then [c]
    else []

/-- Reads what follows an opening brace. A number sign asks for the length of a parameter if one
follows it and the brace is closed then. -/
def header (s : Text) : Header :=
  let measured : Option Header :=
    match s with
    | '#' :: rest =>
      let name := parameterName rest
      let after := rest.drop name.length
      if name.isEmpty then
        match rest with
        | c :: '}' :: after => if c = '}' then none else some ⟨[], .invalid, '}' :: after, false⟩
        | _ => none
      else if name.head?.any isNameChar then
        some ⟨name, if after.head? = some '}' then .length else .invalid, after, false⟩
      else if after.head? = some '}' then some ⟨name, .length, after, false⟩
      else none
    | _ => none
  let name := parameterName s
  let plain : Header :=
    if name.isEmpty then
      ⟨[], .invalid, if s.head? = some '}' then s else s.drop 1, false⟩
    else headerUse name (s.drop name.length)
  measured.getD plain

/-- The parts of a text in double quotes. The parameters of the shell may come to nothing there. -/
def inQuotes (parts : Word) : Word :=
  match parts with
  | [.parameter ['@'] .value _ _] => parts
  | _ => .quotes :: parts

/-- Reads through the end of a place. Words need not be closed. -/
def readParts (commands : Text → Option (Command × Text)) :
    (steps : Nat) → Place → Text → Option (Word × Text)
  | 0, _, _ => none
  | _, .word, [] => some ([], [])
  | _, _, [] => none
  | steps + 1, place, c :: rest => do
    let quoted := place.isQuoted
    let onward (parts : Word) (place : Place) (rest : Text) : Option (Word × Text) := do
      let (more, after) ← readParts commands steps place rest
      return (parts ++ more, after)
    match c, rest with
    | '\\', [] => onward [.char '\\' true] place []
    | '\\', '\n' :: rest => onward [] place rest
    | '\\', d :: rest =>
      onward ((if place.escapes d then [] else [.char '\\' true]) ++ [.char d true]) place rest
    | '\x60', _ => none
    | '$', '(' :: '(' :: rest =>
      let (expression, rest) ← readParts commands steps (.arithmetic 0) rest
      onward [.arithmetic expression quoted] place rest
    | '$', '(' :: rest =>
      let (command, rest) ← commands rest
      onward [.output command quoted] place rest
    | '$', '{' :: rest =>
      let header := header rest
      if header.closed then onward [.parameter header.name header.use [] quoted] place header.rest
      else
        let trims :=
          match header.use with
          | .trimFront _ | .trimBack _ => true
          | _ => false
        let inside := if quoted && !trims then .quotedBraces false else .braces
        let (word, rest) ← readParts commands steps inside header.rest
        onward [.parameter header.name header.use word quoted] place rest
    | '$', d :: rest =>
      if isNameStart d then
        let name := (d :: rest).takeWhile isNameChar
        onward [.parameter name .value [] quoted] place ((d :: rest).drop name.length)
      else if d.isDigit || isSign d then onward [.parameter [d] .value [] quoted] place rest
      else onward [.char '$' quoted] place (d :: rest)
    | c, rest =>
      match place with
      | .word | .braces =>
        if place = .word && endsWord c then return ([], c :: rest)
        else if place = .braces && c = '}' then return ([], rest)
        else if c = '\'' then
          let text := rest.takeWhile (· ≠ '\'')
          match rest.drop text.length with
          | [] => none
          | _ :: rest => onward (.quotes :: text.map (.char · true)) place rest
        else if c = '"' then
          let (parts, rest) ← readParts commands steps (.quotes (place = .braces)) rest
          onward (inQuotes parts) place rest
        else onward [.char c false] place rest
      | .quotes _ => if c = '"' then return ([], rest) else onward [.char c true] place rest
      | .quotedBraces shielded =>
        if c = '"' then onward [] (.quotedBraces !shielded) rest
        else if c = '}' && !shielded then return ([], rest)
        else onward [.char c true] place rest
      | .arithmetic depth =>
        match c, depth, rest with
        | '(', depth, rest => onward [.char c true] (.arithmetic (depth + 1)) rest
        | ')', depth + 1, rest => onward [.char c true] (.arithmetic depth) rest
        | ')', 0, ')' :: rest => return ([], rest)
        | c, _, rest => onward [.char c true] place rest

def read? (commands : Text → Option (Command × Text)) (s : Text) : Option (Word × Text) :=
  readParts commands (s.length + 1) .word s

end SqlBoundary.Shell.Word
