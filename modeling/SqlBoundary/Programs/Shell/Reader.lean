import SqlBoundary.Programs.Shell.WordReader

/-! # Reading command lines

A line is read as a whole before any of it runs, with further lines as long as it lacks something;
one that breaks the grammar is refused. Words that are not quoted are keywords where a command may
begin.
-/

namespace SqlBoundary.Shell

inductive Token
  | word (w : Word)
  | redirection (descriptor : Nat) (direction : Direction)
  | andThen
  | orElse
  | pipe
  | next
  | endBranch
  | background
  | opening
  | closing
  | lineEnd
  | ending

namespace Token

def direction? : Text → Option (Direction × Nat × Text)
  | '>' :: '>' :: rest => some (.append, 1, rest)
  | '>' :: '|' :: rest => some (.write, 1, rest)
  | '>' :: '&' :: rest => some (.duplicate, 1, rest)
  | '>' :: rest => some (.write, 1, rest)
  | '<' :: '<' :: '-' :: rest => some (.document, 0, rest)
  | '<' :: '<' :: rest => some (.document, 0, rest)
  | '<' :: '&' :: rest => some (.duplicate, 0, rest)
  | '<' :: '>' :: rest => some (.readWrite, 0, rest)
  | '<' :: rest => some (.read, 0, rest)
  | _ => none

/-- Reads a word. A digit before the sign of a redirection names a descriptor. -/
def readWord? (commands : Text → Option (Command × Text)) (s : Text) : Option (Token × Text) := do
  let (w, rest) ← Word.read? commands s
  match w.bare?, direction? rest with
  | some [], some (direction, descriptor, rest) => return (redirection descriptor direction, rest)
  | some [c], some (direction, _, after) =>
    if c.isDigit then return (redirection (c.toNat - '0'.toNat) direction, after)
    else return (word w, rest)
  | _, _ => return (word w, rest)

/-- What follows blanks. A line end after a backslash is as good as nothing. -/
def afterBlanks : Text → Text
  | ' ' :: rest | '\t' :: rest | '\\' :: '\n' :: rest => afterBlanks rest
  | s => s

def afterComment (s : Text) : Text :=
  match afterBlanks s with
  | '#' :: rest => rest.dropWhile (· ≠ '\n')
  | s => s

def read? (commands : Text → Option (Command × Text)) (s : Text) : Option (Token × Text) :=
  match afterComment s with
  | [] => some (ending, [])
  | '\n' :: rest => some (lineEnd, rest)
  | '&' :: '&' :: rest => some (andThen, rest)
  | '&' :: rest => some (background, rest)
  | '|' :: '|' :: rest => some (orElse, rest)
  | '|' :: rest => some (pipe, rest)
  | ';' :: ';' :: rest => some (endBranch, rest)
  | ';' :: rest => some (next, rest)
  | '(' :: rest => some (opening, rest)
  | ')' :: rest => some (closing, rest)
  | s => readWord? commands s

def bare? : Token → Option Text
  | word w => w.bare?
  | _ => none

def isKeyword (name : String) (token : Token) : Bool := token.bare? = some name.toList

def endsList (token : Token) : Bool :=
  match token with
  | closing | endBranch | ending => true
  | token =>
    ["do", "done", "elif", "else", "esac", "fi", "then", "\x7d"].any fun name =>
      token.isKeyword name

end Token

/-- What is left to read, with a token that was put back. -/
structure Cursor where
  rest : Text
  pending : Option Token := none

abbrev Reading := StateT Cursor Option

namespace Reading

abbrev Inner := Text → Option (Command × Text)

def token (inner : Inner) : Reading Token := do
  let cursor ← get
  match cursor.pending with
  | some token =>
    set { cursor with pending := none }
    return token
  | none =>
    let (token, rest) ← Token.read? inner cursor.rest
    set { cursor with rest }
    return token

def putBack (token : Token) : Reading Unit := modify fun cursor =>
  { cursor with pending := some token }

def peek (inner : Inner) : Reading Token := do
  let token ← token inner
  putBack token
  return token

def skipLineEnds (inner : Inner) : (steps : Nat) → Reading Unit
  | 0 => failure
  | steps + 1 => do
    match ← token inner with
    | .lineEnd => skipLineEnds inner steps
    | token => putBack token

def expectKeyword (inner : Inner) (name : String) : Reading Unit := do
  let token ← token inner
  if token.isKeyword name then return else failure

def tryKeyword (inner : Inner) (name : String) : Reading Bool := do
  let token ← token inner
  if token.isKeyword name then return true
  else
    putBack token
    return false

def word (inner : Inner) : Reading Word := do
  match ← token inner with
  | .word w => return w
  | _ => failure

/-- Reads what a redirection is directed to. In the name of a document a dollar sign is a plain
character. -/
def target (inner : Inner) (direction : Direction) : Reading Word := do
  if direction = .document then
    let cursor ← get
    let plain := cursor.rest.map fun c => if c = '$' then '_' else c
    match ← Token.read? inner plain with
    | (.word w, rest) =>
      set { cursor with rest := cursor.rest.drop (plain.length - rest.length) }
      return w
    | _ => failure
  else word inner

def words (inner : Inner) : (steps : Nat) → Reading (List Word)
  | 0 => failure
  | steps + 1 => do
    match ← token inner with
    | .word w => return w :: (← words inner steps)
    | token =>
      putBack token
      return []

def redirections (inner : Inner) : (steps : Nat) → Reading (List Redirection)
  | 0 => failure
  | steps + 1 => do
    match ← token inner with
    | .redirection descriptor direction =>
      let w ← target inner direction
      return .to descriptor direction w :: (← redirections inner steps)
    | token =>
      putBack token
      return []

def patterns (inner : Inner) : (steps : Nat) → Reading (List Word)
  | 0 => failure
  | steps + 1 => do
    let pattern ← word inner
    match ← token inner with
    | .pipe => return pattern :: (← patterns inner steps)
    | .closing => return [pattern]
    | _ => failure

def assignment? (w : Word) : Option Assignment :=
  let isPlain (p : Char → Bool) (part : Part) : Bool :=
    match part with
    | .char c false => p c
    | _ => false
  let name := (Word.bare? (w.takeWhile (isPlain isNameChar))).getD []
  match w.drop name.length with
  | .char '=' false :: value => if isName name then some (.to name value) else none
  | _ => none

def isSpecial (name : Text) : Bool :=
  [".", ":", "break", "continue", "eval", "exec", "exit", "export", "readonly", "return", "set",
    "shift", "times", "trap", "unset"].any fun special => name = special.toList

structure Simple where
  assignments : List Assignment := []
  words : List Word := []
  redirections : List Redirection := []

/-- Reads on in a simple command. A lone name before parentheses begins a definition. -/
def simple (inner : Inner) : (steps : Nat) → Simple → Reading (Simple × Option Text)
  | 0, _ => failure
  | steps + 1, s => do
    match ← token inner with
    | .word w =>
      match s.words, assignment? w with
      | [], some a => simple inner steps { s with assignments := s.assignments ++ [a] }
      | _, _ => simple inner steps { s with words := s.words ++ [w] }
    | .redirection descriptor direction =>
      let redirection := .to descriptor direction (← target inner direction)
      simple inner steps { s with redirections := s.redirections ++ [redirection] }
    | .opening =>
      match s with
      | ⟨[], [w], []⟩ =>
        match ← token inner, w.bare? with
        | .closing, some name =>
          if isName name && !isSpecial name then return (s, some name) else failure
        | _, _ => failure
      | _ => failure
    | token =>
      putBack token
      return (s, none)

/-- Redirects a command. Braces around a lone subshell leave no trace, so that its redirections give
way to those after the braces. -/
def redirect (rs : List Redirection) : Command → Command
  | .block [command] =>
    match redirect rs command with
    | .redirected (.subshell inside) _ => .redirected (.subshell inside) rs
    | _ => .redirected (.block [command]) rs
  | .redirected (.subshell command) _ => .redirected (.subshell command) rs
  | command => .redirected command rs

inductive Extent
  | line
  | block
  | optional
deriving DecidableEq

mutual

/-- Reads commands one after another, through the end of the line if they are all of one. A block
has to hold one. -/
def list (inner : Inner) : (steps : Nat) → Extent → (first : Bool) → Reading (List Command)
  | 0, _, _ => failure
  | steps + 1, extent, first => do
    if extent ≠ .line then skipLineEnds inner (steps + 1)
    let token ← peek inner
    let goesOn := extent = .line || (extent = .block && first)
    match token with
    | .ending => return []
    | .lineEnd =>
      let _ ← Reading.token inner
      return []
    | token =>
      if !goesOn && token.endsList then return []
      else
        let command ← andOr inner steps
        match ← Reading.token inner with
        | .background => return .background command :: (← list inner steps extent false)
        | .next => return command :: (← list inner steps extent false)
        | .lineEnd =>
          putBack .lineEnd
          return command :: (← list inner steps extent false)
        | token =>
          let ends : Bool :=
            match token with
            | .ending => true
            | _ => extent ≠ .line
          putBack token
          if ends then return [command] else failure

def block (inner : Inner) : (steps : Nat) → Reading Command
  | 0 => failure
  | steps + 1 => return .block (← list inner steps .block true)

def andOr (inner : Inner) : (steps : Nat) → Reading Command
  | 0 => failure
  | steps + 1 => do
    let first ← pipeline inner steps
    andOrFrom inner steps first

def andOrFrom (inner : Inner) : (steps : Nat) → Command → Reading Command
  | 0, _ => failure
  | steps + 1, first => do
    match ← token inner with
    | .andThen =>
      skipLineEnds inner (steps + 1)
      andOrFrom inner steps (.both first (← pipeline inner steps))
    | .orElse =>
      skipLineEnds inner (steps + 1)
      andOrFrom inner steps (.either first (← pipeline inner steps))
    | token =>
      putBack token
      return first

def pipeline (inner : Inner) : (steps : Nat) → Reading Command
  | 0 => failure
  | steps + 1 => do
    let negated ← tryKeyword inner "!"
    let commands ← piped inner steps
    let command :=
      match commands with
      | [command] => command
      | commands => .pipeline commands
    return if negated then .negation command else command

def piped (inner : Inner) : (steps : Nat) → Reading (List Command)
  | 0 => failure
  | steps + 1 => do
    let command ← command inner steps
    match ← token inner with
    | .pipe =>
      skipLineEnds inner (steps + 1)
      return command :: (← piped inner steps)
    | token =>
      putBack token
      return [command]

def conditionFrom (inner : Inner) : (steps : Nat) → Reading Command
  | 0 => failure
  | steps + 1 => do
    let test ← block inner steps
    expectKeyword inner "then"
    let success ← block inner steps
    if ← tryKeyword inner "elif" then
      return .condition test success (← conditionFrom inner steps)
    else if ← tryKeyword inner "else" then
      let failure ← block inner steps
      expectKeyword inner "fi"
      return .condition test success failure
    else
      expectKeyword inner "fi"
      return .condition test success (.block [])

def branches (inner : Inner) : (steps : Nat) → Reading (List Branch)
  | 0 => failure
  | steps + 1 => do
    skipLineEnds inner (steps + 1)
    if ← tryKeyword inner "esac" then return []
    else
      match ← token inner with
      | .opening => pure ()
      | token => putBack token
      let patterns ← patterns inner (steps + 1)
      let branch := .on patterns (.block (← list inner steps .optional true))
      match ← token inner with
      | .endBranch => return branch :: (← branches inner steps)
      | token => if token.isKeyword "esac" then return [branch] else failure

def body (inner : Inner) : (steps : Nat) → Reading Command
  | 0 => failure
  | steps + 1 => do
    skipLineEnds inner (steps + 1)
    expectKeyword inner "do"
    let body ← block inner steps
    expectKeyword inner "done"
    return body

/-- Reads a command that a keyword or a parenthesis begins, if one comes next. -/
def compound (inner : Inner) : (steps : Nat) → Reading (Option Command)
  | 0 => failure
  | steps + 1 => do
    match ← token inner with
    | .opening =>
      let command ← block inner steps
      match ← token inner with
      | .closing => return some (.subshell command)
      | _ => failure
    | token =>
      if token.isKeyword "\x7b" then
        let command ← block inner steps
        expectKeyword inner "\x7d"
        return some command
      else if token.isKeyword "if" then return some (← conditionFrom inner steps)
      else if token.isKeyword "while" || token.isKeyword "until" then
        let test ← block inner steps
        return some (.loop (token.isKeyword "while") test (← body inner steps))
      else if token.isKeyword "for" then
        let some name := (← word inner).bare? | failure
        if !isName name then failure
        skipLineEnds inner (steps + 1)
        if ← tryKeyword inner "in" then
          let words ← words inner (steps + 1)
          match ← Reading.token inner with
          | .next | .lineEnd => return some (.each name (some words) (← body inner steps))
          | _ => failure
        else
          match ← Reading.token inner with
          | .next => pure ()
          | token => putBack token
          return some (.each name none (← body inner steps))
      else if token.isKeyword "case" then
        let w ← word inner
        skipLineEnds inner (steps + 1)
        expectKeyword inner "in"
        return some (.choice w (← branches inner steps))
      else
        putBack token
        return none

def command (inner : Inner) : (steps : Nat) → Reading Command
  | 0 => failure
  | steps + 1 => do
    match ← compound inner steps with
    | some command =>
      match ← redirections inner (steps + 1) with
      | [] => return command
      | rs => return redirect rs command
    | none =>
      let token ← peek inner
      let reserved := token.isKeyword "!" || token.isKeyword "in" || token.endsList
      match token, reserved with
      | .word _, false | .redirection _ _, false =>
        let (s, defined) ← simple inner (steps + 1) {}
        match defined with
        | some name =>
          skipLineEnds inner (steps + 1)
          return .define name (← command inner steps)
        | none => return .simple s.assignments s.words s.redirections
      | _, _ => failure

end

/-- Steps enough for any line of a length: a token is read in a few steps of every kind. -/
def steps (s : Text) : Nat := 12 * (s.length + 2)

/-- Reads the commands of an expansion through its closing parenthesis. -/
def expansion : (depth : Nat) → Text → Option (Command × Text)
  | 0, _ => none
  | depth + 1, s => do
    let (commands, cursor) ← (list (expansion depth) (steps s) .optional true).run ⟨s, none⟩
    match cursor.pending with
    | some .closing => return (.block commands, cursor.rest)
    | _ => none

end Reading

/-- Reads the commands of the first line, if it keeps to the grammar. -/
def Command.readLine? (s : Text) : Option (List Command × Text) :=
  let inner := Reading.expansion (s.length + 1)
  let line := (Reading.list inner (Reading.steps s) .line true).run ⟨s, none⟩
  line.map fun (commands, cursor) => (commands, cursor.rest)

end SqlBoundary.Shell
