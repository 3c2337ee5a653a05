import SqlBoundary.Statement

/-! # Prompts

A prompt is a text with escapes: the name of the program, a percent sign, the state of the text
typed so far, and the trimmed output of a shell command. What an escape is replaced by is not read
again.
-/

namespace SqlBoundary.Prompt

inductive Piece
  | char (c : Char)
  | program
  | percent
  | state
  | command (line : Text)
deriving DecidableEq

/-- What a command cannot hold after its first character. -/
def endsCommand (c : Char) : Bool := c = '\x60' || c = '\n'

/-- Reads a command through its closing backquote. It has at least one character, which may itself
be a backquote, and stays on its line. -/
def readCommand? : Text → Option (Text × Text)
  | [] => none
  | first :: rest =>
    match rest.dropWhile (!endsCommand ·) with
    | '\x60' :: tail =>
      if first = '\n' then none else some (first :: rest.takeWhile (!endsCommand ·), tail)
    | _ => none

theorem readCommand?_append {s line rest : Text} (h : readCommand? s = some (line, rest)) :
    line ++ '\x60' :: rest = s := by
  unfold readCommand? at h
  split at h
  next => cases h
  next first tail =>
    split at h
    next closed after =>
      simp only [Option.ite_none_left_eq_some, Option.some.injEq, Prod.mk.injEq] at h
      obtain ⟨-, rfl, rfl⟩ := h
      rw [List.cons_append, ← after, List.takeWhile_append_dropWhile]
    next => cases h

theorem length_lt_of_readCommand? {s line rest : Text} (h : readCommand? s = some (line, rest)) :
    rest.length < s.length := by
  rw [← readCommand?_append h, List.length_append, List.length_cons]
  omega

def pieces : Text → List Piece
  | [] => []
  | '%' :: '/' :: rest => .program :: pieces rest
  | '%' :: 'R' :: rest => .state :: pieces rest
  | '%' :: '%' :: rest => .percent :: pieces rest
  | '%' :: '\x60' :: rest =>
    match _ : readCommand? rest with
    | some (line, after) => .command line :: pieces after
    | none => .char '%' :: pieces ('\x60' :: rest)
  | c :: rest => .char c :: pieces rest
termination_by s => s.length
decreasing_by
  · simp only [List.length_cons]
    omega
  · simp only [List.length_cons]
    omega
  · simp only [List.length_cons]
    omega
  · have := length_lt_of_readCommand? ‹_›
    simp only [List.length_cons]
    omega
  · simp only [List.length_cons]
    omega
  · simp only [List.length_cons]
    omega

/-- The mark of the state of a text typed so far: nothing yet, a statement in progress, or what is
left open. -/
def marker (text : Text) (standardStrings : Bool) : Text :=
  if text.isBlank then ['=']
  else
    match (scan text standardStrings).unterminated with
    | none => ['-']
    | some .quotedString => ['\'']
    | some .quotedIdentifier => ['"']
    | some .dollarQuotedString => ['$']
    | some .blockComment => ['*']

def programName : Text := "sqlsplits"

section

variable {m : Type → Type} [Monad m]

/-- What a piece is replaced by, given how the state is told and how commands are run. -/
def Piece.render (state : m Text) (shell : Text → m Text) : Piece → m Text
  | char c => return [c]
  | program => return programName
  | percent => return ['%']
  | Piece.state => state
  | command line => return (← shell line).trim

/-- Renders the pieces from left to right. -/
def render (prompt : Text) (state : m Text) (shell : Text → m Text) : m Text :=
  return (← (pieces prompt).mapM (Piece.render state shell)).flatten

end

end SqlBoundary.Prompt
