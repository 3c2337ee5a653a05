import SqlBoundary.Lex.Lexeme

/-! # Readers at positions

The readers of literals and comments, started at a position of a whole text and answering with the
position just past what they read.
-/

namespace SqlBoundary

/-- Why a position is refused. -/
inductive PositionFault
  | tooLargeToSearch
  | tooLargeToIndex
  | pastEnd
deriving DecidableEq

/-- Positions up to this one fit a machine word. -/
def maxPosition : Nat := 9223372036854775807

namespace Text

/-- A search can only start where positions fit a machine word; past the end it finds nothing. -/
def searchAt {α : Type} (start : Nat) (found : α) : Except PositionFault α :=
  if start ≤ maxPosition then .ok found else .error .tooLargeToSearch

/-- The character at a position, which has to be there. -/
def charAt (s : Text) (index : Nat) : Except PositionFault Char :=
  if index ≤ maxPosition then s[index]?.elim (.error .pastEnd) .ok else .error .tooLargeToIndex

/-- Runs a reader at a position; a position past the end has an empty rest but stays where it is. -/
def endOf? (read : Text → Option (Text × Text)) (s : Text) (start : Nat) : Option Nat :=
  (read (s.drop start)).map fun (body, _) => start + body.length

def previousChar? (s : Text) (index : Nat) : Option Char :=
  if index = 0 then none else s[index - 1]?

/-- Whether the quote at a position allows backslashes. -/
def allowsBackslashAt (s : Text) (index : Nat) (standardStrings : Bool) :
    Except PositionFault Bool := do
  let c ← s.charAt index
  return c = '\'' && allowsBackslash standardStrings (s.previousChar? index) .single

def quoteEnd? (s : Text) (start : Nat) (quote : Quote) (escapes : Bool) : Option Nat :=
  endOf? (readQuoted? quote escapes) s start

/-- The tag that opens at a position, with the character that stands there. A character has to stand
before the position, unless it is the first. -/
def dollarTagAt (s : Text) (index : Nat) : Except PositionFault (Option Text) := do
  if index ≠ 0 then
    let _ ← s.charAt (index - 1)
  if opensDollarQuote (s.previousChar? index) then
    return (readTag? (s.drop (index + 1))).map fun (tag, _) => (s.drop index).take 1 ++ tag
  else return none

def dollarQuoteEnd? (s : Text) (start : Nat) (tag : Text) : Option Nat :=
  if start ≤ s.length then endOf? (readThrough? tag) s start else none

def lineCommentEnd (s : Text) (start : Nat) : Nat :=
  min start s.length + (readLine (s.drop start)).1.length

def blockCommentEnd? (s : Text) (start : Nat) : Option Nat := endOf? (readBlock? 0) s start

end Text
end SqlBoundary
