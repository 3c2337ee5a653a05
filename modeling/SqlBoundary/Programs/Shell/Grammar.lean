import SqlBoundary.Text.Basic

/-! # Command lines of a shell

Words are made of characters and of expansions; commands are made of words, of redirections and of
other commands. All texts are octets.
-/

namespace SqlBoundary.Shell

/-- What is made of the value of a parameter. Where the word of the expansion depends on whether the
parameter is set, an empty value may count as none. -/
inductive Use
  | value
  | length
  | orElse (emptyIsNone : Bool)
  | orAssign (emptyIsNone : Bool)
  | orFail (emptyIsNone : Bool)
  | ifSet (emptyIsNone : Bool)
  | trimFront (longest : Bool)
  | trimBack (longest : Bool)
  | invalid
deriving DecidableEq

/-- How a descriptor is redirected. A document is the empty text, for a line holds no more. -/
inductive Direction
  | read
  | write
  | append
  | readWrite
  | duplicate
  | document
deriving DecidableEq

mutual

/-- A part of a word. Quotes leave a mark, since they make a word of nothing. -/
inductive Part
  | char (c : Char) (quoted : Bool)
  | quotes
  | parameter (name : Text) (use : Use) (word : List Part) (quoted : Bool)
  | output (command : Command) (quoted : Bool)
  | arithmetic (expression : List Part) (quoted : Bool)

inductive Redirection
  | to (descriptor : Nat) (direction : Direction) (target : List Part)

inductive Assignment
  | to (name : Text) (value : List Part)

inductive Branch
  | on (patterns : List (List Part)) (body : Command)

inductive Command
  | simple (assignments : List Assignment) (words : List (List Part))
    (redirections : List Redirection)
  | block (commands : List Command)
  | pipeline (commands : List Command)
  | negation (command : Command)
  | both (first second : Command)
  | either (first second : Command)
  | background (command : Command)
  | subshell (command : Command)
  | redirected (command : Command) (redirections : List Redirection)
  | condition (test success failure : Command)
  | loop (expected : Bool) (test body : Command)
  | each (name : Text) (words : Option (List (List Part))) (body : Command)
  | choice (word : List Part) (branches : List Branch)
  | define (name : Text) (body : Command)

end

abbrev Word := List Part

namespace Word

/-- The text of a word that is nothing but unquoted characters. -/
def bare? (w : Word) : Option Text :=
  w.mapM fun part =>
    match part with
    | .char c false => some c
    | _ => none

end Word

def isNameStart (c : Char) : Bool := c.isAlpha || c = '_'

def isNameChar (c : Char) : Bool := c.isAlphanum || c = '_'

def isName (t : Text) : Bool := t.head?.any isNameStart && t.all isNameChar

/-- The parameters that are named by a sign. -/
def isSign (c : Char) : Bool := ("#?$!-*@" : Text).contains c

end SqlBoundary.Shell
