import SqlBoundary.Programs.Regex.Basic
import SqlBoundary.Programs.Regex.Match

/-! # Scripts of line edits

A script is a row of commands. Each names the lines it is for and what is done to the line at hand,
the pattern space, or to the text laid aside, the hold space.
-/

namespace SqlBoundary.Edit

/-- An expression to look for; none stands for the one that was last looked for. -/
structure Pattern where
  expression : Option Regex
  mode : Regex.Mode := {}

inductive Address
  | line (number : Nat)
  | every (first step : Nat)
  | last
  | matching (pattern : Pattern)

/-- Where a range ends: at an address, some lines on, or at a multiple. -/
inductive RangeEnd
  | address (a : Address)
  | after (count : Nat)
  | multiple (factor : Nat)

inductive Selection
  | all
  | one (a : Address)
  | range (start : Address) (stop : RangeEnd)

inductive CaseChange
  | lower
  | upper
  | nextLower
  | nextUpper
  | stop
deriving DecidableEq

/-- A part of a replacement. The whole match counts as group zero. -/
inductive Insert
  | char (c : Char)
  | group (number : Nat)
  | change (c : CaseChange)

/-- A substitution may take what comes out as a command line and put what that writes in its place.
It can print before that and after it. -/
structure Substitution where
  pattern : Pattern
  replacement : List Insert
  everywhere : Bool := false
  number : Option Nat := none
  prints : Bool := false
  evaluates : Bool := false
  printsValue : Bool := false
  target : Option Text := none

inductive Condition
  | always
  | substituted
  | notSubstituted
deriving DecidableEq

inductive Action
  | blockStart
  | blockEnd
  | label (name : Text)
  | jump (condition : Condition) (label : Text)
  | append (t : Text)
  | insert (t : Text)
  | change (t : Text)
  | delete
  | deleteFirst
  | print
  | printFirst
  | list (width : Option Nat)
  | lineNumber
  | fileName
  | next
  | joinNext
  | hold
  | holdMore
  | fetch
  | fetchMore
  | swap
  | clear
  | quit (prints : Bool) (status : Nat)
  | readFile (path : Text)
  | readLine (path : Text)
  | writeFile (path : Text)
  | writeFirst (path : Text)
  | evaluate (line : Option Text)
  | substitute (s : Substitution)
  | transliterate (pairs : List (Char × Char))
  | requireVersion
  | breakDown

/-- A command with its place in the script. -/
structure Command where
  index : Nat
  selection : Selection
  negated : Bool
  action : Action

end SqlBoundary.Edit
