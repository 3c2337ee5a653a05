import SqlBoundary.Programs.CharClass

/-! # Regular expressions

Expressions over characters, with groups, references to what a group matched, and assertions about
a place between two characters.
-/

namespace SqlBoundary

/-- A part of a bracket expression. -/
inductive SetItem
  | range (low high : Char)
  | named (characters : CharClass)

inductive Assertion
  | lineStart
  | lineEnd
  | textStart
  | textEnd
  | wordStart
  | wordEnd
  | wordBoundary
  | insideOrOutsideWord
deriving DecidableEq

inductive Regex
  | empty
  | char (c : Char)
  | any
  | oneOf (negated : Bool) (items : List SetItem)
  | word (negated : Bool)
  | space (negated : Bool)
  | sequence (first second : Regex)
  | either (first second : Regex)
  | repeated (least : Nat) (most : Option Nat) (body : Regex)
  | group (number : Nat) (body : Regex)
  | reference (number : Nat)
  | assertion (a : Assertion)

namespace Regex

def isWordChar (c : Char) : Bool := c = '_' || CharClass.alnum.holds c

def SetItem.holds (ignoreCase : Bool) (item : SetItem) (c : Char) : Bool :=
  match item with
  | .range low high =>
    let within (c : Char) : Bool := low ≤ c && c ≤ high
    within c || (ignoreCase && (within (LetterCase.toLower c) || within (LetterCase.toUpper c)))
  | .named characters =>
    characters.holds c ||
      (ignoreCase &&
        (characters.holds (LetterCase.toLower c) || characters.holds (LetterCase.toUpper c)))

/-- A single character of ASCII. -/
def SetItem.isPlain : SetItem → Bool
  | .range low high => low = high && low.toNat < 128
  | .named _ => false

/-- How many groups an expression has. -/
def groupCount : Regex → Nat
  | sequence a b | either a b => a.groupCount + b.groupCount
  | repeated _ _ body => body.groupCount
  | group _ body => body.groupCount + 1
  | empty | char _ | any | oneOf _ _ | word _ | space _ | reference _ | assertion _ => 0

/-- Whether an expression is made of plain characters, so that it can be looked for among octets. -/
def isPlain : Regex → Bool
  | oneOf negated items => !negated && items.all SetItem.isPlain
  | word _ | space _ => false
  | assertion a =>
    match a with
    | .lineStart | .lineEnd | .textStart | .textEnd => true
    | _ => false
  | sequence a b | either a b => a.isPlain && b.isPlain
  | repeated _ _ body | group _ body => body.isPlain
  | empty | char _ | any | reference _ => true

/-- Whether an expression refers to one of its groups. -/
def refers : Regex → Bool
  | sequence a b | either a b => a.refers || b.refers
  | repeated _ _ body | group _ body => body.refers
  | reference _ => true
  | empty | char _ | any | oneOf _ _ | word _ | space _ | assertion _ => false

end Regex
end SqlBoundary
