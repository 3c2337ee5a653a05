import SqlBoundary.Lex.Lexeme

/-! # Split points

The separators and the comments of a text, by their positions. Every scan is also a record for
whoever traces the program.
-/

namespace SqlBoundary

inductive SplitPoint
  | semicolon (position : Nat)
  | comment (start stop : Nat)
deriving DecidableEq

def SplitPoint.isSemicolon : SplitPoint → Bool
  | semicolon _ => true
  | comment _ _ => false

structure Scan where
  points : List SplitPoint
  unterminated : Option Construct
deriving DecidableEq

/-- The split point of a lexeme at a position. -/
def Lexeme.point? (position : Nat) : Lexeme → Option SplitPoint
  | separator => some (.semicolon position)
  | comment t => some (.comment position (position + t.length))
  | plain _ | literal _ => none

/-- The split points of consecutive lexemes, the first of which is at a given position. -/
def pointsFrom (position : Nat) : List Lexeme → List SplitPoint
  | [] => []
  | l :: ls => (l.point? position).toList ++ pointsFrom (position + l.text.length) ls

def scan (s : Text) (standardStrings : Bool) : Scan :=
  let lexing := lex s standardStrings
  ⟨pointsFrom 0 lexing.lexemes, lexing.unfinished.map (·.1)⟩

/-- How a scan of a text of some length is recorded. -/
def Scan.record (length : Nat) (scan : Scan) : Text :=
  let count := Text.ofNat scan.points.length ++ " split points".toList
  match scan.unterminated with
  | none => "scanned ".toList ++ Text.ofNat length ++ " characters, ".toList ++ count
  | some construct => "unterminated ".toList ++ construct.name ++ " after ".toList ++ count

/-- Why a text cannot be split: what is left open, and the split points before it. -/
structure Unterminated where
  construct : Construct
  points : List SplitPoint

def unterminatedMessage (kind : Text) : Text := "unterminated ".toList ++ kind

def Unterminated.message (u : Unterminated) : Text := unterminatedMessage u.construct.name

end SqlBoundary
