import SqlBoundary.SplitPoint

/-! # Statements

A text is cut at its semicolons and at its end, and each statement is trimmed. Comments are kept,
or left out with a space in their place where two tokens would touch.
-/

namespace SqlBoundary

/-- A comment that was left out may have been all that kept two tokens apart. -/
def wouldTouch (kept following : Text) : Bool :=
  kept.getLast?.any (!isSpace ·) && following.head?.any (!isSpace ·)

/-- Cuts from `start` on; `kept` is what the current statement holds so far. -/
def cutFrom (s : Text) (stripComments : Bool) (start : Nat) (kept : Text) :
    List SplitPoint → List Text
  | [] => [Text.trim (kept ++ s.slice start s.length)]
  | .semicolon position :: points =>
    Text.trim (kept ++ s.slice start position) ::
      cutFrom s stripComments (position + 1) [] points
  | .comment first stop :: points =>
    if stripComments then
      let kept := kept ++ s.slice start first
      let space := if wouldTouch kept (s.drop stop) then [' '] else []
      cutFrom s stripComments stop (kept ++ space) points
    else cutFrom s stripComments start kept points

def splitStatements (s : Text) (points : List SplitPoint) (stripComments : Bool) : List Text :=
  cutFrom s stripComments 0 [] points

/-- There is one statement more than there are semicolons. -/
theorem length_cutFrom (s : Text) (stripComments : Bool) (start : Nat) (kept : Text)
    (points : List SplitPoint) :
    (cutFrom s stripComments start kept points).length =
      points.countP SplitPoint.isSemicolon + 1 := by
  fun_induction cutFrom s stripComments start kept points <;>
    simp_all [List.countP_cons, SplitPoint.isSemicolon]

/-- The statements, with their comments, that hold more than comments and white space. -/
def nonEmptyStatements (s : Text) (points : List SplitPoint) : List Text :=
  ((splitStatements s points false).zip (splitStatements s points true)).filterMap
    fun (statement, stripped) => if stripped.isEmpty then none else some statement

def selectStatements (s : Text) (points : List SplitPoint) (stripComments keepEmpty : Bool) :
    List Text :=
  if keepEmpty then splitStatements s points stripComments
  else if stripComments then (splitStatements s points true).filter (!·.isEmpty)
  else nonEmptyStatements s points

def splitCommand (s : Text) (standardStrings stripComments keepEmpty : Bool) :
    Except Unterminated (List Text) :=
  let result := scan s standardStrings
  match result.unterminated with
  | some construct => .error ⟨construct, result.points⟩
  | none => .ok (selectStatements s result.points stripComments keepEmpty)

/-- A scanned text is complete when nothing is left open, there is something to run, and only
white space and comments follow the last semicolon. -/
def Scan.isComplete (s : Text) (scan : Scan) : Bool :=
  let statements := splitStatements s scan.points true
  scan.unterminated.isNone && statements.getLast?.any List.isEmpty &&
    statements.dropLast.any (!·.isEmpty)

def isComplete (s : Text) (standardStrings : Bool) : Bool := (scan s standardStrings).isComplete s

/-- A line comment runs to the end of a scanned text, so that a semicolon written there would be
part of it. -/
def Scan.endsInLineComment (s : Text) (scan : Scan) : Bool :=
  match scan.points.getLast? with
  | some (.comment start stop) => stop = s.length && ['-', '-'].isPrefixOf (s.drop start)
  | _ => false

def endsInLineComment (s : Text) (standardStrings : Bool) : Bool :=
  (scan s standardStrings).endsInLineComment s

end SqlBoundary
