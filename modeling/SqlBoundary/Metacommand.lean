import SqlBoundary.Text.Basic

/-! # Metacommands

A text that starts with a backslash, after trimming, is a command to the program itself: a name
and perhaps an argument on the same line. The word `help` alone is short for one of them.
-/

namespace SqlBoundary

def isMetacommand (s : Text) : Bool :=
  let t := s.trim
  t = "help".toList || t.head? = some '\\'

namespace Metacommand

inductive Reading
  | notCommand
  | malformed
  | command (name : Text) (argument : Option Text)
deriving DecidableEq

def isNameChar (c : Char) : Bool := c.isLower || c = '?' || c = '+' || c = '!'

/-- Reads what follows the backslash of a trimmed text. -/
def readAfterBackslash (s : Text) : Reading :=
  let name := s.takeWhile isNameChar
  let tail := s.dropWhile isNameChar
  if name.isEmpty then .malformed
  else if tail.isEmpty then .command name none
  else
    let argument := Text.trimStart tail
    if argument.length < tail.length && !argument.contains '\n' then .command name (some argument)
    else .malformed

def read (s : Text) : Reading :=
  let t := s.trim
  if t = "help".toList then .command "??" none
  else
    match t with
    | '\\' :: rest => readAfterBackslash rest
    | _ => .notCommand

theorem read_eq_notCommand_iff (s : Text) : read s = .notCommand ↔ isMetacommand s = false := by
  unfold read isMetacommand
  generalize Text.trim s = t
  by_cases help : t = "help".toList
  · simp [help]
  · rcases t with _ | ⟨c, rest⟩
    · simp
    · by_cases backslash : c = '\\'
      · subst backslash
        simp only [help, if_false, readAfterBackslash]
        grind
      · simp [backslash]

/-- What follows a command on its line. -/
def afterCommand (command line : Text) : Text := Text.trim (line.drop command.length)

/-- The variable and the value that an argument names, or else a default value; the value loses the
quotes around it. -/
def readAssignmentOr (default : Option Text) (s : Text) : Text × Option Text :=
  (s.splitWord.1, (s.splitWord.2.or default).map Text.trimQuotes)

def readAssignment (s : Text) : Text × Option Text := readAssignmentOr none s

end Metacommand
end SqlBoundary
