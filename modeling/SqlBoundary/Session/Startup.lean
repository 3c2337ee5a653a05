import SqlBoundary.LineReader
import SqlBoundary.Session.Run

/-! # Startup files

A line of a startup file is a comment, a command to the session, or an assignment to the one
parameter of the SQL dialect. Lines are trimmed and blank lines are skipped.
-/

namespace SqlBoundary

namespace Startup

/-- The ASCII letter that a character stands for where case is ignored; three characters outside
ASCII are forms of `s` and `i`. -/
def fold (c : Char) : Char :=
  if c.toNat = 0x17f then 's'
  else if c.toNat = 0x131 || c.toNat = 0x130 then 'i'
  else c.toLower

/-- Reads a lower-case word in any case. -/
def readWord? (word s : Text) : Option Text :=
  if (s.take word.length).map fold = word then some (s.drop word.length) else none

def readSpace? (s : Text) : Option Text :=
  let rest := s.trimStart
  if rest.length < s.length then some rest else none

def dropQuote : Text → Text
  | '\'' :: rest => rest
  | s => s

def isWordChar (c : Char) : Bool := c.isAlphanum || c = '_'

/-- Nothing but white space and one semicolon may end the line. -/
def isLineEnd (s : Text) : Bool :=
  match s.trimStart with
  | [] | [';'] | [';', '\n'] => true
  | _ => false

/-- Reads an assignment to the parameter that tells whether a backslash is plain in strings. -/
def readParameter? (line : Text) : Option Bool := do
  let rest ← readWord? "set" line
  let rest ← readSpace? rest
  let rest ← readWord? "standard_conforming_strings" rest
  let rest := rest.trimStart
  let rest ← (readWord? "to" rest).or (readWord? "=" rest)
  let rest := dropQuote rest.trimStart
  let value := rest.takeWhile isWordChar
  if isLineEnd (dropQuote (rest.dropWhile isWordChar)) then readSwitch? (Text.toLower value)
  else none

end Startup

namespace Session

def unrecognizedLine (file : Text) (number : Nat) (line : Text) : Event :=
  .diagnostic (file ++ ':' :: Text.ofNat number ++ ": unrecognized configuration line: ".toList ++
    line ++ ['\n'])

def runLine (environment : Environment) (file : Text) (number : Nat) (line : Text)
    (session : Session) : Outcome :=
  if ['-', '-'].isPrefixOf line then .done session []
  else if line.head? = some '\\' then session.run environment line
  else
    match Startup.readParameter? line with
    | some value => (session.turn .standardStrings value).delivered environment.obstacle?
    | none => .done session [unrecognizedLine file number line]

/-- Reads and runs lines with their numbers, from a given one on. `most` bounds how many are read,
which only a file that grows while it is read can exceed. -/
def runLines (environment : Environment) (file : Text) (number : Nat) :
    (most : Nat) → LineReader → Session → Outcome
  | 0, _, session => .halted session .endless
  | most + 1, reader, session =>
    match reader.next? session.files with
    | none => .halted session .undecodable
    | some none => .done session []
    | some (some (line, reader)) =>
      (if line.isBlank then .done session []
        else session.runLine environment file number line.trim).andThen
        (runLines environment file (number + 1) most reader)

def startupFile (environment : Environment) : Text := environment.expandHome "~/.sqlsplitsrc"

/-- Runs a startup file, by default the one in the home directory. One that does not exist is
skipped. -/
def load (environment : Environment) (file : Option Text) (session : Session) : Outcome :=
  let file := file.getD (startupFile environment)
  if !session.files.exists? file || file.contains '\x00' then .done session []
  else
    match session.files.locateFile file with
    | .error fault => .halted session (.file file fault)
    | .ok location =>
      let size := (session.files.content? location).elim 0 Content.size
      runLines environment file 1 (size + 1 + environment.host.patience) { location } session

end Session
end SqlBoundary
