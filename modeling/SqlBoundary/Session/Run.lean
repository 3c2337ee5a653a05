import SqlBoundary.Session.Command
import SqlBoundary.Prompt

/-! # Steps of a session

Running a text, a file, or a line of a startup file, and rendering a prompt.
-/

namespace SqlBoundary.Session

def openFile (session : Session) (path : Text) : Except Halt Content :=
  if path.contains '\x00' then .error .embeddedNull
  else (session.files.read path).mapError (.file path)

def readFile (session : Session) (path : Text) : Except Halt Text :=
  match session.openFile path with
  | .error halt => .error halt
  | .ok content => content.read?.elim (.error .undecodable) .ok

def readName : Text := "i"

/-- The file that a text has run, if it is nothing but the command for that. -/
def fileOf? (t : Text) : Option Text :=
  match Metacommand.read t with
  | .command name argument => if name = readName then argument else none
  | _ => none

/-- What a text that has no file run does: it is a command to the session, or else statements to
split. -/
def perform (environment : Environment) (t : Text) (session : Session) : Outcome :=
  match Metacommand.read t with
  | .notCommand => session.split environment t
  | .malformed => .done session [invalidCommand t.trim]
  | .command name argument =>
    if name = readName then .done session [.diagnostic "\\i: missing required argument\n"]
    else
      match Keyword.ofName? name with
      | none => .done session [invalidCommand ('\\' :: name)]
      | some keyword => session.execute environment argument keyword

def selects (t : Text) : Bool :=
  match Metacommand.read t with
  | .command name _ => name = Switch.highlight.name
  | _ => false

/-- Does what a text says as far as the stack and the standard output allow. -/
def attempt (environment : Environment) (nesting : Nat) (t : Text) (session : Session) : Outcome :=
  let o := session.perform environment t
  match environment.host.moment? nesting, selects t with
  | some .start, _ => .halted session .nestedTooDeeply
  | some .selection, true => o.unselected session.highlighter
  | _, _ => o.delivered (environment.host.obstacle? nesting)

/-- Runs a text: has a file run, or does what the text says. `nesting` bounds how deep files may be
read from files. -/
def runNested (environment : Environment) (nesting : Nat) (t : Text) (session : Session) :
    Outcome :=
  match fileOf? t with
  | none => session.attempt environment nesting t
  | some path =>
    match session.readFile path, nesting with
    | .error halt, _ => .halted session halt
    | .ok _, 0 => .halted session .nestedTooDeeply
    | .ok t, nesting + 1 => runNested environment nesting t session

def run (environment : Environment) (t : Text) (session : Session) : Outcome :=
  runNested environment environment.host.maxNesting t session

def runFile (environment : Environment) (path : Text) (session : Session) : Outcome :=
  match session.readFile path with
  | .error halt => .halted session halt
  | .ok t => session.run environment t

/-- A prompt is rendered in a session: its commands may change files, and it may halt. -/
abbrev Rendering := ExceptT Halt (StateM (Session × List Event))

def shell (environment : Environment) (line : Text) : Rendering Text := do
  if line.contains '\x00' then throw .embeddedNull
  let (session, events) ← get
  let (output, files) := environment.host.shell session.files line
  set ({ session with files }, events)
  match Utf8.decode? output with
  | some t => return t
  | none => throw .undecodable

def marker (text : Text) : Rendering Text := do
  let (session, events) ← get
  if !text.isBlank then set (session, events ++ [session.traceScan text])
  return Prompt.marker text session.settings.standardStrings

def renderPrompt (environment : Environment) (prompt : Option Text) (text : Text)
    (session : Session) : Outcome × Text :=
  match prompt with
  | none => (.halted session .missingPrompt, [])
  | some prompt =>
    match (Prompt.render prompt (marker text) (shell environment)).run.run (session, []) with
    | (.ok t, session, events) => (.done session events, t)
    | (.error halt, session, events) => ((Outcome.halted session halt).prepend events, [])

end SqlBoundary.Session
