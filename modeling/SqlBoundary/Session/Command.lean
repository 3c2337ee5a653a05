import SqlBoundary.Session.Output
import SqlBoundary.Session.Help
import SqlBoundary.Metacommand

/-! # Commands to a session

A metacommand is a keyword and perhaps an argument. It shows or changes settings, and what it
changes it confirms unless the session is quiet.
-/

namespace SqlBoundary

inductive Keyword
  | redirect
  | fieldSeparator
  | help
  | summary
  | quit
  | assign
  | unassign
  | option
  | turn (switch : Switch)
deriving DecidableEq

namespace Keyword

def all : List Keyword :=
  [redirect, fieldSeparator, help, summary, quit, assign, unassign, option] ++
    Switch.all.map turn

def name : Keyword → Text
  | redirect => "o"
  | fieldSeparator => "f"
  | help => "?"
  | summary => "??"
  | quit => "q"
  | assign => "set"
  | unassign => "unset"
  | option => "pset"
  | turn switch => switch.name

def ofName? (t : Text) : Option Keyword := all.find? (·.name = t)

end Keyword

/-- What a user types to set how reports are laid out. -/
inductive ReportOption
  | format
  | tuplesOnly
  | fieldSeparator
  | fieldSeparatorZero
  | recordSeparator
  | recordSeparatorZero
deriving DecidableEq

namespace ReportOption

def all : List ReportOption :=
  [format, tuplesOnly, fieldSeparator, fieldSeparatorZero, recordSeparator, recordSeparatorZero]

def name : ReportOption → Text
  | format => "format"
  | tuplesOnly => "tuples_only"
  | fieldSeparator => "fieldsep"
  | fieldSeparatorZero => "fieldsep_zero"
  | recordSeparator => "recordsep"
  | recordSeparatorZero => "recordsep_zero"

def ofName? (t : Text) : Option ReportOption := all.find? (·.name = t)

end ReportOption

namespace Session

/-- Confirms a change, unless the session is quiet. -/
def confirm (session : Session) (t : Text) : Outcome :=
  .done session (if session.settings.quiet then [] else [.echo t])

def turn (session : Session) (switch : Switch) (value : Bool) : Outcome :=
  let settings := session.settings.turn switch value
  let highlighter :=
    match switch with
    | .highlight => if value then .sql else .plain
    | _ => session.highlighter
  { session with settings, highlighter }.confirm
    (switch.label ++ " is ".toList ++ onOff value ++ ".\n".toList)

def invalidCommand (command : Text) : Event :=
  .diagnostic ("invalid command ".toList ++ command ++ "\nTry \\? for help.\n".toList)

def rejectedValue (command : Text) (value : Option Text) (expected : Text) : Event :=
  .diagnostic ("unrecognized value \"".toList ++ value.getD "None" ++ "\" for \"\\".toList ++
    command ++ "\": ".toList ++ expected ++ " expected\n".toList)

/-- Turns a switch to a given value, or to its other one. A value that is no truth value is
rejected and the switch stays. -/
def turnCommand (session : Session) (switch : Switch) : Option Text → Outcome
  | none => session.turn switch (!session.settings.isOn switch)
  | some argument =>
    match readSwitch? argument with
    | some value => session.turn switch value
    | none =>
      (session.turn switch (session.settings.isOn switch)).prepend
        [rejectedValue switch.name (some argument) "Boolean"]

def setFieldSeparator (session : Session) (separator : Text) : Outcome :=
  { session with settings := { session.settings with fieldSeparator := separator } }.confirm
    ("Field separator is \"".toList ++ separator ++ "\".\n".toList)

def setRecordSeparator (session : Session) (separator : Text) : Outcome :=
  { session with settings := { session.settings with recordSeparator := separator } }.confirm
    ("Record separator is \"".toList ++ separator ++ "\".\n".toList)

def setFormat (session : Session) (value : Option Text) : Outcome :=
  match value.filter formatNames.contains with
  | some format =>
    { session with settings := { session.settings with format } }.confirm
      ("Output format is \"".toList ++ format ++ "\".\n".toList)
  | none =>
    .done session
      [.diagnostic "\\pset: allowed formats are count, csv, positions, statements\n"]

def showFieldSeparator (session : Session) : Outcome :=
  .done session
    [.report ("Field separator is \"".toList ++ session.settings.fieldSeparator ++ "\".\n".toList)]

def setOption (session : Session) (option : ReportOption) (value : Option Text) : Outcome :=
  match option, value with
  | .format, value => session.setFormat value
  | .tuplesOnly, none => session.turn .tuplesOnly (!session.settings.tuplesOnly)
  | .tuplesOnly, some value => session.turn .tuplesOnly (readSwitch? value = some true)
  | .fieldSeparator, none => session.showFieldSeparator
  | .fieldSeparator, some value => session.setFieldSeparator value
  | .fieldSeparatorZero, _ => session.setFieldSeparator ['\x00']
  | .recordSeparator, none =>
    .done session
      [.report ("Record separator is ".toList ++ Quoted.encode session.settings.recordSeparator ++
        ".\n".toList)]
  | .recordSeparator, some value => session.setRecordSeparator value
  | .recordSeparatorZero, _ => session.setRecordSeparator ['\x00']

def optionCommand (session : Session) (argument : Option Text) : Outcome :=
  let (name, value) := Metacommand.readAssignment (argument.getD [])
  match ReportOption.ofName? name with
  | some option => session.setOption option value
  | none =>
    .done session
      [.diagnostic ("sqlsplits error: \\pset: unknown option: ".toList ++ name ++ ['\n'])]

def assignCommand (session : Session) : Option Text → Outcome
  | none => .done session [.report session.settings.listing]
  | some argument =>
    let (name, value) := Metacommand.readAssignment argument
    match session.settings.assign? name value with
    | some settings => .done { session with settings } []
    | none => .done session [rejectedValue "set" value "Integer"]

/-- Sends split output to a file, or without a path back to where it went before. The new file is
opened before the old one is closed. -/
def redirect (session : Session) (environment : Environment) (path : Option Text) : Outcome :=
  match path.getD [] with
  | [] => session.closeOutput environment
  | path =>
    let path := environment.expandHome path
    if path.contains '\x00' then .halted session .embeddedNull
    else
      match session.files.create path with
      | .ok (location, files) =>
        ({ session with files }.closeOutput environment).andThen fun session =>
          .done (session.withOutput (some { location })) []
      | .error _ => .done session [.report (path ++ ": No such file or directory\n".toList)]

def execute (session : Session) (environment : Environment) (argument : Option Text) :
    Keyword → Outcome
  | .redirect => session.redirect environment argument
  | .fieldSeparator =>
    match argument with
    | none => session.showFieldSeparator
    | some separator => session.setFieldSeparator separator
  | .help => session.help environment
  | .summary => .done session [.report Help.summary]
  | .quit => .halted session .quit
  | .assign => session.assignCommand argument
  | .unassign =>
    .done { session with settings := argument.elim session.settings session.settings.unassign } []
  | .option => session.optionCommand argument
  | .turn switch => session.turnCommand switch argument

end Session
end SqlBoundary
