import SqlBoundary.CommandLine.Options
import SqlBoundary.CommandLine.Usage
import SqlBoundary.Session.Startup
import SqlBoundary.Dialogue

/-! # The program

Options are applied to a session, with the startup file in between. Then one text or file is run,
or a dialogue is held.
-/

namespace SqlBoundary

/-- What the user provides besides the arguments: the standard input where it is no terminal, and
the keys typed where it is one. -/
structure Supply where
  input : Text
  keys : List Key

inductive Ending
  | exit (status : Nat)
  | uncaught (halt : Halt)

/-- A finished run of the program. -/
structure Run where
  session : Session
  events : List Event
  exchanges : List Exchange
  ending : Ending

def Run.prepend (events : List Event) (r : Run) : Run := { r with events := events ++ r.events }

namespace Options

def applyEarly (o : Options) (settings : Settings) : Settings :=
  { settings with
    quiet := o.quiet || settings.quiet
    verbosity := if o.verbose then some "verbose".toList else settings.verbosity }

def format? (o : Options) : Option Text :=
  if o.positions then some "positions".toList
  else if o.count then some "count".toList
  else if o.csv then some "csv".toList
  else none

/-- The separator of a zero byte wins over one that is spelled out, and an empty one is none. -/
def separator (zero : Bool) (given : Option Text) (current : Text) : Text :=
  if zero then ['\x00'] else (given.filter (!·.isEmpty)).getD current

def applyLate (o : Options) (settings : Settings) : Settings :=
  { settings with
    tuplesOnly := o.tuplesOnly || settings.tuplesOnly
    format := o.format?.getD settings.format
    stripComments := o.stripComments || settings.stripComments
    keepEmpty := o.keepEmpty || settings.keepEmpty
    standardStrings := !o.backslashEscapes && settings.standardStrings
    fieldSeparator := separator o.fieldSeparatorZero o.fieldSeparator settings.fieldSeparator
    recordSeparator := separator o.recordSeparatorZero o.recordSeparator settings.recordSeparator }

end Options

namespace Session

def adjust (change : Settings → Settings) (session : Session) : Outcome :=
  .done { session with settings := change session.settings } []

/-- Opens the output file that the command line names. -/
def openOutput (path : Option Text) (session : Session) : Outcome :=
  match path.getD [] with
  | [] => .done session []
  | path =>
    if path.contains '\x00' then .halted session .embeddedNull
    else
      match session.files.create path with
      | .ok (location, files) =>
        let settings := { session.settings with output := some { location } }
        .done { session with files, settings } []
      | .error fault => .halted session (.file path fault)

/-- Sets a variable as the command line spells it. -/
def assignArgument (argument : Option Text) (session : Session) : Outcome :=
  match argument.map Argument.splitValue with
  | none => .halted session .missingAssignmentText
  | some (_, none) => .halted session .missingAssignment
  | some (name, some value) =>
    session.adjust fun s => { s with bindings := s.bindings.insert name (some (.text value)) }

def applyOptions (environment : Environment) (o : Options) (session : Session) : Outcome :=
  (session.adjust o.applyEarly).andThen fun session =>
  (if o.noStartup then .done session [] else session.load environment none).andThen fun session =>
  (session.adjust o.applyLate).andThen fun session =>
  (session.openOutput o.output).andThen fun session =>
  session.each assignArgument o.assignments

end Session

namespace Run

def usageError (session : Session) (fault : UsageFault) : Run :=
  ⟨session, [.diagnostic (Usage.summary ++ "sqlsplits: error: ".toList ++ fault.message ++ ['\n'])],
    [], .exit 2⟩

/-- How a run ends that was to split one text or file. -/
def ofOutcome (environment : Environment) (o : Outcome) : Run :=
  let failed (t : Text) : Run :=
    ⟨o.session, o.events ++ [.diagnostic ("sqlsplits: error: ".toList ++ t ++ ['\n'])], [], .exit 1⟩
  match o.halt with
  | none | some .quit =>
    let closed := (o.session.closeOutput environment).prepend o.events
    ⟨closed.session, closed.events, [], closed.halt.elim (.exit 0) .uncaught⟩
  | some (.unterminated fault) => failed fault.message
  | some (.file path fault) => failed (Halt.fileMessage path fault.message)
  | some (.refused fault) => failed (Halt.refusedMessage fault)
  | some halt => ⟨o.session, o.events, [], .uncaught halt⟩

def ofDialogue (d : Dialogue) : Run :=
  match d.stage with
  | .typing session _ | .left session => ⟨session, d.events, d.exchanges, .exit 0⟩
  | .failed session halt => ⟨session, d.events, d.exchanges, .uncaught halt⟩

def version : Text := "0.1.0"

def banner : Text :=
  "sqlsplits (".toList ++ version ++ ")\nType \"help\" for help.\n\n".toList

/-- Greets the user, opens the history and shows the first prompt. -/
def openDialogue (environment : Environment) (session : Session) : Dialogue :=
  let settings := session.settings
  let highlighter : Highlighter := if settings.highlight then .sql else .plain
  let history :=
    if settings.historySize = 0 then none
    else some (environment.expandHome "~/.sqlsplits_history")
  .ofOutcome (if settings.quiet then .done session [] else session.tell environment banner)
    fun session =>
      (Session.ask { session with highlighter } environment).prepend [] [.opened history]

/-- The text to split: the standard input, unless it is a terminal or empty, else the option. -/
def command? (environment : Environment) (input : Text) (o : Options) : Option Text :=
  let given := o.command.filter (!·.isEmpty)
  if environment.terminal || input.isEmpty then given else some input

/-- A run that is over, or one that waits for keys. -/
inductive Start
  | over (run : Run)
  | waiting (dialogue : Dialogue)

def start (environment : Environment) (input : Text) (o : Options) (session : Session) : Start :=
  if o.version then
    .over ⟨session, [.report ("sqlsplits ".toList ++ version ++ ['\n'])], [], .exit 0⟩
  else
    let applied := session.applyOptions environment o
    match applied.halt with
    | some halt => .over ⟨applied.session, applied.events, [], .uncaught halt⟩
    | none =>
      match command? environment input o, o.file.filter (!·.isEmpty) with
      | some t, _ =>
        .over ((ofOutcome environment (applied.session.run environment t)).prepend applied.events)
      | none, some path =>
        let o := applied.session.runFile environment path
        .over ((ofOutcome environment o).prepend applied.events)
      | none, none =>
        .waiting ((openDialogue environment applied.session).prepend applied.events [])

def ofOptions (environment : Environment) (supply : Supply) (o : Options) (session : Session) :
    Run :=
  match start environment supply.input o session with
  | .over run => run
  | .waiting dialogue =>
    .ofDialogue (dialogue.andThen fun stage => stage.pressAll environment supply.keys)

/-- Runs the program; tells also whether traces are to be written. -/
def ofArguments (environment : Environment) (supply : Supply) (arguments : List Text)
    (session : Session) : Run × Bool :=
  match Options.read arguments with
  | .error fault => (usageError session fault, false)
  | .ok .help => (⟨session, [.report Usage.help], [], .exit 0⟩, false)
  | .ok (.run o) => (ofOptions environment supply o session, o.verbose)

end Run
end SqlBoundary
