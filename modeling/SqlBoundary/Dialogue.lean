import SqlBoundary.Session.Run

/-! # Dialogues

A user types texts into a buffer and presses Enter after each. Enter submits the buffer when it
holds a command or a complete text, and else begins a new line in it. A dialogue ends at the end of
the input, at a command to quit, or where a prompt cannot be rendered.
-/

namespace SqlBoundary

inductive Key
  | enter (typed : Text)
  | endOfInput
  | interrupt
deriving DecidableEq

/-- What the terminal is asked to show and what it gives back. -/
inductive Exchange
  | opened (history : Option Text)
  | prompt (message : Text) (color : Bool)
  | submitted (text : Text)
  | continued (message : Text)
deriving DecidableEq

inductive Stage
  | typing (session : Session) (buffer : Text)
  | left (session : Session)
  | failed (session : Session) (halt : Halt)

/-- A stage of a dialogue, with what happened on the way to it. -/
structure Dialogue where
  stage : Stage
  events : List Event
  exchanges : List Exchange

namespace Dialogue

def prepend (events : List Event) (exchanges : List Exchange) (d : Dialogue) : Dialogue :=
  { d with events := events ++ d.events, exchanges := exchanges ++ d.exchanges }

/-- Goes on from the stage of a dialogue. -/
def andThen (d : Dialogue) (next : Stage → Dialogue) : Dialogue :=
  (next d.stage).prepend d.events d.exchanges

/-- Goes on from an outcome, which fails the dialogue where it halted. -/
def ofOutcome (o : Outcome) (next : Session → Dialogue) : Dialogue :=
  match o.halt with
  | none => (next o.session).prepend o.events []
  | some halt => ⟨.failed o.session halt, o.events, []⟩

theorem ofOutcome_of_done {o : Outcome} (h : o.halt = none) (next : Session → Dialogue) :
    ofOutcome o next = (next o.session).prepend o.events [] := by
  rw [ofOutcome, h]

theorem ofOutcome_of_halt {o : Outcome} {halt : Halt} (h : o.halt = some halt)
    (next : Session → Dialogue) : ofOutcome o next = ⟨.failed o.session halt, o.events, []⟩ := by
  rw [ofOutcome, h]

end Dialogue

namespace Session

/-- Writes a text to the standard output, whatever the session. -/
def tell (session : Session) (environment : Environment) (t : Text) : Outcome :=
  (Outcome.done session [.report t]).delivered environment.obstacle?

/-- Shows the prompt and starts an empty buffer. -/
def ask (session : Session) (environment : Environment) : Dialogue :=
  let (o, message) := session.renderPrompt environment session.settings.prompt []
  .ofOutcome o fun session => ⟨.typing session [], [], [.prompt message session.settings.color]⟩

/-- Whether Enter submits a text, and the scan it may need to decide. -/
def submits (session : Session) (text : Text) : Bool × List Event :=
  if isMetacommand text then (true, [])
  else (isComplete text session.settings.standardStrings, [session.traceScan text])

/-- Ends a dialogue in good order. -/
def finish (session : Session) (environment : Environment) : Dialogue :=
  .ofOutcome (session.closeOutput environment) fun session => ⟨.left session, [], []⟩

/-- Goes on after a submitted text has been run. -/
def answer (environment : Environment) (o : Outcome) : Dialogue :=
  let tell (t : Text) : Dialogue :=
    .ofOutcome ((o.session.tell environment (t ++ ['\n'])).prepend o.events) (·.ask environment)
  match o.halt with
  | none => (o.session.ask environment).prepend o.events []
  | some .quit => (o.session.finish environment).prepend o.events []
  | some (.unterminated fault) => tell ("ERROR:  ".toList ++ fault.message)
  | some (.file path fault) => tell (Halt.fileMessage path fault.message)
  | some (.refused fault) => tell (Halt.refusedMessage fault)
  | some halt => ⟨.failed o.session halt, o.events, []⟩

def submit (session : Session) (environment : Environment) (text : Text) : Dialogue :=
  let o := if text.isBlank then .done session [] else session.run environment text
  (answer environment o).prepend [] [.submitted text]

/-- Shows the continuation prompt for a buffer that has got a new line. -/
def continueBuffer (session : Session) (environment : Environment) (buffer : Text) : Dialogue :=
  let (o, message) := session.renderPrompt environment session.settings.continuation buffer
  .ofOutcome o fun session => ⟨.typing session buffer, [], [.continued message]⟩

/-- What the end of the input does. -/
def leave (session : Session) (environment : Environment) : Dialogue :=
  .ofOutcome
    (if session.settings.quiet then .done session [] else session.tell environment "\\q\n")
    (·.finish environment)

end Session

/-- What a key does at a stage. A dialogue that has ended takes no more keys. -/
def Stage.press (environment : Environment) (stage : Stage) (key : Key) : Dialogue :=
  match stage, key with
  | .typing session _, .endOfInput => session.leave environment
  | .typing session _, .interrupt => session.ask environment
  | .typing session buffer, .enter typed =>
    let text := buffer ++ typed
    let (submitted, events) := session.submits text
    (if submitted then session.submit environment text
      else session.continueBuffer environment (text ++ ['\n'])).prepend events []
  | stage, _ => ⟨stage, [], []⟩

/-- Takes keys one after another, and then the end of the input. -/
def Stage.pressAll (environment : Environment) (stage : Stage) : List Key → Dialogue
  | [] => stage.press environment .endOfInput
  | key :: keys =>
    (stage.press environment key).andThen fun stage => stage.pressAll environment keys

end SqlBoundary
