import SqlBoundary.Environment

/-! # Outcomes of steps

A step takes a session to a session, reports events on the way, and may halt. A step that halts
keeps what was done before.
-/

namespace SqlBoundary

inductive Highlighter
  | plain
  | sql
deriving DecidableEq

structure Session where
  settings : Settings
  highlighter : Highlighter
  files : Files
deriving DecidableEq

structure Outcome where
  session : Session
  events : List Event
  halt : Option Halt

namespace Outcome

def done (session : Session) (events : List Event) : Outcome := ⟨session, events, none⟩

def halted (session : Session) (halt : Halt) : Outcome := ⟨session, [], some halt⟩

def prepend (events : List Event) (o : Outcome) : Outcome := { o with events := events ++ o.events }

/-- Goes on from an outcome, unless it halted. -/
def andThen (o : Outcome) (next : Session → Outcome) : Outcome :=
  match o.halt with
  | some _ => o
  | none => (next o.session).prepend o.events

theorem andThen_of_halt {o : Outcome} {halt : Halt} (h : o.halt = some halt)
    (next : Session → Outcome) : o.andThen next = o := by
  simp [andThen, h]

theorem done_andThen (session : Session) (events : List Event) (next : Session → Outcome) :
    (done session events).andThen next = (next session).prepend events := rfl

theorem andThen_done {next : Session → Outcome}
    (h : ∀ session, next session = done session []) (o : Outcome) : o.andThen next = o := by
  obtain ⟨session, events, _ | halt⟩ := o
  · simp only [andThen, h, prepend, done, List.append_nil]
  · rfl

theorem prepend_nil (o : Outcome) : o.prepend [] = o := rfl

end Outcome

/-- Shows events one after another until one for the standard output meets an obstacle. Split output
for a pipe that nobody reads is passed over. -/
def Event.deliver (obstacle? : Event → Option Obstacle) : List Event → List Event × Option Halt
  | [] => ([], none)
  | event :: events =>
    match if event.isOutput then obstacle? event else none with
    | none => let (shown, halt) := deliver obstacle? events; (event :: shown, halt)
    | some obstacle =>
      if event.isResult && obstacle = .refused .brokenPipe then deliver obstacle? events
      else ([], some obstacle.halt)

namespace Outcome

/-- An outcome as far as the standard output takes its events. Whatever a step changes, it changes
before it writes to the standard output. -/
def delivered (obstacle? : Event → Option Obstacle) (o : Outcome) : Outcome :=
  let (events, halt) := Event.deliver obstacle? o.events
  { o with events, halt := halt.or o.halt }

@[simp]
theorem session_delivered (obstacle? : Event → Option Obstacle) (o : Outcome) :
    (o.delivered obstacle?).session = o.session := rfl

/-- An outcome where the stack ran out before another highlighter was selected. -/
def unselected (highlighter : Highlighter) (o : Outcome) : Outcome :=
  { session := { o.session with highlighter }
    events := o.events.filter (!·.isOutput)
    halt := some .stackExhausted }

/-- Goes on where split output met a pipe that nobody reads. -/
def forgive (o : Outcome) : Outcome :=
  match o.halt with
  | some (.refused .brokenPipe) => { o with halt := none }
  | _ => o

end Outcome

/-- Takes a step for each item until one halts. -/
def Session.each {α : Type} (step : α → Session → Outcome) : List α → Session → Outcome
  | [], session => .done session []
  | item :: items, session => (step item session).andThen (Session.each step items)

end SqlBoundary
