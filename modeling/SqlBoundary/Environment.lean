import SqlBoundary.Event
import SqlBoundary.Halt

/-! # Environments

What a session runs in and cannot change: the programs that it may start, how much room there is
to run files from files, and which writes are refused. Nothing is assumed of these here; what a
result needs of them is one of the conditions at the end.
-/

namespace SqlBoundary

/-- When the stack runs out while a text is run: before the text does anything, or between the
setting for highlighting and the highlighter that goes with it. -/
inductive Moment
  | start
  | selection
deriving DecidableEq

inductive Obstacle
  | refused (fault : WriteFault)
  | exhausted
deriving DecidableEq

def Obstacle.halt : Obstacle → Halt
  | refused fault => .refused fault
  | exhausted => .stackExhausted

/-- What a pager did with a text: what it showed, the files it left, and why it stopped reading. -/
structure Paging where
  output : Text
  files : Files
  fault : Option WriteFault

/-- The machine and the system around a session. `maxNesting` is how deep files may have one another
run, and a text that is run has a number of levels left below it. -/
structure Host where
  maxNesting : Nat
  exhaustion? : (nesting : Nat) → Option Moment
  obstacle? : (nesting : Nat) → Event → Option Obstacle
  fileFault? : Location → Text → Option WriteFault
  homeOf? : (user : Text) → Option Text
  markUp : Text → Text
  shell : Files → (line : Text) → List UInt8 × Files
  pager : Files → (program : Text) → (arguments : List Text) → (input : Text) →
    Except FileFault Paging
  patience : Nat

/-- A host without programs and other users, which takes whatever is written. -/
def Host.plain : Host where
  maxNesting := 100
  exhaustion? _ := none
  obstacle? _ _ := none
  fileFault? _ _ := none
  homeOf? _ := none
  markUp t := t
  shell files _ := ([], files)
  pager _ _ _ _ := .error .missing
  patience := 0

/-- When the stack runs out on a text with some levels left below it. There is room for a text that
no file has run. -/
def Host.moment? (host : Host) (nesting : Nat) : Option Moment :=
  if nesting < host.maxNesting then host.exhaustion? nesting else none

/-- The host, and whether the input is a terminal, the home directory, and how long each split
takes. -/
structure Environment where
  terminal : Bool := false
  home : Text := []
  elapsed : Int := 0
  host : Host := .plain

namespace Environment

def expandHome (environment : Environment) (path : Text) : Text :=
  Files.expandHome environment.home environment.host.homeOf? path

def obstacle? (environment : Environment) : Event → Option Obstacle :=
  environment.host.obstacle? environment.host.maxNesting

/-- The standard output takes every event of some kind, and the stack has room to write it. -/
def Takes (environment : Environment) (kind : Event → Bool) : Prop :=
  ∀ nesting event, kind event → environment.host.obstacle? nesting event = none

/-- A file takes what is written to it, when it is closed too. -/
def Stores (environment : Environment) (location : Location) : Prop :=
  ∀ t, environment.host.fileFault? location t = none

/-- The stack does not run out between the setting for highlighting and the highlighter. -/
def Selects (environment : Environment) : Prop :=
  ∀ nesting, environment.host.exhaustion? nesting ≠ some .selection

end Environment
end SqlBoundary
