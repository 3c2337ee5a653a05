import SqlBoundary.Text.Basic

/-! # Events

What a step lets others see.
-/

namespace SqlBoundary

/-- An echo confirms a setting and is silenced by the quiet setting; a report is any other text for
the standard output but split output, which is a result unless it is paged or goes to a file. A file
may be a device that shows what is written to it. -/
inductive Event
  | echo (t : Text)
  | report (t : Text)
  | result (t : Text)
  | device (t : Text)
  | paged (t : Text)
  | diagnostic (t : Text)
  | trace (t : Text)
deriving DecidableEq

namespace Event

def output : Event → Text
  | echo t | report t | result t | device t => t
  | paged _ | diagnostic _ | trace _ => []

/-- What goes to the standard error; traces are written on demand. -/
def errorOutput (verbose : Bool) : Event → Text
  | diagnostic t => t
  | trace t => if verbose then "sqlsplits.split: DEBUG: ".toList ++ t ++ ['\n'] else []
  | echo _ | report _ | result _ | device _ | paged _ => []

def pagerOutput : Event → Text
  | paged t => t
  | echo _ | report _ | result _ | device _ | diagnostic _ | trace _ => []

def isEcho : Event → Bool
  | echo _ => true
  | report _ | result _ | device _ | paged _ | diagnostic _ | trace _ => false

def isResult : Event → Bool
  | result _ => true
  | echo _ | report _ | device _ | paged _ | diagnostic _ | trace _ => false

/-- Whether the program itself writes to the standard output. -/
def isOutput : Event → Bool
  | echo _ | report _ | result _ => true
  | device _ | paged _ | diagnostic _ | trace _ => false

end Event
end SqlBoundary
