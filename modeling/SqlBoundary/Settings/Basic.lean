import SqlBoundary.Settings.Variables
import SqlBoundary.Text.Integer

/-! # Settings

What a user can change about a session, and how each setting is spelled. Seven of the settings
are switches; four more answer to names of variables.
-/

namespace SqlBoundary

/-- What may be written for a text that was split, by name. -/
def formatNames : List Text :=
  ["count".toList, "csv".toList, "positions".toList, "statements".toList]

inductive Switch
  | timing
  | tuplesOnly
  | highlight
  | color
  | stripComments
  | keepEmpty
  | standardStrings
deriving DecidableEq

namespace Switch

def all : List Switch :=
  [timing, tuplesOnly, highlight, color, stripComments, keepEmpty, standardStrings]

/-- The name of the command that turns a switch. -/
def name : Switch → Text
  | timing => "timing"
  | tuplesOnly => "t"
  | highlight => "syntax"
  | color => "color"
  | stripComments => "strip"
  | keepEmpty => "empty"
  | standardStrings => "scs"

def label : Switch → Text
  | timing => "Timing"
  | tuplesOnly => "Tuples only"
  | highlight => "Syntax"
  | color => "Color"
  | stripComments => "Strip comments"
  | keepEmpty => "Keep empty"
  | standardStrings => "Standard conforming strings"

end Switch

/-- A place in the file tree, by the names on the way to it. -/
abbrev Location := List Text

/-- A file that split output is written to: how much of it is written, and what it was given and
did not take. A file that could not be closed counts as closed and stays. -/
structure OutputFile where
  location : Location
  offset : Nat := 0
  pending : Text := []
  closed : Bool := false
deriving DecidableEq

structure Settings where
  output : Option OutputFile := none
  standardStrings : Bool := true
  stripComments : Bool := false
  keepEmpty : Bool := false
  pager : Option Text := none
  highlight : Bool := false
  color : Bool := false
  historySize : Int := 500
  verbosity : Option Text := none
  timing : Bool := false
  prompt : Option Text := some "%/%R# ".toList
  continuation : Option Text := some "%/%R# ".toList
  quiet : Bool := false
  tuplesOnly : Bool := false
  format : Text := "statements"
  fieldSeparator : Text := ['|']
  recordSeparator : Text := ['\n']
  bindings : Variables := []
deriving DecidableEq

namespace Settings

def isOn (s : Settings) : Switch → Bool
  | .timing => s.timing
  | .tuplesOnly => s.tuplesOnly
  | .highlight => s.highlight
  | .color => s.color
  | .stripComments => s.stripComments
  | .keepEmpty => s.keepEmpty
  | .standardStrings => s.standardStrings

def turn (s : Settings) (switch : Switch) (value : Bool) : Settings :=
  match switch with
  | .timing => { s with timing := value }
  | .tuplesOnly => { s with tuplesOnly := value }
  | .highlight => { s with highlight := value }
  | .color => { s with color := value }
  | .stripComments => { s with stripComments := value }
  | .keepEmpty => { s with keepEmpty := value }
  | .standardStrings => { s with standardStrings := value }

theorem isOn_turn (s : Settings) (switch other : Switch) (value : Bool) :
    (s.turn switch value).isOn other = if other = switch then value else s.isOn other := by
  cases switch <;> cases other <;> rfl

theorem turn_isOn (s : Settings) (switch : Switch) : s.turn switch (s.isOn switch) = s := by
  cases switch <;> rfl

def colored (s : Settings) : Bool := s.highlight && s.color

/-- Sets a variable or, where the name in any case is one of four, the setting it stands for. The
history size takes integers only. -/
def assign? (s : Settings) (name : Text) (value : Option Text) : Option Settings :=
  let lower := name.toLower
  if lower = "prompt1".toList then some { s with prompt := value }
  else if lower = "prompt2".toList then some { s with continuation := value }
  else if lower = "histsize".toList then
    (value.bind Integer.read?).map fun size => { s with historySize := size }
  else if lower = "verbosity".toList then some { s with verbosity := value }
  else some { s with bindings := s.bindings.insert name (value.map .text) }

def unassign (s : Settings) (name : Text) : Settings :=
  { s with bindings := s.bindings.erase name }

/-- The variables as they are listed; the four settings hide variables of the same names. -/
def shownVariables (s : Settings) : Dictionary (Option Text) :=
  let quoted (value : Option Text) := value.map Quoted.encode
  let shown : Dictionary (Option Text) :=
    s.bindings.map fun (name, value) => (name, value.map Value.shown)
  shown.insert "prompt1" (quoted s.prompt)
    |>.insert "prompt2" (quoted s.continuation)
    |>.insert "histsize" (some (Text.ofInt s.historySize))
    |>.insert "verbosity" (quoted s.verbosity)

def listing (s : Settings) : Text :=
  (s.shownVariables.mergeSort fun a b => Text.precedes a.1 b.1).flatMap fun (name, shown) =>
    match shown with
    | none => []
    | some value => name ++ " = ".toList ++ value ++ ['\n']

end Settings

/-- The two spellings of each truth value. -/
def readSwitch? (t : Text) : Option Bool :=
  if t = "on".toList || t = "true".toList then some true
  else if t = "off".toList || t = "false".toList then some false
  else none

/-- The truth value that a value of a variable stands for. -/
def Value.truth? : Value → Option Bool
  | text t => readSwitch? t
  | flag b => some b

end SqlBoundary
