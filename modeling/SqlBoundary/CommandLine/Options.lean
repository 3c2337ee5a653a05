import SqlBoundary.CommandLine.Flag
import SqlBoundary.Text.Quoted

/-! # Options

An argument names a flag, is a value, or is too much. A long name may be cut short while it stays
unambiguous and may carry its value after an equals sign. Short flags may be written together; the
last of them may carry its value.
-/

namespace SqlBoundary

inductive UsageFault
  | ambiguous (argument : Text) (candidates : List Text)
  | missingValue (flag : Flag)
  | unusedValue (flag : Flag) (value : Text)
  | unrecognized (arguments : List Text)

def UsageFault.message : UsageFault → Text
  | ambiguous argument candidates =>
    "ambiguous option: ".toList ++ argument ++ " could match ".toList ++
      Text.joinWith ", " candidates
  | missingValue flag =>
    "argument ".toList ++ Text.joinWith ['/'] flag.names ++ ": expected one argument".toList
  | unusedValue flag value =>
    "argument ".toList ++ Text.joinWith ['/'] flag.names ++ ": ignored explicit argument ".toList ++
      Quoted.encode value
  | unrecognized arguments => "unrecognized arguments: ".toList ++ Text.joinWith [' '] arguments

/-- An argument by its form. A flag may be named in short and may carry a value of its own. -/
inductive Argument
  | operand (t : Text)
  | terminator
  | named (flag : Flag) (short : Bool) (value : Option Text)
  | unknown (t : Text)

namespace Argument

/-- Splits at the first equals sign. -/
def splitValue (t : Text) : Text × Option Text :=
  match t.dropWhile (· ≠ '=') with
  | [] => (t, none)
  | _ :: value => (t.takeWhile (· ≠ '='), some value)

/-- The flags that a text which is no exact name may stand for. -/
def interpretations (t : Text) : List (Text × Flag × Option Text) :=
  match t with
  | '-' :: '-' :: _ =>
    let (head, value) := splitValue t
    (Flag.withPrefix head).map fun (name, flag) => (name, flag, value)
  | '-' :: c :: rest =>
    Flag.index.filterMap fun (name, flag) =>
      if name = ['-', c] then some (name, flag, some rest)
      else if t.isPrefixOf name then some (name, flag, none)
      else none
  | _ => []

def isShort (name : Text) : Bool := !(['-', '-'].isPrefixOf name)

/-- Reads an argument that begins with a dash and has more than that. -/
def readDashed (t : Text) : Except UsageFault Argument :=
  let (head, value) := splitValue t
  match Flag.ofName? t, Flag.ofName? head with
  | some f, _ => .ok (.named f (isShort t) none)
  | none, some f => .ok (.named f (isShort head) value)
  | none, none =>
    match interpretations t with
    | [] => .ok (if t.contains ' ' then .operand t else .unknown t)
    | [(name, f, value)] => .ok (.named f (isShort name) value)
    | candidates => .error (.ambiguous t (candidates.map (·.1)))

def read (t : Text) : Except UsageFault Argument :=
  match t with
  | '-' :: _ :: _ => readDashed t
  | t => .ok (.operand t)

/-- Reads all arguments; those after two dashes are operands. -/
def readAll : List Text → Except UsageFault (List Argument)
  | [] => .ok []
  | t :: rest =>
    if t = ['-', '-'] then .ok (.terminator :: rest.map .operand)
    else do
      let argument ← read t
      return argument :: (← readAll rest)

end Argument

/-- The flags that were given, with their values in order, and what is too much. -/
structure Given where
  flags : List (Flag × Option Text) := []
  extra : List Text := []

def Given.prepend (flags : List (Flag × Option Text)) (extra : List Text) (g : Given) : Given :=
  ⟨flags ++ g.flags, extra ++ g.extra⟩

/-- Reads the flags written together in one argument, of which the last may lack its value. -/
def readTogether (flag : Flag) (short : Bool) : Text → Except UsageFault (List (Flag × Option Text))
  | [] => if flag.takesValue then .ok [(flag, some [])] else .error (.unusedValue flag [])
  | c :: rest =>
    if flag.takesValue then .ok [(flag, some (c :: rest))]
    else if !short then .error (.unusedValue flag (c :: rest))
    else
      match Flag.ofName? ['-', c], rest with
      | none, _ => .error (.unusedValue flag (c :: rest))
      | some next, [] => .ok [(flag, none), (next, none)]
      | some next, d :: rest => (readTogether next true (d :: rest)).map ((flag, none) :: ·)

/-- The last of some flags, if it still needs a value. -/
def lacksValue? (flags : List (Flag × Option Text)) : Option Flag :=
  match flags.getLast? with
  | some (flag, none) => if flag.takesValue then some flag else none
  | _ => none

/-- Gives flags their values. Nothing is read after a request for help. -/
def Given.ofArguments : List Argument → Except UsageFault Given
  | [] => .ok {}
  | .operand t :: rest | .unknown t :: rest => return (← ofArguments rest).prepend [] [t]
  | .terminator :: rest => return (← ofArguments rest).prepend [] [['-', '-']]
  | .named flag short value :: rest => do
    let flags ← value.elim (.ok [(flag, none)]) (readTogether flag short)
    match lacksValue? flags, rest with
    | none, rest =>
      if flags.any (·.1 = .help) then return { flags }
      return (← ofArguments rest).prepend flags []
    | some last, .operand t :: rest =>
      let flags := flags.dropLast ++ [(last, some t)]
      if flags.any (·.1 = .help) then return { flags }
      return (← ofArguments rest).prepend flags []
    | some last, _ => .error (.missingValue last)

structure Options where
  command : Option Text := none
  file : Option Text := none
  output : Option Text := none
  quiet : Bool := false
  noStartup : Bool := false
  positions : Bool := false
  csv : Bool := false
  count : Bool := false
  tuplesOnly : Bool := false
  fieldSeparator : Option Text := none
  recordSeparator : Option Text := none
  fieldSeparatorZero : Bool := false
  recordSeparatorZero : Bool := false
  stripComments : Bool := false
  keepEmpty : Bool := false
  backslashEscapes : Bool := false
  verbose : Bool := false
  assignments : List (Option Text) := []
  version : Bool := false

namespace Options

/-- Two dashes attached to a flag are no value, but they undo an earlier one. -/
def settled (value : Option Text) : Option Text := value.filter (· ≠ ['-', '-'])

def set (o : Options) (flag : Flag) (value : Option Text) : Options :=
  match flag with
  | .help => o
  | .command => { o with command := settled value }
  | .file => { o with file := settled value }
  | .output => { o with output := settled value }
  | .quiet => { o with quiet := true }
  | .noStartup => { o with noStartup := true }
  | .positions => { o with positions := true }
  | .csv => { o with csv := true }
  | .count => { o with count := true }
  | .tuplesOnly => { o with tuplesOnly := true }
  | .fieldSeparator => { o with fieldSeparator := settled value }
  | .recordSeparator => { o with recordSeparator := settled value }
  | .fieldSeparatorZero => { o with fieldSeparatorZero := true }
  | .recordSeparatorZero => { o with recordSeparatorZero := true }
  | .stripComments => { o with stripComments := true }
  | .keepEmpty => { o with keepEmpty := true }
  | .backslashEscapes => { o with backslashEscapes := true }
  | .verbose => { o with verbose := true }
  | .assign => { o with assignments := o.assignments ++ [settled value] }
  | .version => { o with version := true }

inductive Request
  | help
  | run (options : Options)

def read (arguments : List Text) : Except UsageFault Request := do
  let given ← Given.ofArguments (← Argument.readAll arguments)
  if given.flags.any (·.1 = .help) then return .help
  else if !given.extra.isEmpty then .error (.unrecognized given.extra)
  else return .run (given.flags.foldl (fun o (flag, value) => o.set flag value) {})

end Options
end SqlBoundary
