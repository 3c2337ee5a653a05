import SqlBoundary.Programs.Shell.Builtin
import SqlBoundary.Programs.Shell.Expansion
import SqlBoundary.Programs.Shell.Reader

/-! # Running command lines

A command is run in a state, which it changes. What runs in a shell of its own changes only files
and channels for others.
-/

namespace SqlBoundary.Shell

def nullPath : Text := "/dev/null"

def openChannel (files : Files) (direction : Direction) (path : Text) :
    Except FileFault (Channel × Files) :=
  let path := Octets.toText path
  if path = nullPath then .ok (.discarded, files)
  else
    match direction with
    | .read =>
      match files.locateFile path with
      | .ok location => .ok (.file location 0 false true false, files)
      | .error .isDirectory => .ok (.directory, files)
      | .error fault => .error fault
    | .write =>
      (files.create path).map fun (location, files) => (.file location 0 false false true, files)
    | direction => do
      let location ← files.locateWritable path
      let files :=
        if (files.node? location).isSome then files
        else files.put location (.file (.text []))
      return (.file location 0 (direction = .append) (direction = .readWrite) true, files)

structure Target where
  descriptor : Nat
  direction : Direction
  text : Text

def deviceDescriptor? (path : Text) : Option Nat :=
  if path = "/dev/stdin".toList then some 0
  else if path = "/dev/stdout".toList then some 1
  else if path = "/dev/stderr".toList then some 2
  else none

def redirect (target : Target) : Run (Option Text) := do
  let s ← get
  match target.direction with
  | .document =>
    let (index, s) := s.addChannel (.supplied [])
    set (s.connect target.descriptor index)
    return none
  | .duplicate =>
    match target.text with
    | ['-'] =>
      set (s.disconnect target.descriptor)
      return none
    | text =>
      match s.descriptors.lookup (Numeral.ofDigits 10 text) with
      | some index =>
        set (s.connect target.descriptor index)
        return none
      | none => return some (text ++ ": ".toList ++ badDescriptor)
  | direction =>
    let opened : Except FileFault (Nat × State) :=
      match (deviceDescriptor? target.text).map fun n => s.descriptors.lookup n with
      | some (some index) => .ok (index, s)
      | some none => .error .missing
      | none => (openChannel s.files direction target.text).map fun (channel, files) =>
        { s with files }.addChannel channel
    match opened with
    | .ok (index, s) =>
      set (s.connect target.descriptor index)
      return none
    | .error fault =>
      let (action, missing) : Text × Text :=
        if direction = .read then ("cannot open ", "No such file")
        else ("cannot create ", "Directory nonexistent")
      return some (action ++ target.text ++ ": ".toList ++ faultText missing fault)

def redirectAll : List Target → Run Bool
  | [] => return true
  | target :: rest => do
    match ← redirect target with
    | none => redirectAll rest
    | some complaint =>
      complain complaint
      return false

def isolated (action : Run Unit) : Run Unit := do
  let before ← get
  try action catch status => setStatus status
  modify fun s => { before with files := s.files, channels := s.channels, status := s.status }

def maxCalls : Nat := 1000

section

variable (run : Command → Run Unit)

/-- Runs the jobs that were put off. A program takes so long to start that they come before it. -/
def finishJobs : Run Unit := do
  let jobs := (← get).jobs
  modify fun s => { s with jobs := [] }
  for job in jobs do
    isolated do
      modify fun s => { s with
        descriptors := job.descriptors
        bindings := job.bindings
        functions := job.functions
        arguments := job.arguments
        jobs := [] }
      modify fun s =>
        let (index, s) := s.addChannel .discarded
        s.connect 0 index
      run job.command

/-- Runs something in a shell of its own, and then what it has put off. What the shell itself has
put off comes before. -/
def runApart (action : Run Unit) : Run Unit := do
  finishJobs run
  isolated do
    modify fun s => { s with jobs := [] }
    try action catch status => setStatus status
    let status := (← get).status
    finishJobs run
    setStatus status

def outputOf (command : Command) : Run Text := do
  let before ← get
  let (index, s) := before.addChannel (.collected [])
  set (s.connect 1 index)
  runApart run (run command)
  let s ← get
  set { s with descriptors := before.descriptors, status := before.status, substituted := s.status }
  return (((s.collected index).filter (· ≠ '\x00')).reverse.dropWhile (· = '\n')).reverse

def runPiped : List Command → Run Unit
  | [] => pure ()
  | [command] => runApart run (run command)
  | command :: rest => do
    let before ← get
    let (index, s) := before.addChannel (.collected [])
    set (s.connect 1 index)
    runApart run (run command)
    modify fun s =>
      let s := s.setChannel index (.supplied (s.collected index))
      { s with descriptors := before.descriptors, status := before.status }.connect 0 index
    runPiped rest
    modify fun s => { s with descriptors := before.descriptors }

/-- Expands the targets of redirections. Another descriptor is named by a digit, or by a dash if it
is to be closed. -/
def expandTargets (redirections : List Redirection) : Run (List Target) :=
  redirections.mapM fun (.to descriptor direction target) => do
    let field : Field ← if direction = .document then pure [] else expandWord (outputOf run) target
    let text := field.toText
    let isDescriptor := text = ['-'] || (text.length = 1 && text.all Char.isDigit)
    if direction = .duplicate && !isDescriptor then refuse "Syntax error: Bad fd number"
    else return ⟨descriptor, direction, text⟩

def assignAll (assignments : List Assignment) : Run Unit :=
  assignments.forM fun (.to name value) => do
    let value ← expandValue (outputOf run) value
    modify (State.assign name value)

def callFunction (body : Command) (arguments : List Text) : Run Unit := do
  let before ← get
  if maxCalls ≤ before.calls then
    refuse ("Maximum function recursion depth (".toList ++ Text.ofNat maxCalls ++
      ") reached".toList)
  set { before with arguments, calls := before.calls + 1 }
  run body
  modify fun s => { s with arguments := before.arguments, calls := before.calls }

def programShell : Text := "sh"

def startingVariables (home : Text) : Arithmetic.Bindings :=
  [("HOME", home), ("IFS", " \t\n"), ("OPTIND", "1"), ("PS1", "# "), ("PS2", "> "), ("PS4", "+ "),
    ("COLUMNS", "80")]

def runLines : (steps : Nat) → Text → Run Unit
  | 0, _ | _, [] => pure ()
  | steps + 1, t => do
    let some (commands, rest) := Command.readLine? t | throw 2
    commands.forM run
    let read := t.take (t.length - rest.length)
    modify fun s => { s with line := s.line + read.count '\n' }
    runLines steps rest

/-- Runs a text in a new shell of a name; what it writes to its output, and the files then. A sign
at the front of the text makes it an option of the shell, and then there is nothing to run. -/
def interpret (name home : Text) (files : Files) (t : Text) : Text × Files :=
  let isOption := t.head? = some '-' || t.head? = some '+'
  if isOption then ([], files)
  else
    let start : State := { files, name, bindings := startingVariables home }
    let s : State := ((runApart run (runLines run t.length t)).run.run start).2
    (s.collected 1, s.files)

/-- Runs a simple command. Its assignments last if it is special or there is nothing else to it. -/
def runSimple (assignments : List Assignment) (words : List Word)
    (redirections : List Redirection) : Run Unit := do
  modify fun s => { s with substituted := 0 }
  let fields ← words.flatMapM (expandFields (outputOf run))
  let before ← get
  let isSpecial := fields.head?.any Reading.isSpecial
  let targets ← expandTargets run redirections
  if ← redirectAll targets then
    assignAll run assignments
    match fields with
    | [] => setStatus (← get).substituted
    | name :: arguments =>
      let s ← get
      match s.functions.lookup name, builtin? s.status name arguments with
      | some body, _ => callFunction run body arguments
      | none, some effect => runBuiltin name effect
      | none, none =>
        finishJobs run
        let home := ((← get).setting? "HOME".toList).getD []
        runProgram (interpret run programShell home) name arguments
      if !isSpecial then
        assignments.forM fun (.to name _) => modify (State.restore name (before.setting? name))
  else
    setStatus 2
    if isSpecial then throw 2
  modify fun s => { s with descriptors := before.descriptors }

end

def runLoop (test : Run Bool) (body : Run Unit) : (steps : Nat) → (status : Nat) → Run Unit
  | 0, _ => throw 2
  | steps + 1, status => do
    if ← test then
      body
      runLoop test body steps (← get).status
    else setStatus status

def maxRounds : Nat := 1000

/-- Runs a command. The depth bounds how commands are nested in one another. -/
def run : (depth : Nat) → Command → Run Unit
  | 0, _ => throw 2
  | depth + 1, command => do
    let succeeds (command : Command) : Run Bool := do
      run depth command
      return (← get).status = 0
    match command with
    | .simple assignments words redirections =>
      runSimple (run depth) assignments words redirections
    | .block commands => do
      if commands.isEmpty then setStatus 0
      commands.forM (run depth)
    | .pipeline commands => runPiped (run depth) commands
    | .negation command => setStatus (if ← succeeds command then 1 else 0)
    | .both first second => if ← succeeds first then run depth second
    | .either first second => if !(← succeeds first) then run depth second
    | .background command => do
      modify fun s => { s with
        jobs := s.jobs ++ [⟨command, s.descriptors, s.bindings, s.functions, s.arguments⟩] }
      setStatus 0
    | .subshell command => runApart (run depth) (run depth command)
    | .redirected command redirections => do
      let before := (← get).descriptors
      let targets ← expandTargets (run depth) redirections
      if ← redirectAll targets then run depth command else setStatus 2
      modify fun s => { s with descriptors := before }
    | .condition test success failure =>
      if ← succeeds test then run depth success else run depth failure
    | .loop expected test body =>
      runLoop (do return (← succeeds test) = expected) (run depth body) maxRounds 0
    | .each name words body => do
      let texts ←
        match words with
        | some words => words.flatMapM (expandFields (outputOf (run depth)))
        | none => do pure (← get).arguments
      if texts.isEmpty then setStatus 0
      texts.forM fun t => do
        modify (State.assign name t)
        run depth body
    | .choice word branches => do
      let t := Field.toText (← expandWord (outputOf (run depth)) word)
      let chosen ← branches.findM? fun (.on patterns _) =>
        patterns.anyM fun pattern => do
          let field ← expandWord (outputOf (run depth)) pattern
          return Pattern.accepts (Pattern.ofChars field.toPattern) t
      match chosen with
      | some (.on _ body) => run depth body
      | none => setStatus 0
    | .define name body => do
      modify fun s =>
        { s with functions := (name, body) :: s.functions.filter (·.1 ≠ name) }
      setStatus 0

/-- Runs a text in a new shell. The depth of its commands is bounded by its length, and that of
calls by a number. -/
def runText (name home : Text) (files : Files) (t : Text) : Text × Files :=
  interpret (run ((t.length + 3) * (maxCalls + 1))) name home files t

end SqlBoundary.Shell
