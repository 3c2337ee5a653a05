import SqlBoundary.Programs.Filter.Basic
import SqlBoundary.Programs.Shell.Format
import SqlBoundary.Programs.Shell.State

/-! # Commands of the shell

The commands that the shell carries out itself, and those that filters do. A command gives its
status.
-/

namespace SqlBoundary.Shell

structure Effect where
  output : Text := []
  complaints : List Text := []
  status : Nat := 0
  ends : Bool := false

/-- Writes arguments with spaces between them. An escape may end the output, and a first argument
can ask for no line end. -/
def echo (arguments : List Text) : Effect :=
  let (bare, arguments) :=
    match arguments with
    | ['-', 'n'] :: rest => (true, rest)
    | arguments => (false, arguments)
  { output := write bare arguments }
where
  write (bare : Bool) : List Text → Text
    | [] => if bare then [] else ['\n']
    | [t] =>
      let (t, ends) := Escape.expand t
      if ends || bare then t else t ++ ['\n']
    | t :: rest =>
      let (t, ends) := Escape.expand t
      if ends then t else t ++ ' ' :: write bare rest

def printf (arguments : List Text) : Effect :=
  let write (arguments : List Text) : Effect :=
    match arguments with
    | [] => { complaints := ["usage: printf format [arg ...]"], status := 2 }
    | format :: arguments =>
      let (p, ending) := Printing.all (arguments.length + 1) format { arguments }
      match ending with
      | .refused complaint =>
        { output := p.output, complaints := p.complaints ++ [complaint], status := 2 }
      | _ =>
        { output := p.output, complaints := p.complaints
          status := if p.complaints.isEmpty then 0 else 1 }
  match arguments with
  | ['-', '-'] :: rest => write rest
  | ('-' :: c :: _) :: _ => { complaints := ["Illegal option -".toList ++ [c]], status := 2 }
  | arguments => write arguments

/-- Ends the shell, with the status so far if none is given. -/
def exit (status : Nat) (arguments : List Text) : Effect :=
  match arguments with
  | [] => { status, ends := true }
  | t :: _ =>
    let decimal : Text := t.dropWhile Numeral.isBlank
    let digits := if decimal.head? = some '+' then decimal.drop 1 else decimal
    let n := Numeral.ofDigits 10 (digits.takeWhile Char.isDigit)
    let rest := digits.dropWhile Char.isDigit
    if digits.head?.any Char.isDigit && rest.all Numeral.isBlank && n < 2147483648 then
      { status := n % 256, ends := true }
    else { complaints := ["Illegal number: ".toList ++ t], status := 2, ends := true }

def builtin? (status : Nat) (name : Text) (arguments : List Text) : Option Effect :=
  if name = "echo".toList then some (echo arguments)
  else if name = "printf".toList then some (printf arguments)
  else if name = "exit".toList then some (exit status arguments)
  else if name = ":".toList || name = "true".toList then some {}
  else if name = "false".toList then some { status := 1 }
  else none

def runBuiltin (name : Text) (effect : Effect) : Run Unit := do
  let prefixed (t : Text) : Text := name ++ ": ".toList ++ t
  effect.complaints.forM fun t => complain (prefixed t)
  let (written, s) := (← get).write 1 effect.output
  set s
  if !written then complain (prefixed (prefixed "I/O error"))
  setStatus (if written then effect.status else max 1 effect.status)
  if effect.ends then throw effect.status

def outputTarget? (s : State) : Option Filter.Copy.Target :=
  match s.channel? 1 with
  | some (_, .file location offset appends _ _) =>
    let size := (s.files.content? location).elim 0 Content.size
    some ⟨location, if appends then size else offset⟩
  | _ => none

def filterInput (s : State) : Except Text Text :=
  match s.channel? 0, outputTarget? s with
  | some (_, .file location offset _ _ _), some target =>
    if location = target.location && offset < target.written then
      .error "input file is output file"
    else (s.read 0).1
  | _, _ => (s.read 0).1

def writeChunk : Filter.Chunk → Run Bool
  | .output t => modifyGet (State.write 1 t)
  | .complaint t => do
    modify fun s => (s.write 2 t).2
    return true

/-- Runs a filter. Without an output it does nothing, and it complains where it cannot write. -/
def runFilter (interpreter : Filter.Interpreter) (program : Text) (filter : Filter)
    (arguments : List Text) : Run Unit := do
  let s ← get
  let closed (place : Text) : Filter.Chunk := .fault program place badDescriptor
  let effect : Filter.Effect :=
    if (s.channel? 1).isNone then .failure s.files [closed "standard output"]
    else filter.run interpreter s.files program (outputTarget? s) arguments (filterInput s)
  if effect.usesInput then modify fun s => (s.read 0).2
  modify fun s => { s with files := effect.files }
  let written := (← effect.chunks.mapM writeChunk).all id
  if !written then
    let _ ← writeChunk (closed "write error")
  setStatus (if written then effect.status else max 1 effect.status)

def faultText (missing : Text) (fault : FileFault) : Text :=
  match fault with
  | .missing | .notDirectory => missing
  | fault => fault.message

def runProgram (interpreter : Filter.Interpreter) (name : Text) (arguments : List Text) :
    Run Unit := do
  match Filter.find (← get).files (Octets.toText name) with
  | .ok filter => runFilter interpreter name filter arguments
  | .error fault =>
    complain (name ++ ": ".toList ++ faultText "not found" fault)
    setStatus (if name.contains '/' && fault = .permissionDenied then 126 else 127)

end SqlBoundary.Shell
