import SqlBoundary.CommandLine.Program
import SqlBoundary.Programs.Host

/-! # The command line

The program run on a real terminal and real files. The files that a text will read or write are
fetched before it is run, and those that it changed are stored after it.
-/

namespace SqlBoundary.Main

def pathTo (location : Location) : String := String.ofList (Text.joinWith ['/'] location)

/-- Fetches what stands at each part of a path. -/
def fetch (files : Files) (path : Text) : IO Files := do
  let here ← IO.currentDir
  let names := Text.segments '/' path
  (List.range names.length).foldlM (fun files n => do
    match files.locate (Text.joinWith ['/'] (names.take (n + 1))) with
    | .error _ => return files
    | .ok location =>
      if (files.node? location).isSome then return files
      let place := here / pathTo location
      if ← place.isDir then return files.put location .directory
      if ← place.pathExists then
        return files.put location (.file (.bytes (← IO.FS.readBinFile place).toList))
      return files) files

/-- The file that a text has opened for output. -/
def outputOf? (environment : Environment) (t : Text) : Option Text :=
  match Metacommand.read t with
  | .command name argument =>
    if name = Keyword.redirect.name then argument.map environment.expandHome else none
  | _ => none

/-- Fetches a file and, where it only has another one read, that one too; gives the text that is
split in the end. -/
def fetchRead : (nesting : Nat) → Files → Text → IO (Files × Text)
  | 0, files, _ => return (files, [])
  | nesting + 1, files, path => do
    let files ← fetch files path
    match files.read path with
    | .error _ => return (files, [])
    | .ok content =>
      let t := content.read?.getD []
      match Session.fileOf? t with
      | some path => fetchRead nesting files path
      | none => return (files, t)

/-- Fetches the files that running a text needs, and gives the text that is split in the end. -/
def fetchFor (environment : Environment) (files : Files) (t : Text) : IO (Files × Text) := do
  match Session.fileOf? t, outputOf? environment t with
  | some path, _ => fetchRead environment.host.maxNesting files path
  | none, some path => return (← fetch files path, t)
  | none, none => return (files, t)

/-- Fetches the startup file and the files that its lines need. -/
def fetchStartup (environment : Environment) (files : Files) : IO Files := do
  let path := Session.startupFile environment
  let files ← fetch files path
  match files.read path with
  | .error _ => return files
  | .ok content =>
    content.lines.foldlM
      (fun files line => return (← fetchFor environment files line).1) files

def store (before after : Files) : IO Unit := do
  for (location, content) in Files.changes before after do
    IO.FS.writeBinFile (pathTo location) ⟨content.toBytes.toArray⟩

def put (stream : IO.FS.Stream) (t : Text) : IO Unit := do
  stream.putStr (String.ofList t)
  stream.flush

def emit (verbose : Bool) (events : List Event) : IO Unit := do
  for event in events do
    put (← IO.getStdout) (event.output ++ event.pagerOutput)
    put (← IO.getStderr) (event.errorOutput verbose)

def showExchange : Exchange → IO Unit
  | .prompt message _ | .continued message => do put (← IO.getStdout) message
  | .opened _ | .submitted _ => return

def finish : Ending → IO UInt32
  | .exit status => return UInt32.ofNat status
  | .uncaught halt => do
    put (← IO.getStderr) (halt.message ++ ['\n'])
    return 1

/-- How long a scan of a text takes, in nanoseconds. -/
def timeScan (t : Text) : IO Int := do
  let start ← IO.monoNanosNow
  if ((scan t true).record t.length).isEmpty then return 0
  return (← IO.monoNanosNow) - start

/-- The key that a line of input stands for. -/
def keyOfLine (line : String) : Key :=
  if line.isEmpty then .endOfInput
  else
    let t := line.toList
    .enter (if t.getLast? = some '\n' then t.dropLast else t)

/-- Holds a dialogue with whoever types lines. -/
partial def converse (environment : Environment) (verbose : Bool) (dialogue : Dialogue) :
    IO UInt32 := do
  emit verbose dialogue.events
  dialogue.exchanges.forM showExchange
  match dialogue.stage with
  | .left _ => finish (.exit 0)
  | .failed _ halt => finish (.uncaught halt)
  | .typing session buffer =>
    let key := keyOfLine (← (← IO.getStdin).getLine)
    let text := match key with
      | .enter typed => buffer ++ typed
      | _ => buffer
    let (files, text) ← fetchFor environment session.files text
    let environment := { environment with elapsed := ← timeScan text }
    let next := Stage.press environment (.typing { session with files } buffer) key
    let after := match next.stage with
      | .typing session _ | .left session | .failed session _ => session
    store files after.files
    converse environment verbose next

partial def readAll (stream : IO.FS.Stream) (sofar : String) : IO String := do
  let line ← stream.getLine
  if line.isEmpty then return sofar
  readAll stream (sofar ++ line)

/-- Runs the program with options that have been read. -/
def runOptions (o : Options) : IO UInt32 := do
  let input ← IO.getStdin
  let terminal ← input.isTty
  let home := (((← IO.getEnv "HOME").getD ".").toList)
  let pager := (← IO.getEnv "PAGER").map String.toList
  let given ← if terminal then pure [] else String.toList <$> readAll input ""
  let environment : Environment := { terminal, home, host := Programs.host home }
  let files ← fetchStartup environment Programs.devices
  let files ← fetch files (o.output.getD [])
  let (files, text) ←
    match Run.command? environment given o with
    | some t => fetchFor environment files t
    | none => fetchRead environment.host.maxNesting files (o.file.getD [])
  let environment := { environment with elapsed := ← timeScan text }
  let session : Session := ⟨{ pager }, .plain, files⟩
  match Run.start environment given o session with
  | .over run =>
    emit o.verbose run.events
    store files run.session.files
    finish run.ending
  | .waiting dialogue => converse environment o.verbose dialogue

/-- Runs the program and gives its exit status. -/
def run (arguments : List Text) : IO UInt32 :=
  match Options.read arguments with
  | .ok (.run o) => runOptions o
  | _ => do
    let session : Session := ⟨{}, .plain, ⟨[]⟩⟩
    let (run, _) := Run.ofArguments {} ⟨[], []⟩ arguments session
    emit false run.events
    finish run.ending

end SqlBoundary.Main

def main (arguments : List String) : IO UInt32 :=
  SqlBoundary.Main.run (arguments.map String.toList)
