import SqlBoundary.Session.Outcome
import SqlBoundary.Report
import SqlBoundary.Duration

/-! # Where split output goes

To the output file if there is one, else through the pager if there is one, the input is a
terminal and the format is made for readers, and else to the standard output.
-/

namespace SqlBoundary

def pagerCall (command : Text) : Except Halt (Text × List Text) :=
  match Words.split command with
  | .error fault => .error (.words fault)
  | .ok [] => .error .noProgram
  | .ok (program :: arguments) =>
    if command.contains '\x00' then .error .embeddedNull else .ok (program, arguments)

namespace Session

def pager? (session : Session) (environment : Environment) : Option Text :=
  let settings := session.settings
  if environment.terminal && settings.format ≠ "csv".toList then settings.pager.filter (!·.isEmpty)
  else none

/-- Shows a text that is prepared only once its pager runs. The pager may leave other files. -/
def page (session : Session) (environment : Environment) (preparation : List Event) (t : Text)
    (unpaged : Event) : Outcome :=
  match session.pager? environment with
  | none => .done session (preparation ++ [unpaged])
  | some command =>
    match pagerCall command with
    | .error halt => .halted session halt
    | .ok (program, arguments) =>
      match environment.host.pager session.files program arguments t with
      | .error fault => .halted session (.file program fault)
      | .ok paging =>
        { session := { session with files := paging.files }
          events := preparation ++ [.paged paging.output]
          halt := paging.fault.map .refused }

def withOutput (session : Session) (output : Option OutputFile) : Session :=
  { session with settings := { session.settings with output } }

/-- Writes a text to the output file, after what the file was given before and did not take. -/
def store (session : Session) (environment : Environment) (file : OutputFile) (t : Text) :
    Outcome :=
  let pending := file.pending ++ t
  match environment.host.fileFault? file.location pending with
  | some fault => .halted (session.withOutput (some { file with pending })) (.refused fault)
  | none =>
    let offset := file.offset + (Utf8.encode pending).length
    let files :=
      if pending.isEmpty then session.files
      else session.files.write file.location file.offset pending
    let shown := (session.files.device? file.location).any (·.shown) && !pending.isEmpty
    .done ({ session with files }.withOutput (some { file with offset, pending := [] }))
      (if shown then [.device pending] else [])

/-- Closes the output file, which first gets what it has not taken yet. -/
def closeOutput (session : Session) (environment : Environment) : Outcome :=
  match session.settings.output with
  | none => .done session []
  | some file =>
    if file.closed then .done (session.withOutput none) []
    else
      let o := session.store environment file []
      match o.halt with
      | none => { o with session := o.session.withOutput none }
      | some _ => { o with session := o.session.withOutput (some { file with closed := true }) }

def traceScan (session : Session) (t : Text) : Event :=
  .trace ((scan t session.settings.standardStrings).record t.length)

def write (session : Session) (environment : Environment) (statements : List Text)
    (points : List SplitPoint) : Outcome :=
  let settings := session.settings
  let t := Report.render environment.host.markUp settings statements points
  let traces := (Report.scanned settings statements).map session.traceScan
  match settings.output with
  | some file =>
    if file.closed then .halted session .closedOutput
    else (session.store environment file t).prepend traces
  | none => session.page environment traces t (.result t)

def reportTiming (environment : Environment) (session : Session) : Outcome :=
  .done session
    (if session.settings.timing then [.report (Duration.report environment.elapsed)] else [])

/-- Splits a text and writes what the format asks for. A text with something left open is not
split. -/
def split (session : Session) (environment : Environment) (t : Text) : Outcome :=
  let settings := session.settings
  let result := scan t settings.standardStrings
  Outcome.prepend [session.traceScan t] <|
    match result.unterminated with
    | some construct => .halted session (.unterminated ⟨construct, result.points⟩)
    | none =>
      let statements := selectStatements t result.points settings.stripComments settings.keepEmpty
      (session.write environment statements result.points).forgive.andThen
        (reportTiming environment)

end Session
end SqlBoundary
