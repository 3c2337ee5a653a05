import SqlBoundary.Proofs.Files.Footprint
import SqlBoundary.Proofs.Files.LineReader
import SqlBoundary.Proofs.Session.Redirection

/-! # Sessions whose files differ at one place

The places that a session looks at or writes to are listed for a text and for a startup file. Where
a place is not among them, a session cannot tell what is there, and leaves it as it is.
-/

namespace SqlBoundary

namespace Session

/-- The places that opening a file for reading looks at. -/
def touchedToRead (session : Session) (path : Text) : List Location :=
  if path.contains '\x00' then [] else session.files.placesOn path

def touchedToWrite (session : Session) (path : Text) : List Location :=
  if path.contains '\x00' then [] else session.files.placesOnBare path

/-- The places that running a text has a session look at or write to, besides the output file that
it has open. -/
def touchedByText (environment : Environment) (nesting : Nat) (t : Text) (session : Session) :
    List Location :=
  match Metacommand.read t with
  | .command name (some path) =>
    if name = readName then
      session.touchedToRead path ++
        match session.readFile path, nesting with
        | .ok u, nesting + 1 => touchedByText environment nesting u session
        | _, _ => []
    else if name = Keyword.redirect.name then
      session.touchedToWrite (environment.expandHome path)
    else []
  | _ => []

/-- The places that the lines of a startup file touch, until one of them halts the session. -/
def touchedByLines (environment : Environment) (file : Text) (number : Nat) :
    (most : Nat) → LineReader → Session → List Location
  | 0, _, _ => []
  | most + 1, reader, session =>
    match reader.next? session.files with
    | some (some (line, reader)) =>
      let o := if line.isBlank then .done session []
        else session.runLine environment file number line.trim
      session.touchedByText environment environment.host.maxNesting line.trim ++
        if o.halt.isSome then []
        else touchedByLines environment file (number + 1) most reader o.session
    | _ => []

def touchedByStartup (environment : Environment) (session : Session) : List Location :=
  let file := startupFile environment
  session.files.placesOn file ++
    match session.files.locateFile file with
    | .ok location =>
      if file.contains '\x00' then []
      else
        let size := (session.files.content? location).elim 0 Content.size
        touchedByLines environment file 1 (size + 1 + environment.host.patience) { location }
          session
    | .error _ => []

/-- Sessions that differ at most in what is at a place. Neither has split output go there. -/
structure AgreeOff (place : Location) (session other : Session) : Prop where
  settings : other.settings = session.settings
  highlighter : other.highlighter = session.highlighter
  files : session.files.AgreeOff place other.files
  output : ∀ file, session.settings.output = some file →
    file.location ≠ place ∧ session.files.node? file.location ≠ some .directory

end Session

/-- A step in two sessions that differ at most in what is at a place. It goes on and ends in the
same way, and neither changes what is there. -/
structure Outcome.Parallel (place : Location) (session other : Session) (o o' : Outcome) :
    Prop where
  events : o'.events = o.events
  halt : o'.halt = o.halt
  agree : o.session.AgreeOff place o'.session
  kept : o.session.files.node? place = session.files.node? place
  keptOther : o'.session.files.node? place = other.files.node? place
  directories : o.session.files.SameDirectories session.files

namespace Outcome.Parallel
variable {place : Location} {session other : Session} {o o' : Outcome}

/-- A step that keeps the files. -/
theorem of_kept (hevents : o'.events = o.events) (hhalt : o'.halt = o.halt)
    (hagree : o.session.AgreeOff place o'.session) (hfiles : o.session.files = session.files)
    (hother : o'.session.files = other.files) : Parallel place session other o o' where
  events := hevents
  halt := hhalt
  agree := hagree
  kept := by rw [hfiles]
  keptOther := by rw [hother]
  directories := fun _ => by rw [hfiles]

/-- A step that writes a file elsewhere. -/
theorem of_put {location : Location} {content content' : Content} (hevents : o'.events = o.events)
    (hhalt : o'.halt = o.halt) (hagree : o.session.AgreeOff place o'.session)
    (hne : location ≠ place) (hnode : session.files.node? location ≠ some .directory)
    (hfiles : o.session.files = session.files.put location (.file content))
    (hother : o'.session.files = other.files.put location (.file content')) :
    Parallel place session other o o' where
  events := hevents
  halt := hhalt
  agree := hagree
  kept := by rw [hfiles, Files.node?_put_of_ne _ hne.symm]
  keptOther := by rw [hother, Files.node?_put_of_ne _ hne.symm]
  directories := by
    rw [hfiles]
    exact Files.sameDirectories_put hnode content

theorem done (h : session.AgreeOff place other) (events : List Event) :
    Parallel place session other (.done session events) (.done other events) :=
  of_kept rfl rfl h rfl rfl

theorem halted (h : session.AgreeOff place other) (halt : Halt) :
    Parallel place session other (.halted session halt) (.halted other halt) :=
  of_kept rfl rfl h rfl rfl

theorem prepend (h : Parallel place session other o o') (events : List Event) :
    Parallel place session other (o.prepend events) (o'.prepend events) :=
  { h with events := congrArg (events ++ ·) h.events }

theorem delivered (h : Parallel place session other o o') (obstacle? : Event → Option Obstacle) :
    Parallel place session other (o.delivered obstacle?) (o'.delivered obstacle?) :=
  { h with
    events := by rw [Outcome.delivered, Outcome.delivered, h.events]
    halt := by rw [Outcome.delivered, Outcome.delivered, h.events, h.halt] }

theorem unselected (h : Parallel place session other o o') (highlighter : Highlighter) :
    Parallel place session other (o.unselected highlighter) (o'.unselected highlighter) :=
  { h with
    events := by rw [Outcome.unselected, Outcome.unselected, h.events]
    halt := rfl
    agree := ⟨h.agree.settings, rfl, h.agree.files, h.agree.output⟩ }

theorem forgive (h : Parallel place session other o o') :
    Parallel place session other o.forgive o'.forgive := by
  unfold Outcome.forgive
  rw [h.halt]
  split
  next => exact { h with halt := rfl }
  next => exact h

/-- A step with another output file in the end. -/
theorem withOutput (h : Parallel place session other o o') (output : Option OutputFile)
    (houtput : ∀ file, output = some file →
      file.location ≠ place ∧ session.files.node? file.location ≠ some .directory) :
    Parallel place session other { o with session := o.session.withOutput output }
      { o' with session := o'.session.withOutput output } :=
  { h with
    agree := {
      settings := congrArg (fun s : Settings => { s with output }) h.agree.settings
      highlighter := h.agree.highlighter
      files := h.agree.files
      output := fun file hfile =>
        (houtput file hfile).imp_right (mt (h.directories file.location).1) } }

theorem andThen (h : Parallel place session other o o') {next : Session → Outcome}
    (hnext : o.halt = none → o.session.AgreeOff place o'.session →
      Parallel place o.session o'.session (next o.session) (next o'.session)) :
    Parallel place session other (o.andThen next) (o'.andThen next) := by
  unfold Outcome.andThen
  rw [h.halt]
  cases hhalt : o.halt with
  | some halt => exact h
  | none =>
    have hthen := hnext hhalt h.agree
    exact {
      events := by
        change o'.events ++ _ = o.events ++ _
        rw [h.events, hthen.events]
      halt := hthen.halt
      agree := hthen.agree
      kept := hthen.kept.trans h.kept
      keptOther := hthen.keptOther.trans h.keptOther
      directories := fun l => (hthen.directories l).trans (h.directories l) }

/-- A step that keeps the files and the output does not know the files. -/
theorem of_guise (step : Session → Outcome) (h : session.AgreeOff place other)
    (hguise : ∀ g : Guise, g.silent = false → step (g.session session) = g.outcome (step session))
    (houtput : (step session).session.settings.output = session.settings.output)
    (hfiles : (step session).session.files = session.files) :
    Parallel place session other (step session) (step other) := by
  have hother : other = ({ files := fun _ => other.files } : Guise).session session := by
    obtain ⟨settings, highlighter, files⟩ := other
    obtain ⟨rfl, rfl, -, -⟩ := h
    rfl
  rw [hother, hguise _ rfl]
  refine of_kept (Guise.outcome_events _ rfl _) rfl ?_ hfiles rfl
  refine ⟨rfl, rfl, hfiles ▸ h.files, ?_⟩
  rw [houtput, hfiles]
  exact h.output

end Outcome.Parallel

namespace Session
variable {place location : Location} {session other : Session} {environment : Environment}

open Outcome (Parallel)

/-- The session with an output file that was opened just now. -/
def opened (location : Location) (session : Session) : Session :=
  { session with
    settings := { session.settings with output := some { location } }
    files := session.files.put location (.file (.text [])) }

namespace AgreeOff

/-- Other settings with the same output make no difference. -/
theorem adjust (h : session.AgreeOff place other) {settings : Settings}
    (houtput : settings.output = session.settings.output) :
    AgreeOff place { session with settings } { other with settings } where
  settings := rfl
  highlighter := h.highlighter
  files := h.files
  output := by
    rw [houtput]
    exact h.output

/-- Both have put the same file elsewhere. -/
theorem put (h : session.AgreeOff place other)
    (hnode : session.files.node? location ≠ some .directory) (content : Content) :
    AgreeOff place { session with files := session.files.put location (.file content) }
      { other with files := other.files.put location (.file content) } where
  settings := h.settings
  highlighter := h.highlighter
  files := h.files.put location _
  output file hfile :=
    (h.output file hfile).imp_right
      (mt (Files.sameDirectories_put hnode content file.location).1)

theorem parallel_put (h : session.AgreeOff place other) (hne : location ≠ place)
    (hnode : session.files.node? location ≠ some .directory) (content : Content)
    (events : List Event) :
    Parallel place session other
      (.done { session with files := session.files.put location (.file content) } events)
      (.done { other with files := other.files.put location (.file content) } events) :=
  .of_put rfl rfl (h.put hnode content) hne hnode rfl rfl

theorem parallel_opened (h : session.AgreeOff place other) (hne : location ≠ place)
    (hnode : session.files.node? location ≠ some .directory) :
    Parallel place session other (.done (session.opened location) [])
      (.done (other.opened location) []) :=
  (h.parallel_put hne hnode (.text []) []).withOutput (some { location }) fun file hfile => by
    cases hfile
    exact ⟨hne, hnode⟩

/-- What is written to a file elsewhere is written in both, or refused in both. -/
theorem parallel_store (h : session.AgreeOff place other) (environment : Environment)
    {file : OutputFile} (hfile : session.settings.output = some file) (t : Text) :
    Parallel place session other (session.store environment file t)
      (other.store environment file t) := by
  have helsewhere := h.output file hfile
  have hsame (offset : Nat) (pending : Text) : ∀ given,
      some { file with offset, pending } = some given →
        given.location ≠ place ∧ session.files.node? given.location ≠ some .directory := by
    rintro given ⟨⟩
    exact helsewhere
  obtain ⟨hne, hnode⟩ := helsewhere
  unfold store
  dsimp only
  split
  next => exact (Parallel.halted h _).withOutput _ (hsame _ _)
  next =>
    rw [h.files.device? hne]
    split
    next => exact (Parallel.done h _).withOutput _ (hsame _ _)
    next =>
      rw [Files.write, Files.write, h.files.content? hne]
      exact (h.parallel_put hne hnode _ _).withOutput _ (hsame _ _)

theorem parallel_closeOutput (h : session.AgreeOff place other) (environment : Environment) :
    Parallel place session other (session.closeOutput environment)
      (other.closeOutput environment) := by
  unfold closeOutput
  rw [h.settings]
  cases hfile : session.settings.output with
  | none => exact .done h _
  | some file =>
    have helsewhere := h.output file hfile
    have hstored := h.parallel_store environment hfile []
    dsimp only
    split
    next => exact (Parallel.done h []).withOutput none fun _ hnone => nomatch hnone
    next =>
      generalize session.store environment file [] = o at hstored ⊢
      generalize other.store environment file [] = o' at hstored ⊢
      obtain ⟨_, _, halt⟩ := o
      obtain ⟨_, _, _⟩ := o'
      cases hstored.halt
      cases halt with
      | none => exact hstored.withOutput none fun _ hnone => nomatch hnone
      | some halt =>
        refine hstored.withOutput (some { file with closed := true }) fun given hgiven => ?_
        cases hgiven
        exact helsewhere

/-- The new file is put, the old one closed, and the new one made the output. -/
theorem parallel_replaceOutput (h : session.AgreeOff place other) (environment : Environment)
    (hne : location ≠ place) (hnode : session.files.node? location ≠ some .directory) :
    let put (session : Session) : Session :=
      { session with files := session.files.put location (.file (.text [])) }
    let replace (session : Session) : Outcome :=
      ((put session).closeOutput environment).andThen fun session =>
        .done (session.withOutput (some { location })) []
    Parallel place session other (replace session) (replace other) := by
  intro put replace
  have hput := h.parallel_put hne hnode (.text []) []
  have hclosed : Parallel place (put session) (put other) _ _ :=
    hput.agree.parallel_closeOutput environment
  have hreplaced :
      Parallel place (put session) (put other) (replace session) (replace other) := by
    refine hclosed.andThen fun _ hagree => ?_
    refine (Parallel.done hagree []).withOutput (some { location }) fun file hfile => ?_
    cases hfile
    refine ⟨hne, mt (hclosed.directories location).1 ?_⟩
    exact mt (hput.directories location).1 hnode
  exact { hreplaced with
    kept := hreplaced.kept.trans hput.kept
    keptOther := hreplaced.keptOther.trans hput.keptOther
    directories := fun l => (hreplaced.directories l).trans (hput.directories l) }

theorem parallel_redirect (h : session.AgreeOff place other) {argument : Option Text}
    (hplace : ∀ path, argument = some path →
      place ∉ session.touchedToWrite (environment.expandHome path)) :
    Parallel place session other (session.redirect environment argument)
      (other.redirect environment argument) := by
  unfold redirect
  cases hpath : argument.getD [] with
  | nil => exact h.parallel_closeOutput environment
  | cons c rest =>
    have hplace := hplace (c :: rest) (by
      cases argument with
      | none => cases hpath
      | some path => exact congrArg some hpath)
    unfold touchedToWrite at hplace
    dsimp only
    split
    next => exact .halted h _
    next hnull =>
      rw [if_neg hnull] at hplace
      obtain ⟨fault, hcreate, hother⟩ | ⟨location, hne, hnode, hcreate, hother⟩ :=
        h.files.create hplace
      · rw [hcreate, hother]
        exact .done h _
      · rw [hcreate, hother]
        exact h.parallel_replaceOutput environment hne hnode

theorem traceScan (h : session.AgreeOff place other) : other.traceScan = session.traceScan := by
  funext t
  rw [Session.traceScan, Session.traceScan, h.settings]

theorem parallel_write (h : session.AgreeOff place other)
    (hterminal : environment.terminal = false) (statements : List Text)
    (points : List SplitPoint) :
    Parallel place session other (session.write environment statements points)
      (other.write environment statements points) := by
  unfold Session.write
  dsimp only
  rw [h.traceScan, h.settings]
  cases houtput : session.settings.output with
  | none =>
    dsimp only
    rw [page, page, pager?_of_not_terminal hterminal, pager?_of_not_terminal hterminal]
    exact .done h _
  | some file =>
    dsimp only
    split
    next => exact .halted h _
    next => exact (h.parallel_store environment houtput _).prepend _

theorem parallel_split (h : session.AgreeOff place other)
    (hterminal : environment.terminal = false) (t : Text) :
    Parallel place session other (session.split environment t) (other.split environment t) := by
  unfold Session.split
  dsimp only
  rw [h.traceScan, h.settings]
  refine Parallel.prepend ?_ _
  cases (scan t session.settings.standardStrings).unterminated with
  | some construct => exact .halted h _
  | none =>
    refine (h.parallel_write hterminal _ _).forgive.andThen fun _ hwritten => ?_
    rw [reportTiming, reportTiming, hwritten.settings]
    exact .done hwritten _

/-- A text that has no file run, and that does not have an output file opened at the place. -/
theorem parallel_perform (h : session.AgreeOff place other)
    (hterminal : environment.terminal = false) {nesting : Nat} {t : Text}
    (hplace : place ∉ session.touchedByText environment nesting t) :
    Parallel place session other (session.perform environment t) (other.perform environment t) := by
  cases hcommand : isMetacommand t with
  | false =>
    rw [perform_of_not_isMetacommand environment hcommand,
      perform_of_not_isMetacommand environment hcommand]
    exact h.parallel_split hterminal t
  | true =>
    by_cases hredirect : ∃ argument, Metacommand.read t = .command Keyword.redirect.name argument
    · obtain ⟨argument, hread⟩ := hredirect
      rw [perform_of_read environment hread, perform_of_read environment hread]
      refine h.parallel_redirect fun path hpath => ?_
      rwa [touchedByText.eq_def, hread, hpath] at hplace
    · rw [not_exists] at hredirect
      have hpager := session.pager?_of_not_terminal hterminal
      have hholds := Guise.command_holds hcommand hredirect hpager
      exact .of_guise (Session.perform environment t) h
        (fun g _ => Guise.command_session hcommand hredirect hpager) hholds.1 hholds.2

theorem parallel_attempt (h : session.AgreeOff place other)
    (hterminal : environment.terminal = false) {nesting : Nat} {t : Text}
    (hplace : place ∉ session.touchedByText environment nesting t) :
    Parallel place session other (session.attempt environment nesting t)
      (other.attempt environment nesting t) := by
  have hperform := h.parallel_perform hterminal hplace
  obtain ⟨-, hattempt⟩ | ⟨-, -, hattempt⟩ | hattempt := attempt_cases environment nesting t
  · rw [hattempt, hattempt]
    exact .halted h _
  · rw [hattempt, hattempt, h.highlighter]
    exact hperform.unselected session.highlighter
  · rw [hattempt, hattempt]
    exact hperform.delivered _

theorem readFile (h : session.AgreeOff place other) {path : Text}
    (hplace : place ∉ session.touchedToRead path) :
    other.readFile path = session.readFile path := by
  have hopen : other.openFile path = session.openFile path := by
    unfold touchedToRead at hplace
    unfold openFile
    split
    next => rfl
    next hnull =>
      rw [if_neg hnull] at hplace
      rw [h.files.read hplace]
  rw [Session.readFile, Session.readFile, hopen]

/-- A text that has a file run touches what opening the file touches, and then what the text of the
file does. -/
theorem not_mem_touchedByText {nesting : Nat} {t path : Text} (hfile : fileOf? t = some path)
    (h : place ∉ session.touchedByText environment nesting t) :
    place ∉ session.touchedToRead path ∧
      ∀ u n, session.readFile path = .ok u → nesting = n + 1 →
        place ∉ session.touchedByText environment n u := by
  unfold fileOf? at hfile
  split at hfile
  next name argument hread =>
    rw [Option.ite_none_right_eq_some] at hfile
    obtain ⟨rfl, rfl⟩ := hfile
    rw [touchedByText.eq_def, hread] at h
    simp only [if_true, List.mem_append, not_or] at h
    refine ⟨h.1, ?_⟩
    rintro u n hu rfl
    rw [hu] at h
    exact h.2
  next => cases hfile

/-- Running a text touches only the places that are listed for it. -/
theorem parallel_runNested (h : session.AgreeOff place other)
    (hterminal : environment.terminal = false) {nesting : Nat} {t : Text}
    (hplace : place ∉ session.touchedByText environment nesting t) :
    Parallel place session other (runNested environment nesting t session)
      (runNested environment nesting t other) := by
  induction nesting generalizing t with
  | zero =>
    cases hfile : fileOf? t with
    | none =>
      rw [runNested_of_fileOf?_eq_none environment 0 hfile,
        runNested_of_fileOf?_eq_none environment 0 hfile]
      exact h.parallel_attempt hterminal hplace
    | some path =>
      rw [runNested_of_fileOf? environment 0 hfile, runNested_of_fileOf? environment 0 hfile,
        h.readFile (not_mem_touchedByText hfile hplace).1]
      cases session.readFile path with
      | error halt => exact .halted h halt
      | ok u => exact .halted h .nestedTooDeeply
  | succ nesting ih =>
    cases hfile : fileOf? t with
    | none =>
      rw [runNested_of_fileOf?_eq_none environment _ hfile,
        runNested_of_fileOf?_eq_none environment _ hfile]
      exact h.parallel_attempt hterminal hplace
    | some path =>
      obtain ⟨hread, hnested⟩ := not_mem_touchedByText hfile hplace
      rw [runNested_of_fileOf? environment _ hfile, runNested_of_fileOf? environment _ hfile,
        h.readFile hread]
      cases hu : session.readFile path with
      | error halt => exact .halted h halt
      | ok u => exact ih (hnested u nesting hu rfl)

/-- A line of a startup file touches what the command on it does. -/
theorem parallel_runLine (h : session.AgreeOff place other)
    (hterminal : environment.terminal = false) (file : Text) (number : Nat) {line : Text}
    (hplace : place ∉ session.touchedByText environment environment.host.maxNesting line) :
    Parallel place session other (session.runLine environment file number line)
      (other.runLine environment file number line) := by
  obtain ⟨-, hline⟩ | ⟨value, hline⟩ | ⟨ds, hline⟩ := runLine_cases environment file number line
  · rw [hline, hline]
    exact h.parallel_runNested hterminal hplace
  · rw [hline, hline]
    exact (Parallel.of_guise (·.turn .standardStrings value) h
      (fun g _ => g.turn_session session .standardStrings value) rfl rfl).delivered _
  · rw [hline, hline]
    exact .done h _

theorem parallel_runLines (h : session.AgreeOff place other)
    (hterminal : environment.terminal = false) (file : Text) {number most : Nat}
    {reader : LineReader} (hreader : reader.location ≠ place)
    (hplace : place ∉ touchedByLines environment file number most reader session) :
    Parallel place session other (runLines environment file number most reader session)
      (runLines environment file number most reader other) := by
  induction most generalizing session other reader number with
  | zero => exact .halted h _
  | succ most ih =>
    unfold touchedByLines at hplace
    unfold runLines
    rw [LineReader.next?_congr (h.files.content? hreader)]
    cases hnext : reader.next? session.files with
    | none => exact .halted h _
    | some taken =>
      cases taken with
      | none => exact .done h _
      | some taken =>
        obtain ⟨line, next⟩ := taken
        rw [hnext] at hplace
        simp only [List.mem_append, not_or] at hplace
        obtain ⟨hline, hrest⟩ := hplace
        have hran : Parallel place session other
            (if line.isBlank then .done session []
              else session.runLine environment file number line.trim)
            (if line.isBlank then .done other []
              else other.runLine environment file number line.trim) := by
          split
          next => exact .done h _
          next => exact h.parallel_runLine hterminal file number hline
        refine hran.andThen fun hhalt hagree => ?_
        rw [hhalt] at hrest
        exact ih hagree (LineReader.location_next? hnext ▸ hreader) hrest

theorem parallel_load (h : session.AgreeOff place other)
    (hterminal : environment.terminal = false)
    (hplace : place ∉ session.touchedByStartup environment) :
    Parallel place session other (session.load environment none) (other.load environment none) := by
  unfold touchedByStartup at hplace
  rw [List.mem_append, not_or] at hplace
  obtain ⟨hfile, hlines⟩ := hplace
  unfold load
  rw [Option.getD_none]
  dsimp only at hlines ⊢
  rw [h.files.exists? hfile, h.files.locateFile hfile]
  split
  next => exact .done h _
  next hopen =>
    cases hlocate : session.files.locateFile (startupFile environment) with
    | error fault => exact .halted h _
    | ok location =>
      rw [Bool.not_eq_true, Bool.or_eq_false_iff] at hopen
      rw [hlocate, hopen.2] at hlines
      have hne : location ≠ place :=
        fun heq => hfile (heq ▸ Files.mem_placesOn_of_locateFile hlocate)
      dsimp only
      rw [h.files.content? hne]
      exact h.parallel_runLines hterminal _ hne hlines

end AgreeOff

end Session
end SqlBoundary
