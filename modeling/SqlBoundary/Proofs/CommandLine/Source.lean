import SqlBoundary.CommandLine.Program
import SqlBoundary.Proofs.Session.Footprint

/-! # Where the text to split comes from

A text that is not empty is split in the same way, whether it is the standard input, an option, or
what a file holds.
-/

namespace SqlBoundary

namespace Session

/-- The places that applying options touches: those of the startup file, and the output file. -/
def touchedByOptions (environment : Environment) (o : Options) (session : Session) :
    List Location :=
  let adjusted := (session.adjust o.applyEarly).session
  let loaded := if o.noStartup then .done adjusted [] else adjusted.load environment none
  (if o.noStartup then [] else adjusted.touchedByStartup environment) ++
    if loaded.halt.isSome then [] else loaded.session.touchedToWrite (o.output.getD [])

/-- A path leads to a file at a place, which holds a text in UTF-8. -/
structure Holds (session : Session) (path : Text) (place : Location) (t : Text) : Prop where
  ordinary : path.contains '\x00' = false
  located : session.files.locate path = .ok place
  text : ∃ content, session.files.node? place = some (.file content) ∧
    content.toBytes = Utf8.encode t

variable {place : Location} {session other : Session} {environment : Environment}

open Outcome (Parallel)

namespace AgreeOff

theorem parallel_adjust (h : session.AgreeOff place other) (change : Settings → Settings)
    (houtput : ∀ s, (change s).output = s.output) :
    Parallel place session other (session.adjust change) (other.adjust change) := by
  unfold Session.adjust
  rw [h.settings]
  exact .of_kept rfl rfl (h.adjust (houtput session.settings)) rfl rfl

theorem parallel_openOutput (h : session.AgreeOff place other) {path : Option Text}
    (hplace : place ∉ session.touchedToWrite (path.getD [])) :
    Parallel place session other (session.openOutput path) (other.openOutput path) := by
  unfold openOutput
  unfold touchedToWrite at hplace
  split
  next => exact .done h _
  next =>
    split
    next => exact .halted h _
    next hnull =>
      rw [if_neg hnull] at hplace
      obtain ⟨fault, hcreate, hother⟩ | ⟨location, hne, hnode, hcreate, hother⟩ :=
        h.files.create hplace
      · rw [hcreate, hother]
        exact .halted h _
      · rw [hcreate, hother]
        exact h.parallel_opened hne hnode

theorem parallel_assignArgument (h : session.AgreeOff place other) (argument : Option Text) :
    Parallel place session other (session.assignArgument argument)
      (other.assignArgument argument) := by
  unfold assignArgument
  split
  next => exact .halted h _
  next => exact .halted h _
  next => exact h.parallel_adjust _ fun _ => rfl

theorem parallel_each {α : Type} {step : α → Session → Outcome}
    (hstep : ∀ item {session other : Session}, session.AgreeOff place other →
      Parallel place session other (step item session) (step item other))
    (h : session.AgreeOff place other) (items : List α) :
    Parallel place session other (Session.each step items session)
      (Session.each step items other) := by
  induction items generalizing session other with
  | nil => exact .done h _
  | cons item items ih => exact (hstep item h).andThen fun _ hagree => ih hagree

theorem parallel_applyOptions (h : session.AgreeOff place other)
    (hterminal : environment.terminal = false) {o : Options}
    (hplace : place ∉ session.touchedByOptions environment o) :
    Parallel place session other (session.applyOptions environment o)
      (other.applyOptions environment o) := by
  unfold touchedByOptions at hplace
  rw [List.mem_append, not_or] at hplace
  obtain ⟨hstartup, houtput⟩ := hplace
  unfold applyOptions
  refine (h.parallel_adjust o.applyEarly fun _ => rfl).andThen fun _ hearly => ?_
  have hloaded : Parallel place (session.adjust o.applyEarly).session
      (other.adjust o.applyEarly).session
      (if o.noStartup then .done (session.adjust o.applyEarly).session []
        else (session.adjust o.applyEarly).session.load environment none)
      (if o.noStartup then .done (other.adjust o.applyEarly).session []
        else (other.adjust o.applyEarly).session.load environment none) := by
    split
    next => exact .done hearly _
    next hload =>
      rw [if_neg hload] at hstartup
      exact hearly.parallel_load hterminal hstartup
  refine hloaded.andThen fun hhalt hagree => ?_
  refine (hagree.parallel_adjust o.applyLate fun _ => rfl).andThen fun _ hlate => ?_
  refine (hlate.parallel_openOutput ?_).andThen fun _ hopened => ?_
  · rw [hhalt] at houtput
    exact houtput
  · exact parallel_each (fun argument _ _ h => h.parallel_assignArgument argument) hopened _

/-- An output file is touched, whatever path leads to it. -/
example : ["a.sql".toList] ∈ Session.touchedByOptions { home := "home" }
    { output := some "./a.sql" } ⟨{}, .plain, ⟨[]⟩⟩ := by
  decide +kernel

end AgreeOff

/-- A text that runs no file and does not redirect split output touches nothing. -/
theorem touchedByText_eq_nil {t : Text} (h : (Step.command t).LeavesOutput)
    (environment : Environment) (nesting : Nat) (session : Session) :
    session.touchedByText environment nesting t = [] := by
  obtain ⟨hfile, hredirect⟩ := h
  rw [Step.text] at hfile hredirect
  unfold fileOf? at hfile
  rw [touchedByText.eq_def]
  split
  next name path hread =>
    rw [hread] at hfile hredirect
    have hname : name ≠ readName := fun hname => by simp [hname] at hfile
    rw [if_neg hname, if_neg fun hname => hredirect (congrArg some hname)]
  next => rfl

section
variable {path t : Text}

theorem Holds.readFile (h : session.Holds path place t) (hreturn : '\r' ∉ t) :
    session.readFile path = .ok t := by
  obtain ⟨content, hnode, hbytes⟩ := h.text
  have hlines : t.unifyLineEnds = t := Text.unifyLineEnds_of_not_mem hreturn
  have hread : content.read? = some t := by
    cases content with
    | text held =>
      obtain rfl := Utf8.encode_injective hbytes
      exact congrArg some hlines
    | bytes held =>
      obtain rfl : held = Utf8.encode t := hbytes
      rw [Content.read?, Utf8.decode?_encode, Option.map_some, hlines]
  have hopen : session.openFile path = .ok content := by
    rw [openFile, h.ordinary, if_neg Bool.false_ne_true, Files.read, h.located]
    simp only [bind, Except.bind, hnode]
    rfl
  rw [Session.readFile, hopen]
  dsimp only
  rw [hread]
  rfl

/-- A step that does not touch the file leaves it where it is. -/
theorem Holds.of_parallel (h : session.Holds path place t) {o o' : Outcome}
    (hstep : Parallel place session other o o') : o.session.Holds path place t where
  ordinary := h.ordinary
  located := (hstep.directories.locate_eq_ok_iff path place).2 h.located
  text := by
    rw [hstep.kept]
    exact h.text

theorem Holds.ne_nil (h : session.Holds path place t) : path ≠ [] := by
  rintro rfl
  exact nomatch h.located

end

end Session

namespace Run

def ofText (environment : Environment) (o : Options) (t : Text) (session : Session) : Run :=
  if o.version then
    ⟨session, [.report ("sqlsplits ".toList ++ version ++ ['\n'])], [], .exit 0⟩
  else
    let applied := session.applyOptions environment o
    match applied.halt with
    | some halt => ⟨applied.session, applied.events, [], .uncaught halt⟩
    | none => (ofOutcome environment (applied.session.run environment t)).prepend applied.events

/-- Two runs in sessions that differ at most in what is at a place. They show the same and end in
the same way, and neither changes what is there. -/
structure Parallel (place : Location) (session other : Session) (run run' : Run) : Prop where
  ending : run'.ending = run.ending
  events : run'.events = run.events
  exchanges : run'.exchanges = run.exchanges
  agree : run.session.AgreeOff place run'.session
  kept : run.session.files.node? place = session.files.node? place
  keptOther : run'.session.files.node? place = other.files.node? place

variable {environment : Environment} {o : Options} {t : Text} {session other : Session}
  {supply : Supply} {place : Location}

theorem ofOptions_of_command? (h : command? environment supply.input o = some t) :
    ofOptions environment supply o session = ofText environment o t session := by
  have hstart : start environment supply.input o session =
      .over (ofText environment o t session) := by
    unfold start ofText
    split
    next => rfl
    next =>
      dsimp only
      rw [h]
      cases (session.applyOptions environment o).halt <;> rfl
  rw [ofOptions, hstart]

/-- A file that still holds the text once the options are applied is as good as the text. -/
theorem ofOptions_of_holds {path : Text} (hcommand : command? environment supply.input o = none)
    (hfile : o.file.filter (!·.isEmpty) = some path) (hreturn : '\r' ∉ t)
    (h : (session.applyOptions environment o).session.Holds path place t) :
    ofOptions environment supply o session = ofText environment o t session := by
  have hstart : start environment supply.input o session =
      .over (ofText environment o t session) := by
    unfold start ofText
    split
    next => rfl
    next =>
      have hrun : (session.applyOptions environment o).session.runFile environment path =
          (session.applyOptions environment o).session.run environment t := by
        rw [Session.runFile, h.readFile hreturn]
      dsimp only
      rw [hcommand, hfile]
      dsimp only
      rw [hrun]
      cases (session.applyOptions environment o).halt <;> rfl
  rw [ofOptions, hstart]

theorem parallel_ofOutcome (environment : Environment) {p p' : Outcome}
    (h : Outcome.Parallel place session other p p') :
    Parallel place session other (ofOutcome environment p) (ofOutcome environment p') := by
  have hgoes (events : List Event) (ending : Ending) : Parallel place session other
      ⟨p.session, events, [], ending⟩ ⟨p'.session, events, [], ending⟩ :=
    ⟨rfl, rfl, rfl, h.agree, h.kept, h.keptOther⟩
  have hclosed := h.agree.parallel_closeOutput environment
  have hcloses : Parallel place session other
      ⟨(p.session.closeOutput environment).session,
        p.events ++ (p.session.closeOutput environment).events, [],
        (p.session.closeOutput environment).halt.elim (.exit 0) .uncaught⟩
      ⟨(p'.session.closeOutput environment).session,
        p.events ++ (p'.session.closeOutput environment).events, [],
        (p'.session.closeOutput environment).halt.elim (.exit 0) .uncaught⟩ :=
    ⟨by rw [hclosed.halt], by rw [hclosed.events], rfl, hclosed.agree,
      hclosed.kept.trans h.kept, hclosed.keptOther.trans h.keptOther⟩
  unfold ofOutcome
  dsimp only
  rw [h.halt, h.events]
  split
  next => exact hcloses
  next => exact hcloses
  next => exact hgoes _ _
  next => exact hgoes _ _
  next => exact hgoes _ _
  next => exact hgoes _ _

theorem Parallel.prepend {run run' : Run} (h : Parallel place session other run run')
    (events : List Event) :
    Parallel place session other (run.prepend events) (run'.prepend events) :=
  { h with events := congrArg (events ++ ·) h.events }

/-- A text that runs no file and does not redirect split output has the same run in both. -/
theorem parallel_ofText (h : session.AgreeOff place other)
    (hterminal : environment.terminal = false) (ht : (Step.command t).LeavesOutput)
    (hplace : place ∉ session.touchedByOptions environment o) :
    Parallel place session other (ofText environment o t session)
      (ofText environment o t other) := by
  unfold ofText
  split
  next => exact ⟨rfl, rfl, rfl, h, rfl, rfl⟩
  next =>
    have happlied := h.parallel_applyOptions hterminal hplace
    dsimp only
    rw [happlied.halt, happlied.events]
    cases (session.applyOptions environment o).halt with
    | some halt => exact ⟨rfl, rfl, rfl, happlied.agree, happlied.kept, happlied.keptOther⟩
    | none =>
      refine Parallel.prepend ?_ _
      have hnothing := Session.touchedByText_eq_nil ht environment
        environment.host.maxNesting (session.applyOptions environment o).session
      have hran := parallel_ofOutcome environment (happlied.agree.parallel_runNested hterminal
        (hnothing ▸ List.not_mem_nil))
      exact { hran with
        kept := hran.kept.trans happlied.kept
        keptOther := hran.keptOther.trans happlied.keptOther }

/-- A text that is not empty has the same run as the standard input, whatever else is given, as an
option, and as what a file holds, unless it runs a file or redirects split output. The file makes no
difference where the text does not come from it, as long as the options do not touch it. -/
theorem parallel_sources {given commanded : Session} {path : Text}
    (hterminal : environment.terminal = false) (hne : t ≠ []) (hreturn : '\r' ∉ t)
    (ht : (Step.command t).LeavesOutput)
    (hholds : session.Holds path place t) (hgiven : session.AgreeOff place given)
    (hcommanded : session.AgreeOff place commanded)
    (huntouched : place ∉ session.touchedByOptions environment o)
    (command file file' : Option Text) (keys : List Key) :
    let filed :=
      ofOptions environment ⟨[], keys⟩ { o with command := none, file := some path } session
    Parallel place session given filed
        (ofOptions environment ⟨t, keys⟩ { o with command, file } given) ∧
      Parallel place session commanded filed
        (ofOptions environment ⟨[], keys⟩ { o with command := some t, file := file' }
          commanded) := by
  intro filed
  have hfiled : filed = ofText environment o t session := by
    have hstill := hholds.of_parallel (hgiven.parallel_applyOptions hterminal huntouched)
    refine ofOptions_of_holds ?_ ?_ hreturn hstill
    · rw [command?, hterminal]
      rfl
    · exact Option.filter_eq_some_iff.2 ⟨rfl, by simpa using hholds.ne_nil⟩
  have hinput (other : Session) :
      ofOptions environment ⟨t, keys⟩ { o with command, file } other =
        ofText environment o t other := by
    refine ofOptions_of_command? ?_
    rw [command?, hterminal, Bool.false_or, if_neg (by simpa using hne)]
  have hoption (other : Session) :
      ofOptions environment ⟨[], keys⟩ { o with command := some t, file := file' } other =
        ofText environment o t other := by
    refine ofOptions_of_command? ?_
    rw [command?, hterminal, Bool.false_or, if_pos List.isEmpty_nil]
    exact Option.filter_eq_some_iff.2 ⟨rfl, by simpa using hne⟩
  rw [hfiled, hinput, hoption]
  exact ⟨parallel_ofText hgiven hterminal ht huntouched,
    parallel_ofText hcommanded hterminal ht huntouched⟩

/-- The startup file has another file run, which sets the format. Where the file of the text is not
there, or holds other bytes, the report in the output file is the same. -/
theorem parallel_sources_csv :
    let environment : Environment := { home := "home", elapsed := 1234567 }
    let files : Files := ⟨[(["home".toList], .directory),
      (["home".toList, ".sqlsplitsrc".toList], .file (.text "\\timing\n\\i format\n")),
      (["format".toList], .file (.text "\\pset format csv"))]⟩
    let place : Location := ["a.sql".toList]
    let session (files : Files) : Session := ⟨{}, .plain, files⟩
    let filed := files.put place (.file (.text "a;\nb"))
    let other := files.put place (.file (.bytes [0xff]))
    let o : Options := { output := some "out" }
    let run := Run.ofOptions environment ⟨[], []⟩
      { o with command := none, file := some "./a.sql" } (session filed)
    environment.terminal = false ∧ "a;\nb".toList ≠ [] ∧ '\r' ∉ "a;\nb".toList ∧
      (Step.command "a;\nb").LeavesOutput ∧
      (session filed).Holds "./a.sql" place "a;\nb" ∧
      (session filed).AgreeOff place (session files) ∧
      (session filed).AgreeOff place (session other) ∧
      place ∉ (session filed).touchedByOptions environment o ∧
      Parallel place (session filed) (session files) run
        (Run.ofOptions environment ⟨"a;\nb", []⟩
          { o with command := some "c", file := some "d" } (session files)) ∧
      Parallel place (session filed) (session other) run
        (Run.ofOptions environment ⟨[], []⟩
          { o with command := some "a;\nb", file := some "./a.sql" } (session other)) ∧
      run.session.files.content? ["out".toList] = some (.text "index,statement\n1,a\n2,b\n") := by
  intro environment files place session filed other o run
  have hwithout := (files.agreeOff_put place (.file (.text "a;\nb"))).symm
  have hfiles : Session.AgreeOff place (session filed) (session files) :=
    ⟨rfl, rfl, hwithout, fun _ hfile => nomatch hfile⟩
  have hother : Session.AgreeOff place (session filed) (session other) :=
    ⟨rfl, rfl, hwithout.trans (files.agreeOff_put place _), fun _ hfile => nomatch hfile⟩
  have hholds : (session filed).Holds "./a.sql" place "a;\nb" :=
    ⟨by decide, by decide +kernel, .text "a;\nb", by decide +kernel, rfl⟩
  have huntouched : place ∉ (session filed).touchedByOptions environment o := by decide +kernel
  have hleaves : (Step.command "a;\nb").LeavesOutput := by decide +kernel
  obtain ⟨hgiven, hcommanded⟩ := parallel_sources rfl (by decide) (by decide) hleaves hholds
    hfiles hother huntouched (some "c") (some "d") (some "./a.sql") []
  exact ⟨rfl, by decide, by decide, hleaves, hholds, hfiles, hother, huntouched, hgiven,
    hcommanded, by decide +kernel⟩

end Run
end SqlBoundary
