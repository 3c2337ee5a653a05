import SqlBoundary.Proofs.Files.Tree
import SqlBoundary.Proofs.Session.Guise

/-! # Split output in a file

A session that opened an output file takes the same steps as it would have taken without. What it
splits goes to the file and no longer to the standard output; all else is as it would have been.
-/

namespace SqlBoundary

/-- The guise in which split output goes to a file, which has taken some already. -/
def Guise.redirected (location : Location) (written : Text) : Guise :=
  { output := fun _ => some { location, offset := (Utf8.encode written).length }
    files := (·.put location (.file (.text written))) }

/-- What is written for a text that is split; nothing where something is left open in it, or it is
a command. -/
def Session.splitOutput (environment : Environment) (session : Session) (t : Text) : Text :=
  let settings := session.settings
  let result := scan t settings.standardStrings
  if isMetacommand t || result.unterminated.isSome then []
  else
    Report.render environment.host.markUp settings
      (selectStatements t result.points settings.stripComments settings.keepEmpty) result.points

def Metacommand.Reading.name? : Metacommand.Reading → Option Text
  | command name _ => some name
  | notCommand | malformed => none

namespace Step

def splitOutput (environment : Environment) (session : Session) : Step → Text
  | command t => session.splitOutput environment t
  | line _ _ _ => []

/-- The step has no file run and does not redirect split output. -/
structure LeavesOutput (step : Step) : Prop where
  runsNoFile : Session.fileOf? step.text = none
  redirectsNothing : (Metacommand.read step.text).name? ≠ some Keyword.redirect.name

instance (step : Step) : Decidable step.LeavesOutput :=
  decidable_of_iff (Session.fileOf? step.text = none ∧
      (Metacommand.read step.text).name? ≠ some Keyword.redirect.name)
    ⟨fun h => ⟨h.1, h.2⟩, fun h => ⟨h.1, h.2⟩⟩

end Step

/-- What steps write for the texts that they split, one after another. -/
def Session.written (session : Session) : List (Environment × Step) → Text
  | [] => []
  | (environment, step) :: steps =>
    step.splitOutput environment session ++ (step.take environment session).session.written steps

/-- Beside a step, the same step in a session whose split output goes to a file. What the one writes
to the standard output is what the other adds to the file and what it writes there itself. -/
structure Outcome.Redirects (location : Location) (written added : Text)
    (plain redirected : Outcome) : Prop where
  session : redirected.session =
    (Guise.redirected location (written ++ added)).session plain.session
  halt : redirected.halt = plain.halt
  output : plain.events.flatMap Event.output = added ++ redirected.events.flatMap Event.output
  errorOutput : ∀ verbose, redirected.events.flatMap (Event.errorOutput verbose) =
    plain.events.flatMap (Event.errorOutput verbose)
  pagerOutput : redirected.events.flatMap Event.pagerOutput =
    plain.events.flatMap Event.pagerOutput

namespace Session

variable {session : Session} {environment : Environment} {location : Location}

theorem splitOutput_of_isMetacommand (session : Session) (environment : Environment) {t : Text}
    (h : isMetacommand t = true) : session.splitOutput environment t = [] := by
  rw [splitOutput, h]
  rfl

theorem pager?_of_not_terminal (h : environment.terminal = false) :
    session.pager? environment = none := by
  rw [pager?, h]
  rfl

theorem write_unpaged (houtput : session.settings.output = none)
    (hpager : session.pager? environment = none) (statements : List Text)
    (points : List SplitPoint) :
    session.write environment statements points =
      .done session ((Report.scanned session.settings statements).map session.traceScan ++
        [.result (Report.render environment.host.markUp session.settings statements points)]) := by
  rw [write, houtput]
  dsimp only
  rw [page, hpager]

/-- What a file takes is put behind what it has taken before. -/
theorem store_redirected (hstores : environment.Stores location)
    (hplace : session.files.node? location ≠ some .directory)
    (hdevice : session.files.device? location = none) (written t : Text) :
    ((Guise.redirected location written).session session).store environment
        { location, offset := (Utf8.encode written).length } t =
      .done ((Guise.redirected location (written ++ t)).session session) [] := by
  have hwrite := Files.write_put hplace written t
  have hnone : (session.files.put location (.file (.text written))).device? location = none :=
    (session.files.device?_put_file location _ location).trans hdevice
  have hlength : (Utf8.encode (written ++ t)).length =
      (Utf8.encode written).length + (Utf8.encode t).length := by
    rw [Utf8.encode, List.flatMap_append, List.length_append]
    rfl
  simp only [store, List.nil_append, hstores t, Guise.session, Guise.settings, Guise.redirected,
    hnone, hlength, hwrite, Option.any_none, Bool.false_and, Bool.false_eq_true, if_false]
  cases t with
  | nil => rw [List.append_nil]; rfl
  | cons c t => rfl

theorem write_redirected (hstores : environment.Stores location)
    (hplace : session.files.node? location ≠ some .directory)
    (hdevice : session.files.device? location = none) (written : Text) (statements : List Text)
    (points : List SplitPoint) :
    ((Guise.redirected location written).session session).write environment statements points =
      .done ((Guise.redirected location (written ++
          Report.render environment.host.markUp session.settings statements points)).session
            session)
        ((Report.scanned session.settings statements).map session.traceScan) := by
  have hstore := store_redirected hstores hplace hdevice written
    (Report.render environment.host.markUp session.settings statements points)
  have hwrite : ((Guise.redirected location written).session session).write environment statements
      points = (((Guise.redirected location written).session session).store environment
        { location, offset := (Utf8.encode written).length }
        (Report.render environment.host.markUp session.settings statements points)).prepend
          ((Report.scanned session.settings statements).map session.traceScan) := rfl
  rw [hwrite, hstore, Outcome.prepend, Outcome.done, List.append_nil]
  rfl

theorem redirects_of_outcome (o : Session → Outcome) (location : Location) (written : Text)
    (h : o ((Guise.redirected location written).session session) =
      (Guise.redirected location written).outcome (o session)) :
    Outcome.Redirects location written [] (o session)
      (o ((Guise.redirected location written).session session)) := by
  have hevents := (Guise.redirected location written).outcome_events rfl (o session)
  rw [h]
  exact {
    session := by rw [List.append_nil]; rfl
    halt := rfl
    output := by rw [hevents, List.nil_append]
    errorOutput _ := by rw [hevents]
    pagerOutput := by rw [hevents] }

/-- Whatever comes after the split output meets the same obstacle in both. -/
theorem redirects_delivered {obstacle? : Event → Option Obstacle} {silent : List Event} {t : Text}
    (hsilent : ∀ e ∈ silent, e.output = [] ∧ e.isOutput = false)
    (hresult : obstacle? (.result t) = none) (written : Text) (more : List Event) :
    Outcome.Redirects location written t
      ((Outcome.done session (silent ++ [.result t] ++ more)).delivered obstacle?)
      ((Outcome.done ((Guise.redirected location (written ++ t)).session session)
        (silent ++ more)).delivered obstacle?) := by
  have hpasses : ∀ e ∈ silent, e.Passes obstacle? :=
    fun e he => Event.passes_of_not_isOutput (hsilent e he).2
  have hpassesResult : ∀ e ∈ silent ++ [.result t], e.Passes obstacle? :=
    List.forall_mem_append.2 ⟨hpasses, List.forall_mem_singleton.2 fun _ => hresult⟩
  have hempty : silent.flatMap Event.output = [] :=
    List.flatMap_eq_nil_iff.2 fun e he => (hsilent e he).1
  simp only [Outcome.delivered, Outcome.done, Event.deliver_append hpasses,
    Event.deliver_append hpassesResult]
  exact {
    session := rfl
    halt := rfl
    output := by simp [hempty, Event.output]
    errorOutput _ := by simp [Event.errorOutput]
    pagerOutput := by simp [Event.pagerOutput] }

/-- Where a text that is split is written to makes no difference but for the place. -/
theorem redirects_split (houtput : session.settings.output = none)
    (hpager : session.pager? environment = none) (hstores : environment.Stores location)
    (hplace : session.files.node? location ≠ some .directory)
    (hdevice : session.files.device? location = none) {obstacle? : Event → Option Obstacle}
    (hresult : ∀ t, obstacle? (.result t) = none) (written : Text) {t : Text}
    (ht : isMetacommand t = false) :
    Outcome.Redirects location written (session.splitOutput environment t)
      ((session.split environment t).delivered obstacle?)
      ((((Guise.redirected location written).session session).split environment t).delivered
        obstacle?) := by
  unfold Session.split splitOutput
  have hsettings : ((Guise.redirected location written).session session).settings.standardStrings =
    session.settings.standardStrings := rfl
  dsimp only
  rw [hsettings, ht, Bool.false_or]
  cases (scan t session.settings.standardStrings).unterminated with
  | some construct =>
    refine ⟨?_, rfl, rfl, fun _ => rfl, rfl⟩
    rw [Option.isSome_some, if_pos rfl, List.append_nil]
    rfl
  | none =>
    have hsilent (traced : List Text) : ∀ e ∈ session.traceScan t :: traced.map session.traceScan,
        e.output = [] ∧ e.isOutput = false := by
      intro e he
      obtain rfl | he := List.mem_cons.1 he
      · exact ⟨rfl, rfl⟩
      · obtain ⟨u, -, rfl⟩ := List.mem_map.1 he
        exact ⟨rfl, rfl⟩
    rw [write_unpaged houtput hpager, write_redirected hstores hplace hdevice]
    exact redirects_delivered (hsilent _) (hresult _) written _

theorem session_split (houtput : session.settings.output = none)
    (hpager : session.pager? environment = none) (t : Text) :
    (session.split environment t).session = session := by
  unfold Session.split
  dsimp only
  cases (scan t session.settings.standardStrings).unterminated with
  | some construct => rfl
  | none =>
    rw [write_unpaged houtput hpager]
    rfl

/-- A session with no output file that nothing is paged for, taken a text further, goes on as one
whose split output goes to a file. -/
theorem redirects_run (houtput : session.settings.output = none)
    (hpager : session.pager? environment = none) (hstores : environment.Stores location)
    (hplace : session.files.node? location ≠ some .directory)
    (hdevice : session.files.device? location = none)
    (hresults : environment.Takes Event.isResult) (written : Text) {t : Text}
    (hfile : fileOf? t = none)
    (hredirect : (Metacommand.read t).name? ≠ some Keyword.redirect.name) :
    Outcome.Redirects location written (session.splitOutput environment t)
        (run environment t session)
        (run environment t ((Guise.redirected location written).session session)) ∧
      (run environment t session).session.settings.output = none ∧
      (run environment t session).session.files = session.files := by
  rw [run_of_fileOf?_eq_none environment hfile, run_of_fileOf?_eq_none environment hfile,
    Outcome.session_delivered]
  cases hcommand : isMetacommand t with
  | false =>
    rw [perform_of_not_isMetacommand environment hcommand,
      perform_of_not_isMetacommand environment hcommand, session_split houtput hpager t]
    exact ⟨redirects_split houtput hpager hstores hplace hdevice (fun t => hresults _ _ rfl) written
      hcommand, houtput, rfl⟩
  | true =>
    have hredirect (argument : Option Text) :
        Metacommand.read t ≠ .command Keyword.redirect.name argument :=
      fun hread => hredirect (congrArg Metacommand.Reading.name? hread)
    have hholds := Guise.command_holds hcommand hredirect hpager
    rw [session.splitOutput_of_isMetacommand environment hcommand]
    refine ⟨redirects_of_outcome
      (fun s => (s.perform environment t).delivered environment.obstacle?) location written ?_,
      hholds.1.trans houtput, hholds.2⟩
    rw [Guise.command_session hcommand hredirect hpager]
    exact Guise.outcome_delivered (fun hsilent => absurd hsilent Bool.false_ne_true) _

end Session

/-- A step whose output is not paged, in an environment that lets split output through to the
standard output and to a file. The step has no file run and does not redirect. -/
structure Step.Redirects (location : Location) (environment : Environment) (step : Step) :
    Prop where
  terminal : environment.terminal = false
  results : environment.Takes Event.isResult
  stores : environment.Stores location
  leavesOutput : step.LeavesOutput

namespace Session

variable {session : Session} {environment : Environment} {location : Location}

theorem redirects_take (houtput : session.settings.output = none)
    (hplace : session.files.node? location ≠ some .directory)
    (hdevice : session.files.device? location = none) (written : Text) {step : Step}
    (hstep : step.Redirects location environment) :
    Outcome.Redirects location written (step.splitOutput environment session)
        (step.take environment session)
        (step.take environment ((Guise.redirected location written).session session)) ∧
      (step.take environment session).session.settings.output = none ∧
      (step.take environment session).session.files = session.files := by
  have hrun := redirects_run houtput (pager?_of_not_terminal hstep.terminal) hstep.stores hplace
    hdevice hstep.results written hstep.leavesOutput.runsNoFile
    hstep.leavesOutput.redirectsNothing
  cases step with
  | command t => exact hrun
  | line file number t =>
    simp only [Step.take, Step.splitOutput]
    obtain ⟨hcommand, hline⟩ | ⟨value, hline⟩ | ⟨ds, hline⟩ :=
      runLine_cases environment file number t
    · rw [hline, hline]
      rwa [Step.text, session.splitOutput_of_isMetacommand environment hcommand] at hrun
    · rw [hline, hline]
      refine ⟨redirects_of_outcome
        (fun s => (s.turn .standardStrings value).delivered environment.obstacle?)
        location written ?_, houtput, rfl⟩
      rw [Guise.turn_session]
      exact Guise.outcome_delivered (fun hsilent => absurd hsilent Bool.false_ne_true) _
    · rw [hline, hline]
      exact ⟨redirects_of_outcome (.done · (ds.map .diagnostic)) location written
        (Guise.outcome_done _ (echoFree_diagnostics ds)).symm, houtput, rfl⟩

theorem after_redirected (houtput : session.settings.output = none)
    (hplace : session.files.node? location ≠ some .directory)
    (hdevice : session.files.device? location = none) (written : Text)
    {steps : List (Environment × Step)}
    (hsteps : ∀ step ∈ steps, step.2.Redirects location step.1) :
    ((Guise.redirected location written).session session).after steps =
        (Guise.redirected location (written ++ session.written steps)).session
          (session.after steps) ∧
      (session.after steps).settings.output = none ∧
      (session.after steps).files = session.files := by
  induction steps generalizing session written with
  | nil => exact ⟨by rw [Session.written, List.append_nil]; rfl, houtput, rfl⟩
  | cons step steps ih =>
    obtain ⟨hstep, hsteps⟩ := List.forall_mem_cons.1 hsteps
    obtain ⟨hredirects, houtput', hfiles⟩ := redirects_take houtput hplace hdevice written hstep
    obtain ⟨hafter, hnone, hsame⟩ := ih houtput' (hfiles ▸ hplace) (hfiles ▸ hdevice)
      (written ++ step.2.splitOutput step.1 session) hsteps
    refine ⟨?_, hnone, hsame.trans hfiles⟩
    rw [List.append_assoc] at hafter
    exact (congrArg (Session.after · steps) hredirects.session).trans hafter

/-- A command that opens an output file makes it an empty one, and does no more. -/
theorem run_redirect {opening path : Text} {file : OutputFile}
    (houtput : session.settings.output = none)
    (hread : Metacommand.read opening = .command Keyword.redirect.name (some path))
    (hopen : (Session.run environment opening session).session.settings.output = some file) :
    session.files.locateWritable (environment.expandHome path) = .ok file.location ∧
      Session.run environment opening session =
        .done ((Guise.redirected file.location []).session session) [] := by
  rw [run_of_read environment hread, Outcome.session_delivered] at hopen
  rw [run_of_read environment hread]
  have hclose (files : Files) :
      closeOutput { session with files } environment = .done { session with files } [] := by
    rw [closeOutput, show ({ session with files } : Session).settings.output = none from houtput]
  cases path with
  | nil =>
    have hself : session.closeOutput environment = .done session [] := hclose session.files
    simp only [execute, redirect, Option.getD_some, hself] at hopen
    cases houtput.symm.trans hopen
  | cons c rest =>
    simp only [execute, redirect, Option.getD_some, hclose] at hopen ⊢
    split at hopen
    next => cases houtput.symm.trans hopen
    next hnull =>
      rw [if_neg hnull]
      cases hcreate : session.files.create (environment.expandHome (c :: rest)) with
      | error fault =>
        rw [hcreate] at hopen
        cases houtput.symm.trans hopen
      | ok created =>
        obtain ⟨location, files⟩ := created
        rw [hcreate] at hopen
        obtain ⟨hlocate, rfl⟩ := Files.create_eq_ok_iff.1 hcreate
        obtain rfl : { location } = file := Option.some.inj hopen
        exact ⟨hlocate, rfl⟩

end Session

/-- Split output that is redirected is neither lost nor duplicated. A session with no output file
opens one, which is a regular file. Then it takes steps, not at a terminal, that run no file and do
not redirect again, where the file and the standard output take what is split. Whenever another step
is taken, the file holds what the steps so far have written for the texts they split; and the step
fails, goes on and writes as without the file, but that what it writes for a text goes to the
file. -/
theorem redirected_outcomes {session : Session} {environment : Environment} {opening path : Text}
    {file : OutputFile} (houtput : session.settings.output = none)
    (hread : Metacommand.read opening = .command Keyword.redirect.name (some path))
    (hopen : (Session.run environment opening session).session.settings.output = some file)
    (hregular :
      (Session.run environment opening session).session.files.IsRegular file.location)
    {steps : List (Environment × Step)} {next : Environment × Step}
    (hsteps : ∀ step ∈ next :: steps, step.2.Redirects file.location step.1) :
    session.files.locateWritable (environment.expandHome path) = .ok file.location ∧
      (Session.run environment opening session).events = [] ∧
      ((Session.run environment opening session).session.after steps).files.content?
        file.location = some (.text (session.written steps)) ∧
      Outcome.Redirects file.location (session.written steps)
        (next.2.splitOutput next.1 (session.after steps))
        (next.2.take next.1 (session.after steps))
        (next.2.take next.1 ((Session.run environment opening session).session.after steps)) := by
  obtain ⟨hnext, hsteps⟩ := List.forall_mem_cons.1 hsteps
  obtain ⟨hlocate, hrun⟩ := Session.run_redirect houtput hread hopen
  have hplace := (Files.locateWritable_eq_ok_iff.1 hlocate).2.2
  have hstart : (Session.run environment opening session).session =
      (Guise.redirected file.location []).session session := congrArg Outcome.session hrun
  have hdevice : session.files.device? file.location = none := by
    rw [hstart] at hregular
    exact (session.files.device?_put_file file.location (.text []) file.location).symm.trans
      (Files.device?_eq_none_of_isRegular hregular)
  obtain ⟨hafter, hnone, hfiles⟩ := Session.after_redirected houtput hplace hdevice [] hsteps
  rw [← hfiles] at hplace hdevice
  rw [List.nil_append, ← hstart] at hafter
  rw [hafter]
  exact ⟨hlocate, congrArg Outcome.events hrun, Files.content?_put hplace hdevice _,
    (Session.redirects_take hnone hplace hdevice _ hnext).1⟩

/-- Statements are split before and after settings are changed, and between them a text with an open
string. -/
theorem redirected_outcomes_csv :
    let session : Session := ⟨{}, .plain, ⟨[]⟩⟩
    let environment : Environment := { home := "home", elapsed := 1234567 }
    let steps : List (Environment × Step) :=
      [.command "a;b", .command "\\pset format csv", .command "x;'y", .command "\\timing"].map
        (environment, ·)
    let redirected := (Session.run environment "\\o out" session).session
    session.settings.output = none ∧
      redirected.settings.output = some { location := ["out".toList] } ∧
      redirected.files.IsRegular ["out".toList] ∧
      (∀ step ∈ (environment, .command "c") :: steps,
        step.2.Redirects ["out".toList] step.1) ∧
      session.written steps = "a;\nb;\n".toList ∧
      (redirected.after steps).files.content? ["out".toList] = some (.text "a;\nb;\n") ∧
      Outcome.Redirects ["out".toList] "a;\nb;\n" "index,statement\n1,c\n"
        ((Step.command "c").take environment (session.after steps))
        ((Step.command "c").take environment (redirected.after steps)) ∧
      ((Step.command "c").take environment (redirected.after steps)).events.flatMap Event.output =
        "Time: 1.235 ms\n".toList := by
  intro session environment steps
  dsimp only
  have hnone : session.settings.output = none := rfl
  have hread : Metacommand.read "\\o out" = .command Keyword.redirect.name (some "out".toList) := by
    decide +kernel
  have hopen : (Session.run environment "\\o out" session).session.settings.output =
      some { location := ["out".toList] } := by decide +kernel
  have hregular : (Session.run environment "\\o out" session).session.files.IsRegular
      ["out".toList] := ⟨.text [], by decide +kernel⟩
  have hleaves : ∀ step ∈ (environment, .command "c") :: steps, step.2.LeavesOutput := by
    decide +kernel
  have hsteps : ∀ step ∈ (environment, .command "c") :: steps,
      step.2.Redirects ["out".toList] step.1 := by
    intro step hstep
    have henvironment : step.1 = environment := by
      obtain rfl | hstep := List.mem_cons.1 hstep
      · rfl
      · obtain ⟨u, -, rfl⟩ := List.mem_map.1 hstep
        rfl
    rw [henvironment]
    exact ⟨rfl, fun _ _ _ => rfl, fun _ => rfl, hleaves step hstep⟩
  have hwritten : session.written steps = "a;\nb;\n".toList := by decide +kernel
  have hadded : (Step.command "c").splitOutput environment (session.after steps) =
      "index,statement\n1,c\n".toList := by decide +kernel
  have hredirected := redirected_outcomes hnone hread hopen hregular hsteps
  rw [hwritten, hadded] at hredirected
  exact ⟨hnone, hopen, hregular, hsteps, hwritten, hredirected.2.2.1, hredirected.2.2.2,
    by decide +kernel⟩

/-- A device can be opened, and holds nothing of what is written to it. -/
theorem not_held_by_device :
    ¬∀ (session : Session) (environment : Environment) (opening path : Text) (file : OutputFile)
      (steps : List (Environment × Step)), session.settings.output = none →
        Metacommand.read opening = .command Keyword.redirect.name (some path) →
        (Session.run environment opening session).session.settings.output = some file →
        (∀ step ∈ steps, step.2.Redirects file.location step.1) →
          ((Session.run environment opening session).session.after steps).files.content?
            file.location = some (.text (session.written steps)) := by
  intro h
  let device : Location := [['/'], "dev".toList, "null".toList]
  let files : Files := ⟨[([['/'], "dev".toList], .directory), (device, .device {})]⟩
  have hcontent := h ⟨{}, .plain, files⟩ {} "\\o /dev/null" "/dev/null" { location := device }
    [({}, .command "a;")] rfl (by decide +kernel) (by decide +kernel)
    (List.forall_mem_singleton.2
      ⟨rfl, fun _ _ _ => rfl, fun _ => rfl, by decide +kernel, by decide +kernel⟩)
  revert hcontent
  decide +kernel

end SqlBoundary
