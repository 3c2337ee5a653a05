import SqlBoundary.CommandLine.Program
import SqlBoundary.Proofs.Dialogue.Ending
import SqlBoundary.Proofs.Session.Startup

/-! # How the program ends at a terminal

Without arguments the program loads the startup file and holds a dialogue. Where all that is written
is taken, it exits when the dialogue is left, and not otherwise unless a line of the startup file
quits, a prompt that is shown was set to nothing, or an output file has a zero byte in its path.
-/

namespace SqlBoundary

/-- The program without arguments, before any settings are made. -/
def Run.plain (environment : Environment) (supply : Supply) (pager : Option Text) (files : Files) :
    Run :=
  (ofArguments environment supply [] ⟨{ pager }, .plain, files⟩).1

/-- The status that a run exits with. -/
def Ending.status? : Ending → Option Nat
  | exit status => some status
  | uncaught _ => none

/-- The text that is submitted, if one is. -/
def Exchange.submission? : Exchange → Option Text
  | submitted t => some t
  | opened _ | prompt _ _ | continued _ => none

/-- The texts that a run is given: the lines of the startup file, and those that are submitted. -/
def Run.given (run : Run) (lines : List Text) : List Text :=
  lines ++ run.exchanges.filterMap Exchange.submission?

/-- Why a run exits: its input is at its end, or the last text that was submitted is the command to
quit. -/
inductive Run.Leaves (environment : Environment) (supply : Supply) (session : Session) (run : Run) :
    Prop
  | endOfInput {dialogue : Dialogue}
    (hstart : start environment supply.input {} session = .waiting dialogue)
    (h : dialogue.stage.ReachesEnd environment supply.keys)
  | quit {t : Text} (hlast : run.exchanges.getLast? = some (.submitted t)) (h : Session.Quits t)

/-- Without options only the startup file is loaded. -/
theorem Session.applyOptions_default (environment : Environment) (session : Session) :
    session.applyOptions environment {} = session.load environment none := by
  have hearly : session.adjust ({} : Options).applyEarly = .done session [] := rfl
  unfold applyOptions
  rw [hearly, Outcome.done_andThen, Outcome.prepend_nil, if_neg (by decide)]
  exact Outcome.andThen_done (fun _ => rfl) _

namespace Run
variable {environment : Environment} {session : Session}

theorem start_of_halt {halt : Halt} (h : (session.load environment none).halt = some halt)
    (input : Text) :
    start environment input {} session =
      .over ⟨(session.load environment none).session, (session.load environment none).events, [],
        .uncaught halt⟩ := by
  unfold start
  rw [if_neg (by decide), Session.applyOptions_default]
  dsimp only
  rw [h]

theorem start_of_loaded (hterminal : environment.terminal = true)
    (h : (session.load environment none).halt = none) (input : Text) :
    start environment input {} session =
      .waiting ((openDialogue environment (session.load environment none).session).prepend
        (session.load environment none).events []) := by
  have hcommand : command? environment input {} = none := by
    rw [command?, hterminal]
    rfl
  unfold start
  rw [if_neg (by decide), Session.applyOptions_default]
  dsimp only
  rw [h, hcommand]
  rfl

theorem exchanges_ofDialogue (d : Dialogue) : (ofDialogue d).exchanges = d.exchanges := by
  unfold ofDialogue
  split <;> rfl

theorem ending_of_left {d : Dialogue} (h : d.stage = .left session) :
    (ofDialogue d).ending = .exit 0 := by
  rw [ofDialogue, h]

theorem ending_of_failed {d : Dialogue} {halt : Halt} (h : d.stage = .failed session halt) :
    (ofDialogue d).ending = .uncaught halt := by
  rw [ofDialogue, h]

theorem mem_given {run : Run} {t : Text} (h : .submitted t ∈ run.exchanges) (lines : List Text) :
    t ∈ run.given lines :=
  List.mem_append_right _ (List.mem_filterMap.2 ⟨.submitted t, h, rfl⟩)

variable {supply : Supply} {pager : Option Text} {files : Files}

theorem plain_of_halt {halt : Halt}
    (h : (Session.load environment none ⟨{ pager }, .plain, files⟩).halt = some halt) :
    (plain environment supply pager files).ending = .uncaught halt := by
  change (ofOptions environment supply {} ⟨{ pager }, .plain, files⟩).ending = _
  rw [ofOptions, start_of_halt h]

theorem plain_of_waiting {dialogue : Dialogue}
    (h : start environment supply.input {} ⟨{ pager }, .plain, files⟩ = .waiting dialogue) :
    plain environment supply pager files =
      ofDialogue (dialogue.andThen fun stage => stage.pressAll environment supply.keys) := by
  change ofOptions environment supply {} ⟨{ pager }, .plain, files⟩ = _
  rw [ofOptions, h]

theorem sound_fresh (given : Text → Prop) (h : pager.getD [] = []) (files : Files) :
    Session.Sound given ⟨{ pager }, .plain, files⟩ where
  pager := h
  flushed := fun _ hfile => nomatch hfile
  prompt := .plain (by decide +kernel)
  continuation := .plain (by decide +kernel)

theorem openDialogue_goesOn (houtput : environment.Takes Event.isOutput) {given : Text → Prop}
    (h : session.Sound given) (events : List Event) :
    ((openDialogue environment session).prepend events []).GoesOn environment given := by
  have hsound (highlighter : Highlighter) :
      Session.Sound given { session with highlighter } :=
    ⟨h.pager, h.flushed, h.prompt, h.continuation⟩
  have hasks (greeting : List Event) (highlighter : Highlighter) (history : Option Text) :
      ((Dialogue.ofOutcome (.done session greeting) fun session =>
        (Session.ask { session with highlighter } environment).prepend []
          [.opened history]).prepend events []).GoesOn environment given :=
    ((((hsound highlighter).ask environment).prepend _ _).prepend _ _).prepend _ _
  unfold openDialogue
  rw [Session.tell_of_takes houtput]
  dsimp only
  split
  next => exact hasks [] _ _
  next => exact hasks [.report banner] _ _

/-- A run of the program without arguments, at a terminal, exits where its input ends or it is told
to quit, if the standard output and the output files take what is written, when they are closed too.
It ends otherwise only at a line of the startup file that quits, where a prompt was set to nothing,
or at an output file with a zero byte in its path. -/
theorem plain_ends (hterminal : environment.terminal = true)
    (houtput : environment.Takes Event.isOutput)
    (hstores : ∀ location, environment.Stores location) (hpager : pager.getD [] = [])
    {lines : List Text} (hstarts : Session.StartsWith environment files lines)
    (hself : ∀ t ∈ (plain environment supply pager files).given lines, Session.IsSelfContained t) :
    ((plain environment supply pager files).ending = .exit 0 ∧
        (plain environment supply pager files).Leaves environment supply
          ⟨{ pager }, .plain, files⟩) ∨
      ∃ halt, (plain environment supply pager files).ending = .uncaught halt ∧
        Session.HaltsAt environment (· ∈ (plain environment supply pager files).given lines) lines
          halt := by
  obtain ⟨hsound, hhalts⟩ := Session.load_spec houtput hstores hstarts hself
    (fun line hline => List.mem_append_left _ hline) (sound_fresh _ hpager files)
  cases hhalt : (Session.load environment none ⟨{ pager }, .plain, files⟩).halt with
  | some halt => exact .inr ⟨halt, plain_of_halt hhalt, hhalts halt hhalt⟩
  | none =>
    have hstart := start_of_loaded hterminal hhalt supply.input
    have hgoes := openDialogue_goesOn houtput hsound
      (Session.load environment none ⟨{ pager }, .plain, files⟩).events
    generalize (openDialogue environment _).prepend _ [] = dialogue at hstart hgoes
    have hrun := plain_of_waiting hstart
    have hexchanges := (congrArg Run.exchanges hrun).trans (exchanges_ofDialogue _)
    have hgiven {t : Text} (ht : .submitted t ∈ (dialogue.stage.pressAll environment
        supply.keys).exchanges) : t ∈ (plain environment supply pager files).given lines :=
      mem_given (hexchanges ▸ List.mem_append_right _ ht) lines
    cases hgoes with
    | @broken session halt hstage hbreaks =>
      have hfailed : (dialogue.andThen fun stage =>
          stage.pressAll environment supply.keys).stage = .failed session halt := by
        rw [Dialogue.andThen, hstage, pressAll_failed]
        rfl
      exact .inr ⟨halt, hrun ▸ ending_of_failed hfailed, .breaks hbreaks⟩
    | @typing session buffer hstage hsound =>
      rw [hstage] at hgiven
      have hends := Stage.pressAll_ends houtput hstores hself hsound fun t ht => hgiven ht
      rw [← hstage] at hends
      cases hends with
      | endOfInput hleft h =>
        exact .inl ⟨hrun ▸ ending_of_left hleft, .endOfInput hstart h⟩
      | quit hleft hlast h =>
        refine .inl ⟨hrun ▸ ending_of_left hleft, .quit ?_ h⟩
        rw [hexchanges, Dialogue.andThen, Dialogue.prepend, List.getLast?_append, hlast]
        rfl
      | broken hfailed hbreaks =>
        exact .inr ⟨_, hrun ▸ ending_of_failed hfailed, .breaks hbreaks⟩

/-- A startup file sets a prompt and redirects, and the texts after it are split, left open, dropped
and rejected. -/
theorem plain_ends_endOfInput :
    let environment : Environment := { terminal := true, home := "home" }
    let content : Text := "-- mine\r\n\\set prompt2 %R>\r\n\n \\o out\rset x"
    let files : Files :=
      ⟨[(["home"], .directory), (["home", ".sqlsplitsrc"], .file (.text content))]⟩
    let supply : Supply := ⟨[], [.enter "a;", .enter "b'", .interrupt, .enter "\\t maybe"]⟩
    let lines : List Text :=
      ["-- mine".toList, "\\set prompt2 %R>".toList, [], "\\o out".toList, "set x".toList]
    let run := plain environment supply none files
    environment.Takes Event.isOutput ∧ (∀ location, environment.Stores location) ∧
      Session.StartsWith environment files lines ∧
      (∀ t ∈ run.given lines, Session.IsSelfContained t) ∧
      run.ending = .exit 0 ∧ run.Leaves environment supply ⟨{}, .plain, files⟩ ∧
      run.session.files.content? ["out".toList] = some (.text "a;\n") := by
  intro environment content files supply lines run
  have hlines : content.unifyLineEnds.lines.map Text.trim = lines := by decide +kernel
  have hlocate : files.locateFile (Session.startupFile environment) =
      .ok ["home".toList, ".sqlsplitsrc".toList] := by rfl
  have hcontent : files.content? ["home".toList, ".sqlsplitsrc".toList] = some (.text content) := by
    decide +kernel
  have hstarts : Session.StartsWith environment files lines :=
    hlines ▸ .file hlocate hcontent (by decide +kernel) (.inl (by decide +kernel))
  have hself : ∀ t ∈ run.given lines, Session.IsSelfContained t := by decide +kernel
  have hstatus : run.ending.status? = some 0 := by decide +kernel
  have hterminal : environment.terminal = true := rfl
  have houtput : environment.Takes Event.isOutput := fun _ _ _ => rfl
  have hstores (location : Location) : environment.Stores location := fun _ => rfl
  refine ⟨houtput, hstores, hstarts, hself, ?_⟩
  obtain ⟨hending, hleaves⟩ | ⟨halt, hending, -⟩ :=
    plain_ends hterminal houtput hstores rfl hstarts hself
  · exact ⟨hending, hleaves, by decide +kernel⟩
  · rw [hending] at hstatus
    cases hstatus

/-- A prompt that is set to nothing breaks the dialogue that shows it. -/
theorem not_exit_of_missing_prompt :
    ¬∀ (environment : Environment) (supply : Supply) (pager : Option Text) (files : Files)
      (lines : List Text), environment.terminal = true → environment.Takes Event.isOutput →
        (∀ location, environment.Stores location) → pager.getD [] = [] →
        Session.StartsWith environment files lines →
        (∀ t ∈ (plain environment supply pager files).given lines, Session.IsSelfContained t) →
          (plain environment supply pager files).ending = .exit 0 := by
  intro h
  have hexit := h { terminal := true, home := "home" } ⟨[], [.enter "\\set prompt1"]⟩ none ⟨[]⟩ []
    rfl (fun _ _ _ => rfl) (fun _ _ => rfl) rfl (.nothing (by decide +kernel)) (by decide +kernel)
  have hstatus := congrArg Ending.status? hexit
  revert hstatus
  decide +kernel

end Run

end SqlBoundary
