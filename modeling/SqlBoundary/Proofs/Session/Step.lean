import SqlBoundary.Session.Startup
import SqlBoundary.Proofs.Session.Delivery
import SqlBoundary.Proofs.Text.Trim

/-! # Steps of a session

A step runs a text or a line of a startup file. A text comes down to one that has no file run, which
is split, rejected or executed, and most of what is executed adjusts a setting.
-/

namespace SqlBoundary

inductive Step
  | command (t : Text)
  | line (file : Text) (number : Nat) (t : Text)
deriving DecidableEq

namespace Step

def text : Step → Text
  | command t => t
  | line _ _ t => t

def take (environment : Environment) : Step → Session → Outcome
  | command t => Session.run environment t
  | line file number t => Session.runLine environment file number t

end Step

theorem isMetacommand_of_head? {t : Text} (h : t.head? = some '\\') : isMetacommand t = true := by
  obtain ⟨rest, rfl⟩ := List.head?_eq_some_iff.1 h
  have htrim : (Text.trim ('\\' :: rest)).head? = some '\\' := by
    obtain ⟨w, hw, hrest⟩ := Text.exists_trim_append ('\\' :: rest)
    cases hcut : Text.trim ('\\' :: rest) with
    | nil =>
      rw [hcut, List.nil_append] at hrest
      rw [← hrest] at hw
      cases Text.isBlank_iff.1 hw '\\' List.mem_cons_self
    | cons c cut =>
      rw [hcut] at hrest
      exact congrArg some (List.cons.inj hrest).1.symm
  rw [isMetacommand, htrim, Bool.or_eq_true]
  exact .inr rfl

/-- Sessions that begin with the default settings and go on by steps in environments of a kind. -/
inductive Session.Reachable (kind : Environment → Prop) : Session → Prop
  | fresh (pager : Option Text) (files : Files) : Reachable kind ⟨{ pager }, .plain, files⟩
  | step {session : Session} (h : Reachable kind session) {environment : Environment}
      (henvironment : kind environment) (step : Step) :
      Reachable kind (step.take environment session).session

/-- The outcomes of steps taken one after another, also after one that halts. -/
def Session.outcomes (session : Session) : List (Environment × Step) → List Outcome
  | [] => []
  | (environment, step) :: steps =>
    step.take environment session :: (step.take environment session).session.outcomes steps

def Session.after (session : Session) (steps : List (Environment × Step)) : Session :=
  steps.foldl (fun session step => (step.2.take step.1 session).session) session

/-- What a command can do that sets a switch, the format or a separator, or tells of it. -/
inductive Adjustment
  | turn (switch : Switch) (value : Bool)
  | flip (switch : Switch)
  | reject (switch : Switch) (d : Text)
  | format (value : Text) (known : value ∈ formatNames)
  | fieldSeparator (separator : Text)
  | recordSeparator (separator : Text)
  | showFieldSeparator
  | showRecordSeparator
  | complain (d : Text)

namespace Adjustment

def make (session : Session) : Adjustment → Outcome
  | turn switch value => session.turn switch value
  | flip switch => session.turn switch (!session.settings.isOn switch)
  | reject switch d =>
    (session.turn switch (session.settings.isOn switch)).prepend [.diagnostic d]
  | format value _ =>
    { session with settings := { session.settings with format := value } }.confirm
      ("Output format is \"".toList ++ value ++ "\".\n".toList)
  | fieldSeparator separator => session.setFieldSeparator separator
  | recordSeparator separator => session.setRecordSeparator separator
  | showFieldSeparator => session.showFieldSeparator
  | showRecordSeparator => session.setOption .recordSeparator none
  | complain d => .done session [.diagnostic d]

theorem exists_turnCommand (switch : Switch) (argument : Option Text) :
    ∃ a : Adjustment, ∀ session : Session,
      session.turnCommand switch argument = a.make session := by
  cases argument with
  | none => exact ⟨.flip switch, fun _ => rfl⟩
  | some argument =>
    simp only [Session.turnCommand]
    cases readSwitch? argument with
    | some value => exact ⟨.turn switch value, fun _ => rfl⟩
    | none => exact ⟨.reject switch _, fun _ => rfl⟩

theorem exists_setOption (option : ReportOption) (value : Option Text) :
    ∃ a : Adjustment, ∀ session : Session, session.setOption option value = a.make session := by
  cases option with
  | format =>
    simp only [Session.setOption, Session.setFormat]
    cases hvalue : value.filter formatNames.contains with
    | some format =>
      have hknown : format ∈ formatNames :=
        List.contains_iff_mem.1 (Option.filter_eq_some_iff.1 hvalue).2
      exact ⟨.format format hknown, fun _ => rfl⟩
    | none => exact ⟨.complain _, fun _ => rfl⟩
  | tuplesOnly =>
    cases value with
    | none => exact ⟨.flip .tuplesOnly, fun _ => rfl⟩
    | some value => exact ⟨.turn .tuplesOnly _, fun _ => rfl⟩
  | fieldSeparator =>
    cases value with
    | none => exact ⟨.showFieldSeparator, fun _ => rfl⟩
    | some value => exact ⟨.fieldSeparator value, fun _ => rfl⟩
  | recordSeparator =>
    cases value with
    | none => exact ⟨.showRecordSeparator, fun _ => rfl⟩
    | some value => exact ⟨.recordSeparator value, fun _ => rfl⟩
  | fieldSeparatorZero => exact ⟨.fieldSeparator _, fun _ => rfl⟩
  | recordSeparatorZero => exact ⟨.recordSeparator _, fun _ => rfl⟩

theorem exists_optionCommand (argument : Option Text) :
    ∃ a : Adjustment, ∀ session : Session, session.optionCommand argument = a.make session := by
  unfold Session.optionCommand
  dsimp only
  split
  next option _ => exact exists_setOption option _
  next => exact ⟨.complain _, fun _ => rfl⟩

end Adjustment

/-- A command makes an adjustment, or it is one of six that do something else. -/
inductive Keyword.Executes (argument : Option Text) : Keyword → Prop
  | adjustment {keyword : Keyword} (a : Adjustment)
    (h : ∀ (session : Session) (environment : Environment),
      session.execute environment argument keyword = a.make session) : Executes argument keyword
  | redirect : Executes argument redirect
  | help : Executes argument help
  | summary : Executes argument summary
  | quit : Executes argument quit
  | assign : Executes argument assign
  | unassign : Executes argument unassign

theorem Keyword.executes (argument : Option Text) (keyword : Keyword) :
    keyword.Executes argument := by
  cases keyword with
  | redirect => exact .redirect
  | fieldSeparator =>
    cases argument with
    | none => exact .adjustment .showFieldSeparator fun _ _ => rfl
    | some separator => exact .adjustment (.fieldSeparator separator) fun _ _ => rfl
  | help => exact .help
  | summary => exact .summary
  | quit => exact .quit
  | assign => exact .assign
  | unassign => exact .unassign
  | option =>
    obtain ⟨a, ha⟩ := Adjustment.exists_optionCommand argument
    exact .adjustment a fun session _ => ha session
  | turn switch =>
    obtain ⟨a, ha⟩ := Adjustment.exists_turnCommand switch argument
    exact .adjustment a fun session _ => ha session

theorem Keyword.ofName?_name (keyword : Keyword) : ofName? keyword.name = some keyword := by
  cases keyword with
  | turn switch => cases switch <;> decide
  | redirect | fieldSeparator | help | summary | quit | assign | unassign | option => decide

theorem Keyword.name_injective {keyword other : Keyword} (h : keyword.name = other.name) :
    keyword = other := by
  have hname := congrArg ofName? h
  rw [ofName?_name, ofName?_name] at hname
  exact Option.some.inj hname

theorem Keyword.name_ne_readName (keyword : Keyword) : keyword.name ≠ Session.readName := by
  cases keyword with
  | turn switch => cases switch <;> decide
  | redirect | fieldSeparator | help | summary | quit | assign | unassign | option => decide

namespace Session

variable {session : Session}

theorem fileOf?_eq_none_of_not_isMetacommand {t : Text} (h : isMetacommand t = false) :
    fileOf? t = none := by
  rw [fileOf?, (Metacommand.read_eq_notCommand_iff t).2 h]

theorem selects_eq_false_of_not_isMetacommand {t : Text} (h : isMetacommand t = false) :
    selects t = false := by
  rw [selects, (Metacommand.read_eq_notCommand_iff t).2 h]

theorem perform_of_not_isMetacommand (environment : Environment) {t : Text}
    (h : isMetacommand t = false) (session : Session) :
    session.perform environment t = session.split environment t := by
  rw [perform, (Metacommand.read_eq_notCommand_iff t).2 h]

theorem name_of_ofName? {name : Text} {keyword : Keyword}
    (h : Keyword.ofName? name = some keyword) : keyword.name = name := by
  unfold Keyword.ofName? at h
  simpa using List.find?_some h

/-- A text is split, or it is no command that is known and is answered with a diagnostic, or it is a
command that is executed. -/
theorem perform_cases (environment : Environment) (t : Text) :
    (isMetacommand t = false ∧ ∀ session : Session,
        session.perform environment t = session.split environment t) ∨
      ((∀ keyword argument, Metacommand.read t ≠ .command (Keyword.name keyword) argument) ∧
        ∃ d, ∀ session : Session,
          session.perform environment t = .done session [.diagnostic d]) ∨
      ∃ keyword argument, Metacommand.read t = .command keyword.name argument ∧
        ∀ session : Session,
          session.perform environment t = session.execute environment argument keyword := by
  cases hread : Metacommand.read t with
  | notCommand =>
    have hcommand := (Metacommand.read_eq_notCommand_iff t).1 hread
    exact .inl ⟨hcommand, perform_of_not_isMetacommand environment hcommand⟩
  | malformed =>
    exact .inr (.inl ⟨fun _ _ => nofun, _, fun session => by rw [perform, hread]; rfl⟩)
  | command name argument =>
    by_cases hname : name = readName
    · refine .inr (.inl ⟨fun keyword other h => ?_, "\\i: missing required argument\n",
        fun session => ?_⟩)
      · exact keyword.name_ne_readName ((Metacommand.Reading.command.inj h).1.symm.trans hname)
      · rw [perform, hread]
        exact if_pos hname
    · cases hkeyword : Keyword.ofName? name with
      | none =>
        refine .inr (.inl ⟨fun keyword other h => ?_, "invalid command ".toList ++ '\\' :: name ++
          "\nTry \\? for help.\n".toList, fun session => ?_⟩)
        · rw [(Metacommand.Reading.command.inj h).1, keyword.ofName?_name] at hkeyword
          cases hkeyword
        · rw [perform, hread]
          simp only [if_neg hname, hkeyword]
          rfl
      | some keyword =>
        rw [← name_of_ofName? hkeyword]
        refine .inr (.inr ⟨keyword, argument, rfl, fun session => ?_⟩)
        rw [perform, hread]
        simp only [if_neg hname, hkeyword]

theorem perform_of_read (environment : Environment) {t : Text} {keyword : Keyword}
    {argument : Option Text} (h : Metacommand.read t = .command keyword.name argument)
    (session : Session) :
    session.perform environment t = session.execute environment argument keyword := by
  rw [perform, h]
  simp only [if_neg keyword.name_ne_readName, keyword.ofName?_name]

/-- A command is executed as far as the standard output takes what it writes. -/
theorem run_of_read (environment : Environment) {t : Text} {keyword : Keyword}
    {argument : Option Text} (h : Metacommand.read t = .command keyword.name argument)
    (session : Session) :
    run environment t session =
      (session.execute environment argument keyword).delivered environment.obstacle? := by
  have hfile : fileOf? t = none := by
    rw [fileOf?, h]
    exact if_neg keyword.name_ne_readName
  rw [run_of_fileOf?_eq_none environment hfile, perform_of_read environment h]

theorem readFile_congr {other : Session} (h : other.files = session.files) (path : Text) :
    other.readFile path = session.readFile path := by
  rw [readFile, openFile, h]
  rfl

/-- The text that running a text comes down to, through the files that it has run, with the levels
left below it; none where one of them cannot be read or they are nested too deeply. -/
def resolve (session : Session) (nesting : Nat) (t : Text) : Option (Nat × Text) :=
  match fileOf? t with
  | none => some (nesting, t)
  | some path =>
    match session.readFile path, nesting with
    | .error _, _ | .ok _, 0 => none
    | .ok u, nesting + 1 => session.resolve nesting u

/-- In all sessions with the same files a text comes down to the one that it resolves to, which has
no file run, or it comes to a halt before anything is done. -/
theorem runNested_resolves (session : Session) (environment : Environment) (nesting : Nat)
    (t : Text) :
    (session.resolve nesting t = none ∧ ∃ halt, ∀ other : Session,
        other.files = session.files →
          runNested environment nesting t other = .halted other halt) ∨
      ∃ n u, session.resolve nesting t = some (n, u) ∧ fileOf? u = none ∧ ∀ other : Session,
        other.files = session.files →
          runNested environment nesting t other = other.attempt environment n u := by
  induction nesting generalizing t with
  | zero =>
    rw [resolve]
    cases hfile : fileOf? t with
    | none =>
      exact .inr ⟨0, t, rfl, hfile, fun other _ => runNested_of_fileOf?_eq_none _ 0 hfile other⟩
    | some path =>
      dsimp only
      have hrun (other : Session) := runNested_of_fileOf? environment 0 hfile other
      refine .inl ?_
      cases hread : session.readFile path with
      | error halt =>
        exact ⟨rfl, halt, fun other h => by rw [hrun, readFile_congr h, hread]⟩
      | ok u =>
        exact ⟨rfl, .nestedTooDeeply, fun other h => by rw [hrun, readFile_congr h, hread]⟩
  | succ nesting ih =>
    rw [resolve]
    cases hfile : fileOf? t with
    | none =>
      exact .inr ⟨nesting + 1, t, rfl, hfile,
        fun other _ => runNested_of_fileOf?_eq_none _ _ hfile other⟩
    | some path =>
      dsimp only
      have hrun (other : Session) := runNested_of_fileOf? environment (nesting + 1) hfile other
      cases hread : session.readFile path with
      | error halt =>
        exact .inl ⟨rfl, halt, fun other h => by rw [hrun, readFile_congr h, hread]⟩
      | ok u =>
        have hinner {other : Session} (h : other.files = session.files) :
            runNested environment (nesting + 1) t other =
              runNested environment nesting u other := by
          rw [hrun, readFile_congr h, hread]
        obtain ⟨hresolve, halt, hhalt⟩ | ⟨n, v, hresolve, hv, hsame⟩ := ih u
        · exact .inl ⟨hresolve, halt, fun other h => (hinner h).trans (hhalt other h)⟩
        · exact .inr ⟨n, v, hresolve, hv, fun other h => (hinner h).trans (hsame other h)⟩

/-- A line of a startup file is run as a command, sets the parameter, or is passed over, with or
without a diagnostic. -/
theorem runLine_cases (environment : Environment) (file : Text) (number : Nat) (line : Text) :
    (isMetacommand line = true ∧ ∀ session,
        runLine environment file number line session = run environment line session) ∨
      (∃ value, ∀ session : Session, runLine environment file number line session =
        (session.turn .standardStrings value).delivered environment.obstacle?) ∨
      ∃ ds : List Text, ∀ session, runLine environment file number line session =
        .done session (ds.map .diagnostic) := by
  unfold runLine
  split
  next => exact .inr (.inr ⟨[], fun _ => rfl⟩)
  next =>
    split
    next hhead => exact .inl ⟨isMetacommand_of_head? hhead, fun _ => rfl⟩
    next =>
      split
      next value _ => exact .inr (.inl ⟨value, fun _ => rfl⟩)
      next => exact .inr (.inr ⟨[_], fun _ => rfl⟩)

end Session

/-- What a step does in all sessions with the same files: it halts before anything is done, does what
a text says, sets the parameter of the dialect, or writes diagnostics. -/
inductive Step.Does (environment : Environment) (session : Session) (step : Step) : Prop
  | halted (halt : Halt)
    (h : ∀ other : Session, other.files = session.files →
      step.take environment other = .halted other halt)
  | attempt (nesting : Nat) (t : Text)
    (h : ∀ other : Session, other.files = session.files →
      step.take environment other = other.attempt environment nesting t)
  | turn (value : Bool)
    (h : ∀ other : Session, step.take environment other =
      (other.turn .standardStrings value).delivered environment.obstacle?)
  | tell (ds : List Text)
    (h : ∀ other : Session, step.take environment other = .done other (ds.map .diagnostic))

theorem Step.does (step : Step) (environment : Environment) (session : Session) :
    step.Does environment session := by
  have hrun : (command step.text).Does environment session := by
    obtain ⟨-, halt, hrun⟩ | ⟨n, u, -, -, hrun⟩ :=
      session.runNested_resolves environment environment.host.maxNesting step.text
    · exact .halted halt hrun
    · exact .attempt n u hrun
  cases step with
  | command t => exact hrun
  | line file number t =>
    obtain ⟨-, hline⟩ | ⟨value, hline⟩ | ⟨ds, hline⟩ :=
      Session.runLine_cases environment file number t
    · cases hrun with
      | halted halt h => exact .halted halt fun other hfiles => (hline other).trans (h other hfiles)
      | attempt n u h => exact .attempt n u fun other hfiles => (hline other).trans (h other hfiles)
      | turn value h => exact .turn value fun other => (hline other).trans (h other)
      | tell ds h => exact .tell ds fun other => (hline other).trans (h other)
    · exact .turn value hline
    · exact .tell ds hline

/-- What holds of a session and is kept by whatever is attempted, is kept by a step. -/
theorem Step.take_invariant (P : Session → Prop) {environment : Environment}
    (hattempt : ∀ nesting t (session : Session), P session →
      P (session.attempt environment nesting t).session)
    (hturn : ∀ value (session : Session), P session →
      P (session.turn .standardStrings value).session)
    (step : Step) {session : Session} (h : P session) :
    P (step.take environment session).session := by
  cases step.does environment session with
  | halted halt hstep =>
    rw [hstep session rfl]
    exact h
  | attempt nesting t hstep =>
    rw [hstep session rfl]
    exact hattempt nesting t session h
  | turn value hstep =>
    rw [hstep session]
    exact hturn value session h
  | tell ds hstep =>
    rw [hstep session]
    exact h

end SqlBoundary
