import SqlBoundary.Proofs.Session.Output
import SqlBoundary.Proofs.Session.Step

/-! # What can follow a step

Every command keeps the settings, or it changes them and tells of no failure, unless the output file
cannot be closed. In all sessions that steps reach the highlighter goes with its setting, if the
stack never runs out between the two.
-/

namespace SqlBoundary

/-- A text on the standard error, or the report that an output file cannot be opened. -/
def Event.TellsFailure (e : Event) : Prop :=
  e.errorOutput false ≠ [] ∨ ∃ path, e = .report (path ++ ": No such file or directory\n".toList)

theorem Event.not_tellsFailure_echo (t : Text) : ¬(echo t).TellsFailure := by
  rintro (herror | ⟨path, hpath⟩)
  · exact herror rfl
  · cases hpath

theorem Event.not_tellsFailure_device (t : Text) : ¬(device t).TellsFailure := by
  rintro (herror | ⟨path, hpath⟩)
  · exact herror rfl
  · cases hpath

namespace Outcome

/-- A step fails when it halts or tells of a failure. -/
def Failed (o : Outcome) : Prop := o.halt.isSome ∨ ∃ e ∈ o.events, e.TellsFailure

/-- The step goes through, and all that is shown of it are echoes. -/
structure Confirmed (o : Outcome) : Prop where
  halt : o.halt = none
  events : ∀ e ∈ o.events, (∃ t, e = .echo t) ∨ ∃ t, e = .device t

theorem Confirmed.not_failed {o : Outcome} (h : o.Confirmed) : ¬o.Failed := by
  rintro (hhalt | ⟨e, he, hfailure⟩)
  · rw [h.halt] at hhalt
    cases hhalt
  · obtain ⟨t, rfl⟩ | ⟨t, rfl⟩ := h.events e he
    · exact Event.not_tellsFailure_echo t hfailure
    · exact Event.not_tellsFailure_device t hfailure

/-- Echoes that are taken are all shown. -/
theorem Confirmed.delivered_eq_self {o : Outcome} (h : o.Confirmed)
    {obstacle? : Event → Option Obstacle} (hechoes : ∀ t, obstacle? (.echo t) = none) :
    o.delivered obstacle? = o := by
  refine Outcome.delivered_eq_self fun e he => ?_
  obtain ⟨t, rfl⟩ | ⟨t, rfl⟩ := h.events e he
  · exact fun _ => hechoes t
  · exact Event.passes_of_not_isOutput rfl

theorem confirmed_silent (session : Session) : (done session []).Confirmed :=
  ⟨rfl, fun _ he => nomatch he⟩

theorem confirmed_onlyShown {session : Session} {events : List Event} (h : OnlyShown events) :
    (done session events).Confirmed :=
  ⟨rfl, fun e he => .inr (h e he)⟩

end Outcome

namespace Session

/-- The highlighter is the one that the setting asks for. -/
def Coherent (session : Session) : Prop :=
  session.highlighter = if session.settings.highlight then .sql else .plain

/-- The settings, the open output file among them, and the highlighter are as they were. -/
structure Keeps (session : Session) (o : Outcome) : Prop where
  settings : o.session.settings.unwritten = session.settings.unwritten
  highlighter : o.session.highlighter = session.highlighter

/-- What can follow a step: the settings as they were, or others without a failure, or an output
file that could not be closed. -/
inductive Follows (environment : Environment) (session : Session) (o : Outcome) : Prop
  | kept (h : session.Keeps o)
  | changed (confirmed : o.Confirmed) (coherent : o.session.Coherent)
  | unclosed (h : ¬session.Closes environment) (coherent : o.session.Coherent)

variable {session : Session} {environment : Environment}

theorem Keeps.coherent {o : Outcome} (h : session.Keeps o) (hsession : session.Coherent) :
    o.session.Coherent := by
  have hhighlight : o.session.settings.highlight = session.settings.highlight :=
    (congrArg Settings.highlight h.settings :)
  rw [Coherent, h.highlighter, hhighlight]
  exact hsession

theorem Follows.coherent {o : Outcome} (h : session.Follows environment o)
    (hsession : session.Coherent) : o.session.Coherent := by
  cases h with
  | kept h => exact h.coherent hsession
  | changed confirmed coherent => exact coherent
  | unclosed h coherent => exact coherent

theorem coherent_fresh (pager : Option Text) (files : Files) :
    (⟨{ pager }, .plain, files⟩ : Session).Coherent := rfl

theorem keeps_of_session {o : Outcome} (h : o.session = session) : session.Keeps o :=
  ⟨by rw [h], by rw [h]⟩

theorem follows_of_session {o : Outcome} (h : o.session = session) :
    session.Follows environment o := .kept (keeps_of_session h)

theorem confirmed_confirm (session : Session) (t : Text) : (session.confirm t).Confirmed := by
  refine ⟨rfl, fun e he => ?_⟩
  simp only [confirm, Outcome.done] at he
  split at he
  · cases he
  · exact .inl ⟨t, List.mem_singleton.1 he⟩

theorem follows_confirm {next : Session} (h : next.Coherent) (t : Text) :
    session.Follows environment (next.confirm t) :=
  .changed (next.confirmed_confirm t) h

theorem coherent_turn (h : session.Coherent) (switch : Switch) (value : Bool) :
    (session.turn switch value).session.Coherent := by
  cases switch with
  | highlight => exact rfl
  | timing | tuplesOnly | color | stripComments | keepEmpty | standardStrings => exact h

theorem follows_turn (h : session.Coherent) (switch : Switch) (value : Bool) :
    session.Follows environment (session.turn switch value) :=
  follows_confirm (coherent_turn h switch value) _

/-- Turning a switch to what it is changes nothing. -/
theorem turn_isOn (h : session.Coherent) (switch : Switch) :
    (session.turn switch (session.settings.isOn switch)).session = session := by
  have hsettings := session.settings.turn_isOn switch
  have hhighlighter : (session.turn switch (session.settings.isOn switch)).session.highlighter =
      session.highlighter := by
    cases switch with
    | highlight => exact h.symm
    | timing | tuplesOnly | color | stripComments | keepEmpty | standardStrings => rfl
  calc (session.turn switch (session.settings.isOn switch)).session
      = ⟨session.settings.turn switch (session.settings.isOn switch),
          (session.turn switch (session.settings.isOn switch)).session.highlighter,
          session.files⟩ := rfl
    _ = session := by rw [hsettings, hhighlighter]

theorem follows_make (h : session.Coherent) (a : Adjustment) :
    session.Follows environment (a.make session) := by
  cases a with
  | turn switch value => exact follows_turn h switch value
  | flip switch => exact follows_turn h switch _
  | reject switch d => exact follows_of_session (turn_isOn h switch)
  | format | fieldSeparator | recordSeparator => exact follows_confirm (by exact h) _
  | showFieldSeparator | showRecordSeparator | complain => exact follows_of_session rfl

theorem highlight_assign? {settings next : Settings} {name : Text} {value : Option Text}
    (h : settings.assign? name value = some next) :
    next.highlight = settings.highlight ∧ next.format = settings.format := by
  unfold Settings.assign? at h
  dsimp only at h
  repeat' split at h
  all_goals
    simp only [Option.some.injEq, Option.map_eq_some_iff] at h
    grind

theorem follows_assignCommand (h : session.Coherent) (argument : Option Text) :
    session.Follows environment (session.assignCommand argument) := by
  cases argument with
  | none => exact follows_of_session rfl
  | some argument =>
    simp only [assignCommand]
    split
    next settings hassign =>
      refine .changed (Outcome.confirmed_silent _) ?_
      change session.highlighter = if settings.highlight then .sql else .plain
      rw [(highlight_assign? hassign).1]
      exact h
    next => exact follows_of_session rfl

theorem Coherent.withOutput (h : session.Coherent) (files : Files) (output : Option OutputFile) :
    ({ session with files }.withOutput output).Coherent := h

theorem follows_closeOutput (h : session.Coherent) :
    session.Follows environment (session.closeOutput environment) := by
  obtain ⟨files, events, hevents, hclose⟩ | ⟨hcloses, file, fault, hclose⟩ :=
    session.closeOutput_cases environment
  · rw [hclose]
    exact .changed (Outcome.confirmed_onlyShown hevents) (h.withOutput files none)
  · rw [hclose]
    exact .unclosed hcloses (h.withOutput session.files (some file))

theorem follows_redirect (h : session.Coherent) (path : Option Text) :
    session.Follows environment (session.redirect environment path) := by
  unfold redirect
  split
  next => exact follows_closeOutput h
  next =>
    dsimp only
    split
    next => exact follows_of_session rfl
    next =>
      split
      next location files _ =>
        obtain ⟨left, events, hevents, hclose⟩ | ⟨hcloses, file, fault, hclose⟩ :=
          closeOutput_cases { session with files } environment
        · rw [hclose, Outcome.done_andThen]
          refine .changed ⟨rfl, fun e he => ?_⟩ (h.withOutput left (some { location }))
          simp only [Outcome.prepend, Outcome.done, List.append_nil] at he
          exact .inr (hevents e he)
        · rw [hclose, Outcome.andThen_of_halt rfl]
          exact .unclosed hcloses (h.withOutput files (some file))
      next => exact follows_of_session rfl

/-- Redirecting changes no setting but the output file. -/
theorem settings_redirect (session : Session) (environment : Environment) (path : Option Text) :
    ∃ output, (session.redirect environment path).session.settings =
      { session.settings with output } := by
  unfold redirect
  split
  next => exact session.settings_closeOutput environment
  next =>
    dsimp only
    split
    next => exact ⟨_, rfl⟩
    next =>
      split
      next location files _ =>
        obtain ⟨output, hclose⟩ := settings_closeOutput { session with files } environment
        unfold Outcome.andThen
        split
        next => exact ⟨output, hclose⟩
        next =>
          exact ⟨_, congrArg (fun s : Settings => { s with output := some { location } }) hclose⟩
      next => exact ⟨_, rfl⟩

theorem keeps_page (session : Session) (environment : Environment) (preparation : List Event)
    (t : Text) (unpaged : Event) :
    session.Keeps (session.page environment preparation t unpaged) := by
  unfold page
  split
  next => exact ⟨rfl, rfl⟩
  next =>
    split
    next => exact ⟨rfl, rfl⟩
    next => split <;> exact ⟨rfl, rfl⟩

theorem follows_execute (h : session.Coherent) (argument : Option Text) (keyword : Keyword) :
    session.Follows environment (session.execute environment argument keyword) := by
  cases keyword.executes argument with
  | adjustment a hexecute =>
    rw [hexecute]
    exact follows_make h a
  | redirect => exact follows_redirect h argument
  | help => exact .kept (keeps_page session environment [] _ _)
  | summary | quit => exact follows_of_session rfl
  | assign => exact follows_assignCommand h argument
  | unassign =>
    cases argument <;> exact .changed (Outcome.confirmed_silent _) h

theorem keeps_store (environment : Environment) {file : OutputFile}
    (hfile : session.settings.output = some file) (t : Text) :
    session.Keeps (session.store environment file t) := by
  obtain ⟨fault, -, hstore⟩ | ⟨-, files, offset, events, -, hstore⟩ :=
    session.store_cases environment file t
  · rw [hstore]
    exact ⟨session.unwritten_withOutput hfile file.offset _, rfl⟩
  · rw [hstore]
    exact ⟨session.unwritten_withOutput hfile offset [], rfl⟩

theorem keeps_write (session : Session) (environment : Environment) (statements : List Text)
    (points : List SplitPoint) : session.Keeps (session.write environment statements points) := by
  unfold write
  dsimp only
  split
  next file hfile =>
    split
    next => exact ⟨rfl, rfl⟩
    next =>
      have hkeeps := keeps_store environment hfile
        (Report.render environment.host.markUp session.settings statements points)
      exact ⟨hkeeps.settings, hkeeps.highlighter⟩
  next => exact keeps_page session environment _ _ _

theorem session_forgive (o : Outcome) : o.forgive.session = o.session := by
  unfold Outcome.forgive
  split <;> rfl

theorem session_andThen_reportTiming (environment : Environment) (o : Outcome) :
    (o.andThen (reportTiming environment)).session = o.session := by
  unfold Outcome.andThen
  split <;> rfl

theorem keeps_split (session : Session) (environment : Environment) (t : Text) :
    session.Keeps (session.split environment t) := by
  unfold split
  dsimp only
  split
  next => exact ⟨rfl, rfl⟩
  next =>
    have hkeeps := session.keeps_write environment
      (selectStatements t (scan t session.settings.standardStrings).points
        session.settings.stripComments session.settings.keepEmpty)
      (scan t session.settings.standardStrings).points
    constructor
    · rw [Outcome.prepend, session_andThen_reportTiming, session_forgive]
      exact hkeeps.settings
    · rw [Outcome.prepend, session_andThen_reportTiming, session_forgive]
      exact hkeeps.highlighter

theorem follows_perform (h : session.Coherent) (environment : Environment) (t : Text) :
    session.Follows environment (session.perform environment t) := by
  obtain ⟨-, hperform⟩ | ⟨-, d, hperform⟩ | ⟨keyword, argument, -, hperform⟩ :=
    perform_cases environment t
  · rw [hperform]
    exact .kept (keeps_split session environment t)
  · rw [hperform]
    exact follows_of_session rfl
  · rw [hperform]
    exact follows_execute h argument keyword

theorem coherent_attempt (h : session.Coherent) (hselects : environment.Selects) (nesting : Nat)
    (t : Text) : (session.attempt environment nesting t).session.Coherent := by
  obtain ⟨-, hattempt⟩ | ⟨hmoment, -, -⟩ | hattempt := attempt_cases environment nesting t
  · rw [hattempt]
    exact h
  · exact absurd hmoment (moment?_ne_selection environment hselects nesting)
  · rw [hattempt]
    exact (follows_perform h environment t).coherent h

theorem coherent_take (h : session.Coherent) (hselects : environment.Selects) (step : Step) :
    (step.take environment session).session.Coherent :=
  step.take_invariant Coherent (fun nesting t _ h => coherent_attempt h hselects nesting t)
    (fun value _ h => coherent_turn h .standardStrings value) h

/-- In every session that is reached the highlighter goes with its setting, if the stack never runs
out between the two. -/
theorem Reachable.coherent (h : session.Reachable Environment.Selects) : session.Coherent := by
  induction h with
  | fresh pager files => exact coherent_fresh pager files
  | step h hselects step ih => exact coherent_take ih hselects step

end Session
end SqlBoundary
