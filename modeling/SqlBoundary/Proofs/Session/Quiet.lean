import SqlBoundary.Proofs.Session.Guise
import SqlBoundary.Proofs.Session.Output

/-! # What a quiet session leaves out

A quiet session is left by every step as one is that is not quiet. All it leaves out are the
messages that confirm a switch, the format or a separator, so that a step shows and halts as it
would have, if these messages can be written.
-/

namespace SqlBoundary

/-- The guise in which a session is quiet. -/
def Guise.hush : Guise := { silent := true }

theorem Guise.hush_session_of_quiet {session : Session} (h : session.settings.quiet = true) :
    hush.session session = session := by
  obtain ⟨s, highlighter, files⟩ := session
  simp only [Guise.session, settings, hush, Bool.true_or, id]
  rw [← h]

/-- The messages that confirm settings. -/
inductive Settings.Confirmation (s : Settings) : Text → Prop
  | switch (switch : Switch) :
    Confirmation s (switch.label ++ " is ".toList ++ onOff (s.isOn switch) ++ ".\n".toList)
  | format : Confirmation s ("Output format is \"".toList ++ s.format ++ "\".\n".toList)
  | fieldSeparator :
    Confirmation s ("Field separator is \"".toList ++ s.fieldSeparator ++ "\".\n".toList)
  | recordSeparator :
    Confirmation s ("Record separator is \"".toList ++ s.recordSeparator ++ "\".\n".toList)

namespace Outcome

/-- Every echo confirms a setting as it has become. -/
def Confirms (o : Outcome) : Prop := ∀ t, .echo t ∈ o.events → o.session.settings.Confirmation t

theorem Confirms.of_echoFree {o : Outcome} (h : EchoFree o.events) : o.Confirms :=
  fun t ht => nomatch h (.echo t) ht

theorem Confirms.prepend {o : Outcome} {events : List Event} (ho : o.Confirms)
    (h : EchoFree events) : (o.prepend events).Confirms := by
  intro t ht
  obtain ht | ht := List.mem_append.1 ht
  · exact nomatch h (.echo t) ht
  · exact ho t ht

theorem Confirms.delivered {o : Outcome} (h : o.Confirms) (obstacle? : Event → Option Obstacle) :
    (o.delivered obstacle?).Confirms :=
  fun t ht => h t (mem_of_mem_delivered ht)

theorem echoFree_unselected (o : Outcome) (highlighter : Highlighter) :
    EchoFree (o.unselected highlighter).events := by
  intro e he
  obtain ⟨-, houtput⟩ := List.mem_filter.1 he
  cases e with
  | echo => cases houtput
  | report | result | device | paged | diagnostic | trace => rfl

end Outcome

theorem OnlyShown.echoFree {events : List Event} (h : OnlyShown events) : EchoFree events := by
  intro e he
  obtain ⟨t, rfl⟩ := h e he
  rfl

namespace Session

variable (session : Session) (environment : Environment)

theorem confirms_confirm {t : Text} (h : session.settings.Confirmation t) :
    (session.confirm t).Confirms := by
  intro u hu
  simp only [confirm, Outcome.done] at hu
  split at hu
  · cases hu
  · obtain rfl := Event.echo.inj (List.mem_singleton.1 hu)
    exact h

theorem confirms_turn (switch : Switch) (value : Bool) :
    (session.turn switch value).Confirms := by
  refine confirms_confirm _ ?_
  have hvalue : (session.settings.turn switch value).isOn switch = value := by
    rw [Settings.isOn_turn, if_pos rfl]
  have hswitch := Settings.Confirmation.switch (s := session.settings.turn switch value) switch
  rwa [hvalue] at hswitch

theorem confirms_make (a : Adjustment) : (a.make session).Confirms := by
  cases a with
  | turn switch value => exact session.confirms_turn switch value
  | flip switch => exact session.confirms_turn switch _
  | reject switch d =>
    exact (session.confirms_turn switch _).prepend (by simp [Event.isEcho])
  | format value _ =>
    exact confirms_confirm _ (.format (s := { session.settings with format := value }))
  | fieldSeparator separator =>
    exact confirms_confirm _
      (.fieldSeparator (s := { session.settings with fieldSeparator := separator }))
  | recordSeparator separator =>
    exact confirms_confirm _
      (.recordSeparator (s := { session.settings with recordSeparator := separator }))
  | showFieldSeparator | showRecordSeparator | complain =>
    exact .of_echoFree (by simp [Adjustment.make, setOption, showFieldSeparator, Outcome.done,
      Event.isEcho])

theorem echoFree_assignCommand (argument : Option Text) :
    EchoFree (session.assignCommand argument).events := by
  unfold assignCommand
  split
  next => simp [Outcome.done, Event.isEcho]
  next =>
    dsimp only
    split <;> simp [Outcome.done, rejectedValue, Event.isEcho]

theorem echoFree_andThen {o : Outcome} {next : Session → Outcome} (ho : EchoFree o.events)
    (hnext : ∀ session, EchoFree (next session).events) : EchoFree (o.andThen next).events := by
  unfold Outcome.andThen
  split
  next => exact ho
  next => exact (echoFree_append _ _).2 ⟨ho, hnext o.session⟩

theorem echoFree_closeOutput : EchoFree (session.closeOutput environment).events := by
  obtain ⟨files, events, hevents, hclose⟩ | ⟨-, file, fault, hclose⟩ :=
    session.closeOutput_cases environment
  · rw [hclose]
    exact hevents.echoFree
  · rw [hclose]
    exact echoFree_nil

theorem echoFree_redirect (path : Option Text) :
    EchoFree (session.redirect environment path).events := by
  unfold redirect
  split
  next => exact session.echoFree_closeOutput environment
  next =>
    dsimp only
    split
    next => exact echoFree_nil
    next =>
      split
      next => exact echoFree_andThen (echoFree_closeOutput _ environment) fun _ => echoFree_nil
      next => simp [Outcome.done, Event.isEcho]

theorem echoFree_page {preparation : List Event} (hpreparation : EchoFree preparation) (t : Text)
    {unpaged : Event} (hunpaged : unpaged.isEcho = false) :
    EchoFree (session.page environment preparation t unpaged).events := by
  unfold page
  split
  next => simp [Outcome.done, hpreparation, hunpaged]
  next =>
    split
    next => exact echoFree_nil
    next =>
      split
      next => exact echoFree_nil
      next => simp [hpreparation, Event.isEcho]

theorem echoFree_store (file : OutputFile) (t : Text) :
    EchoFree (session.store environment file t).events := by
  obtain ⟨fault, -, hstore⟩ | ⟨-, files, offset, events, hevents, hstore⟩ :=
    session.store_cases environment file t
  · rw [hstore]
    exact echoFree_nil
  · rw [hstore]
    exact hevents.echoFree

theorem echoFree_traces (ts : List Text) : EchoFree (ts.map session.traceScan) :=
  List.forall_mem_map.2 fun _ _ => rfl

theorem echoFree_write (statements : List Text) (points : List SplitPoint) :
    EchoFree (session.write environment statements points).events := by
  unfold write
  dsimp only
  split
  next file _ =>
    split
    next => exact echoFree_nil
    next =>
      exact (echoFree_append _ _).2
        ⟨session.echoFree_traces _, session.echoFree_store environment file _⟩
  next => exact session.echoFree_page environment (session.echoFree_traces _) _ rfl

theorem events_forgive (o : Outcome) : o.forgive.events = o.events := by
  unfold Outcome.forgive
  split <;> rfl

theorem echoFree_reportTiming : EchoFree (reportTiming environment session).events := by
  unfold reportTiming
  split <;> simp [Outcome.done, Event.isEcho]

theorem echoFree_split (t : Text) : EchoFree (session.split environment t).events := by
  unfold split
  refine (echoFree_append _ _).2 ⟨by simp [traceScan, Event.isEcho], ?_⟩
  dsimp only
  split
  next => exact echoFree_nil
  next =>
    exact echoFree_andThen (by rw [events_forgive]; exact session.echoFree_write environment _ _)
      fun session => session.echoFree_reportTiming environment

theorem confirms_execute (argument : Option Text) (keyword : Keyword) :
    (session.execute environment argument keyword).Confirms := by
  cases keyword.executes argument with
  | adjustment a hexecute =>
    rw [hexecute]
    exact session.confirms_make a
  | redirect => exact .of_echoFree (session.echoFree_redirect environment argument)
  | help => exact .of_echoFree (session.echoFree_page environment echoFree_nil _ rfl)
  | summary => exact .of_echoFree (by simp [execute, Outcome.done, Event.isEcho])
  | quit | unassign => exact .of_echoFree echoFree_nil
  | assign => exact .of_echoFree (session.echoFree_assignCommand argument)

theorem confirms_perform (t : Text) : (session.perform environment t).Confirms := by
  obtain ⟨-, hcase⟩ | ⟨-, d, hcase⟩ | ⟨keyword, argument, -, hcase⟩ :=
    perform_cases environment t
  · rw [hcase]
    exact .of_echoFree (session.echoFree_split environment t)
  · rw [hcase]
    exact .of_echoFree (by simp [Outcome.done, Event.isEcho])
  · rw [hcase]
    exact session.confirms_execute environment argument keyword

theorem confirms_attempt (nesting : Nat) (t : Text) :
    (session.attempt environment nesting t).Confirms := by
  obtain ⟨-, hattempt⟩ | ⟨-, -, hattempt⟩ | hattempt := attempt_cases environment nesting t
  · rw [hattempt]
    exact .of_echoFree echoFree_nil
  · rw [hattempt]
    exact .of_echoFree (Outcome.echoFree_unselected _ _)
  · rw [hattempt]
    exact (session.confirms_perform environment t).delivered _

theorem confirms_take (step : Step) : (step.take environment session).Confirms := by
  cases step.does environment session with
  | halted halt h =>
    rw [h session rfl]
    exact .of_echoFree echoFree_nil
  | attempt nesting t h =>
    rw [h session rfl]
    exact session.confirms_attempt environment nesting t
  | turn value h =>
    rw [h session]
    exact (session.confirms_turn .standardStrings value).delivered _
  | tell ds h =>
    rw [h session]
    exact .of_echoFree (echoFree_diagnostics ds)

end Session

namespace Guise

variable (session : Session) (environment : Environment)

theorem hush_store (file : OutputFile) (t : Text) :
    (hush.session session).store environment file t =
      hush.outcome (session.store environment file t) := by
  unfold Session.store
  dsimp only
  cases environment.host.fileFault? file.location (file.pending ++ t) with
  | some fault => rfl
  | none =>
    dsimp only
    rw [hush.outcome_done (onlyShown_ite _ _).echoFree]
    rfl

theorem hush_closeOutput :
    (hush.session session).closeOutput environment =
      hush.outcome (session.closeOutput environment) := by
  unfold Session.closeOutput
  have houtput : (hush.session session).settings.output = session.settings.output := rfl
  rw [houtput]
  cases session.settings.output with
  | none => rfl
  | some file =>
    dsimp only
    split
    next => rfl
    next =>
      rw [hush_store]
      cases hhalt : (session.store environment file []).halt with
      | none => simp only [outcome, hhalt]; rfl
      | some halt => simp only [outcome, hhalt]; rfl

theorem hush_redirect (path : Option Text) :
    (hush.session session).redirect environment path =
      hush.outcome (session.redirect environment path) := by
  unfold Session.redirect
  generalize path.getD [] = path
  cases path with
  | nil => exact hush_closeOutput session environment
  | cons c rest =>
    have hfiles : (hush.session session).files = session.files := rfl
    simp only [hfiles]
    split
    next => rfl
    next =>
      cases session.files.create (environment.expandHome (c :: rest)) with
      | error fault => rfl
      | ok created =>
        have hclose := hush_closeOutput { session with files := created.2 } environment
        dsimp only
        rw [hush.outcome_andThen _ rfl, ← hclose]
        rfl

theorem hush_page {preparation : List Event} (hpreparation : EchoFree preparation) (t : Text)
    {unpaged : Event} (hunpaged : unpaged.isEcho = false) :
    (hush.session session).page environment preparation t unpaged =
      hush.outcome (session.page environment preparation t unpaged) := by
  have hpager : (hush.session session).pager? environment = session.pager? environment := rfl
  have hfiles : (hush.session session).files = session.files := rfl
  unfold Session.page
  simp only [hpager, hfiles]
  split
  next => rw [hush.outcome_done (by simp [hpreparation, hunpaged])]
  next =>
    split
    next => rfl
    next =>
      split
      next => rfl
      next paging _ =>
        have hevents : EchoFree (preparation ++ [.paged paging.output]) := by
          simp [hpreparation, Event.isEcho]
        simp only [outcome, hush.filter_shows hevents]
        rfl

theorem hush_write (statements : List Text) (points : List SplitPoint) :
    (hush.session session).write environment statements points =
      hush.outcome (session.write environment statements points) := by
  have htraces := session.echoFree_traces (Report.scanned session.settings statements)
  unfold Session.write
  have houtput : (hush.session session).settings.output = session.settings.output := rfl
  dsimp only
  rw [houtput]
  cases session.settings.output with
  | some file =>
    dsimp only
    split
    next => rfl
    next =>
      rw [hush.outcome_prepend htraces, ← hush_store]
      rfl
  | none => exact hush_page session environment htraces _ rfl

theorem outcome_forgive (g : Guise) (o : Outcome) :
    (g.outcome o).forgive = g.outcome o.forgive := by
  unfold Outcome.forgive
  dsimp only [outcome]
  split <;> rfl

theorem hush_reportTiming :
    Session.reportTiming environment (hush.session session) =
      hush.outcome (Session.reportTiming environment session) :=
  (hush.outcome_done (session.echoFree_reportTiming environment)).symm

theorem hush_split (t : Text) :
    (hush.session session).split environment t = hush.outcome (session.split environment t) := by
  unfold Session.split
  rw [hush.outcome_prepend (by simp [Session.traceScan, Event.isEcho])]
  have hsettings : (hush.session session).settings.standardStrings =
    session.settings.standardStrings := rfl
  dsimp only
  rw [hsettings]
  congr 1
  cases (scan t session.settings.standardStrings).unterminated with
  | some construct => rfl
  | none =>
    rw [hush.outcome_andThen _ (hush_reportTiming _ environment), ← outcome_forgive, ← hush_write]
    rfl

theorem hush_perform (t : Text) :
    (hush.session session).perform environment t =
      hush.outcome (session.perform environment t) := by
  cases hcommand : isMetacommand t with
  | false =>
    rw [Session.perform_of_not_isMetacommand environment hcommand,
      Session.perform_of_not_isMetacommand environment hcommand]
    exact hush_split session environment t
  | true =>
    exact perform_session hcommand (fun argument _ => hush_redirect session environment argument)
      (hush_page session environment echoFree_nil _ rfl)

theorem session_hush_take (step : Step) :
    (step.take environment (hush.session session)).session =
      hush.session (step.take environment session).session := by
  cases step.does environment session with
  | halted halt h =>
    rw [h session rfl, h (hush.session session) rfl]
    rfl
  | attempt nesting t h =>
    rw [h session rfl, h (hush.session session) rfl]
    exact session_attempt (hush_perform session environment t) nesting
  | turn value h =>
    rw [h, h, hush.turn_session]
    rfl
  | tell ds h =>
    rw [h, h]
    rfl

/-- Steps leave a quiet session as they leave the session, but quiet. -/
theorem hush_after (steps : List (Environment × Step)) :
    (hush.session session).after steps = hush.session (session.after steps) := by
  induction steps generalizing session with
  | nil => rfl
  | cons step steps ih =>
    have hstep := session_hush_take session step.1 step.2
    exact (congrArg (Session.after · steps) hstep).trans (ih _)

/-- A step of a quiet session is the step of the session, hushed, if echoes are taken. -/
theorem hush_take {environment : Environment} (hechoes : environment.Takes Event.isEcho)
    (step : Step) :
    step.take environment (hush.session session) =
      hush.outcome (step.take environment session) := by
  cases step.does environment session with
  | halted halt h =>
    rw [h session rfl, h (hush.session session) rfl]
    rfl
  | attempt nesting t h =>
    rw [h session rfl, h (hush.session session) rfl]
    exact attempt_session (fun _ t => hechoes nesting (.echo t) rfl)
      (hush_perform session environment t)
  | turn value h =>
    rw [h, h, hush.turn_session]
    exact outcome_delivered (fun _ t => hechoes _ (.echo t) rfl) _
  | tell ds h => rw [h, h, hush.outcome_done (echoFree_diagnostics ds)]

end Guise

theorem flatMap_filter_isEcho {f : Event → Text} (h : ∀ e, e.isEcho = true → f e = [])
    (events : List Event) : (events.filter (!·.isEcho)).flatMap f = events.flatMap f := by
  induction events with
  | nil => rfl
  | cons e events ih =>
    cases he : e.isEcho with
    | true => simp [he, h e he, ih]
    | false => simp [he, ih]

/-- The two sessions differ in nothing but in being quiet. -/
structure Session.SameButQuiet (session other : Session) : Prop where
  settings : { session.settings with quiet := true } = { other.settings with quiet := true }
  highlighter : session.highlighter = other.highlighter
  files : session.files = other.files

theorem Session.SameButQuiet.hush_eq {session other : Session} (h : session.SameButQuiet other) :
    Guise.hush.session session = Guise.hush.session other := by
  rw [Guise.session, Guise.session, h.highlighter, h.files]
  exact congrArg (Session.mk · other.highlighter other.files) h.settings

theorem Session.sameButQuiet_hush (session : Session) :
    (Guise.hush.session session).SameButQuiet session := ⟨rfl, rfl, rfl⟩

/-- Beside a step of a quiet session, the same step of one that may not be quiet. They fail alike
and leave the same behind; what is written differs by the messages that confirm settings. -/
structure Outcome.Silences (quiet loud : Outcome) : Prop where
  halt : quiet.halt = loud.halt
  session : quiet.session.SameButQuiet loud.session
  output : quiet.events.flatMap Event.output =
    (loud.events.filter (!·.isEcho)).flatMap Event.output
  errorOutput : ∀ verbose, quiet.events.flatMap (Event.errorOutput verbose) =
    loud.events.flatMap (Event.errorOutput verbose)
  pagerOutput : quiet.events.flatMap Event.pagerOutput = loud.events.flatMap Event.pagerOutput
  confirms : loud.Confirms

theorem Outcome.Confirms.silences {o : Outcome} (h : o.Confirms) :
    (Guise.hush.outcome o).Silences o where
  halt := rfl
  session := o.session.sameButQuiet_hush
  output := rfl
  errorOutput verbose := flatMap_filter_isEcho (fun e he => by cases e <;> first | rfl | cases he) _
  pagerOutput := flatMap_filter_isEcho (fun e he => by cases e <;> first | rfl | cases he) _
  confirms := h

end SqlBoundary
