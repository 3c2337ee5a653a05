import SqlBoundary.Proofs.Session.Follow

/-! # Failed steps

A step that fails leaves the settings and the highlighter as they were, if the message that confirms
a change is taken, the stack does not run out between a setting and its highlighter, and the output
file can be closed. A step that comes to splitting a text only writes to where split output goes,
and nowhere if the text leaves something open.
-/

namespace SqlBoundary

namespace Session

variable {session : Session} {environment : Environment}

theorem Follows.delivered {o : Outcome} (h : session.Follows environment o)
    {obstacle? : Event → Option Obstacle} (hechoes : ∀ t, obstacle? (.echo t) = none) :
    session.Follows environment (o.delivered obstacle?) := by
  cases h with
  | kept h => exact .kept ⟨h.settings, h.highlighter⟩
  | changed confirmed coherent =>
    rw [confirmed.delivered_eq_self hechoes]
    exact .changed confirmed coherent
  | unclosed h coherent => exact .unclosed h coherent

theorem follows_attempt (h : session.Coherent) (hechoes : environment.Takes Event.isEcho)
    (hselects : environment.Selects) (nesting : Nat) (t : Text) :
    session.Follows environment (session.attempt environment nesting t) := by
  obtain ⟨-, hattempt⟩ | ⟨hmoment, -, -⟩ | hattempt := attempt_cases environment nesting t
  · rw [hattempt]
    exact follows_of_session rfl
  · exact absurd hmoment (moment?_ne_selection environment hselects nesting)
  · rw [hattempt]
    exact (follows_perform h environment t).delivered fun t => hechoes nesting (.echo t) rfl

/-- Where echoes are taken and highlighters are selected, a step keeps the settings, or changes them
without a failure, or does not get the output file closed. -/
theorem follows_take (h : session.Coherent) (hechoes : environment.Takes Event.isEcho)
    (hselects : environment.Selects) (step : Step) :
    session.Follows environment (step.take environment session) := by
  cases step.does environment session with
  | halted halt hstep =>
    rw [hstep session rfl]
    exact follows_of_session rfl
  | attempt nesting t hstep =>
    rw [hstep session rfl]
    exact follows_attempt h hechoes hselects nesting t
  | turn value hstep =>
    rw [hstep session]
    exact (follows_turn h .standardStrings value).delivered fun t => hechoes _ (.echo t) rfl
  | tell ds hstep =>
    rw [hstep session]
    exact follows_of_session rfl

/-- Running a text comes to splitting a text: that one, or what the file holds that it has run. -/
inductive Splits (session : Session) : Text → Text → Prop
  | itself {t : Text} (h : isMetacommand t = false) : Splits session t t
  | file {t path u v : Text} (h : fileOf? t = some path) (hread : session.readFile path = .ok u)
      (hu : Splits session u v) : Splits session t v

variable {t u : Text}

/-- A text that is no command is not begun, or it is split as far as its output is taken. -/
theorem attempt_of_not_isMetacommand (environment : Environment) (nesting : Nat)
    (h : isMetacommand t = false) :
    session.attempt environment nesting t = .halted session .nestedTooDeeply ∨
      session.attempt environment nesting t =
        (session.split environment t).delivered (environment.host.obstacle? nesting) := by
  obtain ⟨-, hattempt⟩ | ⟨-, hselects, -⟩ | hattempt := attempt_cases environment nesting t
  · exact .inl (hattempt session)
  · rw [selects_eq_false_of_not_isMetacommand h] at hselects
    cases hselects
  · exact .inr (by rw [hattempt, perform_of_not_isMetacommand environment h])

/-- Running a text that comes to splitting one does that as far as the output is taken, unless files
are nested too deeply. -/
theorem Splits.runNested_cases (h : session.Splits t u) (environment : Environment)
    (nesting : Nat) :
    runNested environment nesting t session = .halted session .nestedTooDeeply ∨
      ∃ n, runNested environment nesting t session =
        (session.split environment u).delivered (environment.host.obstacle? n) := by
  induction h generalizing nesting with
  | itself h =>
    rw [runNested_of_fileOf?_eq_none environment nesting (fileOf?_eq_none_of_not_isMetacommand h)]
    exact (attempt_of_not_isMetacommand environment nesting h).imp_right fun hsplit =>
      ⟨nesting, hsplit⟩
  | file h hread hu ih =>
    rw [runNested_of_fileOf? environment nesting h session, hread]
    cases nesting with
    | zero => exact .inl rfl
    | succ nesting => exact ih nesting

theorem Splits.keeps (h : session.Splits t u) (environment : Environment) (nesting : Nat) :
    session.Keeps (runNested environment nesting t session) := by
  obtain hrun | ⟨n, hrun⟩ := h.runNested_cases environment nesting
  · rw [hrun]
    exact keeps_of_session rfl
  · rw [hrun]
    have hkeeps := keeps_split session environment u
    exact ⟨hkeeps.settings, hkeeps.highlighter⟩

/-- A step that stops before it does anything. -/
structure Stops (session : Session) (o : Outcome) : Prop where
  session : o.session = session
  halted : o.halt.isSome
  output : o.events.flatMap Event.output = []
  pagerOutput : o.events.flatMap Event.pagerOutput = []

theorem stops_split (environment : Environment)
    (h : (scan t session.settings.standardStrings).unterminated.isSome)
    (obstacle? : Event → Option Obstacle) :
    session.Stops ((session.split environment t).delivered obstacle?) := by
  obtain ⟨construct, hscan⟩ := Option.isSome_iff_exists.1 h
  simp only [split, hscan]
  exact ⟨rfl, rfl, rfl, rfl⟩

theorem Splits.stops (h : session.Splits t u) (environment : Environment) (nesting : Nat)
    (hopen : (scan u session.settings.standardStrings).unterminated.isSome) :
    session.Stops (runNested environment nesting t session) := by
  obtain hrun | ⟨n, hrun⟩ := h.runNested_cases environment nesting
  · rw [hrun]
    exact ⟨rfl, rfl, rfl, rfl⟩
  · rw [hrun]
    exact stops_split environment hopen _

end Session

/-- A step comes to splitting a text. Of the lines of a startup file only commands can do so. -/
def Step.Splits (session : Session) : Step → Text → Prop
  | command t, u => session.Splits t u
  | line _ _ t, u => t.head? = some '\\' ∧ session.Splits t u

theorem Step.Splits.take_eq {session : Session} {step : Step} {u : Text}
    (h : step.Splits session u) (environment : Environment) :
    session.Splits step.text u ∧
      step.take environment session = Session.run environment step.text session := by
  cases step with
  | command t => exact ⟨h, rfl⟩
  | line file number t =>
    obtain ⟨hhead, hsplits⟩ := h
    refine ⟨hsplits, ?_⟩
    obtain ⟨rest, rfl⟩ := List.head?_eq_some_iff.1 hhead
    rfl

/-- A step that fails keeps the settings, the open output file among them, and the highlighter, in
every session that is reached without the stack running out between a setting and its highlighter.
The step itself must find room for that as well, have its echo taken, and be able to close the
output file. Whatever the environment, a step that comes to splitting a text keeps them too, and it
does nothing if the text leaves something open. -/
theorem failed_step_keeps {session : Session} (h : session.Reachable Environment.Selects)
    (environment : Environment) (step : Step) :
    (environment.Takes Event.isEcho → environment.Selects → session.Closes environment →
        (step.take environment session).Failed →
          session.Keeps (step.take environment session)) ∧
      ∀ t, step.Splits session t →
        session.Keeps (step.take environment session) ∧
          ((scan t session.settings.standardStrings).unterminated.isSome →
            session.Stops (step.take environment session)) := by
  refine ⟨fun hechoes hselects hcloses hfailed => ?_, fun t hsplits => ?_⟩
  · cases Session.follows_take h.coherent hechoes hselects step with
    | kept hkept => exact hkept
    | changed confirmed coherent => exact absurd hfailed confirmed.not_failed
    | unclosed hunclosed coherent => exact absurd hcloses hunclosed
  · obtain ⟨hsplits, htake⟩ := hsplits.take_eq environment
    rw [htake]
    exact ⟨hsplits.keeps environment _, hsplits.stops environment _⟩

/-- A switch rejects its value, and a text is left open, in a session that highlights. -/
theorem failed_step_keeps_highlight :
    let environment : Environment := { terminal := true, home := "home" }
    let session : Session := ⟨{ highlight := true }, .sql, ⟨[]⟩⟩
    session.Reachable Environment.Selects ∧ environment.Takes Event.isEcho ∧
      environment.Selects ∧ session.Closes environment ∧
      ((Step.command "\\syntax maybe").take environment session).Failed ∧
      session.Keeps ((Step.command "\\syntax maybe").take environment session) ∧
      (scan "a;'b" true).unterminated.isSome ∧
      session.Stops ((Step.command "a;'b").take environment session) := by
  intro environment session
  have hselects : environment.Selects := fun _ => nofun
  have hechoes : environment.Takes Event.isEcho := fun _ _ _ => rfl
  have hcloses : session.Closes environment := fun _ _ => rfl
  have hreachable : session.Reachable Environment.Selects := by
    have hturned : ((Step.command "\\syntax on").take environment ⟨{}, .plain, ⟨[]⟩⟩).session =
        session := by decide +kernel
    exact hturned ▸ (Session.Reachable.fresh none ⟨[]⟩).step hselects _
  have hfailed : ((Step.command "\\syntax maybe").take environment session).Failed := by
    have hdiagnostic : ∃ e ∈ ((Step.command "\\syntax maybe").take environment session).events,
        e.errorOutput false ≠ [] := by decide +kernel
    obtain ⟨e, he, herror⟩ := hdiagnostic
    exact .inr ⟨e, he, .inl herror⟩
  have hsplits : (Step.command "a;'b").Splits session "a;'b" := .itself (by decide +kernel)
  have hopen : (scan "a;'b" true).unterminated.isSome := by decide +kernel
  exact ⟨hreachable, hechoes, hselects, hcloses, hfailed,
    (failed_step_keeps hreachable environment _).1 hechoes hselects hcloses hfailed, hopen,
    ((failed_step_keeps hreachable environment _).2 _ hsplits).2 hopen⟩

/-- A command is run as it is, though its text leaves a string open to a scan. A setting is stored
though its echo is refused, or though there is no room for the highlighter, and an output file that
cannot be closed stays closed. -/
theorem not_kept_by_every_failed_step :
    (¬∀ (session : Session) (environment : Environment) (step : Step),
        session.Reachable Environment.Selects →
          (scan step.text session.settings.standardStrings).unterminated.isSome →
            (step.take environment session).events.flatMap Event.output = []) ∧
      (¬∀ (session : Session) (environment : Environment) (step : Step),
        session.Reachable Environment.Selects → environment.Selects →
          session.Closes environment → (step.take environment session).Failed →
            session.Keeps (step.take environment session)) ∧
      (¬∀ (session : Session) (environment : Environment) (step : Step),
        session.Reachable Environment.Selects → environment.Takes Event.isEcho →
          session.Closes environment → (step.take environment session).Failed →
            session.Keeps (step.take environment session)) ∧
      ¬∀ (session : Session) (environment : Environment) (step : Step),
        session.Reachable Environment.Selects → environment.Takes Event.isEcho →
          environment.Selects → (step.take environment session).Failed →
            session.Keeps (step.take environment session) := by
  have hplain : Environment.Selects {} := fun _ => nofun
  refine ⟨fun h => ?_, fun h => ?_, fun h => ?_, fun h => ?_⟩
  · have hsilent := h ⟨{}, .plain, ⟨[(["it's.sql".toList], .file (.text "select 1;"))]⟩⟩ {}
      (.command "\\i it's.sql") (.fresh none _) (by decide +kernel)
    revert hsilent
    decide +kernel
  · let host : Host := { Host.plain with obstacle? := fun _ _ => some (.refused .brokenPipe) }
    have hkept := (h ⟨{}, .plain, ⟨[]⟩⟩ { host } (.command "\\timing on") (.fresh none _)
      (fun _ => nofun) nofun (.inl (by decide +kernel))).settings
    revert hkept
    decide +kernel
  · let host : Host := { Host.plain with maxNesting := 1, exhaustion? := fun _ => some .selection }
    have hkept := (h ⟨{}, .plain, ⟨[(["f.sql".toList], .file (.text "\\syntax on"))]⟩⟩ { host }
      (.command "\\i f.sql") (.fresh none _) (fun _ _ _ => rfl) nofun
      (.inl (by decide +kernel))).settings
    revert hkept
    decide +kernel
  · let host : Host := { Host.plain with fileFault? := fun _ _ => some .noSpace }
    have hkept := (h _ { host } (.command "\\o b")
      ((Session.Reachable.fresh none ⟨[]⟩).step hplain (.command "\\o a")) (fun _ _ _ => rfl)
      (fun _ => nofun) (.inl (by decide +kernel))).settings
    revert hkept
    decide +kernel

end SqlBoundary
