import SqlBoundary.Proofs.Session.Step

/-! # Sessions in another guise

A session in another guise has its split output go elsewhere, has other files, and may be quiet.
Commands do not see the difference, unless they open files or call a pager: what they do to the one
session they do to the other, and the only events that are left out are the echoes that a quiet
session silences.
-/

namespace SqlBoundary

/-- No event is an echo. -/
def EchoFree (events : List Event) : Prop := ∀ e ∈ events, e.isEcho = false

@[simp]
theorem echoFree_nil : EchoFree [] := fun _ he => nomatch he

@[simp]
theorem echoFree_cons (e : Event) (events : List Event) :
    EchoFree (e :: events) ↔ e.isEcho = false ∧ EchoFree events := List.forall_mem_cons

@[simp]
theorem echoFree_append (events more : List Event) :
    EchoFree (events ++ more) ↔ EchoFree events ∧ EchoFree more := List.forall_mem_append

theorem echoFree_diagnostics (ds : List Text) : EchoFree (ds.map .diagnostic) :=
  List.forall_mem_map.2 fun _ _ => rfl

structure Guise where
  silent : Bool := false
  output : Option OutputFile → Option OutputFile := id
  files : Files → Files := id

namespace Guise

variable (g : Guise)

def settings (s : Settings) : Settings :=
  { s with quiet := g.silent || s.quiet, output := g.output s.output }

def session (s : Session) : Session := ⟨g.settings s.settings, s.highlighter, g.files s.files⟩

def shows (e : Event) : Bool := !(g.silent && e.isEcho)

def outcome (o : Outcome) : Outcome := ⟨g.session o.session, o.events.filter g.shows, o.halt⟩

variable {session : Session}

theorem filter_shows {events : List Event} (h : EchoFree events) :
    events.filter g.shows = events :=
  List.filter_eq_self.2 fun e he => by rw [shows, h e he, Bool.and_false, Bool.not_false]

theorem outcome_events (h : g.silent = false) (o : Outcome) : (g.outcome o).events = o.events :=
  List.filter_eq_self.2 fun e _ => by rw [shows, h, Bool.false_and, Bool.not_false]

theorem outcome_done {events : List Event} (h : EchoFree events) :
    g.outcome (.done session events) = .done (g.session session) events := by
  rw [outcome, Outcome.done, g.filter_shows h]
  rfl

theorem outcome_prepend {events : List Event} (h : EchoFree events) (o : Outcome) :
    g.outcome (o.prepend events) = (g.outcome o).prepend events := by
  simp only [outcome, Outcome.prepend, List.filter_append, g.filter_shows h]

theorem outcome_andThen (o : Outcome) {next : Session → Outcome}
    (h : next (g.session o.session) = g.outcome (next o.session)) :
    g.outcome (o.andThen next) = (g.outcome o).andThen next := by
  obtain ⟨s, events, _ | halt⟩ := o
  · simp only [Outcome.andThen, outcome, Outcome.prepend, List.filter_append] at h ⊢
    rw [h]
  · rfl

theorem confirm_session {other : Session} (h : other = g.session session) (t : Text) :
    other.confirm t = g.outcome (session.confirm t) := by
  subst h
  obtain ⟨s, highlighter, files⟩ := session
  cases hsilent : g.silent <;> cases hquiet : s.quiet <;>
    simp [Session.confirm, Guise.session, settings, outcome, Outcome.done, shows, Event.isEcho,
      hsilent, hquiet]

theorem turn_session (session : Session) (switch : Switch) (value : Bool) :
    (g.session session).turn switch value = g.outcome (session.turn switch value) := by
  cases switch <;> exact g.confirm_session (by rfl) _

theorem isOn_settings (s : Settings) (switch : Switch) :
    (g.settings s).isOn switch = s.isOn switch := by
  cases switch <;> rfl

theorem showFieldSeparator_session (session : Session) :
    (g.session session).showFieldSeparator = g.outcome session.showFieldSeparator :=
  (g.outcome_done (by simp [Event.isEcho])).symm

theorem make_session (session : Session) (a : Adjustment) :
    a.make (g.session session) = g.outcome (a.make session) := by
  have hison (switch : Switch) : (g.session session).settings.isOn switch =
      session.settings.isOn switch := g.isOn_settings session.settings switch
  cases a with
  | turn switch value => exact g.turn_session session switch value
  | flip switch =>
    simp only [Adjustment.make, hison]
    exact g.turn_session session switch _
  | reject switch d =>
    simp only [Adjustment.make, hison]
    rw [g.outcome_prepend (by simp [Event.isEcho]), ← g.turn_session]
  | format | fieldSeparator | recordSeparator => exact g.confirm_session (by rfl) _
  | showFieldSeparator => exact g.showFieldSeparator_session session
  | showRecordSeparator | complain => exact (g.outcome_done (by simp [Event.isEcho])).symm

theorem assign?_settings (s : Settings) (name : Text) (value : Option Text) :
    (g.settings s).assign? name value = (s.assign? name value).map g.settings := by
  unfold Settings.assign?
  dsimp only
  split
  · rfl
  split
  · rfl
  split
  · cases value.bind Integer.read? <;> rfl
  · split <;> rfl

theorem assignCommand_session (session : Session) (argument : Option Text) :
    (g.session session).assignCommand argument = g.outcome (session.assignCommand argument) := by
  cases argument with
  | none => exact (g.outcome_done (by simp [Event.isEcho])).symm
  | some argument =>
    have hassign := g.assign?_settings session.settings (Metacommand.readAssignment argument).1
      (Metacommand.readAssignment argument).2
    simp only [Session.assignCommand, Guise.session, hassign]
    cases session.settings.assign? (Metacommand.readAssignment argument).1
        (Metacommand.readAssignment argument).2 with
    | some settings => rfl
    | none => exact (g.outcome_done (by simp [Session.rejectedValue, Event.isEcho])).symm

section Delivery

variable {g} {obstacle? : Event → Option Obstacle}

theorem deliver_filter_shows (h : g.silent = true → ∀ t, obstacle? (.echo t) = none)
    (events : List Event) :
    Event.deliver obstacle? (events.filter g.shows) =
      ((Event.deliver obstacle? events).1.filter g.shows, (Event.deliver obstacle? events).2) := by
  induction events with
  | nil => rfl
  | cons e events ih =>
    cases hshows : g.shows e with
    | true =>
      rw [List.filter_cons_of_pos hshows, Event.deliver, Event.deliver, ih]
      split
      next => rw [List.filter_cons_of_pos hshows]
      next => split <;> rfl
    | false =>
      have hpasses : e.Passes obstacle? := by
        cases e with
        | echo t =>
          intro _
          refine h ?_ t
          rw [shows, Bool.not_eq_false', Bool.and_eq_true] at hshows
          exact hshows.1
        | report | result => simp [shows, Event.isEcho] at hshows
        | device | paged | diagnostic | trace => exact Event.passes_of_not_isOutput rfl
      rw [List.filter_cons_of_neg (by simp [hshows]), Event.deliver_cons hpasses, ih,
        List.filter_cons_of_neg (by simp [hshows])]

/-- A guise does not change what is delivered, if the echoes that it silences would have been. -/
theorem outcome_delivered (h : g.silent = true → ∀ t, obstacle? (.echo t) = none) (o : Outcome) :
    (g.outcome o).delivered obstacle? = g.outcome (o.delivered obstacle?) := by
  simp only [Outcome.delivered, outcome, deliver_filter_shows h]

theorem outcome_unselected (o : Outcome) (highlighter : Highlighter) :
    (g.outcome o).unselected highlighter = g.outcome (o.unselected highlighter) := by
  simp only [Outcome.unselected, outcome, session, List.filter_filter, Bool.and_comm]

end Delivery

section Command

variable {g} {environment : Environment}

/-- Whatever is in the way of its events, a text leaves a guise of the session that it leaves. -/
theorem session_attempt {t : Text}
    (h : (g.session session).perform environment t = g.outcome (session.perform environment t))
    (nesting : Nat) :
    ((g.session session).attempt environment nesting t).session =
      g.session (session.attempt environment nesting t).session := by
  obtain ⟨-, hattempt⟩ | ⟨-, -, hattempt⟩ | hattempt :=
    Session.attempt_cases environment nesting t
  · rw [hattempt, hattempt]
    rfl
  · rw [hattempt, hattempt, h]
    rfl
  · rw [hattempt, hattempt, h]
    rfl

/-- What a text does in a guise it does as far as it is let. -/
theorem attempt_session {t : Text} {nesting : Nat}
    (hechoes : g.silent = true → ∀ t, environment.host.obstacle? nesting (.echo t) = none)
    (h : (g.session session).perform environment t =
      g.outcome (session.perform environment t)) :
    (g.session session).attempt environment nesting t =
      g.outcome (session.attempt environment nesting t) := by
  obtain ⟨-, hattempt⟩ | ⟨-, -, hattempt⟩ | hattempt :=
    Session.attempt_cases environment nesting t
  · rw [hattempt, hattempt]
    rfl
  · rw [hattempt, hattempt, h, outcome_unselected]
    rfl
  · rw [hattempt, hattempt, h, outcome_delivered hechoes]

theorem execute_session {argument : Option Text} {keyword : Keyword}
    (hredirect : keyword = .redirect →
      (g.session session).redirect environment argument =
        g.outcome (session.redirect environment argument))
    (hhelp : (g.session session).help environment = g.outcome (session.help environment)) :
    (g.session session).execute environment argument keyword =
      g.outcome (session.execute environment argument keyword) := by
  cases keyword.executes argument with
  | adjustment a hexecute =>
    rw [hexecute, hexecute]
    exact g.make_session session a
  | redirect => exact hredirect rfl
  | help => exact hhelp
  | summary => exact (g.outcome_done (by simp [Event.isEcho])).symm
  | quit => rfl
  | assign => exact g.assignCommand_session session argument
  | unassign => cases argument <;> rfl

/-- A command acts on a session in any guise as on the session. -/
theorem perform_session {t : Text} (hcommand : isMetacommand t = true)
    (hredirect : ∀ argument, Metacommand.read t = .command Keyword.redirect.name argument →
      (g.session session).redirect environment argument =
        g.outcome (session.redirect environment argument))
    (hhelp : (g.session session).help environment = g.outcome (session.help environment)) :
    (g.session session).perform environment t = g.outcome (session.perform environment t) := by
  obtain ⟨hsplit, -⟩ | ⟨-, d, hperform⟩ | ⟨keyword, argument, hread, hperform⟩ :=
    Session.perform_cases environment t
  · rw [hcommand] at hsplit
    cases hsplit
  · rw [hperform, hperform, g.outcome_done (by simp [Event.isEcho])]
  · rw [hperform, hperform]
    exact execute_session (fun hkeyword => hredirect argument (hkeyword ▸ hread)) hhelp

theorem pager?_session (g : Guise) (session : Session) (environment : Environment) :
    (g.session session).pager? environment = session.pager? environment := rfl

theorem help_session (hpager : session.pager? environment = none) :
    (g.session session).help environment = g.outcome (session.help environment) := by
  have hhelp : session.help environment = .done session [.report (Help.text session.settings)] := by
    rw [Session.help, Session.page, hpager]
    rfl
  rw [hhelp, g.outcome_done (by simp [Event.isEcho]), Session.help, Session.page,
    pager?_session, hpager]
  rfl

/-- Whatever redirects nothing and calls no pager acts on a session in any guise as on the session,
if it is a command. -/
theorem command_session {t : Text} (hcommand : isMetacommand t = true)
    (hredirect : ∀ argument, Metacommand.read t ≠ .command Keyword.redirect.name argument)
    (hpager : session.pager? environment = none) :
    (g.session session).perform environment t = g.outcome (session.perform environment t) :=
  perform_session hcommand (fun argument hread => absurd hread (hredirect argument))
    (help_session hpager)

/-- The guise of a session whose output and files stay what they are. -/
def hold (session : Session) : Guise :=
  { output := fun _ => session.settings.output, files := fun _ => session.files }

/-- Such a command leaves the files and the output as they are. -/
theorem command_holds {t : Text} (hcommand : isMetacommand t = true)
    (hredirect : ∀ argument, Metacommand.read t ≠ .command Keyword.redirect.name argument)
    (hpager : session.pager? environment = none) :
    (session.perform environment t).session.settings.output = session.settings.output ∧
      (session.perform environment t).session.files = session.files := by
  have hself : (hold session).session session = session := rfl
  have hrun := command_session (g := hold session) hcommand hredirect hpager
  rw [hself] at hrun
  rw [hrun]
  exact ⟨rfl, rfl⟩

end Command

end Guise

end SqlBoundary
