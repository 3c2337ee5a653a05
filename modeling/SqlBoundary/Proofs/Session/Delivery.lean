import SqlBoundary.Session.Run

/-! # What reaches the standard output

An outcome is cut off at the first of its events that meets an obstacle, and its session is the one
it was to lead to. What has nothing in its way is shown as it is.
-/

namespace SqlBoundary

variable {obstacle? : Event → Option Obstacle}

namespace Event

/-- Nothing is in the way of an event. -/
def Passes (obstacle? : Event → Option Obstacle) (e : Event) : Prop :=
  e.isOutput = true → obstacle? e = none

theorem passes_of_not_isOutput {e : Event} (h : e.isOutput = false) : e.Passes obstacle? :=
  fun houtput => nomatch h.symm.trans houtput

theorem deliver_cons {e : Event} (h : e.Passes obstacle?) (events : List Event) :
    deliver obstacle? (e :: events) =
      (e :: (deliver obstacle? events).1, (deliver obstacle? events).2) := by
  rw [deliver]
  cases houtput : e.isOutput with
  | true => rw [if_pos rfl, h houtput]
  | false => rw [if_neg Bool.false_ne_true]

theorem deliver_append {events : List Event} (h : ∀ e ∈ events, e.Passes obstacle?)
    (more : List Event) :
    deliver obstacle? (events ++ more) =
      (events ++ (deliver obstacle? more).1, (deliver obstacle? more).2) := by
  induction events with
  | nil => rfl
  | cons e events ih =>
    obtain ⟨he, hevents⟩ := List.forall_mem_cons.1 h
    rw [List.cons_append, deliver_cons he, ih hevents]
    rfl

theorem deliver_eq_self {events : List Event} (h : ∀ e ∈ events, e.Passes obstacle?) :
    deliver obstacle? events = (events, none) := by
  have happend := deliver_append h []
  rwa [List.append_nil, deliver, List.append_nil] at happend

theorem deliver_sublist (events : List Event) : (deliver obstacle? events).1.Sublist events := by
  induction events with
  | nil => exact .slnil
  | cons e events ih =>
    rw [deliver]
    split
    next => exact ih.cons_cons e
    next =>
      split
      next => exact ih.cons e
      next => exact List.nil_sublist _

end Event

namespace Outcome

variable {o : Outcome}

theorem delivered_eq_self (h : ∀ e ∈ o.events, e.Passes obstacle?) :
    o.delivered obstacle? = o := by
  rw [delivered, Event.deliver_eq_self h]
  rfl

/-- A standard output that takes everything shows an outcome as it is. -/
theorem delivered_of_takes {environment : Environment} (h : environment.Takes Event.isOutput)
    (nesting : Nat) (o : Outcome) : o.delivered (environment.host.obstacle? nesting) = o :=
  delivered_eq_self fun e _ => h nesting e

theorem mem_of_mem_delivered {e : Event} (h : e ∈ (o.delivered obstacle?).events) :
    e ∈ o.events :=
  (Event.deliver_sublist o.events).subset h

end Outcome

namespace Session

variable (environment : Environment)

/-- A text is not begun, or it comes to selecting a highlighter and does not get that far, or it is
done as far as the standard output takes it. -/
theorem attempt_cases (nesting : Nat) (t : Text) :
    (environment.host.moment? nesting = some .start ∧ ∀ session : Session,
        session.attempt environment nesting t = .halted session .nestedTooDeeply) ∨
      (environment.host.moment? nesting = some .selection ∧ selects t = true ∧
        ∀ session : Session, session.attempt environment nesting t =
          (session.perform environment t).unselected session.highlighter) ∨
      ∀ session : Session, session.attempt environment nesting t =
        (session.perform environment t).delivered (environment.host.obstacle? nesting) := by
  unfold attempt
  cases hmoment : environment.host.moment? nesting with
  | none => exact .inr (.inr fun _ => rfl)
  | some moment =>
    cases moment with
    | start => exact .inl ⟨rfl, fun _ => rfl⟩
    | selection =>
      cases hselects : selects t with
      | true => exact .inr (.inl ⟨rfl, rfl, fun _ => rfl⟩)
      | false => exact .inr (.inr fun _ => rfl)

theorem moment?_ne_selection (h : environment.Selects) (nesting : Nat) :
    environment.host.moment? nesting ≠ some .selection := by
  unfold Host.moment?
  split
  next => exact h nesting
  next => exact nofun

/-- A text that no file has run is done as far as the standard output takes it. -/
theorem attempt_maxNesting (t : Text) (session : Session) :
    session.attempt environment environment.host.maxNesting t =
      (session.perform environment t).delivered environment.obstacle? := by
  have hmoment : environment.host.moment? environment.host.maxNesting = none :=
    if_neg (Nat.lt_irrefl _)
  rw [attempt, hmoment]
  rfl

theorem runNested_of_fileOf?_eq_none (nesting : Nat) {t : Text} (h : fileOf? t = none)
    (session : Session) :
    runNested environment nesting t session = session.attempt environment nesting t := by
  rw [runNested, h]

/-- A text that has a file run is run as the text of the file. -/
theorem runNested_of_fileOf? (nesting : Nat) {t path : Text} (h : fileOf? t = some path)
    (session : Session) :
    runNested environment nesting t session =
      match session.readFile path, nesting with
      | .error halt, _ => .halted session halt
      | .ok _, 0 => .halted session .nestedTooDeeply
      | .ok u, nesting + 1 => runNested environment nesting u session := by
  cases hread : session.readFile path <;> cases nesting <;> rw [runNested, h] <;> simp only [hread]

theorem run_of_fileOf?_eq_none {t : Text} (h : fileOf? t = none) (session : Session) :
    run environment t session =
      (session.perform environment t).delivered environment.obstacle? := by
  rw [run, runNested_of_fileOf?_eq_none environment _ h, attempt_maxNesting]

end Session
end SqlBoundary
