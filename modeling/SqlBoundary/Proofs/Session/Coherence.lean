import SqlBoundary.Proofs.Session.Follow

/-! # The highlighter and the format

Whatever a session goes through, startup files and files that are run among it, and also where it
halts part way, its format is a known one, and the highlighter that is in use is the one that the
settings ask for. The latter only takes that the stack does not run out between the setting and the
highlighter.
-/

namespace SqlBoundary

/-- What a session can be put through. -/
inductive Move
  | step (step : Step)
  | load (file : Option Text)
  | runFile (path : Text)

def Move.make (environment : Environment) : Move → Session → Outcome
  | step s => s.take environment
  | load file => Session.load environment file
  | runFile path => Session.runFile environment path

/-- Sessions that begin with the default settings and go on by moves in environments of a kind, also
by moves that halt. -/
inductive Session.Attained (kind : Environment → Prop) : Session → Prop
  | fresh (pager : Option Text) (files : Files) : Attained kind ⟨{ pager }, .plain, files⟩
  | move {session : Session} (h : Attained kind session) {environment : Environment}
      (henvironment : kind environment) (move : Move) :
      Attained kind (move.make environment session).session

namespace Session

variable {session : Session} {environment : Environment}

/-- The format has one of the names that there are for formats. -/
def FormatKnown (session : Session) : Prop := session.settings.format ∈ formatNames

theorem FormatKnown.of_settings {o : Outcome} (h : session.FormatKnown)
    (hsettings : o.session.settings.format = session.settings.format) : o.session.FormatKnown := by
  rw [FormatKnown, hsettings]
  exact h

theorem formatKnown_turn (h : session.FormatKnown) (switch : Switch) (value : Bool) :
    (session.turn switch value).session.FormatKnown := by
  cases switch <;> exact h

theorem formatKnown_make (h : session.FormatKnown) (a : Adjustment) :
    (a.make session).session.FormatKnown := by
  cases a with
  | turn switch value => exact formatKnown_turn h switch value
  | flip switch => exact formatKnown_turn h switch _
  | reject switch => exact formatKnown_turn h switch _
  | format value known => exact known
  | fieldSeparator | recordSeparator | showFieldSeparator | showRecordSeparator | complain =>
    exact h

theorem formatKnown_assignCommand (h : session.FormatKnown) (argument : Option Text) :
    (session.assignCommand argument).session.FormatKnown := by
  cases argument with
  | none => exact h
  | some argument =>
    simp only [assignCommand]
    split
    next settings hassign => exact h.of_settings (highlight_assign? hassign).2
    next => exact h

theorem formatKnown_execute (h : session.FormatKnown) (argument : Option Text) (keyword : Keyword) :
    (session.execute environment argument keyword).session.FormatKnown := by
  cases keyword.executes argument with
  | adjustment a hexecute =>
    rw [hexecute]
    exact formatKnown_make h a
  | redirect =>
    obtain ⟨output, hredirect⟩ := session.settings_redirect environment argument
    exact h.of_settings (congrArg Settings.format hredirect :)
  | help =>
    exact h.of_settings
      (congrArg Settings.format (keeps_page session environment [] _ _).settings :)
  | summary | quit => exact h
  | assign => exact formatKnown_assignCommand h argument
  | unassign => cases argument <;> exact h

theorem formatKnown_perform (h : session.FormatKnown) (environment : Environment) (t : Text) :
    (session.perform environment t).session.FormatKnown := by
  obtain ⟨-, hperform⟩ | ⟨-, d, hperform⟩ | ⟨keyword, argument, -, hperform⟩ :=
    perform_cases environment t
  · rw [hperform]
    exact h.of_settings (congrArg Settings.format (keeps_split session environment t).settings :)
  · rw [hperform]
    exact h
  · rw [hperform]
    exact formatKnown_execute h argument keyword

theorem formatKnown_attempt (h : session.FormatKnown) (environment : Environment) (nesting : Nat)
    (t : Text) : (session.attempt environment nesting t).session.FormatKnown := by
  have hperform := formatKnown_perform h environment t
  obtain ⟨-, hattempt⟩ | ⟨-, -, hattempt⟩ | hattempt := attempt_cases environment nesting t <;>
  rw [hattempt]
  · exact h
  · exact hperform
  · exact hperform

theorem formatKnown_take (h : session.FormatKnown) (step : Step) :
    (step.take environment session).session.FormatKnown :=
  step.take_invariant FormatKnown (fun nesting t _ h => formatKnown_attempt h environment nesting t)
    (fun value _ h => formatKnown_turn h .standardStrings value) h

end Session

section Invariant

variable (P : Session → Prop) {environment : Environment}
  (hstep : ∀ (step : Step) (session : Session), P session →
    P (step.take environment session).session)
include hstep

theorem Session.runLines_invariant (file : Text) (number most : Nat) (reader : LineReader)
    {session : Session} (h : P session) :
    P (runLines environment file number most reader session).session := by
  induction most generalizing session number reader with
  | zero => exact h
  | succ most ih =>
    unfold runLines
    split
    next => exact h
    next => exact h
    next line reader hline =>
      have hline : P (if line.isBlank then .done session []
          else session.runLine environment file number line.trim : Outcome).session := by
        split
        next => exact h
        next => exact hstep (.line file number line.trim) session h
      unfold Outcome.andThen
      split
      next => exact hline
      next => exact ih (number + 1) reader hline

/-- What every step keeps, every move keeps, also one that halts part way. -/
theorem Move.make_invariant (move : Move) {session : Session} (h : P session) :
    P (move.make environment session).session := by
  cases move with
  | step step => exact hstep step session h
  | load file =>
    rw [make, Session.load]
    dsimp only
    split
    next => exact h
    next =>
      split
      next => exact h
      next location _ => exact Session.runLines_invariant P hstep _ 1 _ { location } h
  | runFile path =>
    rw [make, Session.runFile]
    split
    next => exact h
    next t _ => exact hstep (.command t) session h

end Invariant

namespace Session

variable {kind : Environment → Prop} {session : Session}

theorem Attained.formatKnown (h : session.Attained kind) : session.FormatKnown := by
  induction h with
  | fresh pager files => exact (by decide : "statements".toList ∈ formatNames)
  | move h _ move ih =>
    exact move.make_invariant FormatKnown (fun step _ h => formatKnown_take h step) ih

theorem Attained.coherent (h : session.Attained kind)
    (hkind : ∀ environment, kind environment → environment.Selects) : session.Coherent := by
  induction h with
  | fresh pager files => exact coherent_fresh pager files
  | move h henvironment move ih =>
    exact move.make_invariant Coherent
      (fun step _ h => coherent_take h (hkind _ henvironment) step) ih

theorem Coherent.highlighter_eq_sql_iff (h : session.Coherent) :
    session.highlighter = .sql ↔ session.settings.highlight = true := by
  rw [Coherent] at h
  rw [h]
  cases session.settings.highlight with
  | false => exact iff_of_false (by decide) (by decide)
  | true => exact iff_of_true rfl rfl

end Session

end SqlBoundary
