import Mathlib.Logic.Function.Iterate
import SqlBoundary.Dialogue
import SqlBoundary.Proofs.Statement.Complete

/-! # What Enter decides

Enter submits a command or a complete text. White space at the end of a buffer makes no difference
to that, nor to the mark in the prompt, so that a buffer that waits for more goes on waiting.
-/

namespace SqlBoundary

open Text

namespace Session

/-- Rendering keeps the settings. -/
def Rendering.Keeps {α : Type} (r : Rendering α) : Prop :=
  ∀ state, (r.run.run state).2.1.settings = state.1.settings

namespace Rendering.Keeps
variable {α β : Type}

theorem pure (a : α) : Keeps (Pure.pure a : Rendering α) := fun _ => rfl

theorem bind {r : Rendering α} {f : α → Rendering β} (hr : r.Keeps) (hf : ∀ a, (f a).Keeps) :
    (r >>= f).Keeps := by
  intro state
  have hstate := hr state
  rw [ExceptT.run_bind, StateT.run_bind]
  generalize r.run.run state = out at hstate ⊢
  obtain ⟨a | a, next⟩ := out
  · exact hstate
  · exact (hf a next).trans hstate

theorem mapM {f : α → Rendering β} (hf : ∀ a, (f a).Keeps) (as : List α) :
    (as.mapM f).Keeps := by
  induction as with
  | nil => exact pure []
  | cons a as ih =>
    rw [List.mapM_cons]
    exact (hf a).bind fun b => ih.bind fun bs => pure (b :: bs)

end Rendering.Keeps

theorem run_get_bind {α : Type} (next : Session × List Event → Rendering α)
    (state : Session × List Event) :
    (get >>= next).run.run state = (next state).run.run state := rfl

theorem run_set_bind {α : Type} (next : PUnit → Rendering α)
    (state state' : Session × List Event) :
    (set state >>= next).run.run state' = (next ⟨⟩).run.run state := rfl

theorem keeps_shell (environment : Environment) (line : Text) :
    (shell environment line).Keeps := by
  intro state
  unfold shell
  split
  next => rfl
  next =>
    dsimp only
    rw [run_get_bind, run_set_bind]
    split
    next => rfl
    next => rfl

theorem keeps_marker (text : Text) : (marker text).Keeps := by
  intro state
  unfold marker
  cases text.isBlank
  · rfl
  · rfl

theorem settings_renderPrompt (environment : Environment) (prompt : Option Text) (text : Text)
    (session : Session) :
    (session.renderPrompt environment prompt text).1.session.settings = session.settings := by
  cases prompt with
  | none => rfl
  | some prompt =>
    have hpiece (p : Prompt.Piece) :
        Rendering.Keeps (p.render (marker text) (shell environment)) := by
      cases p with
      | char | program | percent => exact .pure _
      | state => exact keeps_marker text
      | command line => exact (keeps_shell environment line).bind fun _ => .pure _
    have hrender : Rendering.Keeps (Prompt.render prompt (marker text) (shell environment)) :=
      (Rendering.Keeps.mapM hpiece _).bind fun _ => .pure _
    have hsettings := hrender (session, [])
    simp only [renderPrompt]
    generalize (Prompt.render prompt (marker text) (shell environment)).run.run (session, []) =
      out at hsettings ⊢
    obtain ⟨halt | shown, next, events⟩ := out
    · exact hsettings
    · exact hsettings

/-- The decision of Enter is one about the text and the dialect. -/
theorem submits_eq (session : Session) (t : Text) :
    (session.submits t).1 = (isMetacommand t || isComplete t session.settings.standardStrings) := by
  unfold submits
  split
  next h => rw [h, Bool.true_or]
  next h =>
    rw [Bool.not_eq_true] at h
    rw [h, Bool.false_or]

end Session

section Blank
variable {w : Text}

theorem isMetacommand_append_blank (hw : isBlank w = true) (t : Text) :
    isMetacommand (t ++ w) = isMetacommand t := by
  simp only [isMetacommand, trim_append_of_isBlank hw]

theorem isComplete_append_blank (hw : isBlank w = true) (t : Text) (standardStrings : Bool) :
    isComplete (t ++ w) standardStrings = isComplete t standardStrings :=
  isComplete_congr (shape_append_blank standardStrings none hw t)

theorem submits_append_blank (hw : isBlank w = true) (t : Text) (session : Session) :
    (session.submits (t ++ w)).1 = (session.submits t).1 := by
  simp only [Session.submits_eq, isMetacommand_append_blank hw, isComplete_append_blank hw]

theorem marker_append_blank (hw : isBlank w = true) (t : Text) (standardStrings : Bool) :
    Prompt.marker (t ++ w) standardStrings = Prompt.marker t standardStrings := by
  have hunterminated : (scan (t ++ w) standardStrings).unterminated =
      (scan t standardStrings).unterminated :=
    congrArg Shape.unfinished (shape_append_blank standardStrings none hw t)
  rw [Prompt.marker, Prompt.marker, hunterminated, isBlank_append_eq, hw, Bool.and_true]

end Blank

/-- With the same settings a buffer that waits for more goes on waiting on its next line. -/
theorem submits_newline {session next : Session} {buffer : Text}
    (h : (session.submits buffer).1 = false) (hsettings : next.settings = session.settings) :
    (next.submits (buffer ++ ['\n'])).1 = false := by
  rw [submits_append_blank (by decide), Session.submits_eq, hsettings, ← Session.submits_eq, h]

/-- The stage after Enter with nothing typed before it. -/
def Stage.enter (environment : Environment) (stage : Stage) : Stage :=
  (stage.press environment (.enter [])).stage

theorem enter_failed (environment : Environment) (session : Session) (halt : Halt) :
    Stage.enter environment (.failed session halt) = .failed session halt := rfl

section Waiting
variable {session : Session} {buffer : Text}

/-- Enter on a buffer that it does not submit adds a line break, and keeps the settings. -/
theorem enter_of_not_submits (environment : Environment)
    (h : (session.submits buffer).1 = false) :
    (∃ next, Stage.enter environment (.typing session buffer) =
        .typing next (buffer ++ ['\n']) ∧ next.settings = session.settings) ∨
      ∃ next halt, Stage.enter environment (.typing session buffer) = .failed next halt := by
  have hsettings := session.settings_renderPrompt environment session.settings.continuation
    (buffer ++ ['\n'])
  simp only [Stage.enter, Stage.press, List.append_nil, h, Bool.false_eq_true, if_false,
    Session.continueBuffer, Dialogue.prepend]
  generalize session.renderPrompt environment session.settings.continuation (buffer ++ ['\n']) =
    shown at hsettings ⊢
  obtain ⟨o, message⟩ := shown
  cases hhalt : o.halt with
  | none =>
    rw [Dialogue.ofOutcome_of_done hhalt]
    exact .inl ⟨o.session, rfl, hsettings⟩
  | some halt =>
    rw [Dialogue.ofOutcome_of_halt hhalt]
    exact .inr ⟨o.session, halt, rfl⟩

theorem not_submitted_ofOutcome {o : Outcome} {next : Session → Dialogue} {u : Text}
    (h : ∀ session, .submitted u ∉ (next session).exchanges) :
    .submitted u ∉ (Dialogue.ofOutcome o next).exchanges := by
  cases hhalt : o.halt with
  | none =>
    rw [Dialogue.ofOutcome_of_done hhalt]
    exact h o.session
  | some halt =>
    rw [Dialogue.ofOutcome_of_halt hhalt]
    exact List.not_mem_nil

theorem not_submitted_press_enter (environment : Environment)
    (h : (session.submits buffer).1 = false) (u : Text) :
    .submitted u ∉ ((Stage.typing session buffer).press environment (.enter [])).exchanges := by
  simp only [Stage.press, List.append_nil, h, Bool.false_eq_true, if_false,
    Session.continueBuffer, Dialogue.prepend, List.nil_append]
  exact not_submitted_ofOutcome fun session => by simp

/-- However often Enter is pressed, a buffer that waits for more gets a line break each time. -/
theorem iterate_enter (environment : Environment) (h : (session.submits buffer).1 = false)
    (n : Nat) :
    (∃ next, (Stage.enter environment)^[n] (.typing session buffer) =
        .typing next (buffer ++ List.replicate n '\n') ∧ next.settings = session.settings) ∨
      ∃ next halt, (Stage.enter environment)^[n] (.typing session buffer) =
        .failed next halt := by
  induction n generalizing session buffer with
  | zero => exact .inl ⟨session, by rw [List.replicate_zero, List.append_nil]; rfl, rfl⟩
  | succ n ih =>
    rw [Function.iterate_succ_apply]
    obtain ⟨next, hnext, hsettings⟩ | ⟨next, halt, hnext⟩ := enter_of_not_submits environment h
    · rw [hnext, ← hsettings]
      have happend : buffer ++ List.replicate (n + 1) '\n' =
          buffer ++ ['\n'] ++ List.replicate n '\n' := by
        rw [List.replicate_succ, List.append_cons]
      rw [happend]
      exact ih (submits_newline h hsettings)
    · rw [hnext, Function.iterate_fixed (enter_failed environment next halt)]
      exact .inr ⟨next, halt, rfl⟩

theorem pressAll_failed (environment : Environment) (session : Session) (halt : Halt)
    (keys : List Key) :
    (Stage.failed session halt).pressAll environment keys = ⟨.failed session halt, [], []⟩ := by
  induction keys with
  | nil => rfl
  | cons key keys ih => exact congrArg (Dialogue.prepend [] []) ih

/-- However often Enter is pressed, a buffer that waits for more is not submitted. -/
theorem pressAll_enter (environment : Environment) (h : (session.submits buffer).1 = false)
    (n : Nat) (u : Text) :
    .submitted u ∉ ((Stage.typing session buffer).pressAll environment
      (List.replicate n (.enter []))).exchanges := by
  induction n generalizing session buffer with
  | zero =>
    exact not_submitted_ofOutcome fun session =>
      not_submitted_ofOutcome fun session => List.not_mem_nil
  | succ n ih =>
    rw [List.replicate_succ, Stage.pressAll]
    simp only [Dialogue.andThen, Dialogue.prepend, List.mem_append, not_or]
    refine ⟨not_submitted_press_enter environment h u, ?_⟩
    change .submitted u ∉ ((Stage.enter environment (.typing session buffer)).pressAll
      environment (List.replicate n (.enter []))).exchanges
    obtain ⟨next, hnext, hsettings⟩ | ⟨next, halt, hnext⟩ := enter_of_not_submits environment h
    · rw [hnext]
      exact ih (submits_newline h hsettings)
    · rw [hnext, pressAll_failed]
      exact List.not_mem_nil

theorem marker_iterate_enter {next : Session} {t : Text} (environment : Environment)
    (h : (session.submits buffer).1 = false) {n : Nat}
    (hnext : (Stage.enter environment)^[n] (.typing session buffer) = .typing next t) :
    t = buffer ++ List.replicate n '\n' ∧
      Prompt.marker t next.settings.standardStrings =
        Prompt.marker buffer session.settings.standardStrings := by
  have hblank : isBlank (List.replicate n '\n') = true :=
    isBlank_iff.2 fun c hc => List.eq_of_mem_replicate hc ▸ rfl
  obtain ⟨next', hstage, hsettings⟩ | ⟨next', halt, hstage⟩ := iterate_enter environment h n
  · obtain ⟨rfl, rfl⟩ := Stage.typing.inj (hnext.symm.trans hstage)
    exact ⟨rfl, by rw [hsettings, marker_append_blank hblank]⟩
  · cases hnext.symm.trans hstage

end Waiting

/-- Enter submits commands and the texts that end at their last semicolon, each of which is split
into statements. White space after a text changes neither that nor the mark of its state, so that
Enter alone never submits a text that it does not submit at once, and never changes its mark. -/
theorem submits_spec (session : Session) (t : Text) {w : Text} (hw : isBlank w = true) :
    ((session.submits t).1 = true ↔
        isMetacommand t = true ∨
          (scan t session.settings.standardStrings).unterminated = none ∧
            ∃ last, (scan t session.settings.standardStrings).EndsAt t last) ∧
      ((session.submits t).1 = true → isMetacommand t = false →
        ∀ stripComments keepEmpty, ∃ ts, ts ≠ [] ∧
          splitCommand t session.settings.standardStrings stripComments keepEmpty = .ok ts) ∧
      (session.submits (t ++ w)).1 = (session.submits t).1 ∧
      Prompt.marker (t ++ w) session.settings.standardStrings =
        Prompt.marker t session.settings.standardStrings ∧
      ((session.submits t).1 = false → ∀ environment n,
        (∀ u, .submitted u ∉ ((Stage.typing session t).pressAll environment
          (List.replicate n (.enter []))).exchanges) ∧
        ∀ next buffer, (Stage.enter environment)^[n] (.typing session t) = .typing next buffer →
          buffer = t ++ List.replicate n '\n' ∧
            Prompt.marker buffer next.settings.standardStrings =
              Prompt.marker t session.settings.standardStrings) := by
  refine ⟨?_, fun hsubmits hcommand => ?_, submits_append_blank hw t session,
    marker_append_blank hw t _, fun h environment n => ⟨pressAll_enter environment h n, ?_⟩⟩
  · rw [Session.submits_eq, Bool.or_eq_true, isComplete_iff]
  · rw [Session.submits_eq, hcommand, Bool.false_or] at hsubmits
    exact exists_splitCommand_of_isComplete hsubmits
  · intro next buffer hnext
    exact marker_iterate_enter environment h hnext

/-- A text with a comment after its last semicolon is submitted, and one with an open string is
not. -/
theorem submits_spec_comment_string :
    (((⟨{}, .plain, ⟨[]⟩⟩ : Session).submits ";'a;' -- ;\n;/*;*/--").1 = true ∧
        ∃ last, (scan ";'a;' -- ;\n;/*;*/--" true).EndsAt ";'a;' -- ;\n;/*;*/--" last) ∧
      (∃ ts, ts ≠ [] ∧ splitCommand ";'a;' -- ;\n;/*;*/--" true true false = .ok ts) ∧
      isBlank "\u00a0\n" = true ∧
      ((⟨{}, .plain, ⟨[]⟩⟩ : Session).submits ("a;'b;".toList ++ "\u00a0\n".toList)).1 = false ∧
      Prompt.marker ("a;'b;".toList ++ "\u00a0\n".toList) true = ['\''] ∧
      (∀ environment n u, .submitted u ∉
        ((Stage.typing ⟨{}, .plain, ⟨[]⟩⟩ "a;'b;").pressAll environment
          (List.replicate n (.enter []))).exchanges) ∧
      ∀ environment n next buffer,
        (Stage.enter environment)^[n] (.typing ⟨{}, .plain, ⟨[]⟩⟩ "a;'b;") =
          .typing next buffer → Prompt.marker buffer next.settings.standardStrings = ['\''] := by
  have hw : isBlank "\u00a0\n" = true := by decide
  have hcommand : isMetacommand ";'a;' -- ;\n;/*;*/--" = false := by decide +kernel
  have hsubmits : ((⟨{}, .plain, ⟨[]⟩⟩ : Session).submits ";'a;' -- ;\n;/*;*/--").1 = true := by
    decide +kernel
  have hwaits : ((⟨{}, .plain, ⟨[]⟩⟩ : Session).submits "a;'b;").1 = false := by decide +kernel
  have hopen : Prompt.marker "a;'b;" true = ['\''] := by decide +kernel
  obtain ⟨hiff, hsplit, -⟩ := submits_spec ⟨{}, .plain, ⟨[]⟩⟩ ";'a;' -- ;\n;/*;*/--" hw
  obtain ⟨-, -, hblank, hmarker, henter⟩ := submits_spec ⟨{}, .plain, ⟨[]⟩⟩ "a;'b;" hw
  obtain hcommand' | ⟨-, hends⟩ := hiff.1 hsubmits
  · rw [hcommand] at hcommand'
    cases hcommand'
  · refine ⟨⟨hsubmits, hends⟩, hsplit hsubmits hcommand true false, hw, hblank.trans hwaits,
      hmarker.trans hopen, fun environment n => (henter hwaits environment n).1, ?_⟩
    intro environment n next buffer hnext
    exact ((henter hwaits environment n).2 next buffer hnext).2.trans hopen

end SqlBoundary
