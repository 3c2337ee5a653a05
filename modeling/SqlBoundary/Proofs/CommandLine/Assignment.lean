import SqlBoundary.CommandLine.Program
import SqlBoundary.Proofs.Session.Variables

/-! # Variables set on the command line

An option sets a variable as the command in a session does, unless the name is one of the four that
are settings. The command then changes the setting, and the option puts a variable behind it.
-/

namespace SqlBoundary

open Text

/-- An assignment as the command line spells it. -/
def Argument.assignment (name value : Text) : Text := name ++ '=' :: value

def Options.assigning (name value : Text) : Options :=
  { noStartup := true, assignments := [some (Argument.assignment name value)] }

theorem Argument.splitValue_assignment {name : Text} (h : '=' ∉ name) (value : Text) :
    splitValue (assignment name value) = (name, some value) := by
  have hall : name.all (· ≠ '=') = true := by
    simpa using fun c hc (heq : c = '=') => h (heq ▸ hc)
  obtain ⟨htake, hdrop⟩ := takeWhile_dropWhile_append_cons hall (c := '=') (by decide) value
  rw [splitValue, assignment, hdrop, htake]

namespace Session

variable {name value : Text}

/-- The option changes a variable, whatever its name. -/
theorem applyOptions_assigning (hequals : '=' ∉ name) (value : Text) (environment : Environment)
    (session : Session) :
    session.applyOptions environment (.assigning name value) =
      .done { session with settings :=
        { session.settings with
          bindings := session.settings.bindings.insert name (some (.text value)) } } [] := by
  have hassign := Argument.splitValue_assignment hequals value
  have hoption : session.applyOptions environment (.assigning name value) =
      session.assignArgument (some (Argument.assignment name value)) := by
    have hadjust (change : Settings → Settings) (h : change session.settings = session.settings) :
        session.adjust change = .done session [] := by rw [adjust, h]
    unfold applyOptions
    have hstartup : (Options.assigning name value).noStartup = true := rfl
    rw [hadjust _ rfl, Outcome.done_andThen, Outcome.prepend_nil, if_pos hstartup,
      Outcome.done_andThen, Outcome.prepend_nil, hadjust _ rfl, Outcome.done_andThen,
      Outcome.prepend_nil]
    exact Outcome.andThen_done (fun _ => rfl) _
  rw [hoption, assignArgument, Option.map_some, hassign]
  rfl

theorem run_assign (hname : IsWord name) (hvalue : IsArgument value) (hunquoted : IsUnquoted value)
    (environment : Environment) (session : Session) :
    session.run environment ("\\set ".toList ++ (name ++ ' ' :: value)) =
      match session.settings.assign? name (some value) with
      | some settings => .done { session with settings } []
      | none => .done session [rejectedValue "set" (some value) "Integer"] := by
  have hread := Metacommand.readAssignment_append hname hvalue.trimmed
  rw [trimQuotes_eq_self_iff.2 hunquoted] at hread
  refine (run_typed (hname.isArgument_append hvalue) .assign environment session).trans ?_
  cases hassign : session.settings.assign? name (some value) with
  | some settings =>
    simp only [execute, assignCommand, hread, hassign]
    rfl
  | none =>
    simp only [execute, assignCommand, hread, hassign]
    rfl

/-- A setting is not a variable. -/
theorem bindings_assign? {s next : Settings} {value : Option Text}
    (h : name.toLower ∈ reservedNames) (hassign : s.assign? name value = some next) :
    next.bindings = s.bindings := by
  unfold Settings.assign? at hassign
  dsimp only at hassign
  repeat' split at hassign
  · cases hassign
    rfl
  · cases hassign
    rfl
  · obtain ⟨size, -, rfl⟩ := Option.map_eq_some_iff.1 hassign
    rfl
  · cases hassign
    rfl
  · simp_all [reservedNames]

/-- The option and the command do the same with a name that is no setting. With any other they leave
the same session only where it is the one they began with. -/
theorem applyOptions_assigning_iff (hname : IsWord name) (hequals : '=' ∉ name)
    (hvalue : IsArgument value) (hunquoted : IsUnquoted value) (session : Session)
    (environment : Environment) :
    let option := session.applyOptions environment (.assigning name value)
    let command := session.run environment ("\\set ".toList ++ (name ++ ' ' :: value))
    (name.toLower ∉ reservedNames → option = command) ∧
      (name.toLower ∈ reservedNames →
        (option.session = command.session ↔
          option.session = session ∧ command.session = session)) := by
  intro option command
  have hoption : option = _ := applyOptions_assigning hequals value environment session
  have hcommand : command = _ := run_assign hname hvalue hunquoted environment session
  refine ⟨fun hfree => ?_, fun hreserved => ⟨fun hsame => ?_, fun h => h.1.trans h.2.symm⟩⟩
  · rw [hoption, hcommand, Settings.assign?_of_isVariableName ⟨hname, hfree⟩]
    rfl
  · -- The option changes nothing but the variables, and the command does not change those.
    have hbindings : command.session.settings.bindings = session.settings.bindings := by
      rw [hcommand]
      split
      next settings hassign => exact bindings_assign? hreserved hassign
      next => rfl
    have hkept : option.session = session := by
      rw [hoption, Outcome.done]
      rw [← hsame, hoption] at hbindings
      exact congrArg (fun bindings => { session with settings :=
        { session.settings with bindings } }) hbindings
    exact ⟨hkept, hsame.symm.trans hkept⟩

/-- A value of several words is the same variable for both. A size that is no number is rejected by
the command, and the option takes it for a variable. -/
theorem applyOptions_assigning_iff_names :
    let session : Session := ⟨{}, .plain, ⟨[]⟩⟩
    let environment : Environment := { home := "home" }
    let value : Text := "it's = 'a' b"
    let option name := session.applyOptions environment (.assigning name value)
    let command (name : Text) := session.run environment ("\\set ".toList ++ (name ++ ' ' :: value))
    (IsWord "Prompt" ∧ '=' ∉ "Prompt".toList ∧ IsArgument value ∧ IsUnquoted value) ∧
      option "Prompt" = command "Prompt" ∧
      (command "Prompt").session.settings.bindings = [("Prompt".toList, some (.text value))] ∧
      (IsWord "histSize" ∧ '=' ∉ "histSize".toList) ∧
      (command "histSize").session = session ∧
      (option "histSize").session ≠ (command "histSize").session := by
  intro session environment value option command
  have hvalue : IsArgument value :=
    ⟨by decide, ⟨by rintro _ ⟨⟩; decide, by rintro _ ⟨⟩; decide⟩, by decide⟩
  have hunquoted : IsUnquoted value := by decide
  have hfree : option "Prompt" = command "Prompt" :=
    (applyOptions_assigning_iff (by decide) (by decide) hvalue hunquoted session environment).1
      (by decide)
  have hsize : (option "histSize").session = (command "histSize").session ↔
      (option "histSize").session = session ∧ (command "histSize").session = session :=
    (applyOptions_assigning_iff (by decide) (by decide) hvalue hunquoted session environment).2
      (by decide)
  refine ⟨⟨by decide, by decide, hvalue, hunquoted⟩, hfree, by decide +kernel,
    ⟨by decide, by decide⟩, by decide +kernel, fun hsame => ?_⟩
  have hkept := (hsize.1 hsame).1
  revert hkept
  decide +kernel

/-- The option does not set the prompt. -/
theorem not_settings_applyOptions_eq_run :
    ¬∀ (session : Session) (environment : Environment) (name value : Text), IsWord name →
      '=' ∉ name → IsArgument value → IsUnquoted value →
        (session.applyOptions environment (.assigning name value)).session.settings =
          (session.run environment
            ("\\set ".toList ++ (name ++ ' ' :: value))).session.settings := by
  intro h
  have hsame := h ⟨{}, .plain, ⟨[]⟩⟩ {} "prompt1" "p>" (by decide) (by decide)
    (IsWord.isArgument (by decide)) (by decide)
  revert hsame
  decide +kernel

end Session

end SqlBoundary
