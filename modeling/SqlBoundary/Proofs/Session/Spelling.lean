import SqlBoundary.Proofs.Session.Argument

/-! # Two spellings of a setting

The field separator and the switch for rows alone are set by a command of their own or as an option.
An option loses the quotes around its value, and only the command keeps the switch where the value
is no truth value. Otherwise the two leave the same session.
-/

namespace SqlBoundary

open Text

theorem ReportOption.ofName?_name (option : ReportOption) : ofName? option.name = some option := by
  cases option <;> decide

theorem ReportOption.isWord_name (option : ReportOption) : IsWord option.name := by
  cases option <;> decide

/-- No truth value has quotes around it. -/
theorem isUnquoted_of_readSwitch? {t : Text} {value : Bool} (h : readSwitch? t = some value) :
    IsUnquoted t := by
  unfold readSwitch? at h
  simp only [Bool.or_eq_true, decide_eq_true_eq] at h
  split at h
  next ht => rcases ht with rfl | rfl <;> decide
  next =>
    split at h
    next ht => rcases ht with rfl | rfl <;> decide
    next => cases h

namespace Session

variable {value : Text}

theorem run_option (h : IsArgument value) (option : ReportOption) (environment : Environment)
    (session : Session) :
    session.run environment
        (Metacommand.typed Keyword.option.name (option.name ++ ' ' :: value)) =
      (session.setOption option (some value.trimQuotes)).delivered environment.obstacle? := by
  rw [run_typed (option.isWord_name.isArgument_append h)]
  simp only [execute, optionCommand, Option.getD_some,
    Metacommand.readAssignment_append option.isWord_name h.trimmed, option.ofName?_name]

/-- A separator is set to the same text by its command and as an option exactly if no quotes are at
its ends. A truth value is what it takes that the switch for rows alone is turned in the same way,
whatever the session. By its command the switch stays with any other value. -/
theorem session_run_eq_session_run_option_iff (h : IsArgument value) :
    ((∀ (session : Session) (environment : Environment),
        (session.run environment ("\\f ".toList ++ value)).session =
          (session.run environment ("\\pset fieldsep ".toList ++ value)).session) ↔
        IsUnquoted value) ∧
      ((∀ (session : Session) (environment : Environment),
        (session.run environment ("\\t ".toList ++ value)).session =
          (session.run environment ("\\pset tuples_only ".toList ++ value)).session) ↔
        (readSwitch? value).isSome) ∧
      (readSwitch? value = none → ∀ (session : Session) (environment : Environment),
        (session.run environment ("\\t ".toList ++ value)).session = session) := by
  have hf (session : Session) (environment : Environment) :
      session.run environment ("\\f ".toList ++ value) =
        (session.setFieldSeparator value).delivered environment.obstacle? :=
    run_typed h .fieldSeparator environment session
  have hfieldsep (session : Session) (environment : Environment) :
      session.run environment ("\\pset fieldsep ".toList ++ value) =
        (session.setFieldSeparator value.trimQuotes).delivered environment.obstacle? :=
    run_option h .fieldSeparator environment session
  have ht (session : Session) (environment : Environment) :
      session.run environment ("\\t ".toList ++ value) =
        (session.turnCommand .tuplesOnly (some value)).delivered environment.obstacle? :=
    run_typed h (.turn .tuplesOnly) environment session
  have htuples (session : Session) (environment : Environment) :
      session.run environment ("\\pset tuples_only ".toList ++ value) =
        (session.turn .tuplesOnly (readSwitch? value.trimQuotes = some true)).delivered
          environment.obstacle? :=
    run_option h .tuplesOnly environment session
  simp only [hf, hfieldsep, ht, htuples, turnCommand, Outcome.session_delivered]
  refine ⟨⟨fun hsame => ?_, fun hvalue => ?_⟩, ⟨fun hsame => ?_, fun hvalue => ?_⟩, ?_⟩
  · have hseparator := congrArg (·.settings.fieldSeparator)
      (hsame ⟨{}, .plain, ⟨[]⟩⟩ {})
    exact trimQuotes_eq_self_iff.1 hseparator.symm
  · intro session environment
    rw [trimQuotes_eq_self_iff.2 hvalue]
  · -- A switch that is not what the option turns it to shows the difference.
    rw [← Option.not_isNone, Bool.not_eq_true', ← Bool.not_eq_true, Option.isNone_iff_eq_none]
    intro hnone
    have hturned := congrArg (·.settings.tuplesOnly)
      (hsame ⟨{ tuplesOnly := !decide (readSwitch? value.trimQuotes = some true) }, .plain, ⟨[]⟩⟩
        {})
    rw [hnone] at hturned
    exact (Bool.not_eq_self _).1 hturned
  · intro session environment
    obtain ⟨b, hb⟩ := Option.isSome_iff_exists.1 hvalue
    rw [trimQuotes_eq_self_iff.2 (isUnquoted_of_readSwitch? hb), hb]
    cases b <;> rfl
  · intro hnone session environment
    rw [hnone]
    rfl

/-- A value of several words with quotes in it is the same separator for both, and leaves the switch
as it is. -/
theorem session_run_eq_session_run_option_iff_words :
    let value : Text := "o'n  \\"
    IsArgument value ∧ readSwitch? value = none ∧
      (∀ (session : Session) (environment : Environment),
        (session.run environment ("\\f ".toList ++ value)).session =
          (session.run environment ("\\pset fieldsep ".toList ++ value)).session) ∧
      ∀ (session : Session) (environment : Environment),
        (session.run environment ("\\t ".toList ++ value)).session = session := by
  intro value
  have hvalue : IsArgument value :=
    ⟨by decide, ⟨by rintro _ ⟨⟩; decide, by rintro _ ⟨⟩; decide⟩, by decide⟩
  obtain ⟨hseparator, -, hkept⟩ := session_run_eq_session_run_option_iff hvalue
  exact ⟨hvalue, by decide, hseparator.2 (by decide), hkept (by decide)⟩

/-- An option turns the switch off where its value is no truth value, and a command keeps the quotes
around a separator. -/
theorem not_settings_run_eq_settings_run_option :
    (¬∀ (session : Session) (environment : Environment) (value : Text), IsArgument value →
        readSwitch? value = none →
        (session.run environment
          ("\\pset tuples_only ".toList ++ value)).session.settings.tuplesOnly =
            session.settings.tuplesOnly) ∧
      ¬∀ (session : Session) (environment : Environment) (value : Text), IsArgument value →
        (session.run environment ("\\f ".toList ++ value)).session.settings =
          (session.run environment ("\\pset fieldsep ".toList ++ value)).session.settings := by
  constructor
  · intro h
    have hkept := h ⟨{ tuplesOnly := true }, .plain, ⟨[]⟩⟩ {} "maybe"
      (IsWord.isArgument (by decide)) (by decide)
    revert hkept
    decide +kernel
  · intro h
    have hsame := h ⟨{}, .plain, ⟨[]⟩⟩ {} "'|'"
      (IsWord.isArgument (by decide))
    revert hsame
    decide +kernel

end Session

end SqlBoundary
