import SqlBoundary.Session.Output

/-! # What the output file is given

A text goes to the output file, or the file refuses it and is owed it. Closing the file leaves none,
unless it refuses what it is owed. Nothing else in the settings changes.
-/

namespace SqlBoundary

/-- No more is written than what a device shows. -/
def OnlyShown (events : List Event) : Prop := ∀ e ∈ events, ∃ t, e = .device t

theorem onlyShown_nil : OnlyShown [] := fun _ he => nomatch he

theorem onlyShown_ite (shown : Bool) (t : Text) :
    OnlyShown (if shown then [.device t] else []) := by
  split
  next => exact fun e he => ⟨t, List.mem_singleton.1 he⟩
  next => exact onlyShown_nil

/-- The settings, whatever was written to the output file and whatever it is owed. -/
def Settings.unwritten (s : Settings) : Settings :=
  { s with output := s.output.map fun file => { file with offset := 0, pending := [] } }

namespace Session

/-- The output file, if there is one, can be closed. -/
def Closes (session : Session) (environment : Environment) : Prop :=
  ∀ file, session.settings.output = some file →
    environment.host.fileFault? file.location file.pending = none

/-- The output file, if there is one, is open and has taken all that it was given. -/
def IsFlushed (session : Session) : Prop :=
  ∀ file, session.settings.output = some file → file.closed = false ∧ file.pending = []

variable (session : Session) (environment : Environment)

theorem withOutput_eq_self {output : Option OutputFile} (h : session.settings.output = output) :
    session.withOutput output = session := by
  subst h
  rfl

theorem unwritten_withOutput {file : OutputFile} (h : session.settings.output = some file)
    (offset : Nat) (pending : Text) :
    (session.withOutput (some { file with offset, pending })).settings.unwritten =
      session.settings.unwritten := by
  rw [Settings.unwritten, Settings.unwritten, h]
  rfl

theorem store_cases (file : OutputFile) (t : Text) :
    (∃ fault, environment.host.fileFault? file.location (file.pending ++ t) = some fault ∧
        session.store environment file t =
          .halted (session.withOutput (some { file with pending := file.pending ++ t }))
            (.refused fault)) ∨
      environment.host.fileFault? file.location (file.pending ++ t) = none ∧
        ∃ files offset events, OnlyShown events ∧ session.store environment file t =
          .done ({ session with files }.withOutput (some { file with offset, pending := [] }))
            events := by
  unfold store
  dsimp only
  cases hfault : environment.host.fileFault? file.location (file.pending ++ t) with
  | some fault => exact .inl ⟨fault, rfl, rfl⟩
  | none => exact .inr ⟨rfl, _, _, _, onlyShown_ite _ _, rfl⟩

/-- Closing leaves no output file, or it halts and leaves the file, which is then closed. -/
theorem closeOutput_cases :
    (∃ files events, OnlyShown events ∧
        session.closeOutput environment = .done ({ session with files }.withOutput none) events) ∨
      ¬session.Closes environment ∧ ∃ file fault,
        session.closeOutput environment =
          .halted (session.withOutput (some file)) (.refused fault) := by
  unfold closeOutput
  cases hfile : session.settings.output with
  | none =>
    have hsession := session.withOutput_eq_self hfile
    exact .inl ⟨session.files, [], onlyShown_nil, congrArg (Outcome.done · []) hsession.symm⟩
  | some file =>
    dsimp only
    split
    next => exact .inl ⟨session.files, [], onlyShown_nil, rfl⟩
    next =>
      obtain ⟨fault, hfault, hstore⟩ | ⟨-, files, offset, events, hevents, hstore⟩ :=
        session.store_cases environment file []
      · rw [List.append_nil] at hfault
        refine .inr ⟨fun hcloses => ?_, _, fault, by rw [hstore]; rfl⟩
        cases hfault.symm.trans (hcloses file hfile)
      · exact .inl ⟨files, events, hevents, by rw [hstore]; rfl⟩

/-- Closing the output file changes no other setting. -/
theorem settings_closeOutput :
    ∃ output, (session.closeOutput environment).session.settings =
      { session.settings with output } := by
  obtain ⟨files, events, -, hclose⟩ | ⟨-, file, fault, hclose⟩ :=
    session.closeOutput_cases environment <;>
  exact ⟨_, by rw [hclose]; rfl⟩

/-- Where files take what they are given, one that has taken all is closed and no more. -/
theorem closeOutput_of_isFlushed (h : session.IsFlushed)
    (hstores : ∀ location, environment.Stores location) :
    session.closeOutput environment = .done (session.withOutput none) [] := by
  unfold closeOutput
  cases hfile : session.settings.output with
  | none => exact congrArg (Outcome.done · []) (session.withOutput_eq_self hfile).symm
  | some file =>
    obtain ⟨hopen, hpending⟩ := h file hfile
    simp only [hopen, Bool.false_eq_true, if_false, store, hpending, List.append_nil,
      hstores file.location [], List.isEmpty_nil, if_true, Bool.not_true, Bool.and_false]
    rfl

end Session
end SqlBoundary
