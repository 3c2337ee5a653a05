import SqlBoundary.History
import SqlBoundary.Programs.HistoryFile
import SqlBoundary.Proofs.Session.Follow

/-! # The history size

The size is what the last assignment to it made it, whether that was typed, in a line of a startup
file, or in a file that was run. A history is loaded exactly if that size is in range, and its
newest entries come first, if that is how a history file is read.
-/

namespace SqlBoundary

namespace Session

/-- The size that an assignment makes the history, if it is one of the history size. -/
def assignedSize? (argument : Text) : Option Int :=
  let (name, value) := Metacommand.readAssignment argument
  if name.toLower = "histsize".toList then value.bind Integer.read? else none

/-- The size that a text makes the history, if it is a command for that. -/
def historySize? (t : Text) : Option Int :=
  match Metacommand.read t with
  | .command name (some argument) =>
    if name = Keyword.assign.name then assignedSize? argument else none
  | _ => none

theorem historySize_assign? (settings : Settings) (name : Text) (value : Option Text) :
    ((settings.assign? name value).getD settings).historySize =
      (if name.toLower = "histsize".toList then value.bind Integer.read? else none).getD
        settings.historySize := by
  unfold Settings.assign?
  dsimp only
  split
  next hname => rw [hname]; rfl
  split
  next hname => rw [hname]; rfl
  split
  next => cases value.bind Integer.read? <;> rfl
  next => split <;> rfl

theorem historySize_assignCommand (session : Session) (argument : Text) :
    (session.assignCommand (some argument)).session.settings.historySize =
      (assignedSize? argument).getD session.settings.historySize := by
  refine Eq.trans ?_ (historySize_assign? session.settings
    (Metacommand.readAssignment argument).1 (Metacommand.readAssignment argument).2)
  simp only [assignCommand]
  split
  next settings hassign => rw [hassign]; rfl
  next hassign => rw [hassign]; rfl

theorem historySize_make (session : Session) (a : Adjustment) :
    (a.make session).session.settings.historySize = session.settings.historySize := by
  cases a with
  | turn switch => cases switch <;> rfl
  | flip switch => cases switch <;> rfl
  | reject switch => cases switch <;> rfl
  | format | fieldSeparator | recordSeparator | showFieldSeparator | showRecordSeparator
  | complain => rfl

theorem historySize_execute (session : Session) (environment : Environment)
    {argument : Option Text} {keyword : Keyword} (hkeyword : keyword ≠ .assign) :
    (session.execute environment argument keyword).session.settings.historySize =
      session.settings.historySize := by
  cases keyword.executes argument with
  | adjustment a hexecute =>
    rw [hexecute]
    exact historySize_make session a
  | redirect =>
    obtain ⟨output, hredirect⟩ := session.settings_redirect environment argument
    exact (congrArg Settings.historySize hredirect :)
  | help =>
    exact (congrArg Settings.historySize (keeps_page session environment [] _ _).settings :)
  | summary | quit => rfl
  | assign => exact absurd rfl hkeyword
  | unassign => cases argument <;> rfl

theorem historySize?_eq_none {t : Text}
    (h : ∀ argument, Metacommand.read t ≠ .command Keyword.assign.name (some argument)) :
    historySize? t = none := by
  unfold historySize?
  split
  next name argument hread =>
    refine if_neg fun hname => h argument ?_
    rw [hread, hname]
  next => rfl

/-- What a text does changes the size only as a command for that. -/
theorem historySize_perform (session : Session) (environment : Environment) (t : Text) :
    (session.perform environment t).session.settings.historySize =
      (historySize? t).getD session.settings.historySize := by
  obtain ⟨ht, hperform⟩ | ⟨hread, d, hperform⟩ | ⟨keyword, argument, hread, hperform⟩ :=
    perform_cases environment t
  · have hnone : historySize? t = none := historySize?_eq_none fun argument => by
      rw [(Metacommand.read_eq_notCommand_iff t).2 ht]
      exact nofun
    rw [hperform, hnone]
    exact (congrArg Settings.historySize (keeps_split session environment t).settings :)
  · rw [hperform, historySize?_eq_none fun argument => hread .assign (some argument)]
    rfl
  · rw [hperform]
    by_cases hkeyword : keyword = .assign
    · subst hkeyword
      cases argument with
      | none =>
        rw [historySize?_eq_none fun argument => by rw [hread]; exact nofun]
        rfl
      | some argument =>
        rw [historySize?, hread]
        exact historySize_assignCommand session argument
    · rw [historySize_execute session environment hkeyword, historySize?_eq_none fun other => ?_]
      · rfl
      · rw [hread]
        exact fun h => hkeyword (Keyword.name_injective (Metacommand.Reading.command.inj h).1)

/-- The size that running a text makes the history, if it does: the one that the text makes it that
it comes down to, if that text is begun. -/
def sizeOfRun? (session : Session) (environment : Environment) (t : Text) : Option Int := do
  let (nesting, u) ← session.resolve environment.host.maxNesting t
  if environment.host.moment? nesting = some .start then none else historySize? u

theorem historySize_run (session : Session) (environment : Environment) (t : Text) :
    (run environment t session).session.settings.historySize =
      (session.sizeOfRun? environment t).getD session.settings.historySize := by
  rw [run, sizeOfRun?]
  obtain ⟨hresolve, halt, hrun⟩ | ⟨n, u, hresolve, -, hrun⟩ :=
    session.runNested_resolves environment environment.host.maxNesting t
  · rw [hrun session rfl, hresolve]
    rfl
  · rw [hrun session rfl, hresolve]
    change _ = (if environment.host.moment? n = some .start then none
      else historySize? u).getD session.settings.historySize
    obtain ⟨hmoment, hattempt⟩ | ⟨hmoment, -, hattempt⟩ | hattempt := attempt_cases environment n u
    · rw [hattempt, if_pos hmoment]
      rfl
    · rw [hattempt, if_neg (by rw [hmoment]; decide)]
      exact historySize_perform session environment u
    · by_cases hmoment : environment.host.moment? n = some .start
      · rw [if_pos hmoment, attempt, hmoment]
        rfl
      · rw [hattempt, if_neg hmoment]
        exact historySize_perform session environment u

end Session

/-- The size that a step makes the history, if it does. Of the lines of a startup file only commands
can do so. -/
def Step.historySize? (environment : Environment) (session : Session) : Step → Option Int
  | command t => session.sizeOfRun? environment t
  | line _ _ t => if t.head? = some '\\' then session.sizeOfRun? environment t else none

theorem Step.historySize_take (environment : Environment) (step : Step) (session : Session) :
    (step.take environment session).session.settings.historySize =
      (step.historySize? environment session).getD session.settings.historySize := by
  cases step with
  | command t => exact Session.historySize_run session environment t
  | line file number t =>
    by_cases hhead : t.head? = some '\\'
    · rw [Step.historySize?, if_pos hhead]
      obtain ⟨rest, rfl⟩ := List.head?_eq_some_iff.1 hhead
      exact Session.historySize_run session environment ('\\' :: rest)
    · rw [Step.historySize?, if_neg hhead, Step.take, Session.runLine, if_neg hhead]
      split
      next => rfl
      next => split <;> rfl

/-- The sizes that steps make the history, taken one after another. -/
def Session.historySizes (session : Session) : List (Environment × Step) → List Int
  | [] => []
  | (environment, step) :: steps =>
    (step.historySize? environment session).toList ++
      (step.take environment session).session.historySizes steps

/-- The size is the last one that was set. -/
theorem Session.historySize_after (session : Session) (steps : List (Environment × Step)) :
    (session.after steps).settings.historySize =
      (session.historySizes steps).getLast?.getD session.settings.historySize := by
  induction steps generalizing session with
  | nil => rfl
  | cons s steps ih =>
    obtain ⟨environment, step⟩ := s
    have hstep := step.historySize_take environment session
    rw [historySizes, List.getLast?_append]
    refine (ih (step.take environment session).session).trans ?_
    rw [hstep]
    cases ((step.take environment session).session.historySizes steps).getLast? with
    | some size => rfl
    | none => cases step.historySize? environment session <;> rfl

namespace History

variable {load entries : Text → List Text}

theorem newest?_of_inRange {size : Int} (h : 0 ≤ size ∧ size ≤ maxSize) (content : Text) :
    newest? load content size = some ((load content).take size.toNat) := by
  rw [newest?, if_pos (by simpa using h)]

theorem newest?_eq_none {size : Int} (h : ¬(0 ≤ size ∧ size ≤ maxSize)) (content : Text) :
    newest? load content size = none := by
  rw [newest?, if_neg (by simpa using h)]

/-- Whatever steps a session takes, a history is loaded exactly if the size that was set last, if
any, is in range. What is loaded are the newest entries, newest first, as many as the size allows,
if a history file is read newest first. -/
theorem newest?_after_iff (hload : ∀ content, load content = (entries content).reverse)
    (pager : Option Text) (files : Files) (steps : List (Environment × Step)) (content : Text) :
    let fresh : Session := ⟨{ pager }, .plain, files⟩
    let size := (fresh.after steps).settings.historySize
    (∃ shown, newest? load content size = some shown ∧
        shown.length = min size.toNat (entries content).length ∧
        shown <+: (entries content).reverse) ↔
      ∀ last ∈ (fresh.historySizes steps).getLast?, 0 ≤ last ∧ last ≤ maxSize := by
  intro fresh size
  have hsize : size = (fresh.historySizes steps).getLast?.getD 500 :=
    fresh.historySize_after steps
  have hrange : (0 ≤ size ∧ size ≤ maxSize) ↔
      ∀ last ∈ (fresh.historySizes steps).getLast?, 0 ≤ last ∧ last ≤ maxSize := by
    rw [hsize]
    cases (fresh.historySizes steps).getLast? with
    | none => simp [maxSize]
    | some last => simp
  rw [← hrange]
  constructor
  · rintro ⟨shown, hshown, -⟩
    by_contra hout
    rw [newest?_eq_none hout] at hshown
    cases hshown
  · intro hin
    rw [← hload]
    refine ⟨_, newest?_of_inRange hin content, ?_, List.take_prefix _ _⟩
    rw [List.length_take, hload, List.length_reverse]

/-- A size that leaves out the older of two entries. -/
theorem newest?_after_iff_histsize :
    let fresh : Session := ⟨{}, .plain, ⟨[]⟩⟩
    let steps : List (Environment × Step) := [({}, .command "\\set histsize 1")]
    let size := (fresh.after steps).settings.historySize
    (∀ content, HistoryFile.load content = (HistoryFile.entries content).reverse) ∧
      (∀ last ∈ (fresh.historySizes steps).getLast?, 0 ≤ last ∧ last ≤ maxSize) ∧
      ∃ shown, newest? HistoryFile.load "\n+a\n\n+b\n" size = some shown ∧ shown.length = 1 ∧
        shown <+: ["b".toList, "a".toList] := by
  intro fresh steps size
  have hload (content : Text) :
      HistoryFile.load content = (HistoryFile.entries content).reverse := rfl
  have hrange : ∀ last ∈ (fresh.historySizes steps).getLast?, 0 ≤ last ∧ last ≤ maxSize := by
    decide +kernel
  have hentries : (HistoryFile.entries "\n+a\n\n+b\n").reverse = ["b".toList, "a".toList] := by
    decide +kernel
  obtain ⟨shown, hshown, hlength, hprefix⟩ :=
    (newest?_after_iff hload none ⟨[]⟩ steps "\n+a\n\n+b\n").2 hrange
  rw [hentries] at hprefix
  have hmin : min size.toNat (HistoryFile.entries "\n+a\n\n+b\n").length = 1 := by decide +kernel
  exact ⟨hload, hrange, shown, hshown, hlength.trans hmin, hprefix⟩

/-- A size below zero is accepted, and no history can be loaded. -/
theorem exists_reachable_newest?_eq_none :
    ∃ session : Session, session.Reachable Environment.Selects ∧ ∀ load content,
      newest? load content session.settings.historySize = none := by
  have hsize : ((Step.command "\\set histsize -1").take {}
      ⟨{}, .plain, ⟨[]⟩⟩).session.settings.historySize = -1 := by decide +kernel
  have hselects : Environment.Selects {} := fun _ => nofun
  refine ⟨_, (Session.Reachable.fresh none ⟨[]⟩).step hselects (.command "\\set histsize -1"),
    fun load content => ?_⟩
  exact newest?_eq_none (by rw [hsize]; decide) content

end History

end SqlBoundary
