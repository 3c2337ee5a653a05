import SqlBoundary.Proofs.Session.Argument

/-! # Variables as a finite map

Setting a variable to a quoted text and forgetting it again are the insertions and deletions of a
finite map. The text arrives character for character, and nothing else changes.
-/

namespace SqlBoundary

open Text

namespace Dictionary
variable {α : Type}

def names (d : Dictionary α) : List Text := d.map Prod.fst

theorem mem_names_insert {d : Dictionary α} {name other : Text} {value : α} :
    other ∈ (d.insert name value).names ↔ other = name ∨ other ∈ d.names := by
  induction d with
  | nil => simp [insert, names]
  | cons entry rest ih => grind [insert, names]

/-- A name stays the only one of its kind. -/
theorem nodup_names_insert {d : Dictionary α} (h : d.names.Nodup) (name : Text) (value : α) :
    (d.insert name value).names.Nodup := by
  induction d with
  | nil => simp [insert, names]
  | cons entry rest ih =>
    obtain ⟨hentry, hrest⟩ : entry.1 ∉ names rest ∧ (names rest).Nodup := List.nodup_cons.1 h
    rw [insert]
    split
    next hname =>
      subst hname
      exact h
    next hname =>
      refine List.nodup_cons.2 ⟨fun hmem => ?_, ih hrest⟩
      exact (mem_names_insert.1 hmem).elim hname hentry

theorem nodup_names_erase {d : Dictionary α} (h : d.names.Nodup) (name : Text) :
    (d.erase name).names.Nodup :=
  h.sublist (List.filter_sublist.map Prod.fst)

end Dictionary

/-- The four names, in lower case, that are settings and not variables. -/
def reservedNames : List Text :=
  ["prompt1".toList, "prompt2".toList, "histsize".toList, "verbosity".toList]

structure IsVariableName (name : Text) : Prop where
  word : IsWord name
  free : name.toLower ∉ reservedNames

instance (name : Text) : Decidable (IsVariableName name) :=
  decidable_of_iff (IsWord name ∧ name.toLower ∉ reservedNames)
    ⟨fun h => ⟨h.1, h.2⟩, fun h => ⟨h.1, h.2⟩⟩

/-- A text that can stand between quotes: one line without a quote at its ends. -/
structure IsQuotable (value : Text) : Prop where
  unquoted : IsUnquoted value
  line : '\n' ∉ value

instance (value : Text) : Decidable (IsQuotable value) :=
  decidable_of_iff (IsUnquoted value ∧ '\n' ∉ value) ⟨fun h => ⟨h.1, h.2⟩, fun h => ⟨h.1, h.2⟩⟩

theorem Settings.assign?_of_isVariableName {name : Text} (h : IsVariableName name)
    (s : Settings) (value : Option Text) :
    s.assign? name value =
      some { s with bindings := s.bindings.insert name (value.map .text) } := by
  obtain ⟨hprompt, hcontinuation, hsize, hverbosity⟩ : name.toLower ≠ "prompt1".toList ∧
      name.toLower ≠ "prompt2".toList ∧ name.toLower ≠ "histsize".toList ∧
      name.toLower ≠ "verbosity".toList := by
    simpa [reservedNames] using h.free
  simp only [Settings.assign?, if_neg hprompt, if_neg hcontinuation, if_neg hsize,
    if_neg hverbosity]

theorem IsQuotable.isArgument {value : Text} (h : IsQuotable value) :
    IsArgument ('\'' :: (value ++ ['\''])) where
  nonempty := List.cons_ne_nil _ _
  trimmed := isTrimmed_between rfl rfl value
  line := by simp [h.line]

/-- A command to set a variable or to forget it. -/
inductive Assignment
  | set (name value : Text)
  | unset (name : Text)
deriving DecidableEq

namespace Assignment

/-- How the command is typed, the value between single quotes. -/
def typed : Assignment → Text
  | set name value => "\\set ".toList ++ (name ++ ' ' :: '\'' :: (value ++ ['\'']))
  | unset name => "\\unset ".toList ++ name

def WellFormed : Assignment → Prop
  | set name value => IsVariableName name ∧ IsQuotable value
  | unset name => IsVariableName name

instance : DecidablePred WellFormed
  | set name value => inferInstanceAs (Decidable (IsVariableName name ∧ IsQuotable value))
  | unset name => inferInstanceAs (Decidable (IsVariableName name))

/-- What the command does to a finite map. -/
def update (m : Text → Option (Option Value)) : Assignment → Text → Option (Option Value)
  | set name value => Function.update m name (some (some (.text value)))
  | unset name => Function.update m name none

/-- What the command does to the variables. -/
def apply (d : Variables) : Assignment → Variables
  | set name value => d.insert name (some (.text value))
  | unset name => d.erase name

theorem get?_apply (d : Variables) (a : Assignment) :
    (fun name => (a.apply d).get? name) = a.update fun name => d.get? name := by
  funext other
  cases a with
  | set name value =>
    simp only [apply, update, Dictionary.get?_insert, Function.update_apply, eq_comm]
  | unset name =>
    simp only [apply, update, Dictionary.get?_erase, Function.update_apply, eq_comm]

theorem nodup_names_apply {d : Variables} (h : d.names.Nodup) (a : Assignment) :
    (a.apply d).names.Nodup := by
  cases a with
  | set name value => exact Dictionary.nodup_names_insert h name _
  | unset name => exact Dictionary.nodup_names_erase h name

theorem run_typed {a : Assignment} (h : a.WellFormed) (environment : Environment)
    (session : Session) :
    session.run environment a.typed =
      .done { session with settings :=
        { session.settings with bindings := a.apply session.settings.bindings } } [] := by
  cases a with
  | set name value =>
    obtain ⟨hname, hvalue⟩ := h
    have hrun := Session.run_typed (hname.word.isArgument_append hvalue.isArgument) .assign
      environment session
    have hread := Metacommand.readAssignment_append hname.word hvalue.isArgument.trimmed
    rw [trimQuotes_quoted hvalue.unquoted] at hread
    refine hrun.trans ?_
    simp only [Session.execute, Session.assignCommand, hread,
      Settings.assign?_of_isVariableName hname]
    rfl
  | unset name => exact Session.run_typed h.word.isArgument .unassign environment session

theorem get?_foldl_apply (as : List Assignment) (d : Variables) :
    (fun name => (as.foldl apply d).get? name) = as.foldl update fun name => d.get? name := by
  induction as generalizing d with
  | nil => rfl
  | cons a as ih => rw [List.foldl_cons, List.foldl_cons, ih, get?_apply]

theorem nodup_names_foldl_apply {d : Variables} (h : d.names.Nodup) (as : List Assignment) :
    (as.foldl apply d).names.Nodup := by
  induction as generalizing d with
  | nil => exact h
  | cons a as ih => exact ih (nodup_names_apply h a)

/-- The commands as steps of a session, each in its environment. -/
def steps (commands : List (Environment × Assignment)) : List (Environment × Step) :=
  commands.map fun c => (c.1, .command c.2.typed)

theorem after_steps {commands : List (Environment × Assignment)}
    (h : ∀ c ∈ commands, c.2.WellFormed) (session : Session) :
    session.after (steps commands) = { session with settings :=
        { session.settings with
          bindings := (commands.map Prod.snd).foldl apply session.settings.bindings } } ∧
      ∀ o ∈ session.outcomes (steps commands), o.halt = none ∧ o.events = [] := by
  induction commands generalizing session with
  | nil => exact ⟨rfl, fun o ho => nomatch ho⟩
  | cons c commands ih =>
    obtain ⟨hc, hcommands⟩ := List.forall_mem_cons.1 h
    have hrun := run_typed hc c.1 session
    obtain ⟨hafter, houtcomes⟩ := ih hcommands (session.run c.1 c.2.typed).session
    refine ⟨hafter.trans (by rw [hrun]; rfl), List.forall_mem_cons.2 ⟨?_, houtcomes⟩⟩
    rw [Step.take, hrun]
    exact ⟨rfl, rfl⟩

end Assignment

/-- Commands that set variables to quoted texts and forget variables insert and delete in a finite
map, in their order. They are silent, and nothing else in the session changes. -/
theorem variables_after_assignments {commands : List (Environment × Assignment)}
    (h : ∀ c ∈ commands, c.2.WellFormed) (session : Session) :
    let final := session.after (Assignment.steps commands)
    (fun name => final.settings.bindings.get? name) =
        (commands.map Prod.snd).foldl Assignment.update
          (fun name => session.settings.bindings.get? name) ∧
      (session.settings.bindings.names.Nodup → final.settings.bindings.names.Nodup) ∧
      final = { session with settings :=
        { session.settings with bindings := final.settings.bindings } } ∧
      ∀ o ∈ session.outcomes (Assignment.steps commands), o.halt = none ∧ o.events = [] := by
  obtain ⟨hafter, houtcomes⟩ := Assignment.after_steps h session
  rw [hafter]
  exact ⟨Assignment.get?_foldl_apply _ _, fun hnames => Assignment.nodup_names_foldl_apply hnames _,
    rfl, houtcomes⟩

/-- A value with white space at its ends and quotes in it is set, an empty one after it, and a
switch of the same kind is forgotten. -/
theorem variables_after_assignments_quoted :
    let environment : Environment := { home := "home" }
    let commands : List (Environment × Assignment) :=
      [(environment, .set "o'n" " it's '' \t"), (environment, .set "Prompt" ""),
        (environment, .unset "old")]
    let session : Session :=
      ⟨{ bindings := [("old", some (.flag true)), ("o'n", none)] }, .plain, ⟨[]⟩⟩
    let bindings := (session.after (Assignment.steps commands)).settings.bindings
    (∀ c ∈ commands, c.2.WellFormed) ∧
      bindings.get? "o'n" = some (some (.text " it's '' \t")) ∧
      bindings.get? "Prompt" = some (some (.text [])) ∧
      bindings.get? "old" = none := by
  intro environment commands session bindings
  have hwellFormed : ∀ c ∈ commands, c.2.WellFormed := by decide +kernel
  have hmap := (variables_after_assignments hwellFormed session).1
  have hset := congrFun hmap "o'n"
  have hempty := congrFun hmap "Prompt"
  have hunset := congrFun hmap "old"
  exact ⟨hwellFormed, hset.trans (by decide +kernel), hempty.trans (by decide +kernel),
    hunset.trans (by decide +kernel)⟩

end SqlBoundary
