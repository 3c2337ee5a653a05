import SqlBoundary.Proofs.Dialogue.Enter
import SqlBoundary.Proofs.Files.Tree
import SqlBoundary.Proofs.Session.Follow

/-! # Prompts of a session

Only a command that sets a prompt changes one. A prompt that runs no shell command is shown whatever
was typed. Where all that is written is taken, a session without a pager halts only at a text with
something left open, at the command to quit, and where an output file has a zero byte in its path.
-/

namespace SqlBoundary

namespace Prompt

def Piece.isCommand : Piece → Bool
  | command _ => true
  | char _ | program | percent | state => false

/-- The prompt is shown without running a shell command. -/
def IsPlain (prompt : Text) : Prop := ∀ piece ∈ pieces prompt, piece.isCommand = false

instance (prompt : Text) : Decidable (IsPlain prompt) :=
  inferInstanceAs (Decidable (∀ piece ∈ pieces prompt, piece.isCommand = false))

end Prompt

namespace Session

def Quits (t : Text) : Prop := ∃ argument, Metacommand.read t = .command Keyword.quit.name argument

/-- What a text sets one of the two prompts to, if it does. -/
def setPrompt? (t : Text) : Option (Option Text) :=
  match Metacommand.read t with
  | .command name (some argument) =>
    let (prompt, value) := Metacommand.readAssignment argument
    if name = Keyword.assign.name && ["prompt1".toList, "prompt2".toList].contains prompt.toLower
    then some value
    else none
  | _ => none

/-- A text has split output go to a file. -/
def RedirectsTo (environment : Environment) (t path : Text) : Prop :=
  ∃ given, Metacommand.read t = .command Keyword.redirect.name (some given) ∧
    path = environment.expandHome given

/-- What a text may halt a session with, if it has no file run, there is no pager, and all that is
written is taken. -/
inductive HaltsWith (environment : Environment) (t : Text) : Halt → Prop
  | unterminated (h : isMetacommand t = false) (fault : Unterminated) :
    HaltsWith environment t (.unterminated fault)
  | quit (h : Quits t) : HaltsWith environment t .quit
  | embeddedNull {path : Text} (h : RedirectsTo environment t path) (hnull : '\x00' ∈ path) :
    HaltsWith environment t .embeddedNull

/-- What a text does to the pager, the prompts and the output file, and how it halts. -/
structure Treats (session : Session) (environment : Environment) (t : Text) (o : Outcome) :
    Prop where
  pager : o.session.settings.pager = session.settings.pager
  prompt : o.session.settings.prompt = session.settings.prompt ∨
    setPrompt? t = some o.session.settings.prompt
  continuation : o.session.settings.continuation = session.settings.continuation ∨
    setPrompt? t = some o.session.settings.continuation
  flushed : o.session.IsFlushed
  halt : ∀ halt, o.halt = some halt → HaltsWith environment t halt

/-- A step goes on with the pager and the prompts as they were. -/
structure Spares (session : Session) (o : Outcome) : Prop where
  halt : o.halt = none
  pager : o.session.settings.pager = session.settings.pager
  prompt : o.session.settings.prompt = session.settings.prompt
  continuation : o.session.settings.continuation = session.settings.continuation
  flushed : o.session.IsFlushed

variable {session : Session} {environment : Environment} {t : Text}

theorem Spares.treats {o : Outcome} (h : session.Spares o) : session.Treats environment t o where
  pager := h.pager
  prompt := .inl h.prompt
  continuation := .inl h.continuation
  flushed := h.flushed
  halt _ hhalt := by
    rw [h.halt] at hhalt
    cases hhalt

theorem spares_done (hflushed : session.IsFlushed) (events : List Event) :
    session.Spares (.done session events) := ⟨rfl, rfl, rfl, rfl, hflushed⟩

theorem spares_turn (hflushed : session.IsFlushed) (switch : Switch) (value : Bool) :
    session.Spares (session.turn switch value) := by
  cases switch <;> exact ⟨rfl, rfl, rfl, rfl, hflushed⟩

theorem spares_make (hflushed : session.IsFlushed) (a : Adjustment) :
    session.Spares (a.make session) := by
  cases a with
  | turn switch value => exact spares_turn hflushed switch value
  | flip switch => exact spares_turn hflushed switch _
  | reject switch d =>
    have h := spares_turn hflushed switch (session.settings.isOn switch)
    exact ⟨h.halt, h.pager, h.prompt, h.continuation, h.flushed⟩
  | format | fieldSeparator | recordSeparator | showFieldSeparator | showRecordSeparator
  | complain => exact ⟨rfl, rfl, rfl, rfl, hflushed⟩

theorem spares_help (hflushed : session.IsFlushed) (hpager : session.pager? environment = none) :
    session.Spares (session.help environment) := by
  rw [help, page, hpager]
  exact ⟨rfl, rfl, rfl, rfl, hflushed⟩

/-- Split output goes where it went before, or to a file that was made empty for it. -/
theorem redirect_cases (hflushed : session.IsFlushed)
    (hstores : ∀ location, environment.Stores location) {argument : Option Text}
    (h : Metacommand.read t = .command Keyword.redirect.name argument) :
    (∃ path, RedirectsTo environment t path ∧ '\x00' ∈ path ∧
        session.redirect environment argument = .halted session .embeddedNull) ∨
      (∃ path location, RedirectsTo environment t path ∧
        session.files.locateWritable path = .ok location ∧
        session.redirect environment argument =
          .done ({ session with files := session.files.put location (.file (.text [])) }.withOutput
            (some { location })) []) ∨
      ∃ output events, (output = none ∨ output = session.settings.output) ∧
        session.redirect environment argument = .done (session.withOutput output) events := by
  have hclose := session.closeOutput_of_isFlushed environment hflushed hstores
  unfold redirect
  cases argument with
  | none => exact .inr (.inr ⟨none, [], .inl rfl, hclose⟩)
  | some given =>
    cases given with
    | nil => exact .inr (.inr ⟨none, [], .inl rfl, hclose⟩)
    | cons c rest =>
      simp only [Option.getD_some]
      split
      next hnull =>
        exact .inl ⟨_, ⟨c :: rest, h, rfl⟩, List.contains_iff_mem.1 hnull, rfl⟩
      next =>
        split
        next location files hcreate =>
          obtain ⟨hlocate, rfl⟩ := Files.create_eq_ok_iff.1 hcreate
          refine .inr (.inl ⟨_, location, ⟨c :: rest, h, rfl⟩, hlocate, ?_⟩)
          rw [closeOutput_of_isFlushed _ environment (by exact hflushed) hstores]
          rfl
        next => exact .inr (.inr ⟨session.settings.output, _, .inr rfl, rfl⟩)

theorem treats_redirect (hflushed : session.IsFlushed)
    (hstores : ∀ location, environment.Stores location) {argument : Option Text}
    (h : Metacommand.read t = .command Keyword.redirect.name argument) :
    session.Treats environment t (session.redirect environment argument) := by
  obtain ⟨path, hredirects, hnull, hredirect⟩ | ⟨path, location, -, -, hredirect⟩ |
    ⟨output, events, houtput, hredirect⟩ := redirect_cases hflushed hstores h
  · rw [hredirect]
    refine ⟨rfl, .inl rfl, .inl rfl, hflushed, fun halt hhalt => ?_⟩
    cases hhalt
    exact .embeddedNull hredirects hnull
  · rw [hredirect]
    refine Spares.treats ⟨rfl, rfl, rfl, rfl, fun file hfile => ?_⟩
    cases hfile
    exact ⟨rfl, rfl⟩
  · rw [hredirect]
    refine Spares.treats ⟨rfl, rfl, rfl, rfl, fun file hfile => ?_⟩
    obtain rfl | rfl := houtput
    · cases hfile
    · exact hflushed file hfile

theorem prompts_assign? {settings next : Settings} {name : Text} {value : Option Text}
    (h : settings.assign? name value = some next) :
    next.pager = settings.pager ∧ next.output = settings.output ∧
      (next.prompt = settings.prompt ∨
        name.toLower ∈ ["prompt1".toList, "prompt2".toList] ∧ value = next.prompt) ∧
      (next.continuation = settings.continuation ∨
        name.toLower ∈ ["prompt1".toList, "prompt2".toList] ∧ value = next.continuation) := by
  unfold Settings.assign? at h
  dsimp only at h
  split at h
  next hname =>
    cases h
    exact ⟨rfl, rfl, .inr ⟨by simp [hname], rfl⟩, .inl rfl⟩
  split at h
  next hname =>
    cases h
    exact ⟨rfl, rfl, .inl rfl, .inr ⟨by simp [hname], rfl⟩⟩
  split at h
  next =>
    obtain ⟨size, -, rfl⟩ := Option.map_eq_some_iff.1 h
    exact ⟨rfl, rfl, .inl rfl, .inl rfl⟩
  split at h <;> cases h <;> exact ⟨rfl, rfl, .inl rfl, .inl rfl⟩

theorem setPrompt?_eq_some {argument : Text}
    (h : Metacommand.read t = .command Keyword.assign.name (some argument)) {value : Option Text}
    (hset : (Metacommand.readAssignment argument).1.toLower ∈
        ["prompt1".toList, "prompt2".toList] ∧ (Metacommand.readAssignment argument).2 = value) :
    setPrompt? t = some value := by
  obtain ⟨hname, rfl⟩ := hset
  rw [setPrompt?, h]
  refine if_pos ?_
  rw [Bool.and_eq_true]
  exact ⟨decide_eq_true rfl, List.contains_iff_mem.2 hname⟩

theorem treats_assignCommand (hflushed : session.IsFlushed) {argument : Option Text}
    (h : Metacommand.read t = .command Keyword.assign.name argument) :
    session.Treats environment t (session.assignCommand argument) := by
  cases argument with
  | none => exact (spares_done hflushed _).treats
  | some argument =>
    simp only [assignCommand]
    split
    next settings hassign =>
      obtain ⟨hpager, houtput, hprompt, hcontinuation⟩ := prompts_assign? hassign
      refine ⟨hpager, hprompt.imp_right (setPrompt?_eq_some h),
        hcontinuation.imp_right (setPrompt?_eq_some h),
        fun file hfile => hflushed file (houtput ▸ hfile), fun halt hhalt => ?_⟩
      cases hhalt
    next => exact (spares_done hflushed _).treats

/-- Split output is written, and the output file has taken it. -/
theorem write_goesThrough (hflushed : session.IsFlushed)
    (hpager : session.pager? environment = none)
    (hstores : ∀ location, environment.Stores location) (statements : List Text)
    (points : List SplitPoint) :
    (session.write environment statements points).halt = none ∧
      (session.write environment statements points).session.IsFlushed := by
  unfold write
  dsimp only
  split
  next file hfile =>
    obtain ⟨hopen, -⟩ := hflushed file hfile
    rw [hopen, if_neg Bool.false_ne_true]
    obtain ⟨fault, hfault, -⟩ | ⟨-, files, offset, events, -, hstore⟩ :=
      session.store_cases environment file
        (Report.render environment.host.markUp session.settings statements points)
    · cases hfault.symm.trans (hstores file.location _)
    · rw [hstore]
      refine ⟨rfl, fun given hgiven => ?_⟩
      cases hgiven
      exact ⟨hopen, rfl⟩
  next =>
    rw [page, hpager]
    exact ⟨rfl, hflushed⟩

theorem treats_split (hflushed : session.IsFlushed) (ht : isMetacommand t = false)
    (hpager : session.pager? environment = none)
    (hstores : ∀ location, environment.Stores location) :
    session.Treats environment t (session.split environment t) := by
  have hsettings := (keeps_split session environment t).settings
  have hcases : (session.split environment t).session.IsFlushed ∧
      ∀ halt, (session.split environment t).halt = some halt →
        HaltsWith environment t halt := by
    unfold Session.split
    dsimp only [Outcome.prepend]
    cases (scan t session.settings.standardStrings).unterminated with
    | some construct =>
      refine ⟨hflushed, fun halt hhalt => ?_⟩
      cases hhalt
      exact .unterminated ht _
    | none =>
      dsimp only
      obtain ⟨hhalt, hwritten⟩ := write_goesThrough hflushed hpager hstores
        (selectStatements t (scan t session.settings.standardStrings).points
          session.settings.stripComments session.settings.keepEmpty)
        (scan t session.settings.standardStrings).points
      rw [Outcome.forgive, hhalt]
      dsimp only
      rw [session_andThen_reportTiming, Outcome.andThen, hhalt]
      refine ⟨hwritten, fun halt hhalt => ?_⟩
      cases hhalt
  exact ⟨(congrArg Settings.pager hsettings :), .inl (congrArg Settings.prompt hsettings :),
    .inl (congrArg Settings.continuation hsettings :), hcases.1, hcases.2⟩

theorem treats_execute (hflushed : session.IsFlushed) {argument : Option Text} {keyword : Keyword}
    (hpager : session.pager? environment = none)
    (hstores : ∀ location, environment.Stores location)
    (h : Metacommand.read t = .command keyword.name argument) :
    session.Treats environment t (session.execute environment argument keyword) := by
  cases keyword.executes argument with
  | adjustment a hexecute =>
    rw [hexecute]
    exact (spares_make hflushed a).treats
  | redirect => exact treats_redirect hflushed hstores h
  | help => exact (spares_help hflushed hpager).treats
  | summary => exact (spares_done hflushed _).treats
  | quit =>
    refine ⟨rfl, .inl rfl, .inl rfl, hflushed, fun halt hhalt => ?_⟩
    cases hhalt
    exact .quit ⟨argument, h⟩
  | assign => exact treats_assignCommand hflushed h
  | unassign => cases argument <;> exact Spares.treats ⟨rfl, rfl, rfl, rfl, hflushed⟩

/-- A text that has no file run, where there is no pager and all that is written is taken, changes a
prompt only by setting it, and halts a session in no way but three. -/
theorem treats_run (hflushed : session.IsFlushed) (hfile : fileOf? t = none)
    (hpager : session.pager? environment = none) (houtput : environment.Takes Event.isOutput)
    (hstores : ∀ location, environment.Stores location) :
    session.Treats environment t (Session.run environment t session) := by
  rw [run_of_fileOf?_eq_none environment hfile, Environment.obstacle?,
    Outcome.delivered_of_takes houtput]
  obtain ⟨ht, hperform⟩ | ⟨-, d, hperform⟩ | ⟨keyword, argument, hread, hperform⟩ :=
    perform_cases environment t
  · rw [hperform]
    exact treats_split hflushed ht hpager hstores
  · rw [hperform]
    exact (spares_done hflushed _).treats
  · rw [hperform]
    exact treats_execute hflushed hpager hstores hread

/-- Rendering succeeds and keeps the session. -/
def Rendering.Succeeds {α : Type} (r : Rendering α) : Prop :=
  ∀ state, ∃ a events, r.run.run state = (.ok a, state.1, events)

namespace Rendering.Succeeds
variable {α β : Type}

theorem pure (a : α) : Succeeds (Pure.pure a : Rendering α) := fun state => ⟨a, state.2, rfl⟩

theorem bind {r : Rendering α} {f : α → Rendering β} (hr : r.Succeeds)
    (hf : ∀ a, (f a).Succeeds) : (r >>= f).Succeeds := by
  intro state
  obtain ⟨a, events, hstate⟩ := hr state
  obtain ⟨b, more, hnext⟩ := hf a (state.1, events)
  refine ⟨b, more, ?_⟩
  rw [ExceptT.run_bind, StateT.run_bind, hstate]
  exact hnext

theorem mapM {f : α → Rendering β} {as : List α} (hf : ∀ a ∈ as, (f a).Succeeds) :
    (as.mapM f).Succeeds := by
  induction as with
  | nil => exact pure []
  | cons a as ih =>
    obtain ⟨ha, has⟩ := List.forall_mem_cons.1 hf
    rw [List.mapM_cons]
    exact ha.bind fun b => (ih has).bind fun bs => pure (b :: bs)

end Rendering.Succeeds

theorem succeeds_marker (text : Text) : (marker text).Succeeds := by
  intro state
  unfold marker
  cases text.isBlank <;> exact ⟨_, _, rfl⟩

/-- A prompt that runs no shell command is shown, and leaves the session as it is. -/
theorem renderPrompt_plain {prompt : Text} (h : Prompt.IsPlain prompt) (environment : Environment)
    (text : Text) (session : Session) :
    ∃ events t,
      session.renderPrompt environment (some prompt) text = (.done session events, t) := by
  have hpiece : ∀ p ∈ Prompt.pieces prompt,
      Rendering.Succeeds (p.render (marker text) (shell environment)) := by
    intro p hp
    cases p with
    | char | program | percent => exact .pure _
    | state => exact succeeds_marker text
    | command line => cases h _ hp
  have hrender : Rendering.Succeeds (Prompt.render prompt (marker text) (shell environment)) :=
    (Rendering.Succeeds.mapM hpiece).bind fun _ => .pure _
  obtain ⟨t, events, hrun⟩ := hrender (session, [])
  refine ⟨events, t, ?_⟩
  simp only [renderPrompt, hrun]

/-- What can break a session, among the texts it was given. -/
inductive Breaks (environment : Environment) (given : Text → Prop) : Halt → Prop
  | missingPrompt {t : Text} (ht : given t) (h : setPrompt? t = some none) :
    Breaks environment given .missingPrompt
  | embeddedNull {t path : Text} (ht : given t) (h : RedirectsTo environment t path)
    (hnull : '\x00' ∈ path) : Breaks environment given .embeddedNull

/-- A prompt can be shown without a shell, or it was set to nothing. -/
inductive Presentable (given : Text → Prop) : Option Text → Prop
  | plain {prompt : Text} (h : Prompt.IsPlain prompt) : Presentable given (some prompt)
  | unset {t : Text} (ht : given t) (h : setPrompt? t = some none) : Presentable given none

/-- There is no pager, the output file has taken what it was given, and the prompts are as the texts
given so far have left them. -/
structure Sound (given : Text → Prop) (session : Session) : Prop where
  pager : session.settings.pager.getD [] = []
  flushed : session.IsFlushed
  prompt : Presentable given session.settings.prompt
  continuation : Presentable given session.settings.continuation

/-- A text has no file run, and sets prompts that need no shell. -/
structure IsSelfContained (t : Text) : Prop where
  runsNoFile : fileOf? t = none
  plainPrompts : ∀ prompt ∈ (setPrompt? t).join, Prompt.IsPlain prompt

instance (t : Text) : Decidable (IsSelfContained t) :=
  decidable_of_iff
    (fileOf? t = none ∧ ∀ prompt ∈ (setPrompt? t).join, Prompt.IsPlain prompt)
    ⟨fun h => ⟨h.1, h.2⟩, fun h => ⟨h.1, h.2⟩⟩

section
variable {given : Text → Prop}

theorem Presentable.of_sets (ht : given t) (h : IsSelfContained t) {prompt : Option Text}
    (hset : setPrompt? t = some prompt) : Presentable given prompt := by
  cases prompt with
  | none => exact .unset ht hset
  | some prompt => exact .plain (h.plainPrompts prompt (by rw [hset]; rfl))

theorem Sound.pager?_eq_none (h : session.Sound given) (environment : Environment) :
    session.pager? environment = none := by
  have hpager := h.pager
  unfold pager?
  dsimp only
  split
  next =>
    cases hset : session.settings.pager with
    | none => rfl
    | some command =>
      rw [hset] at hpager
      obtain rfl : command = [] := hpager
      rfl
  next => rfl

theorem Sound.of_treats (h : session.Sound given) (ht : given t) (hself : IsSelfContained t)
    {o : Outcome} (htreats : session.Treats environment t o) : o.session.Sound given where
  pager := by rw [htreats.pager, h.pager]
  flushed := htreats.flushed
  prompt := htreats.prompt.elim (fun hkept => hkept ▸ h.prompt) (.of_sets ht hself)
  continuation := htreats.continuation.elim (fun hkept => hkept ▸ h.continuation)
    (.of_sets ht hself)

end

end Session
end SqlBoundary
