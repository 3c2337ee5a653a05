import SqlBoundary.Proofs.Session.Prompt

/-! # How dialogues end

A dialogue without a pager, files to run and shell commands, in which all that is written is taken,
ends at the end of its input or at a command to quit. It breaks where a prompt was set to nothing,
or at an output file whose path holds a zero byte.
-/

namespace SqlBoundary

/-- A dialogue waits for a text, or it broke. -/
inductive Dialogue.GoesOn (environment : Environment) (given : Text → Prop) (d : Dialogue) : Prop
  | typing {session : Session} {buffer : Text} (hstage : d.stage = .typing session buffer)
    (h : session.Sound given)
  | broken {session : Session} {halt : Halt} (hstage : d.stage = .failed session halt)
    (h : Session.Breaks environment given halt)

/-- The end of the input comes while a text is typed. -/
def Stage.ReachesEnd (environment : Environment) (stage : Stage) (keys : List Key) : Prop :=
  ∃ taken rest session buffer, keys ++ [.endOfInput] = taken ++ .endOfInput :: rest ∧
    taken.foldl (fun stage key => (stage.press environment key).stage) stage =
      .typing session buffer

section
variable {environment : Environment} {given : Text → Prop} {session : Session}

theorem Dialogue.GoesOn.prepend {d : Dialogue} (h : d.GoesOn environment given)
    (events : List Event) (exchanges : List Exchange) :
    (d.prepend events exchanges).GoesOn environment given := by
  cases h with
  | typing hstage h => exact .typing hstage h
  | broken hstage h => exact .broken hstage h

namespace Session

theorem Presentable.render {prompt : Option Text} (h : Presentable given prompt)
    (environment : Environment) (text : Text) (session : Session) :
    (∃ events t, session.renderPrompt environment prompt text = (.done session events, t)) ∨
      session.renderPrompt environment prompt text = (.halted session .missingPrompt, []) ∧
        Breaks environment given .missingPrompt := by
  cases h with
  | plain h => exact .inl (renderPrompt_plain h environment text session)
  | unset ht h => exact .inr ⟨rfl, .missingPrompt ht h⟩

theorem Sound.ask (h : session.Sound given) (environment : Environment) :
    (session.ask environment).GoesOn environment given := by
  obtain ⟨events, t, hrender⟩ | ⟨hrender, hbreaks⟩ := h.prompt.render environment [] session
  · rw [Session.ask, hrender]
    exact .typing rfl h
  · rw [Session.ask, hrender]
    exact .broken rfl hbreaks

theorem Sound.continueBuffer (h : session.Sound given) (environment : Environment) (buffer : Text) :
    (session.continueBuffer environment buffer).GoesOn environment given := by
  obtain ⟨events, t, hrender⟩ | ⟨hrender, hbreaks⟩ :=
    h.continuation.render environment buffer session
  · rw [Session.continueBuffer, hrender]
    exact .typing rfl h
  · rw [Session.continueBuffer, hrender]
    exact .broken rfl hbreaks

theorem tell_of_takes (houtput : environment.Takes Event.isOutput) (session : Session) (t : Text) :
    session.tell environment t = .done session [.report t] :=
  Outcome.delivered_of_takes houtput _ _

theorem finish_of_isFlushed (hflushed : session.IsFlushed)
    (hstores : ∀ location, environment.Stores location) :
    session.finish environment = ⟨.left (session.withOutput none), [], []⟩ := by
  rw [finish, session.closeOutput_of_isFlushed environment hflushed hstores]
  rfl

theorem leave_of_isFlushed (houtput : environment.Takes Event.isOutput)
    (hflushed : session.IsFlushed) (hstores : ∀ location, environment.Stores location) :
    ∃ events, session.leave environment = ⟨.left (session.withOutput none), events, []⟩ := by
  unfold leave
  split
  next =>
    exact ⟨[], congrArg (Dialogue.prepend [] []) (finish_of_isFlushed hflushed hstores)⟩
  next =>
    rw [tell_of_takes houtput]
    exact ⟨_, congrArg (Dialogue.prepend _ []) (finish_of_isFlushed hflushed hstores)⟩

/-- After a text the dialogue goes on, or the text was the command to quit. -/
theorem answer_cases (houtput : environment.Takes Event.isOutput)
    (hstores : ∀ location, environment.Stores location) {t : Text} (ht : given t) {o : Outcome}
    (hsound : o.session.Sound given)
    (hhalt : ∀ halt, o.halt = some halt → HaltsWith environment t halt) :
    (answer environment o).GoesOn environment given ∨
      answer environment o = ⟨.left (o.session.withOutput none), o.events, []⟩ ∧ Quits t := by
  have hask := hsound.ask environment
  unfold answer
  cases hcase : o.halt with
  | none => exact .inl (hask.prepend _ _)
  | some halt =>
    cases hhalt halt hcase with
    | unterminated _ fault =>
      dsimp only
      rw [tell_of_takes houtput, Dialogue.ofOutcome_of_done (by rfl)]
      exact .inl (hask.prepend _ _)
    | quit h =>
      dsimp only
      rw [finish_of_isFlushed hsound.flushed hstores, Dialogue.prepend, List.append_nil]
      exact .inr ⟨rfl, h⟩
    | embeddedNull h hnull => exact .inl (.broken rfl (.embeddedNull ht h hnull))

theorem submit_cases (houtput : environment.Takes Event.isOutput)
    (hstores : ∀ location, environment.Stores location) (h : session.Sound given) {t : Text}
    (ht : given t) (hself : IsSelfContained t) :
    (session.submit environment t).GoesOn environment given ∨
      ∃ next, (session.submit environment t).stage = .left next ∧
        (session.submit environment t).exchanges = [.submitted t] ∧ Quits t := by
  have hanswer {o : Outcome} (hsound : o.session.Sound given)
      (hhalt : ∀ halt, o.halt = some halt → HaltsWith environment t halt) :
      ((answer environment o).prepend [] [.submitted t]).GoesOn environment given ∨
        ∃ next, ((answer environment o).prepend [] [.submitted t]).stage = .left next ∧
          ((answer environment o).prepend [] [.submitted t]).exchanges = [.submitted t] ∧
          Quits t := by
    obtain hgoes | ⟨heq, hquits⟩ := answer_cases houtput hstores ht hsound hhalt
    · exact .inl (hgoes.prepend _ _)
    · rw [heq]
      exact .inr ⟨_, rfl, rfl, hquits⟩
  unfold submit
  dsimp only
  split
  next => exact hanswer h fun halt hhalt => nomatch hhalt
  next =>
    have htreats :=
      treats_run h.flushed hself.runsNoFile (h.pager?_eq_none environment) houtput hstores
    exact hanswer (h.of_treats ht hself htreats) htreats.halt

end Session

/-- A key lets a dialogue go on, unless it is the end of the input or submits the command to
quit. -/
theorem Stage.press_cases (houtput : environment.Takes Event.isOutput)
    (hstores : ∀ location, environment.Stores location) (h : session.Sound given)
    (hself : ∀ t, given t → Session.IsSelfContained t)
    (buffer : Text) (key : Key)
    (hgiven : ∀ t, .submitted t ∈ ((Stage.typing session buffer).press environment key).exchanges →
      given t) :
    ((Stage.typing session buffer).press environment key).GoesOn environment given ∨
      ∃ next, ((Stage.typing session buffer).press environment key).stage = .left next ∧
        (key = .endOfInput ∨ ∃ t, Session.Quits t ∧
          ((Stage.typing session buffer).press environment key).exchanges = [.submitted t]) := by
  cases key with
  | endOfInput =>
    obtain ⟨events, hleave⟩ := Session.leave_of_isFlushed houtput h.flushed hstores
    exact .inr ⟨session.withOutput none, congrArg Dialogue.stage hleave, .inl rfl⟩
  | interrupt => exact .inl (h.ask environment)
  | enter typed =>
    simp only [Stage.press] at hgiven ⊢
    cases hsubmits : (session.submits (buffer ++ typed)).1 with
    | false =>
      rw [if_neg (by simp)]
      exact .inl ((h.continueBuffer environment _).prepend _ _)
    | true =>
      rw [hsubmits, if_pos rfl] at hgiven
      rw [if_pos rfl]
      have ht : given (buffer ++ typed) :=
        hgiven _ (List.mem_append_right _ (List.mem_append_left _ List.mem_cons_self))
      obtain hgoes | ⟨next, hstage, hexchanges, hquits⟩ :=
        Session.submit_cases houtput hstores h ht (hself _ ht)
      · exact .inl (hgoes.prepend _ _)
      · exact .inr ⟨next, hstage, .inr ⟨_, hquits, hexchanges⟩⟩

theorem Stage.pressAll_left (environment : Environment) (session : Session) (keys : List Key) :
    (Stage.left session).pressAll environment keys = ⟨.left session, [], []⟩ := by
  induction keys with
  | nil => rfl
  | cons key keys ih => exact congrArg (Dialogue.prepend [] []) ih

/-- How a dialogue has ended: left at the end of the input or with the command to quit, or
broken. -/
inductive Dialogue.Ends (environment : Environment) (given : Text → Prop) (stage : Stage)
    (keys : List Key) (d : Dialogue) : Prop
  | endOfInput {session : Session} (hstage : d.stage = .left session)
    (h : stage.ReachesEnd environment keys)
  | quit {session : Session} (hstage : d.stage = .left session) {t : Text}
    (hexchanges : d.exchanges.getLast? = some (.submitted t)) (h : Session.Quits t)
  | broken {session : Session} {halt : Halt} (hstage : d.stage = .failed session halt)
    (h : Session.Breaks environment given halt)

theorem Stage.ReachesEnd.cons {stage : Stage} {key : Key} {keys : List Key}
    (h : (stage.press environment key).stage.ReachesEnd environment keys) :
    stage.ReachesEnd environment (key :: keys) := by
  obtain ⟨taken, rest, next, buffer, hkeys, hstage⟩ := h
  exact ⟨key :: taken, rest, next, buffer, by rw [List.cons_append, hkeys]; rfl, hstage⟩

theorem Dialogue.Ends.prepend {stage : Stage} {key : Key} {keys : List Key} {d : Dialogue}
    (h : d.Ends environment given (stage.press environment key).stage keys)
    (events : List Event) (exchanges : List Exchange) :
    (d.prepend events exchanges).Ends environment given stage (key :: keys) := by
  cases h with
  | endOfInput hstage h => exact .endOfInput hstage h.cons
  | quit hstage hexchanges h =>
    refine .quit hstage ?_ h
    rw [Dialogue.prepend, List.getLast?_append, hexchanges]
    rfl
  | broken hstage h => exact .broken hstage h

/-- However a dialogue goes, it is left at the end of the input or with the command to quit, or one
of its texts has broken it. -/
theorem Stage.pressAll_ends (houtput : environment.Takes Event.isOutput)
    (hstores : ∀ location, environment.Stores location)
    (hself : ∀ t, given t → Session.IsSelfContained t) (h : session.Sound given) {buffer : Text}
    {keys : List Key}
    (hgiven : ∀ t, .submitted t ∈
      ((Stage.typing session buffer).pressAll environment keys).exchanges → given t) :
    ((Stage.typing session buffer).pressAll environment keys).Ends environment given
      (.typing session buffer) keys := by
  induction keys generalizing session buffer with
  | nil =>
    obtain ⟨events, hleave⟩ := Session.leave_of_isFlushed houtput h.flushed hstores
    exact .endOfInput (congrArg Dialogue.stage hleave) ⟨[], [], session, buffer, rfl, rfl⟩
  | cons key keys ih =>
    rw [Stage.pressAll] at hgiven ⊢
    simp only [Dialogue.andThen] at hgiven ⊢
    have hpress := Stage.press_cases houtput hstores h hself buffer key fun t ht =>
      hgiven t (List.mem_append_left _ ht)
    obtain hgoes | ⟨next, hleft, hkey⟩ := hpress
    · cases hgoes with
      | typing hstage hsound =>
        refine Dialogue.Ends.prepend ?_ _ _
        rw [hstage] at hgiven ⊢
        exact ih hsound fun t ht => hgiven t (List.mem_append_right _ ht)
      | broken hstage hbreaks =>
        rw [hstage, pressAll_failed]
        exact .broken rfl hbreaks
    · rw [hleft, pressAll_left]
      obtain rfl | ⟨t, hquits, hexchanges⟩ := hkey
      · exact .endOfInput rfl ⟨[], keys ++ [.endOfInput], session, buffer, rfl, rfl⟩
      · refine .quit rfl ?_ hquits
        rw [hexchanges]
        rfl

end

end SqlBoundary
