import SqlBoundary.Session.Run
import Mathlib.Data.List.Infix

/-! # One pass over a prompt

The escapes of a prompt are a language, each with what it is replaced by. A pass from left to right
replaces the shortest escape that begins where it stands, copies a character where none begins, and
goes on behind what it has read. Rendering is this pass, so a prompt in which every percent sign is
doubled is shown as it was meant.
-/

namespace SqlBoundary

namespace Prompt

section
variable {m : Type → Type} [Monad m]

/-- The escapes with what they are replaced by, given how the state is told and how commands are
run. -/
inductive Escape (state : m Text) (shell : Text → m Text) : Text → m Text → Prop
  | program : Escape state shell ['%', '/'] (pure programName)
  | state : Escape state shell ['%', 'R'] state
  | percent : Escape state shell ['%', '%'] (pure ['%'])
  | command {line : Text} (hne : line ≠ []) (hline : '\n' ∉ line) :
    Escape state shell ('%' :: '\x60' :: (line ++ ['\x60'])) (do return (← shell line).trim)

/-- A pass over a prompt and what it shows. The rest of the prompt is passed over apart from what
was put in. -/
inductive Pass (state : m Text) (shell : Text → m Text) : Text → m Text → Prop
  | done : Pass state shell [] (pure [])
  | escape {written rest : Text} {value shown : m Text} (h : Escape state shell written value)
    (hshortest : ∀ other value', Escape state shell other value' → other <+: written ++ rest →
      written.length ≤ other.length)
    (hrest : Pass state shell rest shown) :
    Pass state shell (written ++ rest) (do return (← value) ++ (← shown))
  | copy {c : Char} {rest : Text} {shown : m Text}
    (h : ∀ written value, Escape state shell written value → ¬ written <+: c :: rest)
    (hrest : Pass state shell rest shown) : Pass state shell (c :: rest) (do return c :: (← shown))

end

theorem line_of_readCommand? {s line rest : Text} (h : readCommand? s = some (line, rest)) :
    line ≠ [] ∧ '\n' ∉ line := by
  unfold readCommand? at h
  split at h
  next => cases h
  next first tail =>
    split at h
    next =>
      simp only [Option.ite_none_left_eq_some, Option.some.injEq, Prod.mk.injEq] at h
      obtain ⟨hfirst, rfl, -⟩ := h
      refine ⟨List.cons_ne_nil _ _, fun hline => ?_⟩
      rcases List.mem_cons.1 hline with heq | htaken
      · exact hfirst heq.symm
      · have := List.all_eq_true.1 List.all_takeWhile _ htaken
        simp [endsCommand] at this
    next => cases h

/-- The first backquote of a text whose line it ends. -/
theorem dropWhile_endsCommand {tail : Text} (h : '\n' ∉ tail) (rest : Text) :
    ∃ after, (tail ++ '\x60' :: rest).dropWhile (!endsCommand ·) = '\x60' :: after ∧
      ((tail ++ '\x60' :: rest).takeWhile (!endsCommand ·)).length ≤ tail.length := by
  induction tail with
  | nil => exact ⟨rest, rfl, Nat.le_refl 0⟩
  | cons c tail ih =>
    obtain ⟨hc, htail⟩ := not_or.1 (mt List.mem_cons.2 h)
    obtain ⟨after, hdrop, htake⟩ := ih htail
    cases hends : endsCommand c with
    | true =>
      obtain rfl : c = '\x60' := by simpa [endsCommand, Ne.symm hc] using hends
      exact ⟨tail ++ '\x60' :: rest, rfl, Nat.zero_le _⟩
    | false =>
      refine ⟨after, ?_, ?_⟩
      · simpa [hends] using hdrop
      · simpa [hends] using htake

/-- Where a command can be read, one is read that is no longer. -/
theorem exists_readCommand?_eq_some {line : Text} (hne : line ≠ []) (hline : '\n' ∉ line)
    (rest : Text) :
    ∃ shorter after, readCommand? (line ++ '\x60' :: rest) = some (shorter, after) ∧
      shorter.length ≤ line.length := by
  obtain ⟨first, tail, rfl⟩ := List.exists_cons_of_ne_nil hne
  obtain ⟨hfirst, htail⟩ := not_or.1 (mt List.mem_cons.2 hline)
  obtain ⟨after, hdrop, htake⟩ := dropWhile_endsCommand htail rest
  refine ⟨first :: (tail ++ '\x60' :: rest).takeWhile (!endsCommand ·), after, ?_,
    Nat.succ_le_succ htake⟩
  simp [readCommand?, hdrop, Ne.symm hfirst]

section
variable {m : Type → Type} [Monad m] {state : m Text} {shell : Text → m Text}
variable {written rest s : Text} {value shown : m Text}

namespace Escape

theorem two_le_length (h : Escape state shell written value) : 2 ≤ written.length := by
  cases h <;> simp

theorem eq_percent_of_prefix {c : Char} (h : Escape state shell written value)
    (hbegins : written <+: c :: s) : c = '%' := by
  cases h <;> exact (List.cons_prefix_cons.1 hbegins).1.symm

theorem eq_of_prefix {c d : Char} (h : Escape state shell written value)
    (hbegins : written <+: c :: d :: s) : d ∈ ['/', 'R', '%', '\x60'] := by
  cases h <;>
    exact (List.cons_prefix_cons.1 (List.cons_prefix_cons.1 hbegins).2).1 ▸ by decide

/-- An escape that begins with a backquote is a command up to a backquote. -/
theorem exists_command (h : Escape state shell written value)
    (hbegins : written <+: '%' :: '\x60' :: s) :
    ∃ line after, line ≠ [] ∧ '\n' ∉ line ∧ s = line ++ '\x60' :: after ∧
      written.length = line.length + 3 := by
  cases h with
  | command hne hline =>
    obtain ⟨after, hafter⟩ := (List.cons_prefix_cons.1 (List.cons_prefix_cons.1 hbegins).2).2
    exact ⟨_, after, hne, hline, by simpa using hafter.symm, by simp⟩
  | program | state | percent =>
    have := (List.cons_prefix_cons.1 (List.cons_prefix_cons.1 hbegins).2).1
    cases this

theorem unique {value' : m Text} (h : Escape state shell written value)
    (h' : Escape state shell written value') : value = value' := by
  cases h with
  | program | state | percent => cases h'; rfl
  | @command line hne hline =>
    generalize hwritten : '%' :: '\x60' :: (line ++ ['\x60']) = written at h'
    cases h' with
    | command =>
      have hlines := (List.cons.inj (List.cons.inj hwritten).2).2
      rw [List.append_cancel_right hlines]
    | program | state | percent =>
      exact absurd (List.cons.inj (List.cons.inj hwritten).2).1 (by decide)

end Escape

namespace Pass

/-- No two escapes could be replaced at the same place. -/
theorem unique {shown' : m Text} (h : Pass state shell s shown) (h' : Pass state shell s shown') :
    shown = shown' := by
  induction h generalizing shown' with
  | done =>
    generalize hs : ([] : Text) = s at h'
    cases h' with
    | done => rfl
    | @escape written rest _ _ h =>
      have hlength := h.two_le_length
      simp [(List.append_eq_nil_iff.1 hs.symm).1] at hlength
    | copy => cases hs
  | @escape written rest value shown h hshortest hrest ih =>
    generalize hs : written ++ rest = s at h'
    cases h' with
    | done =>
      have hlength := h.two_le_length
      simp [(List.append_eq_nil_iff.1 hs).1] at hlength
    | @escape written' rest' value' shown' h' hshortest' hrest' =>
      have hlength : written.length = written'.length :=
        Nat.le_antisymm (hshortest _ _ h' (hs ▸ List.prefix_append _ _))
          (hshortest' _ _ h (hs ▸ List.prefix_append _ _))
      obtain ⟨rfl, rfl⟩ := List.append_inj hs hlength
      rw [h.unique h', ih hrest']
    | copy hnone => exact absurd (hs ▸ List.prefix_append _ _) (hnone _ _ h)
  | @copy c rest shown hnone hrest ih =>
    generalize hs : c :: rest = s at h'
    cases h' with
    | done => cases hs
    | escape h => exact absurd (hs ▸ List.prefix_append _ _) (hnone _ _ h)
    | copy _ hrest' =>
      obtain ⟨rfl, rfl⟩ := List.cons.inj hs
      rw [ih hrest']

theorem escape_pair {c : Char} (h : Escape state shell ['%', c] value)
    (hrest : Pass state shell rest shown) :
    Pass state shell ('%' :: c :: rest) (do return (← value) ++ (← shown)) :=
  .escape h (fun _ _ hother _ => hother.two_le_length) hrest

theorem escape_command {line after : Text} (hread : readCommand? s = some (line, after))
    (hrest : Pass state shell after shown) :
    Pass state shell ('%' :: '\x60' :: s)
      (do return (← (do return (← shell line).trim)) ++ (← shown)) := by
  obtain ⟨hne, hline⟩ := line_of_readCommand? hread
  obtain rfl : s = line ++ ['\x60'] ++ after := by simp [← readCommand?_append hread]
  refine .escape (.command hne hline) (fun other _ hother hbegins => ?_) hrest
  obtain ⟨line', after', hne', hline', (hs : line ++ ['\x60'] ++ after = _), hlength⟩ :=
    hother.exists_command hbegins
  obtain ⟨shorter, _, hread', hle⟩ := exists_readCommand?_eq_some hne' hline' after'
  rw [← hs, hread] at hread'
  cases hread'
  simp [hlength, hle]

theorem copy_percent (hread : readCommand? s = none)
    (hrest : Pass state shell ('\x60' :: s) shown) :
    Pass state shell ('%' :: '\x60' :: s) (do return '%' :: (← shown)) := by
  refine .copy (fun written _ h hbegins => ?_) hrest
  obtain ⟨line, after, hne, hline, rfl, -⟩ := h.exists_command hbegins
  obtain ⟨shorter, _, hread', -⟩ := exists_readCommand?_eq_some hne hline after
  rw [hread] at hread'
  cases hread'

/-- A character is copied unless it is a percent sign with the second character of an escape after
it. -/
theorem copy_of_forall {c : Char}
    (h : c = '%' → ∀ d tail, s = d :: tail → d ∉ ['/', 'R', '%', '\x60'])
    (hrest : Pass state shell s shown) :
    Pass state shell (c :: s) (do return c :: (← shown)) := by
  refine .copy (fun written _ hescape hbegins => ?_) hrest
  have hlength := hescape.two_le_length.trans hbegins.length_le
  obtain ⟨d, tail, rfl⟩ := List.exists_cons_of_length_pos (Nat.le_of_succ_le_succ hlength)
  exact h (hescape.eq_percent_of_prefix hbegins) d tail rfl (hescape.eq_of_prefix hbegins)

end Pass

variable [LawfulMonad m]

theorem render_nil : render [] state shell = pure [] := by
  simp [render, pieces]

theorem render_of_pieces_eq {piece : Piece} (h : pieces s = piece :: pieces rest) :
    render s state shell =
      (do return (← piece.render state shell) ++ (← render rest state shell)) := by
  simp [render, h]

/-- Rendering is a pass over the prompt. -/
theorem pass_render (prompt : Text) : Pass state shell prompt (render prompt state shell) := by
  induction prompt using pieces.induct with
  | case1 =>
    rw [render_nil]
    exact .done
  | case2 rest ih =>
    rw [render_of_pieces_eq (pieces.eq_2 rest)]
    exact .escape_pair .program ih
  | case3 rest ih =>
    rw [render_of_pieces_eq (pieces.eq_3 rest)]
    exact .escape_pair .state ih
  | case4 rest ih =>
    rw [render_of_pieces_eq (pieces.eq_4 rest)]
    exact .escape_pair .percent ih
  | case5 rest line after hread ih =>
    have hpieces : pieces ('%' :: '\x60' :: rest) = .command line :: pieces after := by
      rw [pieces]
      split <;> simp_all
    rw [render_of_pieces_eq hpieces]
    exact .escape_command hread ih
  | case6 rest hread ih =>
    have hpieces : pieces ('%' :: '\x60' :: rest) = .char '%' :: pieces ('\x60' :: rest) := by
      rw [pieces]
      split <;> simp_all
    rw [render_of_pieces_eq hpieces, Piece.render, pure_bind]
    exact .copy_percent hread ih
  | case7 c rest hprogram hstate hpercent hcommand ih =>
    rw [render_of_pieces_eq (pieces.eq_6 c rest hprogram hstate hpercent hcommand), Piece.render,
      pure_bind]
    refine .copy_of_forall (fun hc d tail hrest hd => ?_) ih
    simp only [List.mem_cons, List.not_mem_nil, or_false] at hd
    rcases hd with rfl | rfl | rfl | rfl
    · exact hprogram tail hc hrest
    · exact hstate tail hc hrest
    · exact hpercent tail hc hrest
    · exact hcommand tail hc hrest

theorem pass_iff {prompt : Text} :
    Pass state shell prompt shown ↔ shown = render prompt state shell := by
  constructor
  · exact fun h => h.unique (pass_render prompt)
  · rintro rfl
    exact pass_render prompt

end

/-- A text with every percent sign doubled. -/
def escaped (s : Text) : Text := s.flatMap fun c => if c = '%' then ['%', '%'] else [c]

section
variable {m : Type → Type} [Monad m] [LawfulMonad m] {state : m Text} {shell : Text → m Text}

theorem pass_escaped (s : Text) : Pass state shell (escaped s) (pure s) := by
  induction s with
  | nil => exact .done
  | cons c s ih =>
    rw [escaped, List.flatMap_cons, ← escaped]
    by_cases hc : c = '%'
    · subst hc
      simpa using Pass.escape_pair .percent ih
    · rw [if_neg hc]
      simpa using Pass.copy_of_forall (fun hpercent => absurd hpercent hc) ih

/-- A text that is escaped is shown as it is. -/
theorem render_escaped (s : Text) : render (escaped s) state shell = pure s :=
  (pass_iff.1 (pass_escaped s)).symm

end

/-- With a shell that is a function, a prompt shows what a pass over it shows, and an escaped text
shows itself. -/
theorem render_spec (text : Text) (standardStrings : Bool) (shell : Text → Text) :
    (∀ prompt shown, Pass (m := Id) (marker text standardStrings) shell prompt shown ↔
      shown = render (m := Id) prompt (marker text standardStrings) shell) ∧
    ∀ s, render (m := Id) (escaped s) (marker text standardStrings) shell = s :=
  ⟨fun _ _ => pass_iff, render_escaped⟩

/-- The output of a command is trimmed and not read again; a percent sign may stand alone. -/
example :
    Id.run (render "%\x60\x60%\x60%" (pure ['=']) fun line => pure (' ' :: line ++ "%R\n".toList)) =
      "\x60%%R%".toList := by
  decide +kernel

end Prompt

/-- An escaped text is shown in every session, which it leaves as it is. -/
theorem Session.renderPrompt_escaped (environment : Environment) (s text : Text)
    (session : Session) :
    session.renderPrompt environment (some (Prompt.escaped s)) text = (.done session [], s) := by
  rw [renderPrompt, Prompt.render_escaped]
  rfl

end SqlBoundary
