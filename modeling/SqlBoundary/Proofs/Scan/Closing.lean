import SqlBoundary.Proofs.Scan.Margin
import SqlBoundary.Proofs.Scan.Simulation

/-! # Closing what is left open

A line break and a closer after a text that leaves a construct open. The line break keeps the closer
apart from what the text ends with, a backslash or half of a delimiter, so the closer is read as one
and nothing before it is read in another way.
-/

namespace SqlBoundary.Machine

open Text

variable {standardStrings : Bool}

/-- The state after a text. -/
def after (standardStrings : Bool) (q : State) : Text → State
  | [] => q
  | c :: s => after standardStrings (step standardStrings q c s).1 s

/-- What a text leaves the machine inside of. -/
def openMode (standardStrings : Bool) (s : Text) : Mode :=
  (after standardStrings State.initial s).mode

/-- What is open in a mode that does not close by itself at the end of a text. -/
def Mode.construct? : Mode → Option Construct
  | normal => none
  | single _ => some .quotedString
  | double => some .quotedIdentifier
  | dollar _ => some .dollarQuotedString
  | line _ => none
  | block _ _ => some .blockComment

/-- What closes a mode: every level of a comment takes a delimiter of its own. -/
def Mode.closer : Mode → Text
  | normal => []
  | single _ => ['\'']
  | double => ['"']
  | dollar tag => tag
  | line _ => []
  | block _ depth => (List.replicate depth ['*', '/']).flatten

/-- The split points that a closer completes at `stop`. -/
def Mode.closing (stop : Nat) : Mode → List SplitPoint
  | block start _ => [.comment start stop]
  | normal | single _ | double | dollar _ | line _ => []

/-- How far past the end of a text the characters of a mode may reach: a backslash may stand last.
-/
def Mode.overhang : Mode → Nat
  | single _ => 1
  | normal | double | dollar _ | line _ | block _ _ => 0

/-- What `text` holds of a mode that it leads to. -/
def Mode.Sound (text : Text) : Mode → Prop
  | dollar tag => isTag tag = true
  | block start depth => ['/', '*'] <+: text.drop start ∧ 0 < depth
  | normal | single _ | double | line _ => True

/-- A state that the machine reaches in `text` with `s` ahead. -/
structure State.Sound (text s : Text) (q : State) : Prop where
  ahead : text.drop q.position = s
  mode : q.mode.Sound text
  skip : q.skip ≤ s.length + q.mode.overhang

theorem unterminated_finish (i : Nat) (mode : Mode) :
    (finish i mode).unterminated = mode.construct? := by
  cases mode <;> rfl

theorem points_finish {mode : Mode} (h : mode.construct? ≠ none) (i : Nat) :
    (finish i mode).points = [] := by
  cases mode with
  | normal | line start => exact absurd rfl h
  | single escapes | double | dollar tag | block start depth => rfl

theorem unterminated_run (q : State) (s : Text) :
    (run standardStrings q s).unterminated = (after standardStrings q s).mode.construct? := by
  induction s generalizing q with
  | nil => exact unterminated_finish q.position q.mode
  | cons c s ih => exact ih _

theorem position_after (q : State) (s : Text) :
    (after standardStrings q s).position = q.position + s.length := by
  induction s generalizing q with
  | nil => rfl
  | cons c s ih =>
    have hstep : (step standardStrings q c s).1.position = q.position + 1 := by
      unfold step
      split <;> rfl
    rw [after, ih, hstep, List.length_cons, Nat.add_assoc, Nat.add_comm 1]

/-! ## What a mode says of the text -/

theorem prefix_of_tagAhead? {s tag : Text} (h : tagAhead? s = some tag) :
    isTag tag = true ∧ tag <+: s :=
  ⟨List.find?_some h, (List.mem_inits _ _).1 (List.mem_of_find?_eq_some h)⟩

theorem not_mem_of_isTag {tag : Text} (h : isTag tag = true) : '\n' ∉ tag := by
  obtain ⟨name, rfl, hname⟩ := isTag_iff.1 h
  intro hmem
  have hchar : '\n' ∈ name := by simpa using hmem
  have := List.all_eq_true.1 (isTagName_iff.1 hname).1 _ hchar
  revert this
  decide

variable {text s : Text} {c : Char} {i : Nat}

/-- What a move leads to is in the text, and so are the characters that belong to the move. -/
def Move.Sound (text s : Text) (m : Move) : Prop :=
  m.mode.Sound text ∧ m.skip ≤ s.length + m.mode.overhang

theorem moveNormal_sound (h : text.drop i = c :: s) (p : Option Char) :
    (moveNormal standardStrings p i (c :: s)).Sound text s := by
  unfold moveNormal
  split
  case h_4 rest heq =>
    obtain ⟨rfl, rfl⟩ := List.cons.inj heq
    exact ⟨trivial, Nat.le_add_left 1 rest.length⟩
  case h_5 rest heq =>
    obtain ⟨rfl, rfl⟩ := List.cons.inj heq
    exact ⟨⟨h ▸ List.prefix_append ['/', '*'] rest, Nat.one_pos⟩, Nat.le_add_left 1 rest.length⟩
  case h_6 rest heq =>
    split
    next tag htag =>
      obtain ⟨-, htag⟩ := Option.ite_none_left_eq_some.1 htag
      obtain ⟨hvalid, hprefix⟩ := prefix_of_tagAhead? htag
      exact ⟨hvalid, Nat.sub_le_of_le_add hprefix.length_le⟩
    next => exact ⟨trivial, Nat.zero_le _⟩
  all_goals exact ⟨trivial, Nat.zero_le _⟩

theorem moveSingle_sound (text : Text) (escapes : Bool) (c : Char) (s : Text) :
    (moveSingle escapes (c :: s)).Sound text s := by
  unfold moveSingle
  split
  case h_1 =>
    refine ⟨trivial, ?_⟩
    cases escapes
    · exact Nat.zero_le _
    · exact Nat.le_add_left 1 s.length
  case h_2 rest heq =>
    obtain ⟨-, rfl⟩ := List.cons.inj heq
    exact ⟨trivial, Nat.le_add_right_of_le (Nat.le_add_left 1 rest.length)⟩
  case h_3 rest _ heq =>
    obtain ⟨-, rfl⟩ := List.cons.inj heq
    dsimp only
    split
    next hjoint =>
      have := (List.takeWhile_prefix (isSpace ·) (l := s)).length_le
      exact ⟨trivial, Nat.succ_le_succ this⟩
    next => exact ⟨trivial, Nat.zero_le _⟩
  case h_4 => exact ⟨trivial, Nat.zero_le _⟩

theorem moveDouble_sound (text : Text) (c : Char) (s : Text) :
    (moveDouble (c :: s)).Sound text s := by
  unfold moveDouble
  split
  case h_1 rest heq =>
    obtain ⟨-, rfl⟩ := List.cons.inj heq
    exact ⟨trivial, Nat.le_add_left 1 rest.length⟩
  all_goals exact ⟨trivial, Nat.zero_le _⟩

theorem moveDollar_sound {tag : Text} (htag : isTag tag = true) (text : Text) (c : Char)
    (s : Text) : (moveDollar tag (c :: s)).Sound text s := by
  unfold moveDollar
  split
  next hprefix => exact ⟨trivial, Nat.sub_le_of_le_add hprefix.length_le⟩
  next => exact ⟨htag, Nat.zero_le _⟩

theorem moveLine_sound (text : Text) (start i : Nat) (s t : Text) :
    (moveLine start i s).Sound text t := by
  unfold moveLine
  split <;> exact ⟨trivial, Nat.zero_le _⟩

theorem moveBlock_sound {start depth : Nat} (h : (Mode.block start depth).Sound text)
    (i : Nat) (c : Char) (s : Text) : (moveBlock start depth i (c :: s)).Sound text s := by
  unfold moveBlock
  split
  case h_1 rest heq =>
    obtain ⟨-, rfl⟩ := List.cons.inj heq
    exact ⟨⟨h.1, Nat.succ_pos depth⟩, Nat.le_add_left 1 rest.length⟩
  case h_2 rest heq =>
    obtain ⟨-, rfl⟩ := List.cons.inj heq
    split
    next => exact ⟨trivial, Nat.le_add_left 1 rest.length⟩
    next hdepth =>
      have hpos : 0 < depth - 1 := by
        have := h.2
        omega
      exact ⟨⟨h.1, hpos⟩, Nat.le_add_left 1 rest.length⟩
  case h_3 => exact ⟨h, Nat.zero_le _⟩

theorem move_sound (h : text.drop i = c :: s) {mode : Mode} (hmode : mode.Sound text)
    (p : Option Char) : (move standardStrings p i (c :: s) mode).Sound text s := by
  cases mode with
  | normal => exact moveNormal_sound h p
  | single escapes => exact moveSingle_sound text escapes c s
  | double => exact moveDouble_sound text c s
  | dollar tag => exact moveDollar_sound hmode text c s
  | line start => exact moveLine_sound text start i _ s
  | block start depth => exact moveBlock_sound hmode i c s

theorem State.Sound.step {q : State} (h : q.Sound text (c :: s)) :
    (step standardStrings q c s).1.Sound text s := by
  obtain ⟨hahead, hmode, hskip⟩ := h
  have hdrop : text.drop (q.position + 1) = s := by rw [← List.drop_drop, hahead]; rfl
  unfold Machine.step
  split
  next skip hq =>
    rw [hq, List.length_cons] at hskip
    exact ⟨hdrop, hmode, by dsimp only; omega⟩
  next hq =>
    obtain ⟨hmode', hskip'⟩ : (move standardStrings q.previous q.position (c :: s) q.mode).Sound
        text s := move_sound hahead hmode q.previous
    exact ⟨hdrop, hmode', hskip'⟩

theorem State.Sound.after {q : State} (h : q.Sound text s) :
    (after standardStrings q s).Sound text [] := by
  induction s generalizing q with
  | nil => exact h
  | cons c s ih => exact ih h.step

theorem State.initial_sound (text : Text) : State.initial.Sound text text :=
  ⟨rfl, trivial, Nat.zero_le _⟩

/-! ## A line break after the text ahead

No delimiter, tag or pair of quotes goes on over a line break, and two literals that a line break
joins have a quote before it.
-/

theorem tagAhead?_append (s u : Text) :
    tagAhead? ('$' :: (s ++ '\n' :: u)) = tagAhead? ('$' :: s) := by
  have hnewline : isTagChar '\n' = false := by decide
  rw [tagAhead?_dollar, tagAhead?_dollar]
  cases hs : readTag? s with
  | some r => rw [readTag?_stable.append readTag?_spells hs]; rfl
  | none => rw [readTag?_append_eq_none hs (by simp [hnewline])]

theorem moveNormal_append (p : Option Char) (i : Nat) (c : Char) (s u : Text) :
    moveNormal standardStrings p i (c :: (s ++ '\n' :: u)) =
      moveNormal standardStrings p i (c :: s) := by
  have htag := tagAhead?_append s u
  cases s <;>
  · unfold moveNormal
    split <;> simp_all

theorem readContinuation?_append_eq_none (h : readContinuation? s = none)
    (hs : isBlank s = false) (u : Text) : readContinuation? (s ++ u) = none := by
  by_contra hne
  obtain ⟨r, hr⟩ := Option.ne_none_iff_exists'.1 hne
  have hread : readJoint? .single s = none := h
  obtain ⟨hblank, -⟩ := isBlank_of_readJoint?_append hread hr
  rw [hs] at hblank
  cases hblank

/-- A quote that ends the literal has to be followed by more than white space: the line break and a
quote after it would make the literal go on. -/
theorem moveSingle_append (escapes : Bool) (h : c = '\'' → isBlank s = false) (u : Text) :
    moveSingle escapes (c :: (s ++ '\n' :: u)) = moveSingle escapes (c :: s) := by
  by_cases hc : c = '\''
  · subst hc
    cases s with
    | nil => cases h rfl
    | cons d s =>
      by_cases hd : d = '\''
      · rw [hd]
        rfl
      · have hlong : (d :: s ++ '\n' :: u).head? ≠ some '\'' := by simp [hd]
        have hshort : (d :: s).head? ≠ some '\'' := by simp [hd]
        cases hs : readContinuation? (d :: s) with
        | some r =>
          have hlonger := readContinuation?_stable.append readContinuation?_spells hs ('\n' :: u)
          rw [moveSingle_joint escapes hlong hlonger, moveSingle_joint escapes hshort hs]
        | none =>
          have hlonger := readContinuation?_append_eq_none hs (h rfl) ('\n' :: u)
          rw [moveSingle_close escapes hlong hlonger, moveSingle_close escapes hshort hs]
  · cases s <;>
    · unfold moveSingle
      split <;> simp_all

theorem moveDouble_append (c : Char) (s u : Text) :
    moveDouble (c :: (s ++ '\n' :: u)) = moveDouble (c :: s) := by
  cases s with
  | nil => by_cases hc : c = '"' <;> simp [moveDouble, hc]
  | cons d s => by_cases hc : c = '"' <;> by_cases hd : d = '"' <;> simp [moveDouble, hc, hd]

theorem moveDollar_append {tag : Text} (htag : isTag tag = true) (s u : Text) :
    moveDollar tag (s ++ '\n' :: u) = moveDollar tag s := by
  have hprefix : tag <+: s ++ '\n' :: u ↔ tag <+: s := by
    refine ⟨fun h => ?_, fun h => h.trans (List.prefix_append s _)⟩
    obtain hshort | hlong := Nat.lt_or_ge s.length tag.length
    · have hmem : s ++ ['\n'] <+: tag := by
        refine List.prefix_of_prefix_length_le ⟨u, List.append_assoc s ['\n'] u⟩ h ?_
        rwa [List.length_append]
      exact absurd (hmem.subset (by simp)) (not_mem_of_isTag htag)
    · exact List.prefix_of_prefix_length_le h (List.prefix_append s _) hlong
  simp only [moveDollar, hprefix]

theorem moveLine_append (start i : Nat) (c : Char) (s u : Text) :
    moveLine start i (c :: (s ++ u)) = moveLine start i (c :: s) := by
  unfold moveLine
  split <;> simp_all

theorem moveBlock_append (start depth i : Nat) (c : Char) (s u : Text) :
    moveBlock start depth i (c :: (s ++ '\n' :: u)) = moveBlock start depth i (c :: s) := by
  cases s <;>
  · unfold moveBlock
    split <;> simp_all

theorem move_append {mode : Mode} (hmode : mode.Sound text)
    (hquote : ∀ escapes, mode = .single escapes → c = '\'' → isBlank s = false)
    (p : Option Char) (i : Nat) (u : Text) :
    move standardStrings p i (c :: (s ++ '\n' :: u)) mode =
      move standardStrings p i (c :: s) mode := by
  cases mode with
  | normal => exact moveNormal_append p i c s u
  | single escapes => exact moveSingle_append escapes (hquote escapes rfl) u
  | double => exact moveDouble_append c s u
  | dollar tag => exact moveDollar_append hmode (c :: s) u
  | line start => exact moveLine_append start i c s _
  | block start depth => exact moveBlock_append start depth i c s u

/-- A quote with white space after it through the end of the text leaves nothing open. -/
theorem unterminated_quote {escapes : Bool} (hs : isBlank s = true) (p : Option Char) (i : Nat) :
    (run standardStrings ⟨.single escapes, 0, p, i⟩ ('\'' :: s)).unterminated = none := by
  have detached := detached_of_isBlank hs
  have hempty : readJoint? .single [] = none := rfl
  have hread : readContinuation? s = none := readJoint?_append_eq_none hempty detached.single
  have hhead : s.head? ≠ some '\'' := detached.head?_ne .single
  rw [run_cons, move, moveSingle_close escapes hhead hread]
  exact congrArg Scan.unterminated
    (idles_normal.run_of_search_eq_none (search_mark_of_isBlank hs) (some '\'') (i + 1))

theorem step_append {q : State} (hq : q.Sound text (c :: s))
    (h : (run standardStrings q (c :: s)).unterminated ≠ none) (u : Text) :
    step standardStrings q c (s ++ '\n' :: u) = step standardStrings q c s := by
  obtain ⟨mode, skip, p, i⟩ := q
  cases skip with
  | succ skip => rfl
  | zero =>
    have hquote : ∀ escapes, mode = .single escapes → c = '\'' → isBlank s = false := by
      rintro escapes rfl rfl
      by_contra hblank
      exact h (unterminated_quote (Bool.of_not_eq_false hblank) p i)
    simp only [step, move_append hq.mode hquote p i u]

theorem run_cons_step (q : State) (c : Char) (s : Text) :
    run standardStrings q (c :: s) = addPoints (step standardStrings q c s).2
      (run standardStrings (step standardStrings q c s).1 s) := rfl

/-- A text that leaves a construct open leaves the machine where it was before the line break. -/
theorem run_append {q : State} (hq : q.Sound text s)
    (h : (run standardStrings q s).unterminated ≠ none) (u : Text) :
    run standardStrings q (s ++ '\n' :: u) = addPoints (run standardStrings q s).points
      (run standardStrings (after standardStrings q s) ('\n' :: u)) := by
  induction s generalizing q with
  | nil =>
    have hopen : q.mode.construct? ≠ none := by rwa [unterminated_run] at h
    change _ = addPoints (finish q.position q.mode).points _
    rw [points_finish hopen, addPoints_nil]
    rfl
  | cons c s ih =>
    rw [List.cons_append, run_cons_step, step_append hq h u, ih hq.step h, run_cons_step q c s]
    simp only [after, addPoints, List.append_assoc]

/-! ## The closer after the line break -/

theorem run_closer_single {escapes : Bool} {skip : Nat} (hskip : skip ≤ 1) (p : Option Char)
    (i : Nat) : run standardStrings ⟨.single escapes, skip, p, i⟩ ['\n', '\''] = ⟨[], none⟩ := by
  -- A backslash at the end of the text takes the line break as the character it escapes.
  obtain rfl | rfl := Nat.le_one_iff_eq_zero_or_eq_one.1 hskip <;> rfl

theorem run_closer_dollar {tag : Text} (htag : isTag tag = true) (p : Option Char) (i : Nat) :
    run standardStrings ⟨.dollar tag, 0, p, i⟩ ('\n' :: tag) = ⟨[], none⟩ := by
  obtain ⟨name, rfl, -⟩ := isTag_iff.1 htag
  have hbreak : moveDollar ('$' :: (name ++ ['$'])) ('\n' :: '$' :: (name ++ ['$'])) =
      .stay (.dollar ('$' :: (name ++ ['$']))) := by
    rw [moveDollar, if_neg]
    rintro ⟨t, h⟩
    cases h
  have hclose : moveDollar ('$' :: (name ++ ['$'])) ('$' :: (name ++ ['$'])) =
      ⟨.normal, (name ++ ['$']).length, []⟩ := if_pos List.prefix_rfl
  calc run standardStrings ⟨.dollar ('$' :: (name ++ ['$'])), 0, p, i⟩
        ('\n' :: '$' :: (name ++ ['$']))
      = run standardStrings ⟨.normal, (name ++ ['$']).length, some '$', i + 1 + 1⟩
          (name ++ ['$'] ++ []) := by
        simp only [run_cons, move, hbreak, hclose, Move.stay, addPoints_nil, List.append_nil]
    _ = run standardStrings ⟨.normal, 0, (name ++ ['$']).getLast?.or (some '$'),
          i + 1 + 1 + (name ++ ['$']).length⟩ [] := run_skip ..
    _ = ⟨[], none⟩ := rfl

theorem run_closer_block (start depth : Nat) (p : Option Char) (i : Nat) :
    run standardStrings ⟨.block start (depth + 1), 0, p, i⟩
        (Mode.block start (depth + 1)).closer =
      ⟨[.comment start (i + (Mode.block start (depth + 1)).closer.length)], none⟩ := by
  induction depth generalizing p i with
  | zero => rfl
  | succ depth ih =>
    have hstep : run standardStrings ⟨.block start (depth + 2), 0, p, i⟩
        (Mode.block start (depth + 2)).closer =
        run standardStrings ⟨.block start (depth + 1), 0, some '/', i + 2⟩
          (Mode.block start (depth + 1)).closer := rfl
    have hlength : (Mode.block start (depth + 2)).closer.length =
        2 + (Mode.block start (depth + 1)).closer.length :=
      Nat.add_comm (Mode.block start (depth + 1)).closer.length 2
    rw [hstep, ih, hlength, Nat.add_assoc]

/-- A line break and the closer of what is open lead back to plain text. -/
theorem run_closer {q : State} (hq : q.Sound text []) (h : q.mode.construct? ≠ none) :
    run standardStrings q ('\n' :: q.mode.closer) =
      ⟨q.mode.closing (q.position + 1 + q.mode.closer.length), none⟩ := by
  obtain ⟨mode, skip, p, i⟩ := q
  obtain ⟨-, hmode, hskip⟩ := hq
  cases mode with
  | normal | line start => exact absurd rfl h
  | single escapes => exact run_closer_single hskip p i
  | double =>
    obtain rfl := Nat.le_zero.1 hskip
    rfl
  | dollar tag =>
    obtain rfl := Nat.le_zero.1 hskip
    exact run_closer_dollar hmode p i
  | block start depth =>
    obtain rfl := Nat.le_zero.1 hskip
    obtain ⟨depth, rfl⟩ := Nat.exists_eq_add_one_of_ne_zero hmode.2.ne'
    exact run_closer_block start depth (some '\n') (i + 1)

/-- A line break and the closer of what a text leaves open end it with nothing open. The split
points are those from before, and for a block comment the comment itself. -/
theorem scan_append_closer {construct : Construct}
    (h : (scan s standardStrings).unterminated = some construct) :
    (openMode standardStrings s).construct? = some construct ∧
      (openMode standardStrings s).Sound s ∧
      scan (s ++ '\n' :: (openMode standardStrings s).closer) standardStrings =
        ⟨(scan s standardStrings).points ++ (openMode standardStrings s).closing
          (s ++ '\n' :: (openMode standardStrings s).closer).length, none⟩ := by
  have scan_eq (t : Text) : scan t standardStrings = run standardStrings State.initial t :=
    (run_normal_eq_lexFrom none 0 t).symm
  have hsound : (after standardStrings State.initial s).Sound s [] := (State.initial_sound s).after
  have hposition : (after standardStrings State.initial s).position = s.length :=
    (position_after State.initial s).trans (Nat.zero_add s.length)
  rw [scan_eq] at h
  have hopen : (openMode standardStrings s).construct? = some construct := by
    rw [← h, unterminated_run, openMode]
  refine ⟨hopen, hsound.mode, ?_⟩
  rw [scan_eq, scan_eq, run_append (State.initial_sound s) (by rw [h]; exact nofun)]
  rw [openMode, run_closer hsound (by rw [← openMode, hopen]; exact nofun), hposition]
  simp only [addPoints, State.initial, List.length_append, List.length_cons]
  congr 3
  omega

/-- A comment inside a comment, with half of a closer at the end of the text. -/
theorem scan_append_closer_nested :
    (scan ";/*a/*b*" true).unterminated = some .blockComment ∧
      (openMode true ";/*a/*b*").construct? = some .blockComment ∧
      (openMode true ";/*a/*b*").Sound ";/*a/*b*" ∧
      scan ";/*a/*b*\n*/*/" true = ⟨[.semicolon 0, .comment 1 13], none⟩ := by
  have h : (scan ";/*a/*b*" true).unterminated = some .blockComment := by decide +kernel
  have hpoints : (scan ";/*a/*b*" true).points = [.semicolon 0] := by decide +kernel
  obtain ⟨hopen, hsound, hscan⟩ := scan_append_closer h
  rw [hpoints] at hscan
  exact ⟨h, hopen, hsound, hscan⟩

end SqlBoundary.Machine
