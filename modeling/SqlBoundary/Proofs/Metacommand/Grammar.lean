import SqlBoundary.Metacommand
import SqlBoundary.Proofs.Lex.Reader
import SqlBoundary.Proofs.Text.Trim

/-! # The grammar of commands

A command is a backslash and a name, either alone or with white space and an argument on one line
after it. Reading accepts exactly these forms of a trimmed text, so white space around a command and
between its name and its argument makes no difference.
-/

namespace SqlBoundary.Metacommand

open Text

structure IsName (name : Text) : Prop where
  nonempty : name ≠ []
  chars : ∀ c ∈ name, ('a' ≤ c ∧ c ≤ 'z') ∨ c ∈ ['?', '+', '!']

/-- The forms of a command, with the name and the argument of each. The name goes to the end of the
text or to the first white space, which is no part of a name, and the argument begins at the end of
that white space. -/
inductive Form : Text → Text → Option Text → Prop
  | bare {name : Text} (hname : IsName name) : Form ('\\' :: name) name none
  | withArgument {name gap argument : Text} (hname : IsName name) (hgap : gap ≠ [])
    (hblank : isBlank gap = true) (hargument : argument ≠ [])
    (hfirst : ∀ c, argument.head? = some c → isSpace c = false) (hline : '\n' ∉ argument) :
    Form ('\\' :: (name ++ (gap ++ argument))) name (some argument)

theorem isNameChar_iff {c : Char} :
    isNameChar c = true ↔ ('a' ≤ c ∧ c ≤ 'z') ∨ c ∈ ['?', '+', '!'] := by
  have hlower : c.isLower = true ↔ 'a' ≤ c ∧ c ≤ 'z' := by
    change (decide ('a' ≤ c) && decide (c ≤ 'z')) = true ↔ _
    rw [Bool.and_eq_true, decide_eq_true_eq, decide_eq_true_eq]
  simp only [isNameChar, Bool.or_eq_true, hlower, decide_eq_true_eq, or_assoc, List.mem_cons,
    List.not_mem_nil, or_false]

theorem isName_iff {name : Text} : IsName name ↔ name ≠ [] ∧ name.all isNameChar = true := by
  rw [List.all_eq_true]
  constructor
  · intro h
    exact ⟨h.nonempty, fun c hc => isNameChar_iff.2 (h.chars c hc)⟩
  · rintro ⟨hne, hchars⟩
    exact ⟨hne, fun c hc => isNameChar_iff.1 (hchars c hc)⟩

theorem isNameChar_eq_false_of_isSpace {c : Char} (h : isSpace c = true) :
    isNameChar c = false := by
  rw [← Bool.not_eq_true, isNameChar_iff]
  intro hname
  simp only [isSpace, Bool.or_eq_true, Bool.and_eq_true, decide_eq_true_eq] at h
  have hrange : (97 ≤ c.toNat ∧ c.toNat ≤ 122) ∨ c.toNat ∈ [63, 43, 33] := by
    refine hname.imp (fun h => ⟨h.1, h.2⟩) fun hmem => ?_
    simp only [List.mem_cons, List.not_mem_nil, or_false] at hmem
    rcases hmem with rfl | rfl | rfl <;> decide
  simp only [List.mem_cons, List.not_mem_nil, or_false] at hrange
  omega

theorem readAfterBackslash_append {name gap argument : Text} (hname : IsName name)
    (hgap : gap ≠ []) (hblank : isBlank gap = true)
    (hfirst : ∀ c, argument.head? = some c → isSpace c = false) (hline : '\n' ∉ argument) :
    readAfterBackslash (name ++ (gap ++ argument)) = .command name (some argument) := by
  obtain ⟨hne, hchars⟩ := isName_iff.1 hname
  obtain ⟨d, gap', rfl⟩ := List.exists_cons_of_ne_nil hgap
  have hspace : isNameChar d = false :=
    isNameChar_eq_false_of_isSpace (isBlank_iff.1 hblank d List.mem_cons_self)
  obtain ⟨htake, hdrop⟩ := takeWhile_dropWhile_append_cons hchars hspace (gap' ++ argument)
  have hstart : trimStart (d :: gap' ++ argument) = argument := by
    rw [trimStart_append_of_isBlank hblank]
    cases argument with
    | nil => rfl
    | cons c argument => exact List.dropWhile_cons_of_neg (by simp [hfirst c rfl])
  rw [List.cons_append] at hstart
  have hshort : argument.length < gap'.length + argument.length + 1 := by omega
  simp only [readAfterBackslash, List.cons_append, htake, hdrop, hstart]
  simp [hne, hline, hshort]

/-- Every form is read as what it says. -/
theorem Form.read_eq {t name : Text} {argument : Option Text} (h : Form t name argument) :
    ∃ s, t = '\\' :: s ∧ readAfterBackslash s = .command name argument := by
  cases h with
  | bare hname =>
    obtain ⟨hne, hchars⟩ := isName_iff.1 hname
    refine ⟨name, rfl, ?_⟩
    have hall : ∀ c ∈ name, isNameChar c = true := List.all_eq_true.1 hchars
    rw [readAfterBackslash, List.takeWhile_eq_self_iff.2 hall, List.dropWhile_eq_nil_iff.2 hall]
    simp [hne]
  | withArgument hname hgap hblank _ hfirst hline =>
    exact ⟨_, rfl, readAfterBackslash_append hname hgap hblank hfirst hline⟩

theorem form_of_trimStart {name tail : Text} (hname : IsName name)
    (htrimmed : IsTrimmed ('\\' :: (name ++ tail))) (hshort : (trimStart tail).length < tail.length)
    (hline : '\n' ∉ trimStart tail) :
    Form ('\\' :: (name ++ tail)) name (some (trimStart tail)) := by
  have htail := takeWhile_append_trimStart tail
  have hblank := isBlank_takeWhile tail
  have hfirst : ∀ c, (trimStart tail).head? = some c → isSpace c = false :=
    fun c => head?_trimStart
  generalize tail.takeWhile isSpace = gap at htail hblank
  generalize trimStart tail = argument at htail hshort hline hfirst
  subst htail
  have hgap : gap ≠ [] := by
    rintro rfl
    exact Nat.lt_irrefl _ hshort
  refine .withArgument hname hgap hblank ?_ hfirst hline
  -- Without an argument the text would end in white space.
  rintro rfl
  have hlast := htrimmed.last (gap.getLast hgap) (by
    rw [List.append_nil, ← List.cons_append, List.getLast?_append_of_ne_nil _ hgap,
      List.getLast?_eq_some_getLast hgap])
  rw [isBlank_iff.1 hblank _ (List.getLast_mem hgap)] at hlast
  cases hlast

/-- What is read from a trimmed text has a form. -/
theorem form_of_readAfterBackslash {s name : Text} {argument : Option Text}
    (htrimmed : IsTrimmed ('\\' :: s)) (h : readAfterBackslash s = .command name argument) :
    Form ('\\' :: s) name argument := by
  have hs := List.takeWhile_append_dropWhile (p := isNameChar) (l := s)
  have hchars := List.all_takeWhile (p := isNameChar) (l := s)
  simp only [readAfterBackslash] at h
  generalize s.takeWhile isNameChar = first at hs hchars h
  generalize s.dropWhile isNameChar = tail at hs h
  subst hs
  split at h
  next => cases h
  next hfirst =>
    have hname : IsName first := isName_iff.2 ⟨by simpa using hfirst, hchars⟩
    split at h
    next htail =>
      obtain rfl : tail = [] := List.isEmpty_iff.1 htail
      cases h
      rw [List.append_nil]
      exact .bare hname
    next =>
      split at h
      next hargument =>
        rw [Bool.and_eq_true, decide_eq_true_eq] at hargument
        cases h
        exact form_of_trimStart hname htrimmed hargument.1 (by simpa using hargument.2)
      next => cases h

theorem read_of_trim_eq {s rest : Text} (h : trim s = '\\' :: rest) :
    read s = readAfterBackslash rest := by
  simp [read, h]

theorem read_eq_command_iff {s name : Text} {argument : Option Text}
    (hhelp : trim s ≠ "help".toList) :
    read s = .command name argument ↔ Form (trim s) name argument := by
  constructor
  · intro h
    have htrimmed := isTrimmed_trim s
    simp only [read, if_neg hhelp] at h
    split at h
    next rest hrest =>
      rw [hrest] at htrimmed ⊢
      exact form_of_readAfterBackslash htrimmed h
    next => cases h
  · intro h
    obtain ⟨rest, hrest, hread⟩ := h.read_eq
    rw [read_of_trim_eq hrest, hread]

theorem read_eq_notCommand_iff_head? {s : Text} (hhelp : trim s ≠ "help".toList) :
    read s = .notCommand ↔ (trim s).head? ≠ some '\\' := by
  rw [read_eq_notCommand_iff, isMetacommand, decide_eq_false hhelp, Bool.false_or,
    decide_eq_false_iff_not]

theorem read_eq_malformed_iff {s : Text} (hhelp : trim s ≠ "help".toList) :
    read s = .malformed ↔
      (trim s).head? = some '\\' ∧ ∀ name argument, ¬Form (trim s) name argument := by
  simp only [← read_eq_command_iff hhelp]
  have hnot := read_eq_notCommand_iff_head? hhelp
  cases hread : read s with
  | notCommand => simpa [hread] using hnot
  | malformed => simpa [hread] using hnot
  | command name argument => simp

/-- White space around a command and between its name and its argument is dropped. -/
theorem read_spaced {name argument v gap w : Text} (hname : IsName name) (hne : argument ≠ [])
    (htrimmed : IsTrimmed argument) (hline : '\n' ∉ argument) (hv : isBlank v = true)
    (hgap : gap ≠ []) (hblank : isBlank gap = true) (hw : isBlank w = true) :
    read (v ++ '\\' :: (name ++ (gap ++ (argument ++ w)))) = .command name (some argument) := by
  have hform : Form ('\\' :: (name ++ (gap ++ argument))) name (some argument) :=
    .withArgument hname hgap hblank hne htrimmed.first hline
  have hfinal : IsTrimmed ('\\' :: (name ++ (gap ++ argument))) := by
    rw [← List.append_assoc, ← List.cons_append]
    refine isTrimmed_append (List.cons_ne_nil _ _) hne (fun c hc => ?_) htrimmed.last
    obtain rfl := Option.some.inj hc
    rfl
  have htrim : trim (v ++ '\\' :: (name ++ (gap ++ (argument ++ w)))) =
      '\\' :: (name ++ (gap ++ argument)) := by
    have hend : '\\' :: (name ++ (gap ++ (argument ++ w))) =
        '\\' :: (name ++ (gap ++ argument)) ++ w := by simp
    rw [trim_blank_append hv, hend, trim_append_of_isBlank hw, hfinal.trim_eq]
  obtain ⟨rest, hrest, hread⟩ := hform.read_eq
  rw [read_of_trim_eq (htrim.trans hrest), hread]

/-- Reading accepts exactly the forms of a command. What begins with a backslash and has no form is
malformed, what begins otherwise is no command, and white space may be added to a command. -/
theorem read_spec :
    (∀ s, trim s = "help".toList → read s = .command "??" none) ∧
      (∀ s, trim s ≠ "help".toList →
        (∀ name argument, read s = .command name argument ↔ Form (trim s) name argument) ∧
        (read s = .malformed ↔
          (trim s).head? = some '\\' ∧ ∀ name argument, ¬Form (trim s) name argument) ∧
        (read s = .notCommand ↔ (trim s).head? ≠ some '\\')) ∧
      ∀ name argument v gap w, IsName name → argument ≠ [] → IsTrimmed argument →
        '\n' ∉ argument → isBlank v = true → gap ≠ [] → isBlank gap = true → isBlank w = true →
        read (v ++ '\\' :: (name ++ (gap ++ (argument ++ w)))) = .command name (some argument) := by
  refine ⟨fun s hhelp => ?_, fun s hhelp => ⟨fun name argument => ?_, ?_, ?_⟩, ?_⟩
  · rw [read, if_pos hhelp]
  · exact read_eq_command_iff hhelp
  · exact read_eq_malformed_iff hhelp
  · exact read_eq_notCommand_iff_head? hhelp
  · intro name argument v gap w hname hne htrimmed hline hv hgap hblank hw
    exact read_spaced hname hne htrimmed hline hv hgap hblank hw

/-- A line break may stand before an argument, but not in it. -/
theorem read_spec_lineBreak :
    trim " help\n" = "help".toList ∧ read " help\n" = .command "??" none ∧
      trim "\\t\n on" ≠ "help".toList ∧ Form (trim "\\t\n on") "t" (some "on") ∧
      read "\\t\n on" = .command "t" (some "on") ∧
      IsName "pset" ∧ IsTrimmed "format csv" ∧ '\n' ∉ "format csv".toList ∧
      isBlank "\u00a0" = true ∧ isBlank "\n\t" = true ∧
      read ("\u00a0".toList ++ '\\' :: ("pset".toList ++ ("\n\t".toList ++
        ("format csv".toList ++ "\n".toList)))) = .command "pset" (some "format csv") := by
  obtain ⟨hhelp, hforms, hspaced⟩ := read_spec
  have hname : IsName "t" := isName_iff.2 (by decide)
  have hpset : IsName "pset" := isName_iff.2 (by decide)
  have htrimmed : IsTrimmed "format csv" := isTrimmed_between rfl rfl "ormat cs"
  have hform : Form (trim "\\t\n on") "t" (some "on") :=
    .withArgument hname (List.cons_ne_nil '\n' " ".toList) rfl (by decide)
      (fun c hc => by obtain rfl := Option.some.inj hc; rfl) (by decide)
  have hother : trim "\\t\n on" ≠ "help".toList := by decide
  exact ⟨rfl, hhelp " help\n" rfl, hother, hform, ((hforms _ hother).1 _ _).2 hform, hpset,
    htrimmed, by decide, rfl, rfl, hspaced _ _ _ _ _ hpset (by decide) htrimmed (by decide) rfl
      (by decide) rfl rfl⟩

end SqlBoundary.Metacommand
