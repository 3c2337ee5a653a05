import SqlBoundary.Lex.Position
import SqlBoundary.Proofs.Lex.Expression
import SqlBoundary.Proofs.Text.Slice

/-! # Patterns at positions

A pattern stands at a position if a word of its expression begins there, and a search answers for
the first position at or after the given one where it stands. Past the end of a text no pattern
stands.
-/

namespace SqlBoundary

/-- The white space from one position up to another, where it ends. -/
structure SpaceRun (s : Text) (start stop : Nat) : Prop where
  ordered : start ≤ stop
  within : stop ≤ s.length
  blank : ∀ c ∈ s.slice start stop, isSpace c = true
  ends : ∀ c, s[stop]? = some c → isSpace c = false

theorem Text.searchAt_eq_ok_iff {α : Type} {start : Nat} {found answer : α} :
    searchAt start found = .ok answer ↔ start ≤ maxPosition ∧ found = answer := by
  unfold searchAt
  split
  next h => simp [h]
  next h => simp [h]

theorem Text.searchAt_eq_error_iff {α : Type} {start : Nat} {found : α} :
    searchAt start found = .error .tooLargeToSearch ↔ maxPosition < start := by
  unfold searchAt
  split
  next h => simpa using h
  next h => simpa using h

namespace Pattern
variable {p : Pattern} {s : Text} {start stop : Nat}

theorem matchAfter?_eq_none_iff_read? :
    p.matchAfter? s start = none ↔ p.read? (s.drop start) = none :=
  Option.map_eq_none_iff

theorem matchAfter?_eq_none_iff : p.matchAfter? s start = none ↔
    ¬∃ word, word <+: s.drop start ∧ p.expression.Matches word :=
  matchAfter?_eq_none_iff_read?.trans read?_eq_none_iff

theorem lt_of_matches_slice (h : p.expression.Matches (s.slice start stop)) : start < stop := by
  refine Nat.lt_of_not_le fun hle => p.not_matches_nil ?_
  rwa [Text.slice_eq_nil hle] at h

theorem matchAfter?_eq_some_iff :
    p.matchAfter? s start = some stop ↔
      stop ≤ s.length ∧ p.expression.Matches (s.slice start stop) := by
  simp only [matchAfter?, Option.map_eq_some_iff, Prod.exists, p.read?_takes _ _ _]
  constructor
  · rintro ⟨word, rest, ⟨hword, hs⟩, rfl⟩
    have hslice : s.slice start (start + word.length) = word := Text.slice_of_drop_eq hs
    have hpos : 0 < word.length := List.length_pos_iff.2 fun h => p.not_matches_nil (h ▸ hword)
    have hlength := congrArg List.length hs
    rw [List.length_drop, List.length_append] at hlength
    exact ⟨by omega, hslice.symm ▸ hword⟩
  · rintro ⟨hstop, hword⟩
    have hle : start ≤ stop := Nat.le_of_lt (lt_of_matches_slice hword)
    refine ⟨_, s.drop stop, ⟨hword, (Text.slice_append_drop hle).symm⟩, ?_⟩
    rw [Text.length_slice hstop, Nat.add_sub_cancel' hle]

theorem eq_of_matches_slice {j k : Nat} (hj : j ≤ s.length) (hk : k ≤ s.length)
    (hjword : p.expression.Matches (s.slice start j))
    (hkword : p.expression.Matches (s.slice start k)) : j = k := by
  have hwords : s.slice start j = s.slice start k :=
    eq_of_matches_of_isPrefix hjword hkword (List.take_prefix _ _) (List.take_prefix _ _)
  have hlengths := congrArg List.length hwords
  rw [Text.length_slice hj, Text.length_slice hk] at hlengths
  have := lt_of_matches_slice hjword
  have := lt_of_matches_slice hkword
  omega

/-- The pattern of joined literals looks at the whole run of white space and the character behind
it. -/
theorem matchAfter?_spaceThenSingleQuote_iff {r : Nat} :
    spaceThenSingleQuote.matchAfter? s start = some (r + 1) ↔
      SpaceRun s start r ∧ '\n' ∈ s.slice start r ∧ s[r]? = some '\'' := by
  rw [matchAfter?_eq_some_iff]
  constructor
  · rintro ⟨hr, hword⟩
    have hle : start ≤ r := Nat.le_of_lt_succ (lt_of_matches_slice hword)
    obtain ⟨space, hslice, hspace, hbreak⟩ := matches_spaceThenSingleQuote_iff.1 hword
    rw [Text.slice_succ hle, List.getElem?_eq_getElem hr, Option.toList_some] at hslice
    obtain ⟨rfl, hquote⟩ := List.append_inj' hslice rfl
    have hend : s[r]? = some '\'' := by
      rw [List.getElem?_eq_getElem hr, List.singleton_inj.1 hquote]
    refine ⟨⟨hle, Nat.le_of_lt hr, hspace, fun c hc => ?_⟩, hbreak, hend⟩
    obtain rfl := Option.some.inj (hend.symm.trans hc)
    rfl
  · rintro ⟨hrun, hbreak, hend⟩
    obtain ⟨hr, -⟩ := List.getElem?_eq_some_iff.1 hend
    refine ⟨hr, matches_spaceThenSingleQuote_iff.2 ⟨_, ?_, hrun.blank, hbreak⟩⟩
    rw [Text.slice_succ hrun.ordered, hend, Option.toList_some]

theorem indexAfter?_eq_none_iff :
    p.indexAfter? s start = none ↔ ∀ i, start ≤ i → p.matchAfter? s i = none := by
  simp only [indexAfter?, Option.map_eq_none_iff, search_eq_none_iff, List.drop_drop,
    matchAfter?_eq_none_iff_read?]
  constructor
  · intro h i hi
    rw [← Nat.add_sub_cancel' hi]
    exact h _
  · exact fun h k => h _ (Nat.le_add_right start k)

theorem exists_least_of_indexAfter? (h : p.indexAfter? s start = some stop) :
    ∃ i, start ≤ i ∧ p.matchAfter? s i = some stop ∧
      ∀ k, start ≤ k → k < i → p.matchAfter? s k = none := by
  obtain ⟨f, hf, rfl⟩ := Option.map_eq_some_iff.1 h
  obtain ⟨hread, hbefore⟩ := search_least hf
  refine ⟨start + f.skipped.length, Nat.le_add_right _ _, ?_, fun k hk hlt => ?_⟩
  · rw [matchAfter?, ← List.drop_drop, hread]
    rfl
  · have hbefore := hbefore (k - start) (by omega)
    rwa [List.drop_drop, Nat.add_sub_cancel' hk, ← matchAfter?_eq_none_iff_read?] at hbefore

theorem indexAfter?_eq_some_iff :
    p.indexAfter? s start = some stop ↔
      ∃ i, start ≤ i ∧ p.matchAfter? s i = some stop ∧
        ∀ k, start ≤ k → k < i → p.matchAfter? s k = none := by
  refine ⟨exists_least_of_indexAfter?, ?_⟩
  rintro ⟨i, hi, hmatch, hleast⟩
  cases hindex : p.indexAfter? s start with
  | none =>
    rw [indexAfter?_eq_none_iff.1 hindex i hi] at hmatch
    cases hmatch
  | some stop' =>
    obtain ⟨i', hi', hmatch', hleast'⟩ := exists_least_of_indexAfter? hindex
    obtain hlt | rfl | hlt := Nat.lt_trichotomy i i'
    · rw [hleast' i hi hlt] at hmatch
      cases hmatch
    · exact hmatch'.symm.trans hmatch
    · rw [hleast i' hi' hlt] at hmatch'
      cases hmatch'

/-- A pattern is matched at a position exactly up to where a word of its expression that begins
there ends, which is one place at most. Joined literals are matched exactly if a line breaks in the
run of white space and a quote ends it. A search answers for the least position at which the pattern
is matched. All this is refused where the position does not fit a machine word. -/
theorem position_spec (p : Pattern) (s : Text) (start : Nat) :
    (∀ stop, Text.searchAt start (p.matchAfter? s start) = .ok (some stop) ↔
        start ≤ maxPosition ∧ stop ≤ s.length ∧ p.expression.Matches (s.slice start stop)) ∧
      (Text.searchAt start (p.matchAfter? s start) = .ok none ↔
        start ≤ maxPosition ∧ ¬∃ word, word <+: s.drop start ∧ p.expression.Matches word) ∧
      (∀ j k, j ≤ s.length → k ≤ s.length → p.expression.Matches (s.slice start j) →
        p.expression.Matches (s.slice start k) → j = k) ∧
      (∀ r, Text.searchAt start (spaceThenSingleQuote.matchAfter? s start) = .ok (some (r + 1)) ↔
        start ≤ maxPosition ∧ SpaceRun s start r ∧ '\n' ∈ s.slice start r ∧ s[r]? = some '\'') ∧
      (∀ stop, Text.searchAt start (p.indexAfter? s start) = .ok (some stop) ↔
        start ≤ maxPosition ∧ ∃ i, start ≤ i ∧ p.matchAfter? s i = some stop ∧
          ∀ k, start ≤ k → k < i → p.matchAfter? s k = none) ∧
      (Text.searchAt start (p.indexAfter? s start) = .ok none ↔
        start ≤ maxPosition ∧ ∀ i, start ≤ i → p.matchAfter? s i = none) ∧
      (Text.searchAt start (p.matchAfter? s start) = .error .tooLargeToSearch ↔
        maxPosition < start) ∧
      (Text.searchAt start (p.indexAfter? s start) = .error .tooLargeToSearch ↔
        maxPosition < start) := by
  refine ⟨fun stop => ?_, ?_, fun j k => eq_of_matches_slice, fun r => ?_, fun stop => ?_, ?_,
    Text.searchAt_eq_error_iff, Text.searchAt_eq_error_iff⟩
  · rw [Text.searchAt_eq_ok_iff, matchAfter?_eq_some_iff]
  · rw [Text.searchAt_eq_ok_iff, matchAfter?_eq_none_iff]
  · rw [Text.searchAt_eq_ok_iff, matchAfter?_spaceThenSingleQuote_iff]
  · rw [Text.searchAt_eq_ok_iff, indexAfter?_eq_some_iff]
  · rw [Text.searchAt_eq_ok_iff, indexAfter?_eq_none_iff]

/-- Of several line breaks either repetition of white space may take some, to one end. -/
theorem position_spec_joint :
    let s : Text := "a' \n\t\n 'b"
    SpaceRun s 2 7 ∧ '\n' ∈ s.slice 2 7 ∧ s[7]? = some '\'' ∧
      Text.searchAt 2 (spaceThenSingleQuote.matchAfter? s 2) = .ok (some 8) ∧
      spaceThenSingleQuote.expression.Matches (s.slice 2 8) ∧
      (∀ k, k ≤ s.length → spaceThenSingleQuote.expression.Matches (s.slice 2 k) → 8 = k) ∧
      (∀ k, 0 ≤ k → k < 2 → spaceThenSingleQuote.matchAfter? s k = none) ∧
      Text.searchAt 0 (spaceThenSingleQuote.indexAfter? s 0) = .ok (some 8) := by
  intro s
  obtain ⟨hmatch, -, hunique, hjoint, -⟩ := position_spec spaceThenSingleQuote s 2
  obtain ⟨-, -, -, -, hindex, -⟩ := position_spec spaceThenSingleQuote s 0
  have hrun : SpaceRun s 2 7 := by
    refine ⟨by decide, by decide, List.all_eq_true.1 rfl, fun c hc => ?_⟩
    obtain rfl := Option.some.inj hc
    rfl
  have hbreak : '\n' ∈ s.slice 2 7 := by decide
  have hanswer := (hjoint 7).2 ⟨by decide, hrun, hbreak, rfl⟩
  obtain ⟨-, hlength, hword⟩ := (hmatch 8).1 hanswer
  have hbefore : ∀ k, 0 ≤ k → k < 2 → spaceThenSingleQuote.matchAfter? s k = none := by
    intro k _ hk
    obtain rfl | rfl : k = 0 ∨ k = 1 := by omega
    · rfl
    · rfl
  refine ⟨hrun, hbreak, rfl, hanswer, hword, fun k hk => hunique 8 k hlength hk hword, hbefore, ?_⟩
  exact (hindex 8).2 ⟨by decide, 2, by decide, (Text.searchAt_eq_ok_iff.1 hanswer).2, hbefore⟩

/-- A position that does not fit a machine word is refused although no word can begin there. -/
theorem exists_position_unanswered :
    let s : Text := ['$']
    let start := 9223372036854775808
    Text.searchAt start (dollarTag.matchAfter? s start) = .error .tooLargeToSearch ∧
      ¬(Text.searchAt start (dollarTag.matchAfter? s start) = .ok none ↔
        ¬∃ word, word <+: s.drop start ∧ dollarTag.expression.Matches word) := by
  intro s start
  have hrefused : Text.searchAt start (dollarTag.matchAfter? s start) = .error .tooLargeToSearch :=
    Text.searchAt_eq_error_iff.2 (by decide)
  have hnone : ¬∃ word, word <+: s.drop start ∧ dollarTag.expression.Matches word := by
    rintro ⟨word, hprefix, hword⟩
    obtain rfl : word = [] := List.prefix_nil.1 hprefix
    exact dollarTag.not_matches_nil hword
  refine ⟨hrefused, fun h => ?_⟩
  rw [hrefused] at h
  cases h.2 hnone

/-- Names do not begin with a digit, but the dollar sign behind it is a tag of its own. -/
example : dollarTag.matchAfter? "1$" 0 = none ∧ dollarTag.indexAfter? "1$" 0 = some 2 := by decide

end Pattern
end SqlBoundary
