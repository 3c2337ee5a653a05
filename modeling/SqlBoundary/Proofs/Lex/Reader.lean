import SqlBoundary.Lex.Lexeme
import Mathlib.Data.List.Basic

/-! # What the readers accept

A search is described by the places where its reader fails and succeeds. Each reader is described by
the texts that it takes, apart from how it finds them: the tag of a dollar quote, the joint between
two literals, a line, and a block comment.
-/

namespace SqlBoundary

section Search
variable {α : Type} {read : Reader α}

/-- A search passes over the characters at which its reader fails. -/
inductive Finds (read : Reader α) : Text → Found α → Prop
  | here {s rest : Text} {value : α} (h : read s = some (value, rest)) :
      Finds read s ⟨[], value, rest⟩
  | skip {c : Char} {s : Text} {f : Found α} (hc : read (c :: s) = none) (hf : Finds read s f) :
      Finds read (c :: s) (f.skip c)

theorem search_eq_some_iff {s : Text} {f : Found α} : search read s = some f ↔ Finds read s f := by
  constructor
  · intro h
    induction s generalizing f with
    | nil =>
      obtain ⟨⟨value, rest⟩, hread, rfl⟩ := Option.map_eq_some_iff.1 h
      exact .here hread
    | cons c s ih =>
      cases hc : read (c :: s) with
      | some found =>
        rw [search, hc] at h
        cases h
        exact .here hc
      | none =>
        rw [search, hc] at h
        obtain ⟨g, hg, rfl⟩ := Option.map_eq_some_iff.1 h
        exact .skip hc (ih hg)
  · intro h
    induction h with
    | @here s rest value h => cases s <;> simp [search, h]
    | skip hc hf ih =>
      rw [search, hc, ih]
      rfl

theorem search_cons_eq_none {c : Char} {s : Text} :
    search read (c :: s) = none ↔ read (c :: s) = none ∧ search read s = none := by
  cases hc : read (c :: s) with
  | some found => simp [search, hc]
  | none => simp [search, hc]

/-- The place found is the first at which the reader succeeds. -/
theorem search_least {s : Text} {f : Found α} (h : search read s = some f) :
    read (s.drop f.skipped.length) = some (f.value, f.rest) ∧
      ∀ k < f.skipped.length, read (s.drop k) = none := by
  induction search_eq_some_iff.1 h with
  | here hread => exact ⟨hread, fun k hk => absurd hk (Nat.not_lt_zero k)⟩
  | skip hc hf ih =>
    obtain ⟨hread, hbefore⟩ := ih (search_eq_some_iff.2 hf)
    refine ⟨hread, fun k hk => ?_⟩
    cases k with
    | zero => exact hc
    | succ k => exact hbefore k (Nat.lt_of_succ_lt_succ hk)

theorem search_eq_none_iff {s : Text} : search read s = none ↔ ∀ k, read (s.drop k) = none := by
  induction s with
  | nil => simp [search]
  | cons c s ih =>
    rw [search_cons_eq_none, ih]
    constructor
    · rintro ⟨hc, hs⟩ k
      cases k with
      | zero => exact hc
      | succ k => exact hs k
    · exact fun h => ⟨h 0, fun k => h (k + 1)⟩

end Search

theorem Mark.read?_eq_some_iff {s rest : Text} {mark : Mark} :
    Mark.read? s = some (mark, rest) ↔ s = mark.text ++ rest := by
  constructor
  · exact fun h => (Mark.read?_spells _ _ _ h).symm
  · rintro rfl
    cases mark with
    | quote q => cases q <;> rfl
    | semicolon | dollar | lineComment | blockComment => rfl

theorem BlockDelimiter.read?_eq_some_iff {s rest : Text} {d : BlockDelimiter} :
    BlockDelimiter.read? s = some (d, rest) ↔ s = d.text ++ rest := by
  constructor
  · exact fun h => (BlockDelimiter.read?_spells _ _ _ h).symm
  · rintro rfl
    cases d <;> rfl

theorem readChar?_eq_some_iff {accept : Char → Bool} {s rest : Text} {c : Char} :
    readChar? accept s = some (c, rest) ↔ accept c = true ∧ s = c :: rest := by
  constructor
  · exact fun h => ⟨readChar?_accepts h, (readChar?_spells _ _ _ _ h).symm⟩
  · rintro ⟨hc, rfl⟩
    rw [readChar?, if_pos hc]

theorem readChar?_eq_none {accept : Char → Bool} {c : Char} {s : Text} :
    readChar? accept (c :: s) = none ↔ accept c = false := by
  simp [readChar?]

theorem afterPrefix?_eq_none {t s : Text} : Text.afterPrefix? t s = none ↔ ¬ t <+: s := by
  simp [Text.afterPrefix?]

theorem readText?_eq_some_iff {t s value rest : Text} :
    readText? t s = some (value, rest) ↔ value = t ∧ s = t ++ rest := by
  rw [readText?, Option.map_eq_some_iff]
  constructor
  · rintro ⟨u, hu, h⟩
    obtain ⟨rfl, rfl⟩ := Prod.mk.inj h
    exact ⟨rfl, Text.afterPrefix?_eq_some.1 hu⟩
  · rintro ⟨rfl, hs⟩
    exact ⟨rest, Text.afterPrefix?_eq_some.2 hs, rfl⟩

theorem takeWhile_dropWhile_append_cons {p : Char → Bool} {w : Text} (hw : w.all p = true)
    {c : Char} (hc : p c = false) (s : Text) :
    (w ++ c :: s).takeWhile p = w ∧ (w ++ c :: s).dropWhile p = c :: s := by
  rw [List.takeWhile_append_of_pos (by simpa using hw),
    List.dropWhile_append_of_pos (by simpa using hw)]
  simp [hc]

theorem getLast?_or_cons (c : Char) (w : Text) (p : Option Char) :
    (c :: w).getLast?.or p = w.getLast?.or (some c) := by
  cases w <;> simp [List.getLast?_cons]

theorem getLast?_or_append (v w : Text) (p : Option Char) :
    (v ++ w).getLast?.or p = w.getLast?.or (v.getLast?.or p) := by
  rw [List.getLast?_append, Option.or_assoc]

/-- An identifier that has no dollar sign, or nothing. -/
def isTagName : Text → Bool
  | [] => true
  | c :: name => isTagChar c && !c.isDigit && name.all isTagChar

/-- A name between two dollar signs. -/
def isTag : Text → Bool
  | '$' :: t => t.getLast? = some '$' && isTagName t.dropLast
  | _ => false

theorem isTagName_iff {name : Text} :
    isTagName name = true ↔ name.all isTagChar = true ∧ name.head?.any Char.isDigit = false := by
  cases name with
  | nil => simp [isTagName]
  | cons c name => simp [isTagName, and_assoc, and_comm]

theorem isTag_iff {t : Text} :
    isTag t = true ↔ ∃ name, t = '$' :: (name ++ ['$']) ∧ isTagName name = true := by
  constructor
  · intro h
    unfold isTag at h
    split at h
    next t =>
      simp only [Bool.and_eq_true, decide_eq_true_eq] at h
      exact ⟨t.dropLast, by rw [List.dropLast_append_getLast? _ h.1], h.2⟩
    next => cases h
  · rintro ⟨name, rfl, h⟩
    simp [isTag, h]

theorem readTag?_eq_some_iff {s tag rest : Text} :
    readTag? s = some (tag, rest) ↔ isTag ('$' :: tag) = true ∧ s = tag ++ rest := by
  constructor
  · intro h
    refine ⟨isTag_iff.2 ?_, (readTag?_spells _ _ _ h).symm⟩
    unfold readTag? at h
    split at h
    next =>
      simp only [Option.ite_none_left_eq_some, Option.some.injEq, Prod.mk.injEq] at h
      obtain ⟨hdigit, rfl, -⟩ := h
      exact ⟨_, rfl, isTagName_iff.2 ⟨List.all_takeWhile, by simpa using hdigit⟩⟩
    next => cases h
  · rintro ⟨htag, rfl⟩
    obtain ⟨name, hname, hvalid⟩ := isTag_iff.1 htag
    obtain ⟨hall, hdigit⟩ := isTagName_iff.1 hvalid
    obtain rfl : tag = name ++ ['$'] := List.tail_eq_of_cons_eq hname
    obtain ⟨htake, hdrop⟩ := takeWhile_dropWhile_append_cons hall (c := '$') rfl rest
    rw [List.append_assoc, List.singleton_append, readTag?, hdrop]
    simp only [htake, hdigit, Bool.false_eq_true, if_false]

theorem readContinuation?_eq_some_iff {s joint rest : Text} :
    readContinuation? s = some (joint, rest) ↔
      '\n' ∈ s.takeWhile isSpace ∧ s.dropWhile isSpace = '\'' :: rest ∧
        joint = s.takeWhile isSpace ++ ['\''] := by
  unfold readContinuation?
  split
  next tail h =>
    simp only [Option.ite_none_right_eq_some, List.contains_iff_mem, Option.some.injEq,
      Prod.mk.injEq, h, List.cons.injEq, true_and]
    grind
  next h => grind

/-- What joins two literals is white space with a line break in it, and the quote of the second. -/
theorem readContinuation?_eq_some_iff_append {s joint rest : Text} :
    readContinuation? s = some (joint, rest) ↔
      (∃ space, joint = space ++ ['\''] ∧ (∀ c ∈ space, isSpace c = true) ∧ '\n' ∈ space) ∧
        s = joint ++ rest := by
  rw [readContinuation?_eq_some_iff]
  constructor
  · rintro ⟨hbreak, hquote, rfl⟩
    refine ⟨⟨_, rfl, List.all_eq_true.1 List.all_takeWhile, hbreak⟩, ?_⟩
    rw [List.append_assoc, List.singleton_append, ← hquote, List.takeWhile_append_dropWhile]
  · rintro ⟨⟨space, rfl, hspace, hbreak⟩, rfl⟩
    obtain ⟨htake, hdrop⟩ :=
      takeWhile_dropWhile_append_cons (List.all_eq_true.2 hspace) (c := '\'') rfl rest
    rw [List.append_assoc, List.singleton_append, htake, hdrop]
    exact ⟨hbreak, rfl, rfl⟩

theorem readLine_newline (s : Text) : readLine ('\n' :: s) = (['\n'], s) := by
  simp [readLine]

theorem readLine_cons {c : Char} (hc : c ≠ '\n') (s : Text) :
    readLine (c :: s) = (c :: (readLine s).1, (readLine s).2) := by
  unfold readLine
  simp only [List.dropWhile_cons, List.takeWhile_cons, hc, ne_eq, not_false_eq_true, decide_true,
    if_true]
  split <;> rfl

/-- A line ends just after its line break, or the text ends without one. -/
theorem readLine_cases (s : Text) :
    (readLine s = (s, []) ∧ '\n' ∉ s) ∨
      ∃ line rest, s = line ++ '\n' :: rest ∧ '\n' ∉ line ∧
        readLine s = (line ++ ['\n'], rest) := by
  induction s with
  | nil => exact .inl ⟨rfl, List.not_mem_nil⟩
  | cons c s ih =>
    by_cases hc : c = '\n'
    · subst hc
      exact .inr ⟨[], s, rfl, List.not_mem_nil, readLine_newline s⟩
    · rw [readLine_cons hc]
      obtain ⟨hs, hnone⟩ | ⟨line, rest, hs, hnone, hline⟩ := ih
      · exact .inl ⟨by rw [hs], by simp [hnone, Ne.symm hc]⟩
      · refine .inr ⟨c :: line, rest, by rw [hs]; rfl, by simp [hnone, Ne.symm hc], ?_⟩
        rw [hline]
        rfl

theorem readBlock?_ends {inner : Nat} {s body rest : Text}
    (h : readBlock? inner s = some (body, rest)) : ['*', '/'] <:+ body := by
  fun_induction readBlock? inner s generalizing body rest with
  | case1 => cases h
  | case2 s f hf hvalue =>
    cases h
    rw [hvalue]
    exact List.suffix_append _ _
  | case3 s f hf inner hvalue ih =>
    obtain ⟨tail, hread, rfl⟩ := prepend_eq_some.1 h
    exact (ih hread).trans (List.suffix_append _ _)
  | case4 s f hf inner hvalue ih =>
    obtain ⟨tail, hread, rfl⟩ := prepend_eq_some.1 h
    exact (ih hread).trans (List.suffix_append _ _)

end SqlBoundary
