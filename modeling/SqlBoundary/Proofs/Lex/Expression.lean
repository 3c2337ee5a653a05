import SqlBoundary.Proofs.Lex.Reader

/-! # The languages of the patterns

Each pattern has a regular expression, and an expression has a language: the words that it matches.
The reader of a pattern takes exactly the words of its expression off the front of a text. No word
is the beginning of another one, so the ways to match need not be tried in any order.
-/

namespace SqlBoundary.Pattern

inductive Expression
  | empty
  | oneOf (accept : Char → Bool)
  | sequence (first second : Expression)
  | either (first second : Expression)
  | star (body : Expression)

namespace Expression

def optional (e : Expression) : Expression := either e empty

def char (c : Char) : Expression := oneOf (· = c)

def literal : Text → Expression
  | [] => empty
  | c :: t => sequence (char c) (literal t)

/-- The words of an expression. -/
inductive Matches : Expression → Text → Prop
  | empty : Matches .empty []
  | oneOf {accept : Char → Bool} {c : Char} (hc : accept c = true) : Matches (.oneOf accept) [c]
  | sequence {e f : Expression} {s t : Text} (hs : Matches e s) (ht : Matches f t) :
      Matches (.sequence e f) (s ++ t)
  | first {e f : Expression} {s : Text} (hs : Matches e s) : Matches (.either e f) s
  | second {e f : Expression} {s : Text} (hs : Matches f s) : Matches (.either e f) s
  | stop {e : Expression} : Matches (.star e) []
  | more {e : Expression} {s t : Text} (hs : Matches e s) (ht : Matches (.star e) t) :
      Matches (.star e) (s ++ t)

variable {e f : Expression} {accept : Char → Bool} {w : Text}

@[simp] theorem matches_empty_iff : Matches empty w ↔ w = [] := by
  constructor
  · intro h
    cases h with
    | empty => rfl
  · rintro rfl
    exact .empty

@[simp] theorem matches_oneOf_iff : Matches (oneOf accept) w ↔ ∃ c, w = [c] ∧ accept c = true := by
  constructor
  · intro h
    cases h with
    | oneOf hc => exact ⟨_, rfl, hc⟩
  · rintro ⟨c, rfl, hc⟩
    exact .oneOf hc

theorem matches_sequence_iff :
    Matches (sequence e f) w ↔ ∃ s t, w = s ++ t ∧ Matches e s ∧ Matches f t := by
  constructor
  · intro h
    cases h with
    | sequence hs ht => exact ⟨_, _, rfl, hs, ht⟩
  · rintro ⟨s, t, rfl, hs, ht⟩
    exact .sequence hs ht

@[simp] theorem matches_either_iff : Matches (either e f) w ↔ Matches e w ∨ Matches f w := by
  constructor
  · intro h
    cases h with
    | first hs => exact .inl hs
    | second hs => exact .inr hs
  · rintro (h | h)
    · exact .first h
    · exact .second h

@[simp] theorem matches_optional_iff : Matches (optional e) w ↔ Matches e w ∨ w = [] := by
  rw [optional, matches_either_iff, matches_empty_iff]

@[simp] theorem matches_char_iff {c : Char} : Matches (char c) w ↔ w = [c] := by
  simp [char]

@[simp] theorem matches_literal_iff {t : Text} : Matches (literal t) w ↔ w = t := by
  induction t generalizing w with
  | nil => exact matches_empty_iff
  | cons c t ih =>
    simp only [literal, matches_sequence_iff, matches_char_iff, ih]
    constructor
    · rintro ⟨_, _, rfl, rfl, rfl⟩
      rfl
    · rintro rfl
      exact ⟨[c], t, rfl, rfl, rfl⟩

/-- Repeated characters are the texts that are made of them. -/
@[simp] theorem matches_star_oneOf_iff :
    Matches (star (oneOf accept)) w ↔ ∀ c ∈ w, accept c = true := by
  constructor
  · intro h
    -- The induction is on the match, which has to remember that it is one of this repetition.
    generalize hstar : star (oneOf accept) = e at h
    induction h with
    | empty | oneOf | sequence | first | second => cases hstar
    | stop => simp
    | more hs _ _ ih =>
      cases hstar
      obtain ⟨c, rfl, hc⟩ := matches_oneOf_iff.1 hs
      simpa [hc] using ih rfl
  · intro h
    induction w with
    | nil => exact .stop
    | cons c w ih =>
      have hc : Matches (oneOf accept) [c] := .oneOf (h c List.mem_cons_self)
      exact .more hc (ih fun d hd => h d (List.mem_cons_of_mem c hd))

end Expression

open Expression

/-- Whether a character lies in one of the ranges of a bracket expression. -/
def within (ranges : List (Char × Char)) (c : Char) : Bool :=
  ranges.any fun (low, high) => low ≤ c && c ≤ high

/-- Everything outside ASCII counts as a letter of an identifier, as the underscore does. -/
def letters : List (Char × Char) :=
  [('A', 'Z'), ('a', 'z'), ('_', '_'), ('\u0080', Char.ofNat 0x10ffff)]

def lettersAndDigits : List (Char × Char) := ('0', '9') :: letters

def expression : Pattern → Expression
  | special =>
    either (oneOf (";'\"$".toList.contains ·)) (either (literal "--") (literal "/*"))
  | doubleQuote => char '"'
  | singleQuote => char '\''
  | singleQuoteOrBackslash => oneOf ("'\\".toList.contains ·)
  | spaceThenSingleQuote =>
    sequence (star (oneOf isSpace))
      (sequence (char '\n') (sequence (star (oneOf isSpace)) (char '\'')))
  | blockDelimiter => either (literal "/*") (literal "*/")
  | dollarTag =>
    sequence
      (optional (sequence (oneOf (within letters)) (star (oneOf (within lettersAndDigits)))))
      (char '$')

theorem within_iff {ranges : List (Char × Char)} {c : Char} :
    within ranges c = true ↔ ∃ r ∈ ranges, r.1.toNat ≤ c.toNat ∧ c.toNat ≤ r.2.toNat := by
  simp only [within, List.any_eq_true, Bool.and_eq_true, decide_eq_true_eq]
  rfl

theorem isAlpha_iff_toNat {c : Char} :
    c.isAlpha = true ↔ (65 ≤ c.toNat ∧ c.toNat ≤ 90) ∨ (97 ≤ c.toNat ∧ c.toNat ≤ 122) := by
  change (decide ('A' ≤ c ∧ c ≤ 'Z') || decide ('a' ≤ c) && decide (c ≤ 'z')) = true ↔ _
  simp only [Bool.or_eq_true, Bool.and_eq_true, decide_eq_true_eq]
  rfl

theorem isTagChar_iff {c : Char} :
    isTagChar c = true ↔ c.isAlpha = true ∨ c.isDigit = true ∨ c.toNat = 95 ∨ 128 ≤ c.toNat := by
  have hunderscore : c = '_' ↔ c.toNat = 95 := Char.toNat_inj (d := '_').symm
  simp only [isTagChar, Char.isAlphanum, Bool.or_eq_true, decide_eq_true_eq, hunderscore, or_assoc]

theorem within_letters_iff {c : Char} :
    within letters c = true ↔ isTagChar c = true ∧ c.isDigit = false := by
  have hletters : within letters c = true ↔ (65 ≤ c.toNat ∧ c.toNat ≤ 90) ∨
      (97 ≤ c.toNat ∧ c.toNat ≤ 122) ∨ (95 ≤ c.toNat ∧ c.toNat ≤ 95) ∨
        (128 ≤ c.toNat ∧ c.toNat ≤ 1114111) := by
    rw [within_iff]
    simp [letters]
  have hdigit : c.isDigit = true ↔ 48 ≤ c.toNat ∧ c.toNat ≤ 57 := Char.isDigit_iff_toNat
  have hvalid : c.toNat < 0xd800 ∨ 0xdfff < c.toNat ∧ c.toNat < 0x110000 := c.valid
  rw [hletters, isTagChar_iff, ← Bool.not_eq_true, isAlpha_iff_toNat, hdigit]
  omega

theorem within_lettersAndDigits (c : Char) : within lettersAndDigits c = isTagChar c := by
  have hmore : within lettersAndDigits c = (c.isDigit || within letters c) := rfl
  have hdigit : c.isDigit = true → isTagChar c = true := fun h => isTagChar_iff.2 (.inr (.inl h))
  rw [hmore, Bool.eq_iff_iff, Bool.or_eq_true, within_letters_iff]
  grind

/-- A reader takes exactly the words of an expression. -/
def Takes (read : Reader Text) (e : Expression) : Prop :=
  ∀ s word rest, read s = some (word, rest) ↔ e.Matches word ∧ s = word ++ rest

theorem takes_map {α : Type} {read : Reader α} {spell : α → Text} {p : α → Prop} {e : Expression}
    (hread : ∀ s value rest, read s = some (value, rest) ↔ p value ∧ s = spell value ++ rest)
    (he : ∀ word, e.Matches word ↔ ∃ value, p value ∧ word = spell value) :
    Takes (fun s => (read s).map fun (value, rest) => (spell value, rest)) e := by
  intro s word rest
  rw [Option.map_eq_some_iff, he]
  constructor
  · rintro ⟨⟨value, rest⟩, h, heq⟩
    obtain ⟨rfl, rfl⟩ := Prod.mk.inj heq
    obtain ⟨hp, hs⟩ := (hread _ _ _).1 h
    exact ⟨⟨value, hp, rfl⟩, hs⟩
  · rintro ⟨⟨value, hp, rfl⟩, hs⟩
    exact ⟨(value, rest), (hread _ _ _).2 ⟨hp, hs⟩, rfl⟩

theorem takes_readChar? {accept : Char → Bool} {e : Expression}
    (he : ∀ word, e.Matches word ↔ ∃ c, accept c = true ∧ word = [c]) :
    Takes (fun s => (readChar? accept s).map fun (c, rest) => ([c], rest)) e :=
  takes_map (fun _ _ _ => readChar?_eq_some_iff) he

theorem matches_special_iff {w : Text} :
    special.expression.Matches w ↔ ∃ mark : Mark, w = mark.text := by
  simp only [expression, matches_either_iff, matches_oneOf_iff, matches_literal_iff]
  constructor
  · rintro (⟨c, rfl, hc⟩ | rfl | rfl)
    · have hc : c = ';' ∨ c = '\'' ∨ c = '"' ∨ c = '$' := by simpa using hc
      obtain rfl | rfl | rfl | rfl := hc
      · exact ⟨.semicolon, rfl⟩
      · exact ⟨.quote .single, rfl⟩
      · exact ⟨.quote .double, rfl⟩
      · exact ⟨.dollar, rfl⟩
    · exact ⟨.lineComment, rfl⟩
    · exact ⟨.blockComment, rfl⟩
  · rintro ⟨mark, rfl⟩
    cases mark with
    | quote q => cases q <;> exact .inl ⟨_, rfl, rfl⟩
    | semicolon | dollar => exact .inl ⟨_, rfl, rfl⟩
    | lineComment => exact .inr (.inl rfl)
    | blockComment => exact .inr (.inr rfl)

theorem matches_blockDelimiter_iff {w : Text} :
    blockDelimiter.expression.Matches w ↔ ∃ d : BlockDelimiter, w = d.text := by
  simp only [expression, matches_either_iff, matches_literal_iff]
  constructor
  · rintro (rfl | rfl)
    · exact ⟨.opener, rfl⟩
    · exact ⟨.closer, rfl⟩
  · rintro ⟨d, rfl⟩
    cases d with
    | opener => exact .inl rfl
    | closer => exact .inr rfl

/-- Both repetitions may take a line break, and only one of several needs to stand between them. -/
theorem matches_spaceThenSingleQuote_iff {w : Text} :
    spaceThenSingleQuote.expression.Matches w ↔
      ∃ space, w = space ++ ['\''] ∧ (∀ c ∈ space, isSpace c = true) ∧ '\n' ∈ space := by
  simp only [expression, matches_sequence_iff, matches_star_oneOf_iff, matches_char_iff]
  constructor
  · rintro ⟨before, _, rfl, hbefore, _, _, rfl, rfl, after, _, rfl, hafter, rfl⟩
    refine ⟨before ++ '\n' :: after, by simp, fun c hc => ?_, by simp⟩
    obtain hc | hc := List.mem_append.1 hc
    · exact hbefore c hc
    · obtain rfl | hc := List.mem_cons.1 hc
      · rfl
      · exact hafter c hc
  · rintro ⟨space, rfl, hspace, hbreak⟩
    obtain ⟨before, after, rfl⟩ := List.append_of_mem hbreak
    have hbefore : ∀ c ∈ before, isSpace c = true := fun c hc =>
      hspace c (List.mem_append_left _ hc)
    have hafter : ∀ c ∈ after, isSpace c = true := fun c hc =>
      hspace c (List.mem_append_right _ (List.mem_cons_of_mem _ hc))
    exact ⟨before, '\n' :: (after ++ ['\'']), by simp, hbefore, ['\n'], after ++ ['\''], rfl, rfl,
      after, ['\''], rfl, hafter, rfl⟩

theorem matches_dollarTag_iff {w : Text} :
    dollarTag.expression.Matches w ↔ isTag ('$' :: w) = true := by
  have hname (name : Text) : isTagName name = true ↔
      (∃ first more, name = first ++ more ∧ (∃ c, first = [c] ∧ within letters c = true) ∧
        ∀ c ∈ more, within lettersAndDigits c = true) ∨ name = [] := by
    cases name with
    | nil => simp [isTagName]
    | cons c name =>
      simp [isTagName, within_letters_iff, within_lettersAndDigits]
  simp only [isTag_iff, expression, matches_sequence_iff, matches_optional_iff,
    matches_star_oneOf_iff, matches_oneOf_iff, matches_char_iff, ← hname]
  constructor
  · rintro ⟨name, _, rfl, h, rfl⟩
    exact ⟨name, rfl, h⟩
  · rintro ⟨name, heq, h⟩
    exact ⟨name, ['$'], List.tail_eq_of_cons_eq heq, h, rfl⟩

theorem read?_takes (p : Pattern) : Takes p.read? p.expression := by
  cases p with
  | special =>
    refine takes_map (p := fun _ => True) (fun s mark rest => ?_) fun word => ?_
    · rw [Mark.read?_eq_some_iff, true_and]
    · simp only [matches_special_iff, true_and]
  | doubleQuote | singleQuote => exact takes_readChar? fun word => by simp [expression]
  | singleQuoteOrBackslash => exact takes_readChar? fun word => by simp [expression, and_comm]
  | spaceThenSingleQuote =>
    intro s word rest
    rw [read?, readContinuation?_eq_some_iff_append, matches_spaceThenSingleQuote_iff]
  | blockDelimiter =>
    refine takes_map (p := fun _ => True) (fun s d rest => ?_) fun word => ?_
    · rw [BlockDelimiter.read?_eq_some_iff, true_and]
    · simp only [matches_blockDelimiter_iff, true_and]
  | dollarTag =>
    intro s word rest
    rw [read?, readTag?_eq_some_iff, matches_dollarTag_iff]

theorem read?_eq_none_iff {p : Pattern} {s : Text} :
    p.read? s = none ↔ ¬∃ word, word <+: s ∧ p.expression.Matches word := by
  rw [Option.eq_none_iff_forall_ne_some]
  constructor
  · rintro h ⟨word, ⟨rest, rfl⟩, hword⟩
    exact h (word, rest) ((p.read?_takes _ _ _).2 ⟨hword, rfl⟩)
  · rintro h ⟨word, rest⟩ hread
    obtain ⟨hword, rfl⟩ := (p.read?_takes _ _ _).1 hread
    exact h ⟨word, List.prefix_append word rest, hword⟩

theorem not_matches_nil (p : Pattern) : ¬p.expression.Matches [] := by
  intro h
  have hread : p.read? [] = some ([], []) := (p.read?_takes _ _ _).2 ⟨h, rfl⟩
  cases p <;> cases hread

/-- At most one word of a pattern begins a text. -/
theorem eq_of_matches_of_isPrefix {p : Pattern} {v w s : Text} (hv : p.expression.Matches v)
    (hw : p.expression.Matches w) (hvs : v <+: s) (hws : w <+: s) : v = w := by
  obtain ⟨after, rfl⟩ := hvs
  obtain ⟨rest, hs⟩ := hws
  have hv : p.read? (v ++ after) = some (v, after) := (p.read?_takes _ _ _).2 ⟨hv, rfl⟩
  have hw : p.read? (v ++ after) = some (w, rest) := (p.read?_takes _ _ _).2 ⟨hw, hs.symm⟩
  exact congrArg Prod.fst (Option.some.inj (hv.symm.trans hw))

end SqlBoundary.Pattern
