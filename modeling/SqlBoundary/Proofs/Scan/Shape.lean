import SqlBoundary.Proofs.Scan.Margin

/-! # The shape of a text

The kinds of the lexemes of a text, and what is left open. White space around a text leaves its
shape as it is, unless it ends in an identifier character in front of the tag of a dollar quote.
-/

namespace SqlBoundary

open Text

variable {standardStrings : Bool} {before : Option Char}

/-- What a lexeme is, apart from its text. -/
inductive LexemeKind
  | blank
  | words
  | separator
  | literal
  | comment
deriving DecidableEq

def Lexeme.kind : Lexeme → LexemeKind
  | plain t => if isBlank t then .blank else .words
  | separator => .separator
  | literal _ => .literal
  | comment _ => .comment

@[simp] theorem Lexeme.kind_eq_separator {l : Lexeme} : l.kind = .separator ↔ l = separator := by
  cases l with
  | plain t => simp only [kind]; split <;> simp
  | separator | literal | comment => simp [kind]

@[simp] theorem Lexeme.kind_eq_comment {l : Lexeme} : l.kind = .comment ↔ ∃ t, l = comment t := by
  cases l with
  | plain t => simp only [kind]; split <;> simp
  | separator | literal | comment => simp [kind]

theorem Lexeme.kind_plain_append_blank {w : Text} (hw : isBlank w = true) (t : Text) :
    (plain (t ++ w)).kind = (plain t).kind := by
  simp only [kind, isBlank_append, hw, and_true]

theorem Lexeme.kind_plain_blank_append {w : Text} (hw : isBlank w = true) (t : Text) :
    (plain (w ++ t)).kind = (plain t).kind := by
  simp only [kind, isBlank_append, hw, true_and]

structure Shape where
  kinds : List LexemeKind
  unfinished : Option Construct
deriving DecidableEq

def Lexing.shape (l : Lexing) : Shape := ⟨l.lexemes.map Lexeme.kind, l.unfinished.map (·.1)⟩

theorem Lexing.separator_mem_kinds {l : Lexing} :
    .separator ∈ l.shape.kinds ↔ .separator ∈ l.lexemes := by
  simp [shape]

theorem Lexing.comment_mem_kinds {l : Lexing} :
    .comment ∈ l.shape.kinds ↔ ∃ t, .comment t ∈ l.lexemes := by
  simp only [shape, List.mem_map, Lexeme.kind_eq_comment]
  exact ⟨fun ⟨_, hx, t, ht⟩ => ⟨t, ht ▸ hx⟩, fun ⟨t, ht⟩ => ⟨_, ht, t, rfl⟩⟩

theorem Lexing.unfinished_eq_none_of_shape_eq {l m : Lexing} (h : m.shape = l.shape)
    (finished : l.unfinished = none) : m.unfinished = none := by
  have hunfinished : m.unfinished.map (·.1) = l.unfinished.map (·.1) := congrArg Shape.unfinished h
  rw [finished] at hunfinished
  exact Option.map_eq_none_iff.1 hunfinished

theorem Lexing.separator_mem_of_shape_eq {l m : Lexing} (h : m.shape = l.shape) :
    .separator ∈ m.lexemes ↔ .separator ∈ l.lexemes := by
  rw [← separator_mem_kinds, h, separator_mem_kinds]

theorem Lexing.shape_prepend (head : List Lexeme) (l : Lexing) :
    (l.prepend head).shape = ⟨head.map Lexeme.kind ++ l.shape.kinds, l.shape.unfinished⟩ := by
  simp [shape, prepend]

theorem Lexing.Padded.shape_eq {w : Text} (hw : isBlank w = true) {l m : Lexing}
    (h : l.Padded w m) : m.shape = l.shape := by
  induction h with
  | plain t => simp only [shape, List.map_cons, Lexeme.kind_plain_append_blank hw]
  | unfinished => rfl
  | line p t hvu =>
    have hu := (isBlank_append.1 (hvu ▸ hw)).2
    have hkind := Lexeme.kind_plain_append_blank hu []
    rw [List.nil_append] at hkind
    simp only [shape, List.map_cons, List.map_nil, hkind]
    rfl
  | prepend head h ih => rw [shape_prepend, shape_prepend, ih]

theorem shape_append_blank (standardStrings : Bool) (before : Option Char) {w : Text}
    (hw : isBlank w = true) (s : Text) :
    (lexFrom standardStrings before (s ++ w)).shape = (lexFrom standardStrings before s).shape :=
  (lexFrom_append_blank standardStrings before hw s).shape_eq hw

theorem shape_blank_append (standardStrings : Bool) (before : Option Char) {w : Text}
    (hw : isBlank w = true) (s : Text) :
    (lexFrom standardStrings before (w ++ s)).shape =
      (lexFrom standardStrings (w.getLast?.or before) s).shape := by
  obtain ⟨q, ls, unfinished, hs, hws⟩ := lexFrom_blank_append standardStrings before hw s
  rw [hs, hws]
  simp only [Lexing.shape, List.map_cons, Lexeme.kind_plain_blank_append hw]

/-- Nothing but text and literals, none of them left open. -/
structure Lexing.IsInert (l : Lexing) : Prop where
  finished : l.unfinished = none
  undivided : .separator ∉ l.lexemes
  bare : ∀ t, .comment t ∉ l.lexemes

theorem Lexing.IsInert.of_shape_eq {l m : Lexing} (h : l.IsInert) (hshape : m.shape = l.shape) :
    m.IsInert where
  finished := unfinished_eq_none_of_shape_eq hshape h.finished
  undivided := mt (separator_mem_of_shape_eq hshape).1 h.undivided
  bare t ht := by
    obtain ⟨u, hu⟩ := comment_mem_kinds.1 (hshape ▸ comment_mem_kinds.2 ⟨t, ht⟩)
    exact h.bare u hu

theorem pointsFrom_eq_nil_iff {k : Nat} {ls : List Lexeme} :
    pointsFrom k ls = [] ↔ .separator ∉ ls ∧ ∀ t, .comment t ∉ ls := by
  induction ls generalizing k with
  | nil => simp [pointsFrom]
  | cons l ls ih =>
    rw [pointsFrom, List.append_eq_nil_iff, ih]
    cases l with
    | comment t =>
      simp only [Lexeme.point?, Option.toList_some, List.cons_ne_nil, false_and, false_iff]
      exact fun h => h.2 t List.mem_cons_self
    | plain | separator | literal => simp [Lexeme.point?]

theorem Lexing.IsInert.scan_eq {s : Text} (h : (lex s standardStrings).IsInert) :
    scan s standardStrings = ⟨[], none⟩ := by
  rw [scan, h.finished, pointsFrom_eq_nil_iff.2 ⟨h.undivided, h.bare⟩]
  rfl

theorem Lexing.IsInert.plain_cons {p q : Text} {ls : List Lexeme}
    {unfinished : Option (Construct × Text)} (h : IsInert ⟨.plain p :: ls, unfinished⟩) :
    IsInert ⟨.plain q :: ls, unfinished⟩ where
  finished := h.finished
  undivided := by simpa using h.undivided
  bare := by simpa using h.bare

theorem Lexing.isInert_prepend {l : Lexing} {p : Text} {x : Lexeme} (hsep : x ≠ .separator)
    (hcomment : ∀ t, x ≠ .comment t) : (l.prepend [.plain p, x]).IsInert ↔ l.IsInert := by
  constructor
  · rintro ⟨finished, undivided, bare⟩
    refine ⟨finished, fun h => undivided ?_, fun t h => bare t ?_⟩ <;>
    · exact List.mem_append_right _ h
  · rintro ⟨finished, undivided, bare⟩
    refine ⟨finished, ?_, fun t => ?_⟩
    · simpa [prepend, undivided] using Ne.symm hsep
    · simpa [prepend, bare] using Ne.symm (hcomment t)

def opensWithTag : Text → Bool
  | '$' :: t => (readTag? t).isSome
  | _ => false

/-- The white space in front of a text ends in an identifier character, and the tag of a dollar
quote comes next. Only without the white space does the tag open a dollar quote. -/
def hidesDollarQuote (s : Text) : Bool :=
  (s.takeWhile isSpace).getLast?.any isIdentifierChar && opensWithTag (trimStart s)

theorem allowsBackslash_of_isSpace {c : Char} (hc : isSpace c = true) (q : Quote) :
    allowsBackslash standardStrings (some c) q = allowsBackslash standardStrings none q := by
  have hE : c ≠ 'E' := by rintro rfl; revert hc; decide
  have he : c ≠ 'e' := by rintro rfl; revert hc; decide
  cases q <;> simp [allowsBackslash, hE, he]

theorem readLexeme_congr_of_not_opensWithTag {s rest : Text} {c : Char} {mark : Mark}
    (hc : isSpace c = true) (hs : opensWithTag s = false) (h : Mark.read? s = some (mark, rest)) :
    readLexeme standardStrings (some c) mark rest = readLexeme standardStrings none mark rest := by
  cases mark with
  | semicolon | lineComment | blockComment => rfl
  | quote q =>
    simp only [readLexeme, allowsBackslash_of_isSpace hc]
  | dollar =>
    obtain rfl : s = '$' :: rest := (Mark.read?_spells _ _ _ h).symm
    have htag : readTag? rest = none := by simpa [opensWithTag] using hs
    rw [readLexeme_dollar_of_none (by simp [htag]), readLexeme_dollar_of_none (by simp [htag])]

/-- Whatever white space stood in front of a text, the text is lexed as it is on its own. -/
theorem lexFrom_margin {s : Text} (h : hidesDollarQuote s = false) :
    lexFrom standardStrings (s.takeWhile isSpace).getLast? (trimStart s) =
      lex (trimStart s) standardStrings := by
  rw [hidesDollarQuote, Bool.and_eq_false_iff] at h
  obtain hlast | htag := h
  · exact lexFrom_eq_lex hlast _
  · cases hlast : (s.takeWhile isSpace).getLast? with
    | none => rfl
    | some c =>
      have hspace : isSpace c = true :=
        isBlank_iff.1 (isBlank_takeWhile s) c (List.mem_of_getLast? hlast)
      exact lexFrom_congr fun mark rest hread =>
        readLexeme_congr_of_not_opensWithTag hspace htag hread

theorem shape_trim (standardStrings : Bool) {s : Text} (h : hidesDollarQuote s = false) :
    (lex (trim s) standardStrings).shape = (lex s standardStrings).shape := by
  obtain ⟨w, hw, hs⟩ := exists_trim_append s
  have hlead := shape_blank_append standardStrings none (isBlank_takeWhile s) (trimStart s)
  rw [takeWhile_append_trimStart, Option.or_none, lexFrom_margin h, hs] at hlead
  rw [lex, lex, hlead, lex, shape_append_blank standardStrings none hw]

theorem shape_margins (standardStrings : Bool) {v w : Text} (hv : isBlank v = true)
    (hlast : v.getLast?.any isIdentifierChar = false) (hw : isBlank w = true) (s : Text) :
    (lex (v ++ (s ++ w)) standardStrings).shape = (lex s standardStrings).shape := by
  rw [lex, shape_blank_append standardStrings none hv, Option.or_none, lexFrom_eq_lex hlast]
  exact shape_append_blank standardStrings none hw s

/-- All white space of a text is ASCII, so that none of it is an identifier character. -/
def IsAsciiSpaced (s : Text) : Prop := ∀ c ∈ s, isSpace c = true → c.toNat < 0x80

instance (s : Text) : Decidable (IsAsciiSpaced s) :=
  List.decidableBAll (fun c => isSpace c = true → c.toNat < 0x80) s

theorem isIdentifierChar_of_isSpace {c : Char} (hspace : isSpace c = true)
    (hascii : c.toNat < 0x80) : isIdentifierChar c = false := by
  have hall : ∀ n < 0x80, isSpace (Char.ofNat n) = true →
      isIdentifierChar (Char.ofNat n) = false := by decide
  have := hall c.toNat hascii
  rw [Char.ofNat_toNat] at this
  exact this hspace

theorem isAsciiSpaced_append {s t : Text} :
    IsAsciiSpaced (s ++ t) ↔ IsAsciiSpaced s ∧ IsAsciiSpaced t := by
  simp [IsAsciiSpaced, or_imp, forall_and]

theorem IsAsciiSpaced.getLast? {w : Text} (h : IsAsciiSpaced w) (hw : isBlank w = true) :
    w.getLast?.any isIdentifierChar = false := by
  cases hlast : w.getLast? with
  | none => rfl
  | some c =>
    have hmem := List.mem_of_getLast? hlast
    have hspace := isBlank_iff.1 hw c hmem
    exact isIdentifierChar_of_isSpace hspace (h c hmem hspace)

theorem IsAsciiSpaced.hidesDollarQuote_eq_false {s : Text} (h : IsAsciiSpaced s) :
    hidesDollarQuote s = false := by
  have hmargin : IsAsciiSpaced (s.takeWhile isSpace) :=
    (isAsciiSpaced_append.1 ((takeWhile_append_trimStart s).symm ▸ h)).1
  rw [hidesDollarQuote, hmargin.getLast? (isBlank_takeWhile s), Bool.false_and]

end SqlBoundary
