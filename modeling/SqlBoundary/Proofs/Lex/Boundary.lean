import SqlBoundary.Proofs.Lex.Reader
import SqlBoundary.Proofs.Scan.Position

/-! # Lexing at the end of a lexeme

Only the character before a text can affect how the text is read, through the prefix of an escape
string and the identifier before a dollar sign. A separator and a comment end in a character that
does neither, so reading starts afresh after them.
-/

namespace SqlBoundary

variable {standardStrings : Bool} {before : Option Char}

theorem lexFrom_of_search_eq_none {s : Text} (h : search Mark.read? s = none) :
    lexFrom standardStrings before s = ⟨[.plain s], none⟩ := by
  rw [lexFrom]
  split
  next => rfl
  next f hf => simp [h] at hf

theorem lexFrom_of_readLexeme_eq_ok {s rest : Text} {f : Found Mark} {l : Lexeme}
    (h : search Mark.read? s = some f)
    (hl : readLexeme standardStrings (f.skipped.getLast?.or before) f.value f.rest =
      .ok (l, rest)) :
    lexFrom standardStrings before s =
      (lexFrom standardStrings l.text.getLast? rest).prepend [.plain f.skipped, l] := by
  rw [lexFrom]
  split
  next hf => simp [h] at hf
  next g hg =>
    obtain rfl : f = g := Option.some.inj (h.symm.trans hg)
    split
    next l' rest' hl' =>
      obtain ⟨rfl, rfl⟩ := Prod.mk.inj (Except.ok.inj (hl.symm.trans hl'))
      rfl
    next construct hl' => simp [hl] at hl'

theorem lexFrom_of_readLexeme_eq_error {s : Text} {f : Found Mark} {construct : Construct}
    (h : search Mark.read? s = some f)
    (hl : readLexeme standardStrings (f.skipped.getLast?.or before) f.value f.rest =
      .error construct) :
    lexFrom standardStrings before s =
      ⟨[.plain f.skipped], some (construct, f.value.text ++ f.rest)⟩ := by
  rw [lexFrom]
  split
  next hf => simp [h] at hf
  next g hg =>
    obtain rfl : f = g := Option.some.inj (h.symm.trans hg)
    split
    next l' rest' hl' => simp [hl] at hl'
    next construct' hl' =>
      obtain rfl := Except.error.inj (hl.symm.trans hl')
      rfl

@[simp] theorem lexFrom_nil : lexFrom standardStrings before [] = ⟨[.plain []], none⟩ :=
  lexFrom_of_search_eq_none rfl

theorem spelling_lexFrom (s : Text) :
    spelling (lexFrom standardStrings before s).lexemes ++
      (lexFrom standardStrings before s).unfinished.elim [] (·.2) = s :=
  text_lexFrom standardStrings before s

/-- A text is what a search passes over, the lexeme at the mark it finds, and the rest. -/
theorem eq_append_of_readLexeme {previous : Option Char} {s rest : Text} {f : Found Mark}
    {l : Lexeme} (hf : search Mark.read? s = some f)
    (hl : readLexeme standardStrings previous f.value f.rest = .ok (l, rest)) :
    s = f.skipped ++ (l.text ++ rest) := by
  rw [readLexeme_append hl, ← List.append_assoc, search_spells Mark.read?_spells hf]

/-- Each lexeme that is not plain text was read at its place, and what follows it was lexed from
there on. -/
theorem exists_readLexeme_of_lexemes_eq {s : Text} {pre post : List Lexeme} {l : Lexeme}
    (hl : ∀ t, l ≠ .plain t)
    (h : (lexFrom standardStrings before s).lexemes = pre ++ l :: post) :
    ∃ previous mark rest rest', readLexeme standardStrings previous mark rest = .ok (l, rest') ∧
      s = spelling pre ++ (l.text ++ rest') ∧
      lexFrom standardStrings l.text.getLast? rest' =
        ⟨post, (lexFrom standardStrings before s).unfinished⟩ := by
  fun_induction lexFrom standardStrings before s generalizing pre with
  | case1 before s hs =>
    obtain ⟨-, h, -⟩ | ⟨-, h⟩ := List.singleton_eq_append_iff.1 h <;> simp_all
  | case3 before s f hf construct hread =>
    obtain ⟨-, h, -⟩ | ⟨-, h⟩ := List.singleton_eq_append_iff.1 h <;> simp_all
  | case2 before s f hf lexeme rest hread ih =>
    have hs := eq_append_of_readLexeme hf hread
    cases pre with
    | nil => exact absurd (List.cons.inj h).1.symm (hl _)
    | cons p pre =>
      cases pre with
      | nil =>
        obtain ⟨rfl, rfl, hpost⟩ : .plain f.skipped = p ∧ lexeme = l ∧ _ = post := by
          simpa [Lexing.prepend] using h
        exact ⟨_, _, _, _, hread, by simpa using hs, by rw [← hpost]; rfl⟩
      | cons q pre =>
        obtain ⟨rfl, rfl, hpost⟩ : .plain f.skipped = p ∧ lexeme = q ∧ _ = pre ++ l :: post := by
          simpa [Lexing.prepend] using h
        obtain ⟨previous, mark, rest', rest'', hl', hrest, hpost⟩ := ih hpost
        refine ⟨previous, mark, rest', rest'', hl', ?_, hpost⟩
        simp only [spelling_cons, Lexeme.text_plain, List.append_assoc]
        rw [hs, ← hrest]

theorem readLexeme_some_eq_none {c : Char} (hc : isIdentifierChar c = false) (mark : Mark)
    (rest : Text) :
    readLexeme standardStrings (some c) mark rest = readLexeme standardStrings none mark rest := by
  have hquote (q : Quote) :
      allowsBackslash standardStrings (some c) q = allowsBackslash standardStrings none q := by
    have hE : c ≠ 'E' := by rintro rfl; simp [isIdentifierChar] at hc
    have he : c ≠ 'e' := by rintro rfl; simp [isIdentifierChar] at hc
    cases q <;> simp [allowsBackslash, hE, he]
  have hdollar : opensDollarQuote (some c) = opensDollarQuote none := by
    simp [opensDollarQuote, hc]
  cases mark <;> simp only [readLexeme, hquote, hdollar]

/-- Only the reading of a mark at the very front of a text depends on the character before. -/
theorem lexFrom_congr {before' : Option Char} {s : Text}
    (h : ∀ mark rest, Mark.read? s = some (mark, rest) →
      readLexeme standardStrings before mark rest = readLexeme standardStrings before' mark rest) :
    lexFrom standardStrings before s = lexFrom standardStrings before' s := by
  cases hs : search Mark.read? s with
  | none => rw [lexFrom_of_search_eq_none hs, lexFrom_of_search_eq_none hs]
  | some f =>
    have hprevious : readLexeme standardStrings (f.skipped.getLast?.or before) f.value f.rest =
        readLexeme standardStrings (f.skipped.getLast?.or before') f.value f.rest := by
      cases search_eq_some_iff.1 hs with
      | here hread => exact h _ _ hread
      | skip => simp only [Found.skip, getLast?_or_cons]
    cases hl : readLexeme standardStrings (f.skipped.getLast?.or before') f.value f.rest with
    | ok r =>
      rw [lexFrom_of_readLexeme_eq_ok hs hl,
        lexFrom_of_readLexeme_eq_ok hs (hprevious.trans hl)]
    | error construct =>
      rw [lexFrom_of_readLexeme_eq_error hs hl,
        lexFrom_of_readLexeme_eq_error hs (hprevious.trans hl)]

/-- A character outside identifiers has no effect on the text after it. -/
theorem lexFrom_some_eq_none {c : Char} (hc : isIdentifierChar c = false) (s : Text) :
    lexFrom standardStrings (some c) s = lexFrom standardStrings none s :=
  lexFrom_congr fun mark rest _ => readLexeme_some_eq_none hc mark rest

theorem lexFrom_eq_lex {last : Option Char} (h : last.any isIdentifierChar = false) (s : Text) :
    lexFrom standardStrings last s = lex s standardStrings := by
  cases last with
  | none => rfl
  | some c => exact lexFrom_some_eq_none h s

/-- What a mark and the text after it are read as, with the text that is left. -/
inductive ReadsLexeme (standardStrings : Bool) (previous : Option Char) :
    Mark → Text → Lexeme → Text → Prop
  | separator (rest : Text) :
      ReadsLexeme standardStrings previous .semicolon rest .separator rest
  | quoted {q : Quote} {rest body rest' : Text}
      (h : readQuoted? q (allowsBackslash standardStrings previous q) rest = some (body, rest')) :
      ReadsLexeme standardStrings previous (.quote q) rest (.literal (q.char :: body)) rest'
  | dollar (rest : Text) :
      ReadsLexeme standardStrings previous .dollar rest (.plain ['$']) rest
  | dollarQuoted {rest tag tail body rest' : Text} (htag : readTag? rest = some (tag, tail))
      (h : readThrough? ('$' :: tag) tail = some (body, rest')) :
      ReadsLexeme standardStrings previous .dollar rest (.literal ('$' :: tag ++ body)) rest'
  | line (rest : Text) :
      ReadsLexeme standardStrings previous .lineComment rest
        (.comment ('-' :: '-' :: (readLine rest).1)) (readLine rest).2
  | block {rest body rest' : Text} (h : readBlock? 0 rest = some (body, rest')) :
      ReadsLexeme standardStrings previous .blockComment rest (.comment ('/' :: '*' :: body)) rest'

theorem readsLexeme_of_readLexeme_eq_ok {previous : Option Char} {mark : Mark} {rest rest' : Text}
    {l : Lexeme} (h : readLexeme standardStrings previous mark rest = .ok (l, rest')) :
    ReadsLexeme standardStrings previous mark rest l rest' := by
  cases mark with
  | semicolon =>
    cases h
    exact .separator rest
  | quote q =>
    simp only [readLexeme] at h
    split at h
    next hbody =>
      cases h
      exact .quoted hbody
    next => cases q <;> cases h
  | dollar =>
    simp only [readLexeme] at h
    split at h
    next =>
      cases h
      exact .dollar rest
    next tag tail htag =>
      rw [Option.ite_none_right_eq_some] at htag
      split at h
      next hbody =>
        cases h
        exact .dollarQuoted htag.2 hbody
      next => cases h
  | lineComment =>
    cases h
    exact .line rest
  | blockComment =>
    simp only [readLexeme] at h
    split at h
    next hbody =>
      cases h
      exact .block hbody
    next => cases h

theorem length_text_le_of_readLexeme {previous : Option Char} {mark : Mark} {rest rest' : Text}
    {l : Lexeme} (h : readLexeme standardStrings previous mark rest = .ok (l, rest')) :
    mark.text.length ≤ l.text.length := by
  cases readsLexeme_of_readLexeme_eq_ok h <;> simp [Mark.text]

/-- The lexemes that have a split point are the separator and the two kinds of comment. -/
theorem readLexeme_cases_of_point {previous : Option Char} {mark : Mark} {rest rest' : Text}
    {l : Lexeme} {k : Nat} {x : SplitPoint} (hx : l.point? k = some x)
    (h : readLexeme standardStrings previous mark rest = .ok (l, rest')) :
    (l = .separator ∧ rest' = rest) ∨
      (l = .comment ('-' :: '-' :: (readLine rest).1) ∧ rest' = (readLine rest).2) ∨
      ∃ body, l = .comment ('/' :: '*' :: body) ∧ readBlock? 0 rest = some (body, rest') := by
  cases readsLexeme_of_readLexeme_eq_ok h with
  | separator => exact .inl ⟨rfl, rfl⟩
  | line => exact .inr (.inl ⟨rfl, rfl⟩)
  | block hbody => exact .inr (.inr ⟨_, rfl, hbody⟩)
  | quoted | dollar | dollarQuoted => cases hx

/-- After a separator or a comment the text is read as if nothing stood before it. -/
theorem lexFrom_after_point {previous : Option Char} {mark : Mark} {rest rest' : Text} {l : Lexeme}
    {k : Nat} {x : SplitPoint} (hx : l.point? k = some x)
    (h : readLexeme standardStrings previous mark rest = .ok (l, rest')) :
    lexFrom standardStrings l.text.getLast? rest' = lexFrom standardStrings none rest' := by
  obtain ⟨rfl, -⟩ | ⟨rfl, rfl⟩ | ⟨body, rfl, hbody⟩ := readLexeme_cases_of_point hx h
  · exact lexFrom_some_eq_none (by decide) rest'
  · obtain ⟨hline, -⟩ | ⟨line, rest', -, -, hline⟩ := readLine_cases rest
    · rw [hline, lexFrom_nil, lexFrom_nil]
    · rw [hline, Lexeme.text_comment, ← List.cons_append, ← List.cons_append,
        List.getLast?_concat]
      exact lexFrom_some_eq_none (by decide) rest'
  · obtain ⟨inner, rfl⟩ := readBlock?_ends hbody
    rw [Lexeme.text_comment, ← List.cons_append, ← List.cons_append, List.getLast?_append_cons]
    exact lexFrom_some_eq_none (by decide) rest'

end SqlBoundary
