import SqlBoundary.Statement
import SqlBoundary.Proofs.Lex.Growth
import SqlBoundary.Proofs.Lex.Boundary

/-! # Texts without backslashes

The two dialects differ only in where a backslash escapes the character after it. A text that holds
no backslash is therefore read, scanned and split in the same way under both.
-/

namespace SqlBoundary

variable {s : Text}

theorem isDelimiter_of_ne_backslash {c : Char} (hc : c ≠ '\\') (quote : Quote) (escapes : Bool) :
    quote.isDelimiter escapes c = quote.isDelimiter false c := by
  cases quote <;> simp [Quote.isDelimiter, hc]

theorem search_readChar?_of_forall_mem {accept accept' : Char → Bool}
    (h : ∀ c ∈ s, accept c = accept' c) :
    search (readChar? accept) s = search (readChar? accept') s := by
  induction s with
  | nil => rfl
  | cons c s ih =>
    have hc : readChar? accept (c :: s) = readChar? accept' (c :: s) := by
      simp only [readChar?, h c List.mem_cons_self]
    simp only [search, hc, ih fun d hd => h d (List.mem_cons_of_mem c hd)]

theorem search_isDelimiter_of_not_mem (h : '\\' ∉ s) (quote : Quote) (escapes : Bool) :
    search (readChar? (quote.isDelimiter escapes)) s =
      search (readChar? (quote.isDelimiter false)) s :=
  search_readChar?_of_forall_mem fun _ hc =>
    isDelimiter_of_ne_backslash (ne_of_mem_of_not_mem hc h) quote escapes

/-- A literal in a text without backslashes is read alike with escapes and without. -/
theorem readQuoted?_of_not_mem {quote : Quote} (h : '\\' ∉ s) (escapes : Bool) :
    readQuoted? quote escapes s = readQuoted? quote false s := by
  fun_induction readQuoted? quote false s with
  | case1 s hs =>
    exact readQuoted?_eq_none ((search_isDelimiter_of_not_mem h quote escapes).trans hs)
  | case2 s f hf hvalue | case3 s f hf hvalue =>
    -- What the search finds is a character of the text.
    rw [← search_spells (readChar?_spells _) hf, hvalue] at h
    simp at h
  | case4 s f hf hvalue rest hrest ih =>
    have hsearch := (search_isDelimiter_of_not_mem h quote escapes).trans hf
    have hmem : '\\' ∉ rest := by
      rw [← search_spells (readChar?_spells _) hf, Text.afterPrefix?_eq_some.1 hrest] at h
      simp_all
    rw [readQuoted?_eq hsearch, if_neg hvalue, hrest]
    simp only [ih hmem]
  | case5 s f hf hvalue hrest joint rest hjoint ih =>
    have hsearch := (search_isDelimiter_of_not_mem h quote escapes).trans hf
    have hmem : '\\' ∉ rest := by
      rw [← search_spells (readChar?_spells _) hf, ← readJoint?_spells quote _ _ _ hjoint] at h
      simp_all
    rw [readQuoted?_eq hsearch, if_neg hvalue, hrest]
    simp only [hjoint, ih hmem]
  | case6 s f hf hvalue hrest hjoint =>
    have hsearch := (search_isDelimiter_of_not_mem h quote escapes).trans hf
    rw [readQuoted?_eq hsearch, if_neg hvalue, hrest]
    simp only [hjoint]

theorem readLexeme_of_not_mem (h : '\\' ∉ s) (b b' : Bool) (previous : Option Char) (mark : Mark) :
    readLexeme b previous mark s = readLexeme b' previous mark s := by
  cases mark with
  | quote q =>
    simp only [readLexeme, readQuoted?_of_not_mem h (allowsBackslash b previous q),
      readQuoted?_of_not_mem h (allowsBackslash b' previous q)]
  | semicolon | dollar | lineComment | blockComment => rfl

theorem lexFrom_of_not_mem (h : '\\' ∉ s) (b b' : Bool) (before : Option Char) :
    lexFrom b before s = lexFrom b' before s := by
  fun_induction lexFrom b before s with
  | case1 before s hs => rw [lexFrom_of_search_eq_none hs]
  | case2 before s f hf l rest hl ih =>
    have hmark : '\\' ∉ f.rest := by
      rw [← search_spells Mark.read?_spells hf] at h
      simp_all
    have hrest : '\\' ∉ rest := by
      rw [eq_append_of_readLexeme hf hl] at h
      simp_all
    rw [readLexeme_of_not_mem hmark b b'] at hl
    rw [lexFrom_of_readLexeme_eq_ok hf hl, ih hrest]
  | case3 before s f hf construct hl =>
    have hmark : '\\' ∉ f.rest := by
      rw [← search_spells Mark.read?_spells hf] at h
      simp_all
    rw [readLexeme_of_not_mem hmark b b'] at hl
    rw [lexFrom_of_readLexeme_eq_error hf hl]

theorem scan_of_not_mem (h : '\\' ∉ s) (b b' : Bool) : scan s b = scan s b' := by
  rw [scan, scan, lex, lex, lexFrom_of_not_mem h b b']

/-- A text without backslashes is scanned, split and judged alike under both dialects, and what
keeps it from being split is the same. -/
theorem dialects_agree (h : '\\' ∉ s) :
    scan s true = scan s false ∧
      (∀ stripComments keepEmpty : Bool, splitCommand s true stripComments keepEmpty =
        splitCommand s false stripComments keepEmpty) ∧
      isComplete s true = isComplete s false ∧
      (scan s true).unterminated = (scan s false).unterminated ∧
      endsInLineComment s true = endsInLineComment s false := by
  have hscan := scan_of_not_mem h true false
  refine ⟨hscan, fun stripComments keepEmpty => ?_, ?_, ?_, ?_⟩
  · rw [splitCommand, splitCommand, hscan]
  · rw [isComplete, isComplete, hscan]
  · rw [hscan]
  · rw [endsInLineComment, endsInLineComment, hscan]

/-- An escape string that runs on, a comment and an identifier that is left open. -/
theorem dialects_agree_open :
    '\\' ∉ "E'a'';'\n'b';/*'*/\"c".toList ∧
      scan "E'a'';'\n'b';/*'*/\"c" true = scan "E'a'';'\n'b';/*'*/\"c" false ∧
      (∀ stripComments keepEmpty : Bool,
        splitCommand "E'a'';'\n'b';/*'*/\"c" true stripComments keepEmpty =
          splitCommand "E'a'';'\n'b';/*'*/\"c" false stripComments keepEmpty) ∧
      isComplete "E'a'';'\n'b';/*'*/\"c" true = isComplete "E'a'';'\n'b';/*'*/\"c" false ∧
      (scan "E'a'';'\n'b';/*'*/\"c" true).unterminated =
        (scan "E'a'';'\n'b';/*'*/\"c" false).unterminated ∧
      endsInLineComment "E'a'';'\n'b';/*'*/\"c" true =
        endsInLineComment "E'a'';'\n'b';/*'*/\"c" false := by
  have h : '\\' ∉ "E'a'';'\n'b';/*'*/\"c".toList := by decide
  exact ⟨h, dialects_agree h⟩

end SqlBoundary
