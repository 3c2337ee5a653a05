import SqlBoundary.Proofs.Statement.Join
import SqlBoundary.Proofs.Statement.Strip

/-! # Stripped statements read again

Without its comments a text is read as the same lexemes, but that literals which only comments and
line breaks stand between become one. What is left holds no comment, no separator and nothing left
open, unless a backslash becomes an escape.
-/

namespace SqlBoundary

open Text

variable {standardStrings : Bool} {before previous : Option Char}

theorem head?_ne_of_isSpace {c : Char} (hc : isSpace c = false) {s : Text}
    (hs : ∀ d, s.head? = some d → isSpace d = true) : s.head? ≠ some c := by
  intro h
  rw [hs c h] at hc
  cases hc

/-- A text is lexed alike after every character to which white space was added where needed. -/
theorem lexFrom_after_gap {p s : Text} (hp : search Mark.read? p = none)
    (hspace : ∀ c, p.getLast?.or before = some c → isSpace c = true → isIdentifierChar c = false)
    (hs : (p.getLast?.or before).any (!isSpace ·) = true →
      ∀ c, s.head? = some c → isSpace c = true) :
    ∃ q ls unfinished, lex s standardStrings = ⟨.plain q :: ls, unfinished⟩ ∧
      lexFrom standardStrings before (p ++ s) = ⟨.plain (p ++ q) :: ls, unfinished⟩ := by
  have hread (hlast : (p.getLast?.or before).any (!isSpace ·) = true) : Mark.read? s = none := by
    cases s with
    | nil => rfl
    | cons d s => exact Mark.read?_eq_none_of_isSpace (hs hlast d rfl) s
  have hmark (c : Char) (hc : p.getLast? = some c) : Mark.read? (c :: s) = none := by
    cases hspace : isSpace c with
    | true => exact Mark.read?_eq_none_of_isSpace hspace s
    | false =>
      have hlast : (p.getLast?.or before).any (!isSpace ·) = true := by simp [hc, hspace]
      exact Mark.read?_last_eq_none hp hc
        ⟨head?_ne_of_isSpace (by decide) (hs hlast), head?_ne_of_isSpace (by decide) (hs hlast)⟩
  have hnone : lexFrom standardStrings (p.getLast?.or before) s = lex s standardStrings := by
    cases hc : p.getLast?.or before with
    | none => rfl
    | some c =>
      cases hcs : isSpace c with
      | true => exact lexFrom_some_eq_none (hspace c hc hcs) s
      | false =>
        have hlast : (p.getLast?.or before).any (!isSpace ·) = true := by simp [hc, hcs]
        exact lexFrom_congr fun mark rest h => by rw [hread hlast] at h; cases h
  obtain ⟨q, ls, unfinished, hq, hpq⟩ :=
    lexFrom_append_of_eq_none standardStrings before hp hmark
  exact ⟨q, ls, unfinished, hnone ▸ hq, hpq⟩

theorem gap_cases (last next : Option Char) : gap last next = [] ∨ gap last next = [' '] := by
  unfold gap
  split
  · exact .inr rfl
  · exact .inl rfl

/-- Plain text, a gap and the plain text after a comment are one plain lexeme. -/
theorem Lexing.StripsTo.plain_comment {l : Lexing} {q : Text} {ls : List Lexeme}
    {unfinished : Option (Construct × Text)} (h : l.StripsTo ⟨.plain q :: ls, unfinished⟩)
    (p t : Text) (last next : Option Char) :
    (l.prepend [.plain p, .comment t]).StripsTo
      ⟨.plain (p ++ gap last next ++ q) :: ls, unfinished⟩ where
  inert := h.inert.plain_cons
  meets broken := by
    have hgap : (gap last next).contains '\n' = false := by
      obtain hgap | hgap := gap_cases last next <;> rw [hgap] <;> decide
    have hmeets := h.meets (broken || p.contains '\n')
    have hblank : isBlank (p ++ gap last next ++ q) = (isBlank p && isBlank q) := by
      rw [isBlank_append_eq, isBlank_append_eq, isBlank_gap, Bool.and_true]
    have hbreak : (p ++ gap last next ++ q).contains '\n' =
        (p.contains '\n' || q.contains '\n') := by
      simp only [List.contains_append, hgap, Bool.or_false]
    simp only [meetsBackslash, hblank, hbreak, Lexing.prepend, List.cons_append, List.nil_append,
      ← Bool.or_assoc] at hmeets ⊢
    rw [← hmeets, Bool.and_assoc]

theorem Lexing.StripsTo.comment {p t s : Text}
    (finished : (lex s standardStrings).unfinished = none) (hp : search Mark.read? p = none)
    (hspace : ∀ c, p.getLast?.or before = some c → isSpace c = true → isIdentifierChar c = false)
    (h : (lex s standardStrings).StripsTo
      (lex (stripped none (lex s standardStrings).lexemes) standardStrings)) :
    ((lex s standardStrings).prepend [.plain p, .comment t]).StripsTo
      (lexFrom standardStrings before
        (stripped before (.plain p :: .comment t :: (lex s standardStrings).lexemes))) := by
  have hhead := fun c => isSpace_of_head?_stripped_comment (t := t) (c := c)
    (marksOpen_lexFrom standardStrings none s) (p.getLast?.or before)
  have hopen : MarksOpen (lex s standardStrings).lexemes := marksOpen_lexFrom standardStrings none s
  have hstripped := stripped_comment hopen (p.getLast?.or before) t
  rw [spelling_lex_of_finished finished] at hstripped
  rw [show lexFrom standardStrings none s = lex s standardStrings from rfl, hstripped] at hhead
  rw [stripped, Lexeme.kept, hstripped, ← List.append_assoc]
  have hblank := isBlank_gap (p.getLast?.or before) s.head?
  have hafter : ∃ q ls unfinished, lex (stripped none (lex s standardStrings).lexemes)
      standardStrings = ⟨.plain q :: ls, unfinished⟩ ∧
      lexFrom standardStrings before (p ++ gap (p.getLast?.or before) s.head? ++
        stripped none (lex s standardStrings).lexemes) =
          ⟨.plain (p ++ gap (p.getLast?.or before) s.head? ++ q) :: ls, unfinished⟩ := by
    refine lexFrom_after_gap (search_append_blank_eq_none hblank hp) ?_ ?_
    · obtain hgap | hgap := gap_cases (p.getLast?.or before) s.head?
      · rwa [hgap, List.append_nil]
      · rw [hgap, List.getLast?_concat]
        rintro c hc -
        rw [← Option.some.inj hc]
        decide
    · obtain hgap | hgap := gap_cases (p.getLast?.or before) s.head?
      · rw [hgap, List.append_nil]
        rw [hgap, List.nil_append] at hhead
        exact fun hlast c => hhead c hlast
      · rw [hgap, List.getLast?_concat]
        intro hlast
        cases hlast
  obtain ⟨q, ls, unfinished, hq, hpq⟩ := hafter
  rw [hpq]
  exact (hq ▸ h).plain_comment p t _ _

/-- What a stripped text begins with, up to white space, is what the text begins with. -/
theorem isPrefix_of_isPrefix_stripped {ls : List Lexeme} {last : Option Char} {v : Text}
    (hopen : MarksOpen ls) (hlast : last.any (!isSpace ·) = true) (hv : v <+: stripped last ls)
    (hspace : v.all (!isSpace ·) = true) : v <+: spelling ls := by
  refine .trans ?_ (takeWhile_stripped_isPrefix hopen hlast)
  obtain ⟨w, hw⟩ := hv
  rw [← hw, List.takeWhile_append_of_pos (by simpa using hspace)]
  exact List.prefix_append v _

theorem isIdentifierChar_of_isTagChar {c : Char} (h : isTagChar c = true) :
    isIdentifierChar c = true := by
  simp only [isTagChar, isIdentifierChar, Bool.or_eq_true] at h ⊢
  exact h.imp_left .inl

theorem all_not_isSpace_of_readTag? {s tag rest : Text} (hs : IsAsciiSpaced s)
    (h : readTag? s = some (tag, rest)) : tag.all (!isSpace ·) = true := by
  obtain ⟨htag, rfl⟩ := readTag?_eq_some_iff.1 h
  obtain ⟨name, hname, hvalid⟩ := isTag_iff.1 htag
  obtain rfl : tag = name ++ ['$'] := List.tail_eq_of_cons_eq hname
  rw [List.all_append, Bool.and_eq_true, List.all_eq_true]
  refine ⟨fun c hc => ?_, by decide⟩
  have htagChar : isTagChar c = true := List.all_eq_true.1 (isTagName_iff.1 hvalid).1 c hc
  cases hspace : isSpace c with
  | false => rfl
  | true =>
    have := isIdentifierChar_of_isSpace hspace (hs c (by simp [hc]) hspace)
    rw [isIdentifierChar_of_isTagChar htagChar] at this
    cases this

/-- A lexeme ends where its text did when the comments after it are left out, unless it is joined
with a literal after them. -/
theorem endsBefore_stripped {mark : Mark} {rest tail : Text} {l : Lexeme}
    (hread : readLexeme standardStrings previous mark rest = .ok (l, tail))
    (hcomment : ∀ c, l ≠ .comment c)
    (hspelling : spelling (lexFrom standardStrings l.text.getLast? tail).lexemes = tail)
    (hascii : IsAsciiSpaced tail)
    (unjoined : ∀ body, l = .literal ('\'' :: body) → readContinuation?
      (stripped l.text.getLast? (lexFrom standardStrings l.text.getLast? tail).lexemes) = none) :
    l.EndsBefore previous
      (stripped l.text.getLast? (lexFrom standardStrings l.text.getLast? tail).lexemes) := by
  have hlast : l.text.getLast?.any (!isSpace ·) = true := by
    obtain ⟨c, hc, hspace⟩ := getLast?_of_readLexeme_of_ne_comment hread hcomment
    simp [hc, hspace]
  have hstart {v : Text} := isPrefix_of_isPrefix_stripped (v := v)
    (marksOpen_lexFrom standardStrings l.text.getLast? tail) hlast
  have ends := endsBefore_of_readLexeme hread
  rw [hspelling] at hstart
  have hstripped := IsAsciiSpaced.stripped (hspelling.symm ▸ hascii) l.text.getLast?
  cases l with
  | separator => trivial
  | comment c => exact absurd rfl (hcomment c)
  | plain p =>
    intro hopens
    cases htag : readTag? _ with
    | none => rfl
    | some r =>
      obtain ⟨tag, rest'⟩ := r
      obtain ⟨u, rfl⟩ := hstart ⟨rest', readTag?_spells _ _ _ htag⟩
        (all_not_isSpace_of_readTag? hstripped htag)
      have hagain := readTag?_stable _ _ _ htag u
      rw [show readTag? (id tag ++ u) = none from ends hopens] at hagain
      cases hagain
  | literal t =>
    intro q hq
    have hquote := (ends q hq).1
    rw [afterPrefix?_eq_none] at hquote ⊢
    refine ⟨fun h => hquote (hstart h (by cases q <;> decide)), ?_⟩
    cases q with
    | double => rfl
    | single =>
      obtain ⟨body, rfl⟩ := List.head?_eq_some_iff.1 hq
      exact unjoined body rfl

theorem stripped_plain_cons {l : Lexeme} (hcomment : ∀ t, l ≠ .comment t) (hl : l.text ≠ [])
    (before : Option Char) (p : Text) (ls : List Lexeme) :
    stripped before (.plain p :: l :: ls) = p ++ (l.text ++ stripped l.text.getLast? ls) := by
  obtain ⟨c, hc⟩ : ∃ c, l.text.getLast? = some c := ⟨_, List.getLast?_eq_some_getLast hl⟩
  rw [stripped, stripped, Lexeme.kept_eq_text hcomment, hc]
  rfl

/-- A lexeme that is no comment is kept, in front of what is kept of the rest. -/
theorem Lexing.StripsTo.kept {s tail : Text} {f : Found Mark} {x : Lexeme}
    (hf : search Mark.read? s = some f)
    (hread : readLexeme standardStrings (f.skipped.getLast?.or before) f.value f.rest =
      .ok (x, tail))
    (hsep : x ≠ .separator) (hcomment : ∀ t, x ≠ .comment t)
    (finished : (lexFrom standardStrings x.text.getLast? tail).unfinished = none)
    (hascii : IsAsciiSpaced tail)
    (hescape : ∀ body, x = .literal ('\'' :: body) → standardStrings = true →
      f.skipped.getLast?.or before = some 'E' ∨ f.skipped.getLast?.or before = some 'e' →
        meetsBackslash false (lexFrom standardStrings x.text.getLast? tail).lexemes = false)
    (h : (lexFrom standardStrings x.text.getLast? tail).StripsTo
      (lexFrom standardStrings x.text.getLast?
        (stripped x.text.getLast? (lexFrom standardStrings x.text.getLast? tail).lexemes))) :
    ((lexFrom standardStrings x.text.getLast? tail).prepend [.plain f.skipped, x]).StripsTo
      (lexFrom standardStrings before (stripped before
        (.plain f.skipped :: x :: (lexFrom standardStrings x.text.getLast? tail).lexemes))) := by
  rw [stripped_plain_cons hcomment (text_ne_nil_of_readLexeme hread)]
  by_cases hjoined : ∃ body joint rest, x = .literal ('\'' :: body) ∧ readContinuation?
      (stripped x.text.getLast? (lexFrom standardStrings x.text.getLast? tail).lexemes) =
        some (joint, rest)
  · obtain ⟨body, joint, rest, rfl, hjoint⟩ := hjoined
    exact h.joined hf hread hjoint (hescape body rfl)
  · have hspelling := spelling_lexFrom_of_finished finished
    have ends := endsBefore_stripped hread hcomment hspelling hascii fun body hx => by
      refine Option.eq_none_iff_forall_not_mem.2 fun r hr => hjoined ?_
      exact ⟨body, r.1, r.2, hx, hr⟩
    rw [lexFrom_replace hf hread ends]
    exact h.prepend f.skipped hsep hcomment

/-- A text without separators is read again without its comments: it holds nothing but text and
literals, and no literal is left open. -/
theorem lexFrom_stripped (before : Option Char) {s : Text}
    (finished : (lexFrom standardStrings before s).unfinished = none)
    (undivided : .separator ∉ (lexFrom standardStrings before s).lexemes)
    (hascii : IsAsciiSpaced s) (hbefore : ∀ c, before = some c → isSpace c = false)
    (hescape : standardStrings = true →
      escapeRunsOn before (lexFrom standardStrings before s).lexemes = false) :
    (lexFrom standardStrings before s).StripsTo
      (lexFrom standardStrings before
        (stripped before (lexFrom standardStrings before s).lexemes)) := by
  -- On the length of the text: after a comment the rest is lexed as if nothing stood before it.
  induction hs : s.length using Nat.strongRecOn generalizing s before with
  | ind n ih =>
    cases hf : search Mark.read? s with
    | none =>
      have hlex (b : Option Char) : lexFrom standardStrings b s = ⟨[.plain s], none⟩ :=
        lexFrom_of_search_eq_none hf
      have hstripped : stripped before [.plain s] = s := by simp [stripped, Lexeme.kept]
      rw [hlex, hstripped, hlex]
      exact ⟨⟨rfl, by simp, by simp⟩, fun _ => rfl⟩
    | some f =>
      cases hl : readLexeme standardStrings (f.skipped.getLast?.or before) f.value f.rest with
      | error construct =>
        rw [lexFrom_of_readLexeme_eq_error hf hl] at finished
        cases finished
      | ok r =>
        obtain ⟨l, tail⟩ := r
        have hshorter : tail.length < n := hs ▸ length_lt_of_readLexeme hf hl
        have hparts := isAsciiSpaced_append.1 (eq_append_of_readLexeme hf hl ▸ hascii)
        have htail := (isAsciiSpaced_append.1 hparts.2).2
        rw [lexFrom_of_readLexeme_eq_ok hf hl] at finished undivided hescape ⊢
        obtain ⟨hsep, hundivided⟩ : l ≠ .separator ∧
            .separator ∉ (lexFrom standardStrings l.text.getLast? tail).lexemes := by
          simpa [Lexing.prepend, eq_comm] using undivided
        by_cases hcomment : ∃ t, l = .comment t
        · obtain ⟨t, rfl⟩ := hcomment
          have hnone := lexFrom_after_point (k := 0) rfl hl
          rw [hnone] at finished hundivided hescape ⊢
          refine .comment finished (Mark.read?_short.search_skipped hf) (fun c hc hspace => ?_) ?_
          · obtain hc | ⟨-, hc⟩ := Option.or_eq_some_iff.1 hc
            · exact isIdentifierChar_of_isSpace hspace
                (hparts.1 c (List.mem_of_getLast? hc) hspace)
            · rw [hbefore c hc] at hspace
              cases hspace
          · refine ih tail.length hshorter _ finished hundivided htail (by simp)
              (fun hstandard => ?_) rfl
            exact escapeRunsOn_none (escapeRunsOn_lexeme (hescape hstandard)).2
        · have hcomment (t : Text) (ht : l = .comment t) : False := hcomment ⟨t, ht⟩
          obtain ⟨c, hc, hspace⟩ := getLast?_of_readLexeme_of_ne_comment hl hcomment
          refine .kept hf hl hsep hcomment finished htail ?_ ?_
          · rintro body rfl hstandard
            exact (escapeRunsOn_lexeme (hescape hstandard)).1 rfl
          · refine ih tail.length hshorter _ finished hundivided htail ?_ (fun hstandard => ?_) rfl
            · rintro d hd
              rwa [← Option.some.inj (hc.symm.trans hd)]
            · have hruns := (escapeRunsOn_lexeme (hescape hstandard)).2
              rwa [hc, Option.some_or, ← hc] at hruns

theorem escapeRunsOn_slice {s r : Text} (hr : r ∈ slices s standardStrings)
    (h : escapeRunsOn none (lex s standardStrings).lexemes = false) :
    escapeRunsOn none (lex r standardStrings).lexemes = false := by
  induction s using separator_induction standardStrings with
  | last s hs =>
    rw [slices_of_not_mem hs, List.mem_singleton] at hr
    exact hr ▸ h
  | cut t rest ht ih =>
    rw [ht.slices_append, List.mem_cons] at hr
    rw [ht.lex_append] at h
    obtain rfl | hr := hr
    · rw [Lexing.prepend, List.append_assoc] at h
      exact escapeRunsOn_left h
    · exact ih hr (escapeRunsOn_none (escapeRunsOn_right _ h))

/-- A statement without its comments holds no comment and no separator, and nothing is left open in
it. Only an escape string may run on through what follows its comments. -/
theorem scan_strippedStatement {s : Text} (hascii : IsAsciiSpaced s)
    (hscan : (scan s standardStrings).unterminated = none)
    (hescape : standardStrings = true → escapeRunsOn none (lex s standardStrings).lexemes = false) :
    ∀ t ∈ splitStatements s (scan s standardStrings).points true,
      scan t standardStrings = ⟨[], none⟩ := by
  rw [splitStatements_true, List.forall_mem_map]
  intro r hr
  obtain ⟨finished, undivided⟩ := lex_slice_of_terminated hscan hr
  have hslice := hascii.slice hr
  have hstrips := lexFrom_stripped none finished undivided hslice nofun
    fun hstandard => escapeRunsOn_slice hr (hescape hstandard)
  have hstripped := IsAsciiSpaced.stripped
    ((spelling_lex_of_finished finished).symm ▸ hslice) none
  rw [Lexing.whole_of_finished finished]
  have hshape := shape_trim standardStrings hstripped.hidesDollarQuote_eq_false
  exact (hstrips.inert.of_shape_eq hshape).scan_eq

/-- The comments between two literals and between two hyphens are left out, and the literals are
read as one, an escape string. -/
theorem scan_strippedStatement_joined :
    IsAsciiSpaced "E'a\\''/*;*/\n'b'-/**/-$$--$$; 1--" ∧
      (scan "E'a\\''/*;*/\n'b'-/**/-$$--$$; 1--" true).unterminated = none ∧
      escapeRunsOn none (lex "E'a\\''/*;*/\n'b'-/**/-$$--$$; 1--" true).lexemes = false ∧
      ∀ t ∈ splitStatements "E'a\\''/*;*/\n'b'-/**/-$$--$$; 1--"
        (scan "E'a\\''/*;*/\n'b'-/**/-$$--$$; 1--" true).points true,
        scan t true = ⟨[], none⟩ := by
  have hascii : IsAsciiSpaced "E'a\\''/*;*/\n'b'-/**/-$$--$$; 1--" := by decide +kernel
  have hscan : (scan "E'a\\''/*;*/\n'b'-/**/-$$--$$; 1--" true).unterminated = none := by
    decide +kernel
  have hescape :
      escapeRunsOn none (lex "E'a\\''/*;*/\n'b'-/**/-$$--$$; 1--" true).lexemes = false := by
    decide +kernel
  exact ⟨hascii, hscan, hescape, scan_strippedStatement hascii hscan fun _ => hescape⟩

/-- Joined with an escape string, the second literal does not end at its quote. -/
theorem exists_strippedStatement_unterminated :
    ¬∀ (s : Text) (standardStrings : Bool), IsAsciiSpaced s →
      (scan s standardStrings).unterminated = none →
        ∀ t ∈ splitStatements s (scan s standardStrings).points true,
          scan t standardStrings = ⟨[], none⟩ := by
  intro h
  have hstatement := h "E'a'/*c*/\n'b\\'" true (by decide +kernel) (by decide +kernel)
    "E'a'\n'b\\'" (by decide +kernel)
  revert hstatement
  decide +kernel

end SqlBoundary
