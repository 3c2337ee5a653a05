import SqlBoundary.Proofs.Scan.Context
import SqlBoundary.Proofs.Text.Trim

/-! # White space around a text

White space in front of a text becomes plain text in front of its lexemes, unless its last character
is identifier text in front of a dollar sign. White space after a text goes to the end of its last
lexeme or of what is left open.
-/

namespace SqlBoundary

open Text

variable {standardStrings : Bool} {before previous : Option Char}

theorem search_mark_of_isBlank {w : Text} (hw : isBlank w = true) : search Mark.read? w = none :=
  search_mark_eq_none rfl hw

theorem Mark.read?_eq_none_of_isSpace {c : Char} (hc : isSpace c = true) (s : Text) :
    Mark.read? (c :: s) = none := by
  have hnone : markStarts.any isSpace = false := rfl
  exact Mark.read?_eq_none (fun hmem => List.any_eq_false.1 hnone c hmem hc) s

theorem search_append_blank_eq_none {w s : Text} (hw : isBlank w = true)
    (hs : search Mark.read? s = none) : search Mark.read? (s ++ w) = none := by
  rw [search_append_of_eq_none hs, search_mark_of_isBlank hw, Option.map_none]
  intro c hc
  refine Mark.read?_last_eq_none hs hc ⟨fun h => ?_, fun h => ?_⟩ <;>
  · have := isBlank_iff.1 hw _ (List.mem_of_mem_head? h)
    revert this
    decide

theorem detached_of_isBlank {w : Text} (hw : isBlank w = true) : Detached w where
  double h := by
    have := isBlank_iff.1 hw '"' (List.mem_of_mem_head? h)
    revert this
    decide
  single := by
    rw [List.dropWhile_eq_nil_iff.2 (isBlank_iff.1 hw)]
    exact nofun
  dollar h := by
    have hmem := (List.dropWhile_suffix isTagChar).subset (List.mem_of_mem_head? h)
    have := isBlank_iff.1 hw '$' hmem
    revert this
    decide

/-- White space in front of a text is plain text in front of its lexemes. -/
theorem lexFrom_blank_append (standardStrings : Bool) (before : Option Char) {w : Text}
    (hw : isBlank w = true) (s : Text) :
    ∃ q ls unfinished, lexFrom standardStrings (w.getLast?.or before) s =
        ⟨.plain q :: ls, unfinished⟩ ∧
      lexFrom standardStrings before (w ++ s) = ⟨.plain (w ++ q) :: ls, unfinished⟩ := by
  refine lexFrom_append_of_eq_none standardStrings before (search_mark_of_isBlank hw) fun c hc => ?_
  exact Mark.read?_eq_none_of_isSpace (isBlank_iff.1 hw c (List.mem_of_getLast? hc)) s

/-- Lexemes and what is left open of a text and of the same text with `w` after it. -/
inductive Lexing.Padded (w : Text) : Lexing → Lexing → Prop
  | plain (t : Text) : Padded w ⟨[.plain t], none⟩ ⟨[.plain (t ++ w)], none⟩
  | unfinished (t : Text) (construct : Construct) (u : Text) :
      Padded w ⟨[.plain t], some (construct, u)⟩ ⟨[.plain t], some (construct, u ++ w)⟩
  | line (p t : Text) {v u : Text} (hw : w = v ++ u) :
      Padded w ⟨[.plain p, .comment ('-' :: '-' :: t), .plain []], none⟩
        ⟨[.plain p, .comment ('-' :: '-' :: (t ++ v)), .plain u], none⟩
  | prepend (head : List Lexeme) {l m : Lexing} (h : Padded w l m) :
      Padded w (l.prepend head) (m.prepend head)

theorem readQuoted?_ends {quote : Quote} {escapes : Bool} {s body rest : Text}
    (h : readQuoted? quote escapes s = some (body, rest)) : [quote.char] <:+ body := by
  fun_induction readQuoted? quote escapes s generalizing body rest with
  | case1 | case2 => cases h
  | case3 s f hf hvalue c rest' hrest ih =>
    obtain ⟨tail, hread, rfl⟩ := prepend_eq_some.1 h
    exact (ih hread).trans (List.suffix_append _ _)
  | case4 s f hf hvalue rest' hrest ih =>
    obtain ⟨tail, hread, rfl⟩ := prepend_eq_some.1 h
    exact (ih hread).trans (List.suffix_append _ _)
  | case5 s f hf hvalue hrest joint rest' hjoint ih =>
    obtain ⟨tail, hread, rfl⟩ := prepend_eq_some.1 h
    exact (ih hread).trans (List.suffix_append _ _)
  | case6 =>
    cases h
    exact List.suffix_append _ _

theorem readThrough?_ends {t s body rest : Text} (h : readThrough? t s = some (body, rest)) :
    t <:+ body := by
  obtain ⟨f, hf, hbody⟩ := Option.map_eq_some_iff.1 h
  obtain ⟨rfl, -⟩ := Prod.mk.inj hbody
  obtain ⟨u, -, hread⟩ := search_read hf
  rw [(readText?_eq_some_iff.1 hread).1]
  exact List.suffix_append _ _

theorem getLast?_of_singleton_suffix {c : Char} {t : Text} (h : [c] <:+ t) :
    t.getLast? = some c := by
  obtain ⟨v, rfl⟩ := h
  exact List.getLast?_concat

/-- A lexeme with its own end does not end in white space. -/
theorem getLast?_of_readLexeme {mark : Mark} {rest tail : Text} {l : Lexeme}
    (h : readLexeme standardStrings previous mark rest = .ok (l, tail))
    (hmark : mark ≠ .lineComment) :
    ∃ c, l.text.getLast? = some c ∧ isSpace c = false := by
  cases readsLexeme_of_readLexeme_eq_ok h with
  | separator => exact ⟨';', rfl, by decide⟩
  | @quoted q _ body _ hbody =>
    refine ⟨q.char, ?_, by cases q <;> decide⟩
    exact getLast?_of_singleton_suffix ((readQuoted?_ends hbody).trans (List.suffix_cons _ _))
  | dollar => exact ⟨'$', rfl, by decide⟩
  | @dollarQuoted _ tag _ body _ htag hbody =>
    obtain ⟨name, hname, -⟩ := isTag_iff.1 (readTag?_eq_some_iff.1 htag).1
    refine ⟨'$', getLast?_of_singleton_suffix ?_, by decide⟩
    have htag : ['$'] <:+ '$' :: tag := hname ▸ List.suffix_append ('$' :: name) ['$']
    exact (htag.trans (readThrough?_ends hbody)).trans (List.suffix_append ('$' :: tag) body)
  | line => exact absurd rfl hmark
  | @block _ body _ hbody =>
    have hend : ['/'] <:+ ['*', '/'] := List.suffix_cons _ _
    refine ⟨'/', getLast?_of_singleton_suffix ?_, by decide⟩
    exact (hend.trans (readBlock?_ends hbody)).trans (List.suffix_append ['/', '*'] body)

theorem getLast?_of_readLexeme_of_ne_comment {mark : Mark} {rest tail : Text} {l : Lexeme}
    (h : readLexeme standardStrings previous mark rest = .ok (l, tail))
    (hcomment : ∀ t, l ≠ .comment t) : ∃ c, l.text.getLast? = some c ∧ isSpace c = false := by
  refine getLast?_of_readLexeme h ?_
  rintro rfl
  cases h
  exact hcomment _ rfl

/-- A text whose last character is no white space ends before white space at the end. -/
theorem exists_append_of_append_isBlank {s w t u : Text} (h : s ++ w = t ++ u)
    (hw : isBlank w = true) (ht : ∃ c, t.getLast? = some c ∧ isSpace c = false) :
    ∃ v, s = t ++ v ∧ u = v ++ w := by
  obtain ⟨v, rfl, rfl⟩ | ⟨v, rfl, hv⟩ := List.append_eq_append_iff.1 h
  · cases v using List.reverseRecOn with
    | nil => exact ⟨[], by simp, by simp⟩
    | append_singleton v d =>
      obtain ⟨c, hc, hspace⟩ := ht
      rw [← List.append_assoc, List.getLast?_concat] at hc
      obtain rfl := Option.some.inj hc
      rw [isBlank_iff.1 hw d (by simp)] at hspace
      cases hspace
  · exact ⟨v, rfl, hv⟩

theorem error_eq_of_readLexeme {mark : Mark} {p q : Option Char} {rest rest' : Text}
    {construct construct' : Construct}
    (h : readLexeme standardStrings p mark rest = .error construct)
    (h' : readLexeme standardStrings q mark rest' = .error construct') :
    construct = construct' := by
  cases mark with
  | semicolon | lineComment => cases h
  | quote r =>
    cases r <;> simp only [readLexeme] at h h' <;> split at h <;> split at h' <;> simp_all
  | dollar =>
    simp only [readLexeme] at h h'
    split at h <;> split at h' <;> try contradiction
    split at h <;> split at h' <;> simp_all
  | blockComment => simp only [readLexeme] at h h'; split at h <;> split at h' <;> simp_all

/-- White space does not close what is left open. -/
theorem readLexeme_append_of_error {w : Text} (hw : isBlank w = true) {mark : Mark} {rest : Text}
    {construct : Construct}
    (h : readLexeme standardStrings previous mark rest = .error construct) :
    readLexeme standardStrings previous mark (rest ++ w) = .error construct := by
  cases hl : readLexeme standardStrings previous mark (rest ++ w) with
  | error construct' => rw [error_eq_of_readLexeme h hl]
  | ok r =>
    -- A lexeme that is read here ends before the white space, so it is read without it as well.
    obtain ⟨l, tail⟩ := r
    have hmark : mark ≠ .lineComment := by
      rintro rfl
      cases h
    have htext : (mark.text ++ rest) ++ w = l.text ++ tail := by
      rw [readLexeme_append hl, List.append_assoc]
    obtain ⟨v, hv, rfl⟩ :=
      exists_append_of_append_isBlank htext hw (getLast?_of_readLexeme hl hmark)
    have ends := (endsBefore_of_readLexeme hl).of_isPrefix (List.prefix_append v w)
    rw [readLexeme_replace hl ends hv] at h
    cases h

/-- A comment that is not closed is a line comment through the end of the text. -/
theorem of_readLexeme_open_comment {mark : Mark} {rest tail c : Text}
    (h : readLexeme standardStrings previous mark rest = .ok (.comment c, tail))
    (hopen : isClosedComment c = false) :
    mark = .lineComment ∧ '\n' ∉ rest ∧ c = '-' :: '-' :: rest ∧ tail = [] := by
  cases readsLexeme_of_readLexeme_eq_ok h with
  | line =>
    obtain ⟨hs, hnone⟩ | ⟨line, rest', -, -, hs⟩ := readLine_cases rest
    · rw [hs]
      exact ⟨rfl, hnone, rfl, rfl⟩
    · simp [hs, isClosedComment] at hopen
  | block => cases hopen

/-- The lexemes of a text with white space after it. -/
theorem lexFrom_append_blank (standardStrings : Bool) (before : Option Char) {w : Text}
    (hw : isBlank w = true) (s : Text) :
    (lexFrom standardStrings before s).Padded w (lexFrom standardStrings before (s ++ w)) := by
  fun_induction lexFrom standardStrings before s with
  | case1 before s hs =>
    rw [lexFrom_of_search_eq_none (search_append_blank_eq_none hw hs)]
    exact .plain s
  | case2 before s f hf l rest hl ih =>
    have hsearch := Mark.read?_short.search_append hf w
    -- Only a line comment at the end of the text takes white space that comes after it.
    by_cases hclosed : ∀ c, l = .comment c → isClosedComment c = true
    · have ends := (endsBefore_of_readLexeme hl).append hclosed (detached_of_isBlank hw)
      rw [eq_append_of_readLexeme hf hl, List.append_assoc, List.append_assoc,
        lexFrom_replace hf hl ends]
      exact ih.prepend _
    · obtain ⟨c, rfl, hopen⟩ : ∃ c, l = .comment c ∧ isClosedComment c = false := by
        simpa using hclosed
      obtain ⟨hmark, hnone, rfl, rfl⟩ := of_readLexeme_open_comment hl hopen
      have hline : readLexeme standardStrings (f.skipped.getLast?.or before) f.value
          (f.rest ++ w) =
          .ok (.comment ('-' :: '-' :: (f.rest ++ (readLine w).1)), (readLine w).2) := by
        simp only [hmark, readLexeme, readLine_append_of_not_mem hnone]
      have hw' := isBlank_append.1 ((readLine_append w).symm ▸ hw)
      rw [lexFrom_of_readLexeme_eq_ok hsearch hline, lexFrom_nil,
        lexFrom_of_search_eq_none (search_mark_of_isBlank hw'.2)]
      exact .line f.skipped f.rest (readLine_append w).symm
  | case3 before s f hf construct hl =>
    have hsearch := Mark.read?_short.search_append hf w
    have hlonger := readLexeme_append_of_error hw hl
    rw [lexFrom_of_readLexeme_eq_error hsearch hlonger, ← List.append_assoc]
    exact .unfinished _ _ _

end SqlBoundary
