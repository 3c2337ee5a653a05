import SqlBoundary.Proofs.Scan.Context
import SqlBoundary.Proofs.Statement.Slice

/-! # What comments say

A closed comment may give way to any other of its kind. What stands before it and after it is read
as it was, and what is left of the text without its comments is the same.
-/

namespace SqlBoundary

variable {standardStrings : Bool} {before : Option Char}

inductive CommentKind
  | line
  | block
deriving DecidableEq

namespace CommentKind

def mark : CommentKind → Mark
  | line => .lineComment
  | block => .blockComment

/-- A text that is one comment from its mark through its end. -/
def IsClosed : CommentKind → Text → Prop
  | line, c => LineCommentAt c 0 c.length ∧ c.getLast? = some '\n'
  | block, c => BlockCommentAt c 0 c.length

end CommentKind

theorem exists_line_of_isClosed {c : Text} (h : CommentKind.line.IsClosed c) :
    ∃ t, c = '-' :: '-' :: (t ++ ['\n']) ∧ '\n' ∉ t := by
  obtain ⟨⟨hopens, hline, -⟩, hlast⟩ := h
  rw [Text.slice_zero_length] at hopens hline
  obtain ⟨d, rfl⟩ := List.getLast?_eq_some_iff.1 hlast
  rw [List.dropLast_concat] at hline
  match d, hopens, hline with
  | [], hopens, _ | [_], hopens, _ => simp [List.cons_prefix_cons] at hopens
  | x :: y :: t, hopens, hline =>
    obtain ⟨rfl, rfl⟩ : '-' = x ∧ '-' = y := by simpa [List.cons_prefix_cons] using hopens
    exact ⟨t, rfl, fun hmem => hline (by simp [hmem])⟩

/-- A block comment is closed when its reader takes all of it. -/
theorem isClosed_block_iff {c : Text} :
    CommentKind.block.IsClosed c ↔ ∃ t, c = '/' :: '*' :: t ∧ readBlock? 0 t = some (t, []) := by
  constructor
  · rintro ⟨hopens, -, -, hbalances⟩
    rw [Text.slice_zero_length] at hopens
    obtain ⟨t, rfl⟩ := hopens
    have hbalances : BalancesAt (delimitersFrom 0 ('/' :: '*' :: t)) ('/' :: '*' :: t).length :=
      hbalances
    obtain ⟨body, rest, hread, hstop⟩ := readBlock?_of_balancesAt hbalances
    have hspell := readBlock?_append hread
    have hrest : rest = [] := by
      have := congrArg List.length hspell
      simp only [List.length_append, List.length_cons] at this hstop
      exact List.length_eq_zero_iff.1 (by omega)
    rw [hrest, List.append_nil] at hspell
    exact ⟨t, rfl, by rw [hread, hspell, hrest]⟩
  · rintro ⟨t, rfl, hread⟩
    have := blockCommentAt_of_readBlock? hread []
    rwa [List.append_nil] at this

namespace CommentKind
variable {kind : CommentKind} {c : Text}

/-- A closed comment is read through its end, whatever comes next. -/
theorem IsClosed.readLexeme (h : kind.IsClosed c) (standardStrings : Bool)
    (previous : Option Char) :
    ∃ body, c = kind.mark.text ++ body ∧ ∀ rest,
      SqlBoundary.readLexeme standardStrings previous kind.mark (body ++ rest) =
        .ok (.comment c, rest) := by
  cases kind with
  | line =>
    obtain ⟨t, rfl, ht⟩ := exists_line_of_isClosed h
    refine ⟨t ++ ['\n'], rfl, fun rest => ?_⟩
    have hline : readLine (t ++ ['\n'] ++ rest) = (t ++ ['\n'], rest) := by
      rw [List.append_assoc, readLine_append_of_not_mem ht, List.singleton_append,
        readLine_newline]
    simp only [SqlBoundary.readLexeme, mark, hline]
  | block =>
    obtain ⟨t, rfl, ht⟩ := isClosed_block_iff.1 h
    refine ⟨t, rfl, fun rest => ?_⟩
    simp only [SqlBoundary.readLexeme, mark, readBlock?_replace ht]

theorem IsClosed.head? (h : kind.IsClosed c) : c.head? = kind.mark.text.head? := by
  obtain ⟨body, rfl, -⟩ := h.readLexeme true none
  cases kind <;> rfl

theorem IsClosed.ne_nil (h : kind.IsClosed c) : c ≠ [] := by
  rintro rfl
  cases kind <;> cases h.head?

/-- No lexeme goes on with a comment. -/
theorem IsClosed.detached (h : kind.IsClosed c) (rest : Text) : Detached (c ++ rest) := by
  obtain ⟨body, rfl, -⟩ := h.readLexeme true none
  have hspace : isSpace '-' = false ∧ isSpace '/' = false := by decide
  have htag : isTagChar '-' = false ∧ isTagChar '/' = false := by decide
  cases kind <;> constructor <;> simp [mark, Mark.text, hspace, htag]

/-- The mark of a closed comment tells its kind. -/
theorem IsClosed.mark_eq {previous : Option Char} {m : Mark} {s rest : Text} (h : kind.IsClosed c)
    (hread : SqlBoundary.readLexeme standardStrings previous m s = .ok (.comment c, rest)) :
    m = kind.mark := by
  have hhead := h.head?
  cases readsLexeme_of_readLexeme_eq_ok hread with
  | line =>
    cases kind with
    | line => rfl
    | block => cases hhead
  | block =>
    cases kind with
    | line => cases hhead
    | block => rfl

theorem IsClosed.lexFrom_eq (h : kind.IsClosed c) (rest : Text) :
    lexFrom standardStrings c.getLast? rest = lex rest standardStrings := by
  obtain ⟨body, -, hread⟩ := h.readLexeme standardStrings none
  exact lexFrom_after_point (k := 0) rfl (hread rest)

end CommentKind

/-- In front of a comment of the same kind a text is lexed as it is in front of the comment. -/
theorem lexFrom_replace_comment {kind : CommentKind} {c c' s rest : Text} {pre post : List Lexeme}
    (hc : kind.IsClosed c) (hc' : kind.IsClosed c') (hs : s = spelling pre ++ (c ++ rest))
    (h : (lexFrom standardStrings before s).lexemes = pre ++ .comment c :: post) :
    lexFrom standardStrings before (spelling pre ++ (c' ++ rest)) =
      ⟨pre ++ .comment c' :: post, (lexFrom standardStrings before s).unfinished⟩ := by
  fun_induction lexFrom standardStrings before s generalizing pre with
  | case1 | case3 => simp [List.singleton_eq_append_iff] at h
  | case2 before s f hf l tail hread ih =>
    have htext := eq_append_of_readLexeme hf hread
    cases pre with
    | nil => cases (List.cons.inj h).1
    | cons p pre =>
      cases pre with
      | nil =>
        obtain ⟨rfl, rfl, rfl⟩ : .plain f.skipped = p ∧ l = .comment c ∧ _ = post := by
          simpa [Lexing.prepend] using h
        obtain rfl : tail = rest := by simpa [hs] using htext.symm
        obtain ⟨body, hbody, hread'⟩ :=
          hc'.readLexeme standardStrings (f.skipped.getLast?.or before)
        have hsearch := Mark.read?_short.search_replace hf (body ++ tail)
        have hlex : lexFrom standardStrings (Lexeme.comment c).text.getLast? tail =
            lex tail standardStrings := hc.lexFrom_eq tail
        rw [← hc.mark_eq hread] at hread' hbody
        rw [hlex, spelling_cons, spelling_nil, List.append_nil, Lexeme.text_plain, hbody,
          List.append_assoc, lexFrom_of_readLexeme_eq_ok hsearch (hread' tail), Lexeme.text_comment,
          ← hbody, hc'.lexFrom_eq]
        rfl
      | cons q pre =>
        obtain ⟨rfl, rfl, hpre⟩ : .plain f.skipped = p ∧ l = q ∧ _ = pre ++ .comment c :: post := by
          simpa [Lexing.prepend] using h
        have htail : tail = spelling pre ++ (c ++ rest) := by
          simpa [hs] using htext.symm
        have ends := endsBefore_of_readLexeme hread
        have hclosed (d : Text) (hd : l = .comment d) : isClosedComment d = true := by
          rw [hd, htail] at ends
          refine ends.resolve_right fun hnil => hc.ne_nil ?_
          exact (List.append_eq_nil_iff.1 (List.append_eq_nil_iff.1 hnil).2).1
        rw [htail] at ends
        replace ends := ends.of_isPrefix (List.prefix_append _ _)
        replace ends := ends.append hclosed (hc'.detached rest)
        rw [spelling_cons, spelling_cons, Lexeme.text_plain, List.append_assoc, List.append_assoc,
          lexFrom_replace hf hread ends, ih htail hpre]
        rfl

/-- A stripped statement does not depend on the text of its comments. -/
theorem statementsFrom_replace_comment {c c' : Text} (h : c.head? = c'.head?)
    (pre post : List Lexeme) (kept : Text) :
    statementsFrom true kept (pre ++ .comment c' :: post) =
      statementsFrom true kept (pre ++ .comment c :: post) := by
  induction pre generalizing kept with
  | nil => rfl
  | cons l pre ih =>
    cases l with
    | separator | plain t | literal t => simp only [List.cons_append, statementsFrom, ih]
    | comment t =>
      -- The gap for this comment looks at what comes next, which may be the other comment.
      have hnext : (spelling (pre ++ .comment c' :: post)).head? =
          (spelling (pre ++ .comment c :: post)).head? := by
        simp only [spelling_append, spelling_cons, List.head?_append, Lexeme.text_comment, h]
      simp only [List.cons_append, statementsFrom, hnext, ih]

/-- A split point of a comment is a comment among the lexemes, after what spells the text before. -/
theorem exists_lexemes_of_comment_point {a b c : Text}
    (hpoint : .comment a.length (a.length + c.length) ∈
      (scan (a ++ (c ++ b)) standardStrings).points) :
    ∃ pre post, (lex (a ++ (c ++ b)) standardStrings).lexemes = pre ++ .comment c :: post ∧
      spelling pre = a := by
  obtain ⟨pre, l, post, hls, hl⟩ := exists_lexeme_of_mem_pointsFrom hpoint
  rw [Nat.zero_add] at hl
  obtain ⟨t, rfl, ha, ht⟩ : ∃ t, l = .comment t ∧ (spelling pre).length = a.length ∧
      t.length = c.length := by
    cases l with
    | comment t =>
      simp only [Lexeme.point?, Option.some.injEq, SplitPoint.comment.injEq] at hl
      exact ⟨t, rfl, hl.1, by omega⟩
    | plain | separator | literal => cases hl
  have hspell : spelling (lex (a ++ (c ++ b)) standardStrings).lexemes ++ _ = a ++ (c ++ b) :=
    spelling_lexFrom _
  rw [hls, spelling_append, List.append_assoc] at hspell
  obtain ⟨rfl, hspell⟩ := List.append_inj hspell ha
  rw [spelling_cons, List.append_assoc] at hspell
  obtain rfl : t = c := (List.append_inj hspell ht).1
  exact ⟨pre, post, hls, rfl⟩

/-- What a closed comment says has no effect on what is left open in a text, nor on its statements
without comments. -/
theorem splitStatements_replace_comment {kind : CommentKind} {a b c c' : Text}
    (hc : kind.IsClosed c) (hc' : kind.IsClosed c')
    (hpoint : .comment a.length (a.length + c.length) ∈
      (scan (a ++ (c ++ b)) standardStrings).points) :
    (scan (a ++ (c' ++ b)) standardStrings).unterminated =
        (scan (a ++ (c ++ b)) standardStrings).unterminated ∧
      splitStatements (a ++ (c' ++ b)) (scan (a ++ (c' ++ b)) standardStrings).points true =
        splitStatements (a ++ (c ++ b)) (scan (a ++ (c ++ b)) standardStrings).points true := by
  obtain ⟨pre, post, hls, rfl⟩ := exists_lexemes_of_comment_point hpoint
  have hlex : lex (spelling pre ++ (c' ++ b)) standardStrings =
      ⟨pre ++ .comment c' :: post, (lex (spelling pre ++ (c ++ b)) standardStrings).unfinished⟩ :=
    lexFrom_replace_comment hc hc' rfl hls
  refine ⟨by rw [scan, hlex]; rfl, ?_⟩
  rw [splitStatements_eq_statementsFrom, splitStatements_eq_statementsFrom, hlex, Lexing.whole,
    Lexing.whole, hls]
  simp only [List.append_assoc, List.cons_append]
  exact statementsFrom_replace_comment (hc.head?.trans hc'.head?.symm) _ _ _

/-- A comment between two others, after a literal that a later one may not continue. -/
theorem splitStatements_replace_comment_between :
    CommentKind.block.IsClosed "/*/*;*/*/" ∧ CommentKind.block.IsClosed "/*'*/" ∧
      .comment 7 16 ∈ (scan ("'a'/**/".toList ++ ("/*/*;*/*/".toList ++ "--$$\nb;'".toList))
        true).points ∧
      (scan ("'a'/**/".toList ++ ("/*'*/".toList ++ "--$$\nb;'".toList)) true).unterminated =
        (scan ("'a'/**/".toList ++ ("/*/*;*/*/".toList ++ "--$$\nb;'".toList)) true).unterminated ∧
      splitStatements ("'a'/**/".toList ++ ("/*'*/".toList ++ "--$$\nb;'".toList))
          (scan ("'a'/**/".toList ++ ("/*'*/".toList ++ "--$$\nb;'".toList)) true).points true =
        splitStatements ("'a'/**/".toList ++ ("/*/*;*/*/".toList ++ "--$$\nb;'".toList))
          (scan ("'a'/**/".toList ++ ("/*/*;*/*/".toList ++ "--$$\nb;'".toList)) true).points
          true := by
  have hc : CommentKind.block.IsClosed "/*/*;*/*/" :=
    isClosed_block_iff.2 ⟨"/*;*/*/".toList, rfl, by decide +kernel⟩
  have hc' : CommentKind.block.IsClosed "/*'*/" :=
    isClosed_block_iff.2 ⟨"'*/".toList, rfl, by decide +kernel⟩
  have hpoint : .comment 7 16 ∈ (scan ("'a'/**/".toList ++ ("/*/*;*/*/".toList ++
      "--$$\nb;'".toList)) true).points := by
    decide +kernel
  exact ⟨hc, hc', hpoint, splitStatements_replace_comment hc hc' hpoint⟩

end SqlBoundary
