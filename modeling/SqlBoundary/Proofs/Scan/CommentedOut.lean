import Mathlib.Data.List.Infix
import SqlBoundary.Proofs.Lex.Nesting
import SqlBoundary.Proofs.Lex.Boundary

/-! # Texts that are commented out

A text between the delimiters of a block comment is one comment as a whole exactly if its own
delimiters, with the closer behind it, close at the very end. What else is in the text has no
effect.
-/

namespace SqlBoundary

/-- A text between the delimiters of a block comment. -/
def commentOut (body : Text) : Text := "/*".toList ++ (body ++ "*/".toList)

theorem length_commentOut (body : Text) : (commentOut body).length = body.length + 4 := by
  simp [commentOut]

theorem delimitersFrom_bounds {k : Nat} {s : Text} {d : BlockDelimiter × Nat}
    (h : d ∈ delimitersFrom k s) : k < d.2 ∧ d.2 ≤ k + s.length := by
  fun_induction delimitersFrom k s with
  | case1 k s ih | case2 k s ih =>
    rw [List.length_cons, List.length_cons]
    obtain rfl | h := List.mem_cons.1 h
    · dsimp only
      omega
    · have := ih h
      omega
  | case3 k c s _ _ ih =>
    have := ih h
    rw [List.length_cons]
    omega
  | case4 => cases h

theorem pairwise_delimitersFrom (k : Nat) (s : Text) :
    (delimitersFrom k s).Pairwise (·.2 < ·.2) := by
  fun_induction delimitersFrom k s with
  | case1 k s ih | case2 k s ih =>
    exact List.pairwise_cons.2 ⟨fun d hd => (delimitersFrom_bounds hd).1, ih⟩
  | case3 k c s _ _ ih => exact ih
  | case4 => exact .nil

/-- Nothing comes after a delimiter at the end of the text. -/
theorem eq_nil_of_delimitersFrom_eq {s : Text} {before after : List (BlockDelimiter × Nat)}
    {d : BlockDelimiter} {k : Nat}
    (h : delimitersFrom k s = before ++ (d, k + s.length) :: after) : after = [] := by
  refine List.eq_nil_iff_forall_not_mem.2 fun e he => ?_
  have hpairwise := pairwise_delimitersFrom k s
  have hlater := (List.pairwise_cons.1 (List.pairwise_append.1 (h ▸ hpairwise)).2.1).1 e he
  have hbound := (delimitersFrom_bounds (k := k) (s := s) (d := e) (by simp [h, he])).2
  exact Nat.not_lt.2 hbound hlater

/-- The delimiters of a text leave nothing closed that was not opened in it, but for the last of
them: it stands at the end of the text and closes what was open in front of it. -/
structure ClosesAtEnd (s : Text) : Prop where
  covered : ∀ es, es <+: delimitersFrom 0 s → es ≠ delimitersFrom 0 s → closed es ≤ opened es
  excess : closed (delimitersFrom 0 s) = opened (delimitersFrom 0 s) + 1
  last : (delimitersFrom 0 s).getLast? = some (.closer, s.length)

/-- The rest of a block comment is all of a text exactly if its delimiters close at the end. -/
theorem readBlock?_eq_whole_iff {s : Text} : readBlock? 0 s = some (s, []) ↔ ClosesAtEnd s := by
  constructor
  · intro h
    obtain ⟨before, after, hds, hbefore, hprefix⟩ := readBlock?_delimiters h 0
    obtain rfl := eq_nil_of_delimitersFrom_eq hds
    rw [Nat.zero_add] at hds
    refine ⟨fun es hes hne => ?_, ?_, ?_⟩
    · rw [hds] at hes hne
      exact hprefix es ((List.prefix_concat_iff.1 hes).resolve_left hne)
    · simp [hds, hbefore]
    · rw [hds, List.getLast?_concat]
  · intro h
    cases hread : readBlock? 0 s with
    | none =>
      have := closed_le_of_readBlock?_eq_none hread 0 _ List.prefix_rfl
      have := h.excess
      omega
    | some r =>
      obtain ⟨body, rest⟩ := r
      obtain ⟨before, after, hds, hbefore, -⟩ := readBlock?_delimiters hread 0
      -- Up to the end of the comment more is closed than opened, so nothing can follow.
      have hwhole : before ++ [(.closer, 0 + body.length)] = delimitersFrom 0 s := by
        by_contra hne
        have hcovered := h.covered _ ⟨after, by rw [hds]; simp⟩ hne
        rw [closed_append, opened_append, hbefore, closed_closer, opened_closer] at hcovered
        exact Nat.not_succ_le_self _ hcovered
      have hlast := h.last
      rw [← hwhole, List.getLast?_concat, Option.some.injEq, Prod.mk.injEq] at hlast
      have hspelled := readBlock?_append hread
      have hlength := congrArg List.length hspelled
      rw [List.length_append] at hlength
      obtain rfl : rest = [] := List.length_eq_zero_iff.1 (by omega)
      rw [← hspelled, List.append_nil]

theorem scan_commentOut_eq_iff {body : Text} {standardStrings : Bool} :
    scan (commentOut body) standardStrings = ⟨[.comment 0 (commentOut body).length], none⟩ ↔
      readBlock? 0 (body ++ "*/".toList) = some (body ++ "*/".toList, []) := by
  have hmark : search Mark.read? (commentOut body) =
      some ⟨[], .blockComment, body ++ "*/".toList⟩ := rfl
  cases hread : readBlock? 0 (body ++ "*/".toList) with
  | none =>
    have hlex : lexFrom standardStrings none (commentOut body) =
        ⟨[.plain []], some (.blockComment, commentOut body)⟩ :=
      lexFrom_of_readLexeme_eq_error hmark (by rw [readLexeme, hread])
    rw [scan, lex, hlex]
    refine iff_of_false (fun h => ?_) (Option.some_ne_none _).symm
    cases congrArg Scan.unterminated h
  | some r =>
    obtain ⟨text, rest⟩ := r
    have hlexeme : readLexeme standardStrings none .blockComment (body ++ "*/".toList) =
        .ok (.comment ("/*".toList ++ text), rest) := by
      rw [readLexeme, hread]
      rfl
    have hlex : lexFrom standardStrings none (commentOut body) =
        (lexFrom standardStrings ("/*".toList ++ text).getLast? rest).prepend
          [.plain [], .comment ("/*".toList ++ text)] :=
      lexFrom_of_readLexeme_eq_ok hmark hlexeme
    have hspelled := readBlock?_append hread
    rw [scan, lex, hlex, length_commentOut]
    constructor
    · intro h
      have hpoint := congrArg (·.points.head?) h
      obtain ⟨-, hstop⟩ := SplitPoint.comment.inj (Option.some.inj hpoint)
      have hlength := congrArg List.length hspelled
      simp at hstop hlength
      obtain rfl : rest = [] := List.length_eq_zero_iff.1 (by omega)
      rw [← hspelled, List.append_nil]
    · intro h
      obtain ⟨rfl, rfl⟩ := Prod.mk.inj (Option.some.inj h)
      simp [Lexing.prepend, pointsFrom, Lexeme.point?]

theorem read?_delimiter_eq_none {c : Char} {s : Text} (hopener : c = '/' → s.head? ≠ some '*')
    (hcloser : c = '*' → s.head? ≠ some '/') : BlockDelimiter.read? (c :: s) = none := by
  unfold BlockDelimiter.read?
  split
  next heq =>
    obtain ⟨rfl, rfl⟩ := List.cons.inj heq
    exact absurd rfl (hopener rfl)
  next heq =>
    obtain ⟨rfl, rfl⟩ := List.cons.inj heq
    exact absurd rfl (hcloser rfl)
  next => rfl

/-- A text that does not end in a slash keeps its delimiters when a closer is put behind it. -/
theorem delimitersFrom_append_closer {s : Text} (h : s.getLast? ≠ some '/') (k : Nat) :
    delimitersFrom k (s ++ "*/".toList) =
      delimitersFrom k s ++ [(.closer, k + (s.length + 2))] := by
  have htail {c : Char} {t : Text} (ht : (c :: t).getLast? ≠ some '/') : t.getLast? ≠ some '/' := by
    cases t with
    | nil => simp
    | cons d t => simpa using ht
  fun_induction delimitersFrom k s with
  | case1 k s ih | case2 k s ih =>
    have hstop : k + 2 + (s.length + 2) = k + (s.length + 1 + 1 + 2) := by omega
    simp only [List.cons_append, delimitersFrom, ih (htail (htail h)), List.length_cons, hstop]
  | case3 k c s hopener hcloser ih =>
    have hnone : BlockDelimiter.read? (c :: (s ++ "*/".toList)) = none := by
      cases s with
      | nil =>
        have hc : c ≠ '/' := by simpa using h
        exact read?_delimiter_eq_none (fun heq => absurd heq hc) fun _ => by decide
      | cons d s =>
        refine read?_delimiter_eq_none (fun hc hd => ?_) fun hc hd => ?_
        · exact hopener s hc (congrArg (· :: s) (Option.some.inj hd))
        · exact hcloser s hc (congrArg (· :: s) (Option.some.inj hd))
    have hstop : k + 1 + (s.length + 2) = k + (s.length + 1 + 2) := by omega
    rw [List.cons_append, delimitersFrom_cons_of_read?_eq_none hnone, ih (htail h), hstop]
    rfl
  | case4 k => rfl

/-- Text between the delimiters of a block comment is one comment as a whole exactly if its
delimiters, with the closer behind it, close at the very end. They do where the delimiters of the
text balance, nothing is closed that was not opened, and the text does not end in a slash. -/
theorem scan_commentOut (body : Text) (standardStrings : Bool) :
    (scan (commentOut body) standardStrings = ⟨[.comment 0 (commentOut body).length], none⟩ ↔
        ClosesAtEnd (body ++ "*/".toList)) ∧
      (closed (delimitersFrom 0 body) = opened (delimitersFrom 0 body) →
        (∀ es, es <+: delimitersFrom 0 body → closed es ≤ opened es) →
        body.getLast? ≠ some '/' →
        scan (commentOut body) standardStrings =
          ⟨[.comment 0 (commentOut body).length], none⟩) := by
  have hiff : scan (commentOut body) standardStrings =
      ⟨[.comment 0 (commentOut body).length], none⟩ ↔ ClosesAtEnd (body ++ "*/".toList) :=
    scan_commentOut_eq_iff.trans readBlock?_eq_whole_iff
  refine ⟨hiff, fun hbalanced hcovered hlast => hiff.2 ?_⟩
  have hds := delimitersFrom_append_closer hlast 0
  rw [Nat.zero_add] at hds
  refine ⟨fun es hes hne => ?_, ?_, ?_⟩
  · rw [hds] at hes hne
    exact hcovered es ((List.prefix_concat_iff.1 hes).resolve_left hne)
  · rw [hds, closed_append, opened_append, hbalanced]
    rfl
  · rw [hds, List.getLast?_concat, List.length_append]
    rfl

/-- Quotes, a separator, a line comment and a nested comment do not show through. -/
theorem scan_commentOut_quotes :
    let body : Text := "it's;$$ \"/*--*/\n**"
    closed (delimitersFrom 0 body) = opened (delimitersFrom 0 body) ∧
      (∀ es, es <+: delimitersFrom 0 body → closed es ≤ opened es) ∧
      body.getLast? ≠ some '/' ∧
      ClosesAtEnd (body ++ "*/".toList) ∧
      scan (commentOut body) true = ⟨[.comment 0 22], none⟩ := by
  intro body
  have hbalanced : closed (delimitersFrom 0 body) = opened (delimitersFrom 0 body) := by decide
  have hcovered : ∀ es, es <+: delimitersFrom 0 body → closed es ≤ opened es := by
    simp only [← List.mem_inits]
    decide
  have hlast : body.getLast? ≠ some '/' := by decide
  obtain ⟨hiff, hscan⟩ := scan_commentOut body true
  have hscan := hscan hbalanced hcovered hlast
  exact ⟨hbalanced, hcovered, hlast, hiff.1 hscan, hscan⟩

/-- A slash at the end and the star behind it open another comment. -/
example : scan (commentOut "/") true = ⟨[], some .blockComment⟩ := by decide +kernel

end SqlBoundary
