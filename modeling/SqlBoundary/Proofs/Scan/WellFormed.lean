import SqlBoundary.Proofs.Lex.Nesting
import SqlBoundary.Proofs.Scan.Restart
import SqlBoundary.Proofs.Text.Slice

/-! # Split points are well formed

The split points of a scan lie in the text, in order and apart. A semicolon stands where a separator
was found, and each comment is a line comment or a block comment of its own.
-/

namespace SqlBoundary

/-- The text from `a` up to `b` is a comment that runs through the end of its line. -/
structure LineCommentAt (s : Text) (a b : Nat) : Prop where
  opens : ['-', '-'] <+: s.slice a b
  oneLine : '\n' ∉ (s.slice a b).dropLast
  ends : b = s.length ∨ s[b - 1]? = some '\n'

/-- The text from `a` up to `b` is a comment that ends where the delimiters from `a` on balance. -/
structure BlockCommentAt (s : Text) (a b : Nat) : Prop where
  opens : ['/', '*'] <+: s.slice a b
  closes : ['*', '/'] <:+ s.slice a b
  length : 4 ≤ b - a
  balances : BalancesAt (delimitersFrom a (s.drop a)) b

structure WellFormed (s : Text) (points : List SplitPoint) : Prop where
  ordered : points.Pairwise fun x y => x.stop ≤ y.start
  within : ∀ x ∈ points, x.start < x.stop ∧ x.stop ≤ s.length
  semicolon : ∀ position, .semicolon position ∈ points → s[position]? = some ';'
  comment : ∀ start stop, .comment start stop ∈ points →
    LineCommentAt s start stop ∨ BlockCommentAt s start stop

theorem lineCommentAt_readLine (head rest : Text) :
    LineCommentAt (head ++ ('-' :: '-' :: (readLine rest).1 ++ (readLine rest).2)) head.length
      (head ++ '-' :: '-' :: (readLine rest).1).length := by
  have hslice := Text.slice_append head ('-' :: '-' :: (readLine rest).1) (readLine rest).2
  refine ⟨by rw [hslice]; exact List.prefix_append ['-', '-'] _, ?_, ?_⟩
  · rw [hslice]
    obtain ⟨hline, hnone⟩ | ⟨line, rest', -, hnone, hline⟩ := readLine_cases rest
    · rw [hline]
      intro h
      have := List.dropLast_subset _ h
      simp_all
    · rw [hline, ← List.cons_append, ← List.cons_append, List.dropLast_concat]
      simp [hnone]
  · obtain ⟨hline, -⟩ | ⟨line, rest', -, -, hline⟩ := readLine_cases rest
    · left
      rw [hline, List.append_nil]
    · right
      have hlast : head ++ ('-' :: '-' :: (line ++ ['\n']) ++ rest') =
          (head ++ '-' :: '-' :: line) ++ '\n' :: rest' := by simp
      have hlength : (head ++ '-' :: '-' :: (line ++ ['\n'])).length - 1 =
          (head ++ '-' :: '-' :: line).length := by simp
      rw [hline, hlast, hlength, List.getElem?_append_right (Nat.le_refl _), Nat.sub_self]
      rfl

theorem blockCommentAt_of_readBlock? {rest body rest' : Text}
    (h : readBlock? 0 rest = some (body, rest')) (head : Text) :
    BlockCommentAt (head ++ ('/' :: '*' :: body ++ rest')) head.length
      (head ++ '/' :: '*' :: body).length := by
  have hslice := Text.slice_append head ('/' :: '*' :: body) rest'
  obtain ⟨inner, rfl⟩ := readBlock?_ends h
  refine ⟨by rw [hslice]; exact List.prefix_append ['/', '*'] _, ?_, ?_, ?_⟩
  · rw [hslice]
    exact ⟨'/' :: '*' :: inner, rfl⟩
  · simp only [List.length_append, List.length_cons, List.length_nil]
    omega
  · rw [List.drop_left, List.cons_append, List.cons_append, readBlock?_append h,
      List.length_append]
    exact balancesAt_of_readBlock? h head.length

theorem bounds_of_mem_points {s : Text} {standardStrings : Bool} {x : SplitPoint}
    (h : x ∈ (scan s standardStrings).points) : x.start < x.stop ∧ x.stop ≤ s.length := by
  obtain ⟨before, after, hpoints⟩ := List.append_of_mem h
  obtain ⟨head, l, previous, mark, rest, rest', post, hx, hl, rfl, hstop, -, -⟩ :=
    exists_reading_of_points_eq hpoints
  have hlength := List.length_pos_iff.2 (text_ne_nil_of_readLexeme hl)
  rw [hstop, Lexeme.start_of_point? hx]
  simp only [List.length_append]
  omega

/-- Every split point was found at its own lexeme. -/
theorem shape_of_mem_points {s : Text} {standardStrings : Bool} {x : SplitPoint}
    (h : x ∈ (scan s standardStrings).points) :
    (s[x.start]? = some ';' ∧ x = .semicolon x.start) ∨
      ((LineCommentAt s x.start x.stop ∨ BlockCommentAt s x.start x.stop) ∧
        x = .comment x.start x.stop) := by
  obtain ⟨before, after, hpoints⟩ := List.append_of_mem h
  obtain ⟨head, l, previous, mark, rest, rest', post, hx, hl, rfl, hstop, -, -⟩ :=
    exists_reading_of_points_eq hpoints
  rw [hstop, Lexeme.start_of_point? hx]
  obtain ⟨rfl, rfl⟩ | ⟨rfl, rfl⟩ | ⟨body, rfl, hbody⟩ := readLexeme_cases_of_point hx hl
  · cases hx
    exact .inl ⟨by simp, rfl⟩
  · cases hx
    exact .inr ⟨.inl (lineCommentAt_readLine head rest), by rw [List.length_append]; rfl⟩
  · cases hx
    exact .inr ⟨.inr (blockCommentAt_of_readBlock? hbody head), by rw [List.length_append]; rfl⟩

/-- The split points of a scan are well formed, also when something is left open. -/
theorem scan_points_wellFormed (s : Text) (standardStrings : Bool) :
    WellFormed s (scan s standardStrings).points where
  ordered := pairwise_pointsFrom 0 _
  within x h := bounds_of_mem_points h
  semicolon position h := by
    obtain ⟨hsemicolon, -⟩ | ⟨-, hx⟩ := shape_of_mem_points h
    · exact hsemicolon
    · cases hx
  comment start stop h := by
    obtain ⟨-, hx⟩ | ⟨hcomment, -⟩ := shape_of_mem_points h
    · cases hx
    · exact hcomment

end SqlBoundary
