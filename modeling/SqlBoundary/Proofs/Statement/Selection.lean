import SqlBoundary.Proofs.Statement.Kept

/-! # Which statements are selected

The statements with their comments and those without are cut at the same semicolons, so they
correspond by their indices. A statement is left out for what is left of it without its comments,
whether the comments are to be kept or not.
-/

namespace SqlBoundary

open Text

def nonEmptyIndices (ts : List Text) : List Nat :=
  (List.range ts.length).filter fun i => ts[i]?.any (!·.isEmpty)

/-- The indices of the statements that hold more than comments and white space. -/
def contentIndices (s : Text) (points : List SplitPoint) : List Nat :=
  nonEmptyIndices (splitStatements s points true)

/-- Between the two positions there are only white space and comments. -/
def OnlyComments (s : Text) (points : List SplitPoint) (start stop : Nat) : Prop :=
  ∀ i c, start ≤ i → i < stop → s[i]? = some c → isSpace c = true ∨ InComment points i

theorem mem_nonEmptyIndices {ts : List Text} {i : Nat} :
    i ∈ nonEmptyIndices ts ↔ ∃ t, ts[i]? = some t ∧ t ≠ [] := by
  rw [nonEmptyIndices, List.mem_filter, List.mem_range]
  constructor
  · rintro ⟨hi, hany⟩
    rw [List.getElem?_eq_getElem hi] at hany ⊢
    exact ⟨_, rfl, by simpa using hany⟩
  · rintro ⟨t, ht, hne⟩
    exact ⟨(List.getElem?_eq_some_iff.1 ht).1, by simpa [ht] using hne⟩

theorem nonEmptyIndices_cons (t : Text) (ts : List Text) :
    nonEmptyIndices (t :: ts) =
      (if t.isEmpty then [] else [0]) ++ (nonEmptyIndices ts).map (· + 1) := by
  have htail : (List.range ts.length).filter
      ((fun i => (t :: ts)[i]?.any (!·.isEmpty)) ∘ Nat.succ) = nonEmptyIndices ts :=
    List.filter_congr fun i _ => rfl
  rw [nonEmptyIndices, List.length_cons, List.range_succ_eq_map, List.filter_cons, List.filter_map,
    htail]
  cases t <;> rfl

/-- What is paired with the texts that are not empty stands at their indices. -/
theorem map_some_filterMap_zip {ts us : List Text} (h : ts.length = us.length) :
    ((ts.zip us).filterMap fun (t, u) => if u.isEmpty then none else some t).map some =
      (nonEmptyIndices us).map (ts[·]?) := by
  induction ts generalizing us with
  | nil =>
    obtain rfl := List.length_eq_zero_iff.1 h.symm
    rfl
  | cons t ts ih =>
    cases us with
    | nil => cases h
    | cons u us =>
      have hrest := ih (Nat.succ.inj h)
      rw [List.zip_cons_cons, List.filterMap_cons, nonEmptyIndices_cons, List.map_append,
        List.map_map]
      have hshift : (nonEmptyIndices us).map (((t :: ts)[·]?) ∘ (· + 1)) =
          (nonEmptyIndices us).map (ts[·]?) := rfl
      rw [hshift, ← hrest]
      cases u <;> rfl

theorem length_splitStatements (s : Text) (points : List SplitPoint) (stripComments : Bool) :
    (splitStatements s points stripComments).length =
      points.countP SplitPoint.isSemicolon + 1 := length_cutFrom s stripComments 0 [] points

theorem selectStatements_eq_filterMap_zip (s : Text) (points : List SplitPoint)
    (stripComments : Bool) :
    selectStatements s points stripComments false =
      ((splitStatements s points stripComments).zip (splitStatements s points true)).filterMap
        fun (statement, stripped) => if stripped.isEmpty then none else some statement := by
  cases stripComments with
  | false => rfl
  | true =>
    rw [selectStatements]
    generalize splitStatements s points true = ts
    induction ts with
    | nil => rfl
    | cons t ts ih => cases t <;> simp_all

/-- The same statements are selected with their comments as without. -/
theorem map_some_selectStatements (s : Text) (points : List SplitPoint) (stripComments : Bool) :
    (selectStatements s points stripComments false).map some =
      (contentIndices s points).map ((splitStatements s points stripComments)[·]?) := by
  have hlength : (splitStatements s points stripComments).length =
      (splitStatements s points true).length := by
    rw [length_splitStatements, length_splitStatements]
  rw [selectStatements_eq_filterMap_zip, map_some_filterMap_zip hlength, contentIndices]

theorem cutFrom_false (s : Text) (start : Nat) (points : List SplitPoint) :
    cutFrom s false start [] points =
      (boundsFrom s.length start points).map fun (start, stop) => trim (s.slice start stop) := by
  induction points generalizing start with
  | nil => rfl
  | cons x points ih =>
    cases x with
    | semicolon position => exact congrArg _ (ih (position + 1))
    | comment first stop => exact ih start

theorem splitStatements_false_eq_map (s : Text) (points : List SplitPoint) :
    splitStatements s points false =
      (sliceBounds s points).map fun (start, stop) => trim (s.slice start stop) :=
  cutFrom_false s 0 points

theorem isBlank_weave {s : Text} {spaced : Nat → Nat → Bool} {last : Option Nat} {is : List Nat} :
    isBlank (weave s spaced last is) = true ↔ ∀ i ∈ is, ∀ c, s[i]? = some c → isSpace c = true := by
  induction is generalizing last with
  | nil => simp [weave, isBlank]
  | cons i is ih =>
    have hspace : isBlank (if last.any (spaced · i) then [' '] else []) = true := by
      split <;> decide
    rw [weave, isBlank_append, isBlank_append, ih, List.forall_mem_cons]
    cases s[i]? <;> simp_all [isBlank]

/-- Nothing is left of a stretch of the text where it holds only white space and comments. -/
theorem keptText_eq_nil_iff {s : Text} {points : List SplitPoint} {start stop : Nat} :
    keptText s points (start, stop) = [] ↔ OnlyComments s points start stop := by
  rw [keptText, trim_eq_nil_iff, isBlank_weave, OnlyComments]
  constructor
  · intro h i c hstart hstop hc
    by_contra hcontent
    rw [not_or] at hcontent
    refine hcontent.1 (h i (List.mem_filter.2 ⟨List.mem_range'_1.2 ⟨hstart, ?_⟩, ?_⟩) c hc)
    · rwa [Nat.add_sub_cancel' (hstart.trans hstop.le)]
    · simpa using hcontent.2
  · intro h i hi c hc
    obtain ⟨hrange, hkept⟩ := List.mem_filter.1 hi
    obtain ⟨hstart, hstop⟩ := List.mem_range'_1.1 hrange
    exact (h i c hstart (by omega) hc).resolve_right (by simpa using hkept)

theorem onlyComments_of_isBlank_slice {s : Text} {start stop : Nat}
    (h : isBlank (s.slice start stop) = true) (points : List SplitPoint) :
    OnlyComments s points start stop := by
  intro i c hstart hstop hc
  refine .inl (isBlank_iff.1 h c (List.mem_of_getElem? (i := i - start) ?_))
  rw [slice, List.getElem?_take_of_lt (by omega), List.getElem?_drop,
    Nat.add_sub_cancel' hstart, hc]

section Scanned
variable (s : Text) (standardStrings : Bool)

/-- Of a scanned text a statement is left out where its slice holds only white space and comments.
-/
theorem not_mem_contentIndices_iff {i start stop : Nat}
    (h : (sliceBounds s (scan s standardStrings).points)[i]? = some (start, stop)) :
    i ∉ contentIndices s (scan s standardStrings).points ↔
      OnlyComments s (scan s standardStrings).points start stop := by
  have hstatement : (splitStatements s (scan s standardStrings).points true)[i]? =
      some (keptText s (scan s standardStrings).points (start, stop)) := by
    rw [splitStatements_true_eq_map, List.getElem?_map, h, Option.map_some]
  rw [contentIndices, mem_nonEmptyIndices, hstatement, ← keptText_eq_nil_iff]
  simp

theorem not_mem_selectStatements (stripComments : Bool) :
    [] ∉ selectStatements s (scan s standardStrings).points stripComments false := by
  intro hmem
  have hsome := List.mem_map_of_mem (f := some) hmem
  rw [map_some_selectStatements] at hsome
  obtain ⟨i, hi, hempty⟩ := List.mem_map.1 hsome
  cases stripComments with
  | true =>
    obtain ⟨t, ht, hne⟩ := mem_nonEmptyIndices.1 hi
    rw [ht] at hempty
    exact hne (Option.some.inj hempty)
  | false =>
    rw [splitStatements_false_eq_map, List.getElem?_map] at hempty
    obtain ⟨⟨start, stop⟩, hbounds, hslice⟩ := Option.map_eq_some_iff.1 hempty
    refine (not_mem_contentIndices_iff s standardStrings hbounds).2 ?_ hi
    exact onlyComments_of_isBlank_slice (trim_eq_nil_iff.1 hslice) _

end Scanned

/-- There is one statement more than there are semicolons, with comments and without, and the same
ones are selected, wherever the split points lie. Of a scanned text those are left out that hold
only white space and comments, and none that is selected is empty. -/
theorem selectStatements_aligned (s : Text) :
    (∀ (points : List SplitPoint) (stripComments : Bool),
      (splitStatements s points stripComments).length =
          points.countP SplitPoint.isSemicolon + 1 ∧
        (selectStatements s points stripComments false).map some =
          (contentIndices s points).map ((splitStatements s points stripComments)[·]?)) ∧
      ∀ standardStrings : Bool,
        (∀ i, i < (splitStatements s (scan s standardStrings).points false).length →
          ∃ start stop, (splitStatements s (scan s standardStrings).points false)[i]? =
              some (trim (s.slice start stop)) ∧
            (sliceBounds s (scan s standardStrings).points)[i]? = some (start, stop) ∧
            (i ∉ contentIndices s (scan s standardStrings).points ↔
              OnlyComments s (scan s standardStrings).points start stop)) ∧
        ∀ stripComments, [] ∉ selectStatements s (scan s standardStrings).points stripComments
          false := by
  refine ⟨fun points stripComments => ⟨length_splitStatements s points stripComments,
    map_some_selectStatements s points stripComments⟩, fun standardStrings =>
    ⟨fun i hi => ?_, not_mem_selectStatements s standardStrings⟩⟩
  rw [splitStatements_false_eq_map, List.length_map] at hi
  obtain ⟨⟨start, stop⟩, hbounds⟩ :
      ∃ r, (sliceBounds s (scan s standardStrings).points)[i]? = some r :=
    ⟨_, List.getElem?_eq_getElem hi⟩
  refine ⟨start, stop, ?_, hbounds, not_mem_contentIndices_iff s standardStrings hbounds⟩
  rw [splitStatements_false_eq_map, List.getElem?_map, hbounds, Option.map_some]

/-- Comments that overlap and lie past the end, and statements of which one is a comment. -/
theorem selectStatements_aligned_overlap :
    (splitStatements "a;/**/;b" [.semicolon 6, .comment 2 9, .comment 0 4, .semicolon 1]
        true).length = 3 ∧
      contentIndices "a;/**/;b" (scan "a;/**/;b" true).points = [0, 2] ∧
      (selectStatements "a;/**/;b" (scan "a;/**/;b" true).points false false).map some =
        [some ['a'], some ['b']] ∧
      [] ∉ selectStatements "a;/**/;b" (scan "a;/**/;b" true).points true false := by
  obtain ⟨haligned, hscanned⟩ := selectStatements_aligned "a;/**/;b"
  have hindices : contentIndices "a;/**/;b" (scan "a;/**/;b" true).points = [0, 2] := by
    decide +kernel
  refine ⟨(haligned _ true).1, hindices, ?_, (hscanned true).2 true⟩
  rw [(haligned _ false).2, hindices]
  decide +kernel

end SqlBoundary
