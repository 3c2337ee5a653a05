import SqlBoundary.Proofs.Statement.Content

/-! # Complete texts

Where a text is complete can be told from its split points and its characters: nothing but white
space and comments follows the last semicolon, and something else stands before it.
-/

namespace SqlBoundary

open Text

variable {standardStrings : Bool}

def Lexeme.isContent : Lexeme → Bool
  | plain t => !isBlank t
  | literal _ => true
  | separator | comment _ => false

theorem Lexeme.isContent_eq (l : Lexeme) :
    l.isContent = (l.kind.isContent && l.kind ≠ .separator) := by
  cases l with
  | plain t =>
    by_cases ht : isBlank t = true <;> simp [isContent, kind, ht, LexemeKind.isContent]
  | separator | literal | comment => rfl

theorem Lexeme.isContent_kind {l : Lexeme} (h : l ≠ separator) :
    l.kind.isContent = l.isContent := by simp [isContent_eq, h]

/-- To prove something of all lists of lexemes, prove it of those without separators, and of one of
those with a separator and a list of which it holds. -/
@[elab_as_elim]
theorem lexemes_induction {motive : List Lexeme → Prop}
    (last : ∀ ls, .separator ∉ ls → motive ls)
    (cut : ∀ ls ms, .separator ∉ ls → motive ms → motive (ls ++ .separator :: ms))
    (ls : List Lexeme) : motive ls := by
  induction hls : ls.length using Nat.strongRecOn generalizing ls with
  | ind n ih =>
    by_cases h : .separator ∈ ls
    · obtain ⟨front, ms, rfl, hfront⟩ := List.eq_append_cons_of_mem h
      refine cut front ms hfront (ih ms.length ?_ ms rfl)
      rw [← hls, List.length_append, List.length_cons]
      omega
    · exact last ls h

theorem statementsFrom_true_append (ls ms : List Lexeme) :
    statementsFrom true [] (ls ++ .separator :: ms) =
      statementsFrom true [] ls ++ statementsFrom true [] ms := by
  induction ls using lexemes_induction with
  | last ls hls =>
    obtain ⟨hlast, hcut⟩ := statementsFrom_true hls []
    rw [hlast, hcut, List.singleton_append]
  | cut front ls hfront ih =>
    obtain ⟨-, hcut⟩ := statementsFrom_true hfront []
    rw [List.append_assoc, List.cons_append, hcut, hcut, ih, List.cons_append]

theorem MarksOpen.of_subset {ls ms : List Lexeme} (h : MarksOpen ms) (hsubset : ls ⊆ ms) :
    MarksOpen ls := fun l hl => h l (hsubset hl)

/-- Without comments some statement is not empty exactly where there is content. -/
theorem any_statementsFrom_true {ls : List Lexeme} (hopen : MarksOpen ls) :
    (statementsFrom true [] ls).any (!·.isEmpty) = ls.any Lexeme.isContent := by
  have undivided {front : List Lexeme} (hfront : .separator ∉ front) (hopen : MarksOpen front) :
      (!(trim ([] ++ stripped none front)).isEmpty) = front.any Lexeme.isContent := by
    have hkinds : (front.map Lexeme.kind).any LexemeKind.isContent =
        front.any Lexeme.isContent := by
      rw [List.any_map, Bool.eq_iff_iff, List.any_eq_true, List.any_eq_true]
      refine exists_congr fun l => and_congr_right fun hl => ?_
      rw [Function.comp_apply, Lexeme.isContent_kind (ne_of_mem_of_not_mem hl hfront)]
    rw [List.nil_append, ← hkinds, Bool.eq_iff_iff, Bool.not_eq_true', List.isEmpty_eq_false_iff,
      ne_eq, trim_eq_nil_iff, isBlank_stripped hopen, Bool.not_eq_true', Bool.not_eq_false]
  induction ls using lexemes_induction with
  | last ls hls =>
    rw [(statementsFrom_true hls []).1, List.any_cons, List.any_nil, Bool.or_false]
    exact undivided hls hopen
  | cut front ls hfront ih =>
    have hfrontOpen := hopen.of_subset (List.subset_append_left front _)
    have hopen' := hopen.of_subset (List.subset_append_of_subset_right front
      (List.subset_cons_self .separator ls))
    rw [(statementsFrom_true hfront []).2, List.any_cons, ih hopen', List.any_append,
      List.any_cons]
    exact congrArg (· || ls.any Lexeme.isContent) (undivided hfront hfrontOpen)

/-- The last separator of a list of lexemes. -/
theorem exists_last_separator {ls : List Lexeme} (h : .separator ∈ ls) :
    ∃ pre post, ls = pre ++ .separator :: post ∧ .separator ∉ post := by
  obtain ⟨front, back, hls, hfront⟩ := List.eq_append_cons_of_mem (List.mem_reverse.2 h)
  refine ⟨back.reverse, front.reverse, ?_, by simpa using hfront⟩
  simpa using congrArg List.reverse hls

theorem statementsFrom_true_isComplete {pre post : List Lexeme}
    (hopen : MarksOpen (pre ++ .separator :: post)) (hpost : .separator ∉ post) :
    ((statementsFrom true [] (pre ++ .separator :: post)).getLast?.any List.isEmpty &&
        (statementsFrom true [] (pre ++ .separator :: post)).dropLast.any (!·.isEmpty)) =
      (!post.any Lexeme.isContent && pre.any Lexeme.isContent) := by
  have hpre := any_statementsFrom_true (hopen.of_subset (List.subset_append_left pre _))
  have hlast := any_statementsFrom_true (hopen.of_subset
    (List.subset_append_of_subset_right pre (List.subset_cons_self .separator post)))
  obtain ⟨hsingle, -⟩ := statementsFrom_true hpost []
  rw [hsingle, List.any_cons, List.any_nil, Bool.or_false] at hlast
  rw [statementsFrom_true_append, hsingle, List.getLast?_concat, List.dropLast_concat, hpre,
    ← hlast, Option.any_some, Bool.not_not]

/-- A text is complete when nothing is left open, there is content before the last separator and
none after it. -/
theorem isComplete_iff_lexemes (s : Text) (standardStrings : Bool) :
    isComplete s standardStrings = true ↔
      (lex s standardStrings).unfinished = none ∧
        ∃ pre post, (lex s standardStrings).lexemes = pre ++ .separator :: post ∧
          .separator ∉ post ∧ post.any Lexeme.isContent = false ∧
          pre.any Lexeme.isContent = true := by
  have hopen : MarksOpen (lex s standardStrings).lexemes := marksOpen_lexFrom standardStrings none s
  have hscan : (scan s standardStrings).unterminated.isNone =
      (lex s standardStrings).unfinished.isNone := Option.isNone_map
  rw [isComplete, Scan.isComplete, hscan, splitStatements_eq_statementsFrom, Bool.and_assoc,
    Bool.and_eq_true, Option.isNone_iff_eq_none]
  refine and_congr_right fun hfinished => ?_
  rw [Lexing.whole_of_finished hfinished]
  generalize (lex s standardStrings).lexemes = ls at hopen
  constructor
  · intro hcomplete
    have hmem : .separator ∈ ls := by
      by_contra hmem
      rw [(statementsFrom_true hmem []).1] at hcomplete
      simp at hcomplete
    obtain ⟨pre, post, rfl, hpost⟩ := exists_last_separator hmem
    rw [statementsFrom_true_isComplete hopen hpost, Bool.and_eq_true, Bool.not_eq_true']
      at hcomplete
    exact ⟨pre, post, rfl, hpost, hcomplete⟩
  · rintro ⟨pre, post, rfl, hpost, hempty, hcontent⟩
    rw [statementsFrom_true_isComplete hopen hpost, hempty, hcontent]
    rfl

def SplitPoint.Covers (x : SplitPoint) (i : Nat) : Prop := x.start ≤ i ∧ i < x.stop

theorem exists_lexeme_of_lt {ls : List Lexeme} {i : Nat} (h : i < (spelling ls).length) :
    ∃ pre l post j, ls = pre ++ l :: post ∧ i = (spelling pre).length + j ∧
      j < l.text.length := by
  induction ls generalizing i with
  | nil => cases h
  | cons l ls ih =>
    by_cases hi : i < l.text.length
    · exact ⟨[], l, ls, i, rfl, (Nat.zero_add i).symm, hi⟩
    · rw [spelling_cons, List.length_append] at h
      obtain ⟨pre, m, post, j, rfl, hj, hlt⟩ := ih (i := i - l.text.length) (by omega)
      refine ⟨l :: pre, m, post, j, rfl, ?_, hlt⟩
      rw [spelling_cons, List.length_append]
      omega

/-- A position of a lexeme is covered by the split point of the lexeme or by none. -/
theorem covers_iff_of_mem {k j : Nat} {pre post : List Lexeme} {l : Lexeme} {x : SplitPoint}
    (hj : j < l.text.length) (hx : x ∈ pointsFrom k (pre ++ l :: post)) :
    x.Covers (k + ((spelling pre).length + j)) ↔ l.point? (k + (spelling pre).length) = some x := by
  rw [pointsFrom_append, pointsFrom, List.mem_append, List.mem_append, Option.mem_toList] at hx
  constructor
  · rintro ⟨hstart, hstop⟩
    obtain hx | hx | hx := hx
    · have := (bounds_of_mem_pointsFrom hx).2.2
      omega
    · exact hx
    · have := (bounds_of_mem_pointsFrom hx).1
      omega
  · intro hx
    rw [SplitPoint.Covers, Lexeme.start_of_point? hx, Lexeme.stop_of_point? hx]
    omega

theorem getElem?_spelling {pre post : List Lexeme} {l : Lexeme} {j : Nat}
    (hj : j < l.text.length) :
    (spelling (pre ++ l :: post))[(spelling pre).length + j]? = l.text[j]? := by
  rw [spelling_append, spelling_cons, List.getElem?_append_right (Nat.le_add_right _ _),
    Nat.add_sub_cancel_left, List.getElem?_append_left hj]

/-- Content is a character outside the split points that is no white space. -/
theorem any_isContent_iff {ls : List Lexeme} (hopen : MarksOpen ls) (k : Nat) :
    ls.any Lexeme.isContent = true ↔
      ∃ i c, (spelling ls)[i]? = some c ∧ isSpace c = false ∧
        ∀ x ∈ pointsFrom k ls, ¬x.Covers (k + i) := by
  rw [List.any_eq_true]
  constructor
  · rintro ⟨l, hl, hcontent⟩
    obtain ⟨pre, post, rfl⟩ := List.append_of_mem hl
    obtain ⟨c, hc, hspace⟩ : ∃ c ∈ l.text, isSpace c = false := by
      cases l with
      | plain t => simpa [Lexeme.isContent, isBlank] using hcontent
      | literal t =>
        obtain ⟨c, hc, hspace⟩ := hopen _ hl (by simp)
        exact ⟨c, List.mem_of_mem_head? hc, hspace⟩
      | separator | comment => cases hcontent
    obtain ⟨j, hj, rfl⟩ := List.mem_iff_getElem.1 hc
    refine ⟨(spelling pre).length + j, l.text[j], ?_, hspace, fun x hx => ?_⟩
    · rw [getElem?_spelling hj, List.getElem?_eq_getElem hj]
    · rw [covers_iff_of_mem hj hx]
      cases l with
      | plain | literal => simp [Lexeme.point?]
      | separator | comment => cases hcontent
  · rintro ⟨i, c, hc, hspace, huncovered⟩
    obtain ⟨hi, -⟩ := List.getElem?_eq_some_iff.1 hc
    obtain ⟨pre, l, post, j, rfl, rfl, hj⟩ := exists_lexeme_of_lt hi
    refine ⟨l, by simp, ?_⟩
    have hpoint : l.point? (k + (spelling pre).length) = none := by
      rw [Option.eq_none_iff_forall_ne_some]
      intro x hx
      have hmem : x ∈ pointsFrom k (pre ++ l :: post) := by simp [pointsFrom_append, pointsFrom, hx]
      exact huncovered x hmem ((covers_iff_of_mem hj hmem).2 hx)
    cases l with
    | separator | comment => cases hpoint
    | literal => rfl
    | plain t =>
      rw [getElem?_spelling hj] at hc
      have hmem : c ∈ t := List.mem_of_getElem? hc
      simp only [Lexeme.isContent, Bool.not_eq_true', ← Bool.not_eq_true, isBlank_iff, not_forall]
      exact ⟨c, hmem, by simp [hspace]⟩

/-- The position lies inside a comment. -/
def InComment (points : List SplitPoint) (i : Nat) : Prop :=
  ∃ start stop, .comment start stop ∈ points ∧ start ≤ i ∧ i < stop

/-- A scan of a text whose last semicolon is at a given position, with white space and comments
after it and something else in a slice before it. -/
structure Scan.EndsAt (s : Text) (scan : Scan) (last : Nat) : Prop where
  separator : .semicolon last ∈ scan.points
  latest : ∀ i, .semicolon i ∈ scan.points → i ≤ last
  after : ∀ i c, last < i → s[i]? = some c → isSpace c = true ∨ InComment scan.points i
  content : ∃ i c, i < last ∧ s[i]? = some c ∧ isSpace c = false ∧
    .semicolon i ∉ scan.points ∧ ¬InComment scan.points i

theorem exists_covers_iff {points : List SplitPoint} {i : Nat} :
    (∃ x ∈ points, x.Covers i) ↔ .semicolon i ∈ points ∨ InComment points i := by
  constructor
  · rintro ⟨x, hx, hstart, hstop⟩
    cases x with
    | semicolon position =>
      obtain rfl : position = i := Nat.le_antisymm hstart (Nat.le_of_lt_succ hstop)
      exact .inl hx
    | comment start stop => exact .inr ⟨start, stop, hx, hstart, hstop⟩
  · rintro (hx | ⟨start, stop, hx, hcovers⟩)
    · exact ⟨_, hx, Nat.le_refl i, Nat.lt_succ_self i⟩
    · exact ⟨_, hx, hcovers⟩

section Separator
variable {pre post : List Lexeme}

theorem mem_pointsFrom_separator {x : SplitPoint} :
    x ∈ pointsFrom 0 (pre ++ .separator :: post) ↔
      x ∈ pointsFrom 0 pre ∨ x = .semicolon (spelling pre).length ∨
        x ∈ pointsFrom ((spelling pre).length + 1) post := by
  rw [pointsFrom_append, pointsFrom, List.mem_append, List.mem_append, Nat.zero_add]
  simp [Lexeme.point?]

theorem covers_before {i : Nat} (hi : i < (spelling pre).length) :
    (∃ x ∈ pointsFrom 0 (pre ++ .separator :: post), x.Covers i) ↔
      ∃ x ∈ pointsFrom 0 pre, x.Covers i := by
  constructor
  · rintro ⟨x, hx, hcovers⟩
    refine ⟨x, ?_, hcovers⟩
    have hstart : x.start ≤ i := hcovers.1
    obtain hx | rfl | hx := mem_pointsFrom_separator.1 hx
    · exact hx
    · exact absurd hi (Nat.not_lt.2 hstart)
    · have := (bounds_of_mem_pointsFrom hx).1
      omega
  · rintro ⟨x, hx, hcovers⟩
    exact ⟨x, mem_pointsFrom_separator.2 (.inl hx), hcovers⟩

theorem covers_after {i : Nat} (hi : (spelling pre).length < i) :
    (∃ x ∈ pointsFrom 0 (pre ++ .separator :: post), x.Covers i) ↔
      ∃ x ∈ pointsFrom ((spelling pre).length + 1) post, x.Covers i := by
  constructor
  · rintro ⟨x, hx, hcovers⟩
    refine ⟨x, ?_, hcovers⟩
    have hstop : i < x.stop := hcovers.2
    obtain hx | rfl | hx := mem_pointsFrom_separator.1 hx
    · have := (bounds_of_mem_pointsFrom hx).2.2
      omega
    · exact absurd hi (Nat.not_lt.2 (Nat.le_of_lt_succ hstop))
    · exact hx
  · rintro ⟨x, hx, hcovers⟩
    exact ⟨x, mem_pointsFrom_separator.2 (.inr (.inr hx)), hcovers⟩

theorem latest_iff :
    (∀ i, .semicolon i ∈ pointsFrom 0 (pre ++ .separator :: post) → i ≤ (spelling pre).length) ↔
      .separator ∉ post := by
  constructor
  · intro hlatest hmem
    obtain ⟨x, hx, hsemicolon⟩ :=
      exists_semicolon_pointsFrom (k := (spelling pre).length + 1) |>.2 hmem
    cases x with
    | comment => cases hsemicolon
    | semicolon i =>
      have hle := hlatest i (mem_pointsFrom_separator.2 (.inr (.inr hx)))
      have hlt : (spelling pre).length + 1 ≤ i := (bounds_of_mem_pointsFrom hx).1
      omega
  · intro hpost i hi
    obtain hi | hi | hi := mem_pointsFrom_separator.1 hi
    · have : i + 1 ≤ 0 + (spelling pre).length := (bounds_of_mem_pointsFrom hi).2.2
      omega
    · exact Nat.le_of_eq (SplitPoint.semicolon.inj hi)
    · exact absurd (exists_semicolon_pointsFrom.1 ⟨_, hi, rfl⟩) hpost

theorem any_isContent_before (hopen : MarksOpen pre) :
    pre.any Lexeme.isContent = true ↔
      ∃ i c, i < (spelling pre).length ∧
        (spelling (pre ++ .separator :: post))[i]? = some c ∧ isSpace c = false ∧
        .semicolon i ∉ pointsFrom 0 (pre ++ .separator :: post) ∧
        ¬InComment (pointsFrom 0 (pre ++ .separator :: post)) i := by
  have huncovered {i : Nat} (hi : i < (spelling pre).length) :
      (∀ x ∈ pointsFrom 0 pre, ¬x.Covers (0 + i)) ↔
        .semicolon i ∉ pointsFrom 0 (pre ++ .separator :: post) ∧
          ¬InComment (pointsFrom 0 (pre ++ .separator :: post)) i := by
    rw [← not_or, ← exists_covers_iff, covers_before hi, Nat.zero_add, not_exists]
    simp only [not_and]
  rw [any_isContent_iff hopen 0, spelling_append]
  constructor
  · rintro ⟨i, c, hc, hspace, hcovers⟩
    obtain ⟨hi, -⟩ := List.getElem?_eq_some_iff.1 hc
    exact ⟨i, c, hi, by rwa [List.getElem?_append_left hi], hspace, (huncovered hi).1 hcovers⟩
  · rintro ⟨i, c, hi, hc, hspace, hcovers⟩
    rw [List.getElem?_append_left hi] at hc
    exact ⟨i, c, hc, hspace, (huncovered hi).2 hcovers⟩

theorem any_isContent_after (hopen : MarksOpen post) (hpost : .separator ∉ post) :
    post.any Lexeme.isContent = false ↔
      ∀ i c, (spelling pre).length < i →
        (spelling (pre ++ .separator :: post))[i]? = some c →
        isSpace c = true ∨ InComment (pointsFrom 0 (pre ++ .separator :: post)) i := by
  have hcomment {i : Nat} (hi : (spelling pre).length < i) :
      (∃ x ∈ pointsFrom ((spelling pre).length + 1) post, x.Covers i) ↔
        InComment (pointsFrom 0 (pre ++ .separator :: post)) i := by
    rw [← covers_after hi, exists_covers_iff, or_iff_right]
    exact fun hsemicolon => Nat.not_le.2 hi (latest_iff.2 hpost i hsemicolon)
  have hchar (i : Nat) : (spelling (pre ++ .separator :: post))[(spelling pre).length + 1 + i]? =
      (spelling post)[i]? := by
    rw [spelling_append, spelling_cons, List.getElem?_append_right (by omega), Nat.add_assoc,
      Nat.add_sub_cancel_left, Nat.add_comm 1 i]
    rfl
  rw [← Bool.not_eq_true, any_isContent_iff hopen ((spelling pre).length + 1)]
  constructor
  · intro hnone i c hi hc
    obtain ⟨j, rfl⟩ := Nat.exists_eq_add_of_le (Nat.succ_le_of_lt hi)
    rw [hchar] at hc
    by_contra hcontent
    rw [not_or, Bool.not_eq_true, ← hcomment hi] at hcontent
    refine hnone ⟨j, c, hc, hcontent.1, fun x hx hcovers => hcontent.2 ⟨x, hx, hcovers⟩⟩
  · rintro hafter ⟨j, c, hc, hspace, hcovers⟩
    have hi : (spelling pre).length < (spelling pre).length + 1 + j := by omega
    obtain hblank | hcomments := hafter _ c hi (by rwa [hchar])
    · rw [hspace] at hblank
      cases hblank
    · obtain ⟨x, hx, hcover⟩ := (hcomment hi).2 hcomments
      exact hcovers x hx hcover

/-- Whether a text ends at a separator is a matter of the lexemes before and after it. -/
theorem endsAt_iff {unterminated : Option Construct}
    (hopen : MarksOpen (pre ++ .separator :: post)) :
    Scan.EndsAt (spelling (pre ++ .separator :: post))
        ⟨pointsFrom 0 (pre ++ .separator :: post), unterminated⟩ (spelling pre).length ↔
      .separator ∉ post ∧ post.any Lexeme.isContent = false ∧
        pre.any Lexeme.isContent = true := by
  have hpre : MarksOpen pre := hopen.of_subset (List.subset_append_left pre _)
  have hpost : MarksOpen post := hopen.of_subset
    (List.subset_append_of_subset_right pre (List.subset_cons_self .separator post))
  constructor
  · rintro ⟨-, hlatest, hafter, hcontent⟩
    have hundivided := latest_iff.1 hlatest
    exact ⟨hundivided, (any_isContent_after hpost hundivided).2 hafter,
      (any_isContent_before hpre).2 hcontent⟩
  · rintro ⟨hundivided, hempty, hcontent⟩
    exact ⟨mem_pointsFrom_separator.2 (.inr (.inl rfl)), latest_iff.2 hundivided,
      (any_isContent_after hpost hundivided).1 hempty, (any_isContent_before hpre).1 hcontent⟩

end Separator

/-- A complete text has nothing left open and ends at its last semicolon. -/
theorem isComplete_iff (s : Text) (standardStrings : Bool) :
    isComplete s standardStrings = true ↔
      (scan s standardStrings).unterminated = none ∧
        ∃ last, (scan s standardStrings).EndsAt s last := by
  have hopen : MarksOpen (lex s standardStrings).lexemes := marksOpen_lexFrom standardStrings none s
  rw [isComplete_iff_lexemes, scan, Option.map_eq_none_iff]
  refine and_congr_right fun hfinished => ?_
  have hs := spelling_lex_of_finished hfinished
  generalize (lex s standardStrings).lexemes = ls at hopen hs
  subst hs
  constructor
  · rintro ⟨pre, post, rfl, h⟩
    exact ⟨_, (endsAt_iff hopen).2 h⟩
  · rintro ⟨last, h⟩
    obtain ⟨pre, l, post, rfl, hl⟩ := exists_lexeme_of_mem_pointsFrom h.separator
    obtain ⟨rfl, rfl⟩ : l = .separator ∧ (spelling pre).length = last := by
      cases l <;> simp [Lexeme.point?] at hl
      exact ⟨rfl, hl⟩
    exact ⟨pre, post, rfl, (endsAt_iff hopen).1 h⟩

/-- A complete text is split into at least one statement, however statements are selected. -/
theorem exists_splitCommand_of_isComplete {s : Text} (h : isComplete s standardStrings = true)
    (stripComments keepEmpty : Bool) :
    ∃ ts, ts ≠ [] ∧ splitCommand s standardStrings stripComments keepEmpty = .ok ts := by
  rw [isComplete, Scan.isComplete, Bool.and_eq_true, Bool.and_eq_true, Option.isNone_iff_eq_none]
    at h
  obtain ⟨⟨hscan, -⟩, hcontent⟩ := h
  refine ⟨_, ?_, splitCommand_eq_ok_iff.2 ⟨hscan, rfl⟩⟩
  obtain ⟨t, ht, hne⟩ := List.any_eq_true.1 hcontent
  replace ht := List.dropLast_subset _ ht
  cases stripComments with
  | true =>
    cases keepEmpty with
    | true => exact List.ne_nil_of_mem ht
    | false => exact List.ne_nil_of_mem (List.mem_filter.2 ⟨ht, hne⟩)
  | false =>
    rw [splitStatements_true] at ht
    obtain ⟨r, hr, rfl⟩ := List.mem_map.1 ht
    have hfinished := (lex_slice_of_terminated hscan hr).1
    rw [Lexing.whole_of_finished hfinished, Bool.not_eq_true', List.isEmpty_eq_false_iff, ne_eq,
      trim_stripped_eq_nil_iff, Bool.not_eq_false] at hne
    rw [selectStatements_eq_map_filter hscan, ne_eq, List.map_eq_nil_iff]
    exact List.ne_nil_of_mem (List.mem_filter.2 ⟨hr, by rw [hne, Bool.or_true]⟩)

theorem any_isContent_congr {ls ms : List Lexeme}
    (h : ls.map Lexeme.kind = ms.map Lexeme.kind) :
    ls.any Lexeme.isContent = ms.any Lexeme.isContent := by
  have hmap (ls : List Lexeme) : ls.any Lexeme.isContent =
      (ls.map Lexeme.kind).any fun k => k.isContent && k ≠ .separator := by
    rw [List.any_map]
    exact congrArg (ls.any ·) (funext Lexeme.isContent_eq)
  rw [hmap, h, ← hmap]

/-- Texts of one shape are complete or not alike. -/
theorem isComplete_congr {s t : Text}
    (h : (lex s standardStrings).shape = (lex t standardStrings).shape) :
    isComplete s standardStrings = isComplete t standardStrings := by
  have forward {s t : Text} (h : (lex s standardStrings).shape = (lex t standardStrings).shape)
      (hs : isComplete s standardStrings = true) : isComplete t standardStrings = true := by
    obtain ⟨hfinished, pre, post, hls, hpost, hempty, hcontent⟩ := (isComplete_iff_lexemes s _).1 hs
    have hkinds : (lex t standardStrings).lexemes.map Lexeme.kind =
        pre.map Lexeme.kind ++ Lexeme.separator.kind :: post.map Lexeme.kind := by
      rw [← List.map_cons, ← List.map_append, ← hls]
      exact (congrArg Shape.kinds h).symm
    obtain ⟨pre', back, hback, hpre', htail⟩ := List.map_eq_append_iff.1 hkinds
    obtain ⟨l, post', rfl, hl, hpost'⟩ := List.map_eq_cons_iff.1 htail
    obtain rfl := Lexeme.kind_eq_separator.1 hl
    refine (isComplete_iff_lexemes t _).2 ⟨Lexing.unfinished_eq_none_of_shape_eq h.symm hfinished,
      pre', post', hback, fun hmem => hpost ?_, ?_, ?_⟩
    · have hkind := hpost' ▸ List.mem_map_of_mem (f := Lexeme.kind) hmem
      obtain ⟨m, hm, hseparator⟩ := List.mem_map.1 hkind
      exact Lexeme.kind_eq_separator.1 hseparator ▸ hm
    · rwa [any_isContent_congr hpost']
    · rwa [any_isContent_congr hpre']
  exact Bool.eq_iff_iff.2 ⟨forward h, forward h.symm⟩

end SqlBoundary
