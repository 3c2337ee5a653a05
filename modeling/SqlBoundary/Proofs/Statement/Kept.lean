import SqlBoundary.Proofs.Statement.Complete

/-! # The characters that are kept

Without its comments a statement consists of the characters of its slice that lie in no comment.
Here these characters are told by their positions, and so are the spaces between them.
-/

namespace SqlBoundary

open Text

/-- Where the slices between semicolons start and stop. -/
def boundsFrom (stop start : Nat) : List SplitPoint → List (Nat × Nat)
  | [] => [(start, stop)]
  | .semicolon position :: points => (start, position) :: boundsFrom stop (position + 1) points
  | .comment _ _ :: points => boundsFrom stop start points

def sliceBounds (s : Text) (points : List SplitPoint) : List (Nat × Nat) :=
  boundsFrom s.length 0 points

instance (points : List SplitPoint) (i : Nat) : Decidable (InComment points i) :=
  decidable_of_iff (∃ x ∈ points, x.isSemicolon = false ∧ x.start ≤ i ∧ i < x.stop) (by
    constructor
    · rintro ⟨x, hx, hcomment, hcovers⟩
      cases x with
      | semicolon => cases hcomment
      | comment start stop => exact ⟨start, stop, hx, hcovers⟩
    · rintro ⟨start, stop, hx, hcovers⟩
      exact ⟨_, hx, rfl, hcovers⟩)

/-- The positions from `start` up to `stop` that lie in no comment. -/
def keptPositions (points : List SplitPoint) (start stop : Nat) : List Nat :=
  (List.range' start (stop - start)).filter (¬InComment points ·)

/-- A comment lies between the two positions. -/
def Separated (points : List SplitPoint) (p q : Nat) : Prop :=
  ∃ start stop, .comment start stop ∈ points ∧ p < start ∧ stop ≤ q

/-- Whether the comments between two neighbours leave a space: the first neighbour is no white
space, and no white space follows one of the comments, be it the second neighbour or another
comment. -/
def spaceBetween (s : Text) (points : List SplitPoint) (p q : Nat) : Bool :=
  s[p]?.any (!isSpace ·) && points.any fun x =>
    !x.isSemicolon && p < x.start && x.stop ≤ q && (s[q]?.any (!isSpace ·) || x.stop < q)

/-- The characters at some positions, with a space between neighbours where `spaced` has one. -/
def weave (s : Text) (spaced : Nat → Nat → Bool) (last : Option Nat) : List Nat → Text
  | [] => []
  | i :: is => (if last.any (spaced · i) then [' '] else []) ++
      (s[i]?.toList ++ weave s spaced (some i) is)

/-- What a statement holds of a stretch of the text once its comments are left out. -/
def keptText (s : Text) (points : List SplitPoint) (bounds : Nat × Nat) : Text :=
  trim (weave s (spaceBetween s points) none (keptPositions points bounds.1 bounds.2))

section Weave
variable {s : Text} {spaced : Nat → Nat → Bool} {last : Option Nat}

theorem weave_append (is js : List Nat) : weave s spaced last (is ++ js) =
    weave s spaced last is ++ weave s spaced (is.getLast?.or last) js := by
  induction is generalizing last with
  | nil => rfl
  | cons i is ih =>
    have hlast : (i :: is).getLast?.or last = is.getLast?.or (some i) := by
      cases is <;> simp [List.getLast?_cons]
    rw [List.cons_append, weave, weave, ih, hlast, List.append_assoc, List.append_assoc]

/-- The space in front of the first of some characters. -/
theorem weave_eq_append (last : Option Nat) (is : List Nat) : weave s spaced last is =
    (if is.head?.any fun i => last.any (spaced · i) then [' '] else []) ++
      weave s spaced none is := by
  cases is <;> rfl

/-- Characters that are neighbours in the text are neighbours without a space. -/
theorem weave_range' (hspaced : ∀ p, spaced p (p + 1) = false) {k : Nat}
    (hlast : ∀ p, last = some p → p + 1 = k) {t : Text} (ht : t <+: s.drop k) :
    weave s spaced last (List.range' k t.length) = t := by
  induction t generalizing k last with
  | nil => rfl
  | cons c t ih =>
    obtain ⟨u, hu⟩ := ht
    have hc : s[k]? = some c := by
      rw [← List.head?_drop, ← hu]
      rfl
    have hrest : t <+: s.drop (k + 1) := by
      rw [← List.drop_drop, ← hu]
      exact ⟨u, rfl⟩
    have hnone : last.any (spaced · k) = false := by
      cases last with
      | none => rfl
      | some p => simpa [← hlast p rfl] using hspaced p
    have htail := @ih (some k) (k + 1) (by simp) hrest
    rw [List.length_cons, List.range'_succ, weave, hnone, hc, htail]
    rfl

theorem getLast?_range'_succ (k n : Nat) : (List.range' k (n + 1)).getLast? = some (k + n) := by
  simp [List.getLast?_range']

theorem succ_getLast?_range'_or {k : Nat} (hlast : ∀ p, last = some p → p + 1 = k) (n p : Nat)
    (hp : (List.range' k n).getLast?.or last = some p) : p + 1 = k + n := by
  cases n with
  | zero => exact hlast p hp
  | succ n =>
    rw [getLast?_range'_succ] at hp
    obtain rfl := Option.some.inj hp
    exact Nat.add_assoc k n 1

theorem getLast?_range'_or {k : Nat} {t : Text} (ht : t <+: s.drop k) (last : Option Nat) :
    ((List.range' k t.length).getLast?.or last).bind (s[·]?) =
      t.getLast?.or (last.bind (s[·]?)) := by
  obtain ⟨u, hu⟩ := ht
  cases t with
  | nil => rfl
  | cons c t =>
    have hchar : s[k + t.length]? = (c :: t)[t.length]? := by
      rw [← List.getElem?_drop, ← hu, List.getElem?_append_left (Nat.lt_succ_self t.length)]
    rw [List.length_cons, getLast?_range'_succ, Option.some_or, Option.bind_some, hchar,
      List.getLast?_eq_getElem?, List.length_cons, Nat.add_sub_cancel,
      List.getElem?_eq_getElem (Nat.lt_succ_self t.length), Option.some_or]

end Weave

/-- The positions of a lexeme that are kept, the first of which is `k`. -/
def Lexeme.positions (k : Nat) : Lexeme → List Nat
  | comment _ => []
  | plain t => List.range' k t.length
  | literal t => List.range' k t.length
  | separator => [k]

def positionsFrom (k : Nat) : List Lexeme → List Nat
  | [] => []
  | l :: ls => l.positions k ++ positionsFrom (k + l.text.length) ls

theorem Lexeme.positions_eq_range' {l : Lexeme} (h : ∀ t, l ≠ comment t) (k : Nat) :
    l.positions k = List.range' k l.text.length := by
  cases l with
  | comment t => exact absurd rfl (h t)
  | plain | literal | separator => rfl

section Lexemes
variable {pre post : List Lexeme} {l : Lexeme}

theorem comment_mem_points (pre : List Lexeme) (t : Text) (post : List Lexeme) :
    .comment (spelling pre).length ((spelling pre).length + t.length) ∈
      pointsFrom 0 (pre ++ .comment t :: post) := by
  simp [pointsFrom_append, pointsFrom, Lexeme.point?]

/-- A position lies in a comment when its lexeme is one. -/
theorem inComment_iff {j : Nat} (hj : j < l.text.length) :
    InComment (pointsFrom 0 (pre ++ l :: post)) ((spelling pre).length + j) ↔
      ∃ t, l = .comment t := by
  constructor
  · rintro ⟨start, stop, hx, hcovers⟩
    rw [← Nat.zero_add ((spelling pre).length + j)] at hcovers
    have hpoint := (covers_iff_of_mem hj hx).1 hcovers
    cases l with
    | comment t => exact ⟨t, rfl⟩
    | plain | literal | separator => cases hpoint
  · rintro ⟨t, rfl⟩
    exact ⟨_, _, comment_mem_points pre t post, Nat.le_add_right _ j, Nat.add_lt_add_left hj _⟩

theorem keptPositions_append (points : List SplitPoint) {start middle stop : Nat}
    (h : start ≤ middle) (h' : middle ≤ stop) :
    keptPositions points start stop =
      keptPositions points start middle ++ keptPositions points middle stop := by
  have hmiddle : start + (middle - start) = middle := Nat.add_sub_cancel' h
  have hlength : stop - start = middle - start + (stop - middle) := by omega
  simp only [keptPositions, hlength, ← List.range'_append_1, List.filter_append, hmiddle]

theorem keptPositions_lexeme (pre : List Lexeme) (l : Lexeme) (post : List Lexeme) :
    keptPositions (pointsFrom 0 (pre ++ l :: post)) (spelling pre).length
        ((spelling pre).length + l.text.length) = l.positions (spelling pre).length := by
  have hmem {i : Nat} (hi : i ∈ List.range' (spelling pre).length l.text.length) :
      InComment (pointsFrom 0 (pre ++ l :: post)) i ↔ ∃ t, l = .comment t := by
    obtain ⟨hle, hlt⟩ := List.mem_range'_1.1 hi
    obtain ⟨j, rfl⟩ := Nat.exists_eq_add_of_le hle
    exact inComment_iff (Nat.lt_of_add_lt_add_left hlt)
  rw [keptPositions, Nat.add_sub_cancel_left]
  by_cases hcomment : ∃ t, l = .comment t
  · have hnone : l.positions (spelling pre).length = [] := by
      obtain ⟨t, rfl⟩ := hcomment
      rfl
    rw [hnone, List.filter_eq_nil_iff]
    intro i hi
    simpa [hmem hi] using hcomment
  · rw [Lexeme.positions_eq_range' (not_exists.1 hcomment), List.filter_eq_self]
    intro i hi
    simpa [hmem hi] using hcomment

theorem keptPositions_spelling (pre ls post : List Lexeme) :
    keptPositions (pointsFrom 0 (pre ++ (ls ++ post))) (spelling pre).length
        ((spelling pre).length + (spelling ls).length) =
      positionsFrom (spelling pre).length ls := by
  induction ls generalizing pre with
  | nil => simp [keptPositions, positionsFrom]
  | cons l ls ih =>
    have htail := ih (pre ++ [l])
    have hwhole : pre ++ [l] ++ (ls ++ post) = pre ++ (l :: ls ++ post) :=
      List.append_assoc pre [l] (ls ++ post)
    have hstart : (spelling (pre ++ [l])).length = (spelling pre).length + l.text.length := by
      simp
    rw [hwhole, hstart] at htail
    rw [positionsFrom, ← htail, ← keptPositions_lexeme pre l (ls ++ post), ← List.cons_append,
      spelling_cons, List.length_append, ← Nat.add_assoc]
    exact keptPositions_append _ (Nat.le_add_right _ _) (Nat.le_add_right _ _)

theorem start_lt_stop_of_mem {ls : List Lexeme} (hopen : MarksOpen ls) {k : Nat} {x : SplitPoint}
    (hx : x ∈ pointsFrom k ls) : x.start < x.stop := by
  obtain ⟨pre, l, post, rfl, hl⟩ := exists_lexeme_of_mem_pointsFrom hx
  obtain ⟨c, hc, -⟩ := hopen l (by simp) (by rintro t rfl; cases hl)
  have hpos : 0 < l.text.length := List.length_pos_of_mem (List.mem_of_mem_head? hc)
  rw [Lexeme.start_of_point? hl, Lexeme.stop_of_point? hl]
  omega

/-- The first character that is kept stands in front or after a comment that does. -/
theorem head?_positionsFrom {ls : List Lexeme} (hopen : MarksOpen ls) {k i : Nat}
    (h : (positionsFrom k ls).head? = some i) :
    i = k ∧ spelling ls ≠ [] ∨ k < i ∧ (spelling ls).head?.any (!isSpace ·) = true := by
  induction ls generalizing k with
  | nil => cases h
  | cons l ls ih =>
    by_cases hcomment : ∃ t, l = .comment t
    · obtain ⟨t, rfl⟩ := hcomment
      obtain ⟨c, hc, hspace⟩ := hopen _ List.mem_cons_self nofun
      rw [Lexeme.text_comment] at hc
      have hpos : 0 < t.length := List.length_pos_of_mem (List.mem_of_mem_head? hc)
      refine .inr ⟨?_, by simp [hc, hspace]⟩
      obtain ⟨rfl, -⟩ | ⟨hlt, -⟩ := ih hopen.tail h
      · exact Nat.lt_add_of_pos_right hpos
      · exact Nat.lt_of_le_of_lt (Nat.le_add_right k t.length) hlt
    · rw [positionsFrom, Lexeme.positions_eq_range' (not_exists.1 hcomment)] at h
      rw [spelling_cons]
      cases hl : l.text with
      | nil =>
        rw [hl] at h
        exact ih hopen.tail h
      | cons c t =>
        rw [hl, List.length_cons, List.range'_succ] at h
        exact .inl ⟨(Option.some.inj h).symm, List.cons_ne_nil c _⟩

end Lexemes

section Whole
variable {pre ls post : List Lexeme}

theorem drop_spelling (pre ls : List Lexeme) :
    (spelling (pre ++ ls)).drop (spelling pre).length = spelling ls := by
  rw [spelling_append, List.drop_left]

theorem spaceBetween_succ (hopen : MarksOpen ls) (s : Text) (k p : Nat) :
    spaceBetween s (pointsFrom k ls) p (p + 1) = false := by
  rw [spaceBetween, Bool.and_eq_false_iff, List.any_eq_false]
  refine .inr fun x hx => ?_
  have := start_lt_stop_of_mem hopen hx
  simp only [Bool.and_eq_true, decide_eq_true_eq]
  omega

/-- A split point that starts inside a comment is the comment. -/
theorem stop_of_start_mem {t : Text} (hopen : MarksOpen (pre ++ .comment t :: post))
    {x : SplitPoint} (hx : x ∈ pointsFrom 0 (pre ++ .comment t :: post))
    (hle : (spelling pre).length ≤ x.start) (hlt : x.start < (spelling pre).length + t.length) :
    x.stop = (spelling pre).length + t.length := by
  obtain ⟨j, hj⟩ := Nat.exists_eq_add_of_le hle
  have hinside : j < (Lexeme.comment t).text.length := by
    rw [hj] at hlt
    exact Nat.lt_of_add_lt_add_left hlt
  have hcovers : x.Covers (0 + ((spelling pre).length + j)) := by
    rw [Nat.zero_add, ← hj]
    exact ⟨Nat.le_refl _, start_lt_stop_of_mem hopen hx⟩
  have hpoint := (covers_iff_of_mem hinside hx).1 hcovers
  rw [Lexeme.stop_of_point? hpoint, Nat.zero_add, Lexeme.text_comment]

/-- A comment leaves a space before the next character that is kept where a gap takes its place. -/
theorem gap_eq_spaceBetween {t : Text} (hopen : MarksOpen (pre ++ .comment t :: (ls ++ post)))
    {p q : Nat} (hp : p + 1 = (spelling pre).length)
    (hq : (positionsFrom ((spelling pre).length + t.length) ls).head? = some q) :
    gap (spelling (pre ++ .comment t :: (ls ++ post)))[p]? (spelling ls).head? =
      if spaceBetween (spelling (pre ++ .comment t :: (ls ++ post)))
        (pointsFrom 0 (pre ++ .comment t :: (ls ++ post))) p q then [' '] else [] := by
  have hls : MarksOpen ls := hopen.of_subset (by intro l hl; simp [hl])
  have hnext (hne : spelling ls ≠ []) : (spelling (pre ++ .comment t :: (ls ++ post)))[
      (spelling pre).length + t.length]? = (spelling ls).head? := by
    rw [← List.head?_drop, ← List.drop_drop, drop_spelling, spelling_cons, Lexeme.text_comment,
      List.drop_left, spelling_append, List.head?_append_of_ne_nil _ hne]
  have hfirst := head?_positionsFrom hls hq
  rw [gap, spaceBetween]
  congr 3
  rw [Bool.eq_iff_iff, List.any_eq_true]
  constructor
  · intro hspace
    refine ⟨_, comment_mem_points pre t (ls ++ post), ?_⟩
    simp only [Bool.and_eq_true, Bool.or_eq_true, decide_eq_true_eq]
    have hstart : p < (spelling pre).length := Nat.lt_of_succ_le hp.le
    obtain ⟨rfl, hne⟩ | ⟨hlt, -⟩ := hfirst
    · rw [hnext hne]
      exact ⟨⟨⟨rfl, hstart⟩, Nat.le_refl _⟩, .inl hspace⟩
    · exact ⟨⟨⟨rfl, hstart⟩, hlt.le⟩, .inr hlt⟩
  · rintro ⟨x, hx, hspaced⟩
    simp only [Bool.and_eq_true, Bool.or_eq_true, decide_eq_true_eq] at hspaced
    obtain ⟨⟨⟨-, hstart⟩, hstop⟩, hspaced⟩ := hspaced
    obtain ⟨rfl, hne⟩ | ⟨-, hspace⟩ := hfirst
    · rw [hnext hne] at hspaced
      refine hspaced.resolve_right fun hbefore => ?_
      have := start_lt_stop_of_mem hopen hx
      have := stop_of_start_mem hopen hx (by omega) (by omega)
      omega
    · exact hspace

/-- Stripped lexemes are the characters that are kept, woven with spaces, up to white space at the
end. -/
theorem stripped_eq_weave (hopen : MarksOpen (pre ++ (ls ++ post))) {last : Option Nat}
    (hlast : ∀ p, last = some p → p + 1 = (spelling pre).length) :
    ∃ w, isBlank w = true ∧
      stripped (last.bind ((spelling (pre ++ (ls ++ post)))[·]?)) ls =
        weave (spelling (pre ++ (ls ++ post))) (spaceBetween (spelling (pre ++ (ls ++ post)))
          (pointsFrom 0 (pre ++ (ls ++ post)))) last (positionsFrom (spelling pre).length ls) ++
          w := by
  -- Lexemes pass from `ls` to `pre` one by one; `last` is the position in front of the next one, or
  -- nothing after a comment, where the space in front of what follows is already chosen.
  induction ls generalizing pre last with
  | nil => exact ⟨[], rfl, rfl⟩
  | cons l ls ih =>
    have hls : MarksOpen ls := hopen.of_subset (by intro l hl; simp [hl])
    have hwhole : pre ++ [l] ++ (ls ++ post) = pre ++ (l :: ls ++ post) :=
      List.append_assoc pre [l] (ls ++ post)
    have hstart : (spelling (pre ++ [l])).length = (spelling pre).length + l.text.length := by
      simp
    have ih := @ih (pre ++ [l])
    rw [hwhole, hstart] at ih
    by_cases hcomment : ∃ t, l = .comment t
    · obtain ⟨t, rfl⟩ := hcomment
      obtain ⟨w, hw, hrest⟩ := @ih hopen none nofun
      rw [stripped_comment hls, positionsFrom, Lexeme.positions, List.nil_append, weave_eq_append]
      cases hq : (positionsFrom ((spelling pre).length + t.length) ls).head? with
      | none =>
        -- A gap in front of comments and white space is white space at the end.
        rw [Lexeme.text_comment, List.head?_eq_none_iff.1 hq] at hrest ⊢
        exact ⟨_, isBlank_append.2 ⟨isBlank_gap _ _, hw⟩, congrArg _ hrest⟩
      | some q =>
        refine ⟨w, hw, ?_⟩
        rw [Lexeme.text_comment] at hrest ⊢
        rw [hq, Option.any_some, List.append_assoc]
        refine congrArg₂ _ ?_ hrest
        cases last with
        | none => rfl
        | some p => exact gap_eq_spaceBetween hopen (hlast p rfl) hq
    · have hpositions := Lexeme.positions_eq_range' (not_exists.1 hcomment) (spelling pre).length
      have hprefix :
          l.text <+: (spelling (pre ++ (l :: ls ++ post))).drop (spelling pre).length := by
        rw [drop_spelling, spelling_append, spelling_cons, List.append_assoc]
        exact List.prefix_append _ _
      obtain ⟨w, hw, hrest⟩ := @ih hopen
        ((List.range' (spelling pre).length l.text.length).getLast?.or last)
        (succ_getLast?_range'_or hlast l.text.length)
      refine ⟨w, hw, ?_⟩
      rw [getLast?_range'_or hprefix] at hrest
      rw [stripped, Lexeme.kept_eq_text (not_exists.1 hcomment), hrest, positionsFrom, hpositions,
        weave_append, weave_range' (spaceBetween_succ hopen _ 0) hlast hprefix, List.append_assoc]

theorem boundsFrom_append (stop start k : Nat) (hls : .separator ∉ ls) (points : List SplitPoint) :
    boundsFrom stop start (pointsFrom k ls ++ points) = boundsFrom stop start points := by
  induction ls generalizing k with
  | nil => rfl
  | cons l ls ih =>
    obtain ⟨hl, hrest⟩ := not_or.1 (mt List.mem_cons.2 hls)
    rw [pointsFrom, List.append_assoc]
    cases l with
    | separator => exact absurd rfl hl
    | plain | literal | comment => exact ih _ hrest

theorem boundsFrom_separator (stop k : Nat) (hls : .separator ∉ ls) (post : List Lexeme) :
    boundsFrom stop k (pointsFrom k (ls ++ .separator :: post)) =
      (k, k + (spelling ls).length) :: boundsFrom stop (k + (spelling ls).length + 1)
        (pointsFrom (k + (spelling ls).length + 1) post) := by
  rw [pointsFrom_append, boundsFrom_append stop k k hls]
  rfl

/-- A slice without its comments. -/
theorem trim_stripped_eq (hopen : MarksOpen (pre ++ (ls ++ post))) :
    trim (stripped none ls) =
      keptText (spelling (pre ++ (ls ++ post))) (pointsFrom 0 (pre ++ (ls ++ post)))
        ((spelling pre).length, (spelling pre).length + (spelling ls).length) := by
  obtain ⟨w, hw, hstripped⟩ := @stripped_eq_weave pre ls post hopen none nofun
  rw [Option.bind_none] at hstripped
  rw [keptText, keptPositions_spelling, hstripped, trim_append_of_isBlank hw]

end Whole

/-- The statements without comments, of lexemes that stand after others. -/
theorem statementsFrom_true_eq_map {pre ls : List Lexeme} (hopen : MarksOpen (pre ++ ls)) :
    statementsFrom true [] ls =
      (boundsFrom (spelling (pre ++ ls)).length (spelling pre).length
        (pointsFrom (spelling pre).length ls)).map
          (keptText (spelling (pre ++ ls)) (pointsFrom 0 (pre ++ ls))) := by
  induction ls using lexemes_induction generalizing pre with
  | last ls hls =>
    have hbounds := boundsFrom_append (spelling (pre ++ ls)).length (spelling pre).length
      (spelling pre).length hls []
    have htrim := @trim_stripped_eq pre ls [] (by rwa [List.append_nil])
    rw [List.append_nil] at hbounds htrim
    rw [(statementsFrom_true hls []).1, hbounds, boundsFrom, List.map_singleton, List.nil_append,
      List.getLast?_nil, htrim, ← List.length_append, ← spelling_append]
  | cut front ls hfront ih =>
    have hwhole : pre ++ (front ++ [.separator]) ++ ls = pre ++ (front ++ .separator :: ls) := by
      simp
    have hstart : (spelling (pre ++ (front ++ [.separator]))).length =
        (spelling pre).length + (spelling front).length + 1 := by
      simp [Nat.add_assoc]
    have hrest := @ih (pre ++ (front ++ [.separator])) (by rwa [hwhole])
    rw [hwhole, hstart] at hrest
    rw [(statementsFrom_true hfront []).2, boundsFrom_separator _ _ hfront, hrest, List.map_cons,
      ← trim_stripped_eq hopen]
    rfl

theorem Lexing.marksOpen_whole (s : Text) (standardStrings : Bool) :
    MarksOpen (lex s standardStrings).whole := by
  intro l hl hplain
  obtain hl | hl := List.mem_append.1 hl
  · exact marksOpen_lexFrom standardStrings none s l hl hplain
  · obtain ⟨r, -, rfl⟩ := Option.map_eq_some_iff.1 (Option.mem_toList.1 hl)
    exact absurd rfl (hplain r.2)

/-- The statements without comments are the slices without the characters of the comments. -/
theorem splitStatements_true_eq_map (s : Text) (standardStrings : Bool) :
    splitStatements s (scan s standardStrings).points true =
      (sliceBounds s (scan s standardStrings).points).map
        (keptText s (scan s standardStrings).points) := by
  have hspelling : spelling (lex s standardStrings).whole = s := by
    rw [Lexing.spelling_whole, text_lex]
  have hpoints : pointsFrom 0 (lex s standardStrings).whole = (scan s standardStrings).points :=
    Lexing.pointsFrom_whole 0 _
  have hmap := @statementsFrom_true_eq_map [] (lex s standardStrings).whole
    (Lexing.marksOpen_whole s standardStrings)
  rw [List.nil_append, spelling_nil, List.length_nil, hspelling, hpoints] at hmap
  rw [splitStatements_eq_statementsFrom, hmap, sliceBounds]

/-- A statement without comments holds the characters of its slice that lie in no comment, in order,
trimmed. A space is added between neighbours only where a comment was, and it is added where a
comment was and neither neighbour is white space. -/
theorem splitStatements_true_eq_weave (s : Text) (standardStrings : Bool) :
    splitStatements s (scan s standardStrings).points true =
        (sliceBounds s (scan s standardStrings).points).map (fun (start, stop) =>
          trim (weave s (spaceBetween s (scan s standardStrings).points) none
            (keptPositions (scan s standardStrings).points start stop))) ∧
      (∀ p q, spaceBetween s (scan s standardStrings).points p q = true →
        Separated (scan s standardStrings).points p q) ∧
      ∀ p q c d, Separated (scan s standardStrings).points p q → s[p]? = some c →
        s[q]? = some d → isSpace c = false → isSpace d = false →
        spaceBetween s (scan s standardStrings).points p q = true := by
  refine ⟨splitStatements_true_eq_map s standardStrings, fun p q h => ?_,
    fun p q c d hseparated hp hq hc hd => ?_⟩
  · rw [spaceBetween, Bool.and_eq_true, List.any_eq_true] at h
    obtain ⟨-, x, hx, hspaced⟩ := h
    simp only [Bool.and_eq_true, decide_eq_true_eq] at hspaced
    cases x with
    | semicolon => simp [SplitPoint.isSemicolon] at hspaced
    | comment start stop => exact ⟨start, stop, hx, hspaced.1.1.2, hspaced.1.2⟩
  · obtain ⟨start, stop, hx, hstart, hstop⟩ := hseparated
    rw [spaceBetween, Bool.and_eq_true, List.any_eq_true]
    refine ⟨by simp [hp, hc], _, hx, ?_⟩
    simp [SplitPoint.isSemicolon, SplitPoint.start, SplitPoint.stop, hstart, hstop, hq, hd]

/-- Two comments between two letters, and white space after another comment. -/
theorem splitStatements_true_eq_weave_run :
    splitStatements "a/*x*//*y*/b;c/**/ d--e" (scan "a/*x*//*y*/b;c/**/ d--e" true).points true =
        ["a b", "c d"] ∧
      Separated (scan "a/*x*//*y*/b;c/**/ d--e" true).points 0 11 ∧
      spaceBetween "a/*x*//*y*/b;c/**/ d--e" (scan "a/*x*//*y*/b;c/**/ d--e" true).points 0 11 =
        true := by
  obtain ⟨hmap, -, hspaced⟩ := splitStatements_true_eq_weave "a/*x*//*y*/b;c/**/ d--e" true
  have hseparated : Separated (scan "a/*x*//*y*/b;c/**/ d--e" true).points 0 11 :=
    ⟨1, 6, by decide +kernel, by decide, by decide⟩
  have hspace := hspaced 0 11 'a' 'b' hseparated rfl rfl (by decide) (by decide)
  refine ⟨?_, hseparated, hspace⟩
  rw [hmap]
  decide +kernel

end SqlBoundary
