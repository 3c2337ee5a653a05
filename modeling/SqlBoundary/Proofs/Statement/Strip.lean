import SqlBoundary.Proofs.Statement.Alone

/-! # Leaving comments out

A stripped statement is a slice whose comments are left out, with a space in their place between two
characters that are no white space. Up to its first white space it reads as the slice does.
-/

namespace SqlBoundary

open Text

variable {standardStrings : Bool}

/-- What stands for a lexeme between two characters when comments are left out. -/
def Lexeme.kept (last next : Option Char) : Lexeme → Text
  | comment _ => gap last next
  | plain t => t
  | literal t => t
  | separator => [';']

/-- The text of consecutive lexemes without the comments, after a text that ends in `last`. -/
def stripped (last : Option Char) : List Lexeme → Text
  | [] => []
  | l :: ls =>
    l.kept last (spelling ls).head? ++
      stripped ((l.kept last (spelling ls).head?).getLast?.or last) ls

theorem Lexeme.kept_eq_text {l : Lexeme} (h : ∀ c, l ≠ comment c) (last next : Option Char) :
    l.kept last next = l.text := by
  cases l with
  | comment c => exact absurd rfl (h c)
  | plain | literal | separator => rfl

theorem gap_none_right (last : Option Char) : gap last none = [] := by simp [gap]

theorem isBlank_gap (last next : Option Char) : isBlank (gap last next) = true := by
  unfold gap
  split <;> decide

theorem stripped_eq_nil {ls : List Lexeme} (h : spelling ls = []) (last : Option Char) :
    stripped last ls = [] := by
  induction ls generalizing last with
  | nil => rfl
  | cons l ls ih =>
    rw [spelling_cons] at h
    obtain ⟨hl, hls⟩ := List.append_eq_nil_iff.1 h
    have hkept : l.kept last (spelling ls).head? = [] := by
      rw [hls]
      cases l with
      | comment c => exact gap_none_right last
      | plain | literal | separator => exact hl
    rw [stripped, hkept, ih hls, List.append_nil]

/-- Without comments a statement is what is left of its lexemes. A space that only a separator after
the comment called for is trimmed off. -/
theorem statementsFrom_true {ls : List Lexeme} (h : .separator ∉ ls) (kept : Text) :
    statementsFrom true kept ls = [trim (kept ++ stripped kept.getLast? ls)] ∧
      ∀ rest, statementsFrom true kept (ls ++ .separator :: rest) =
        trim (kept ++ stripped kept.getLast? ls) :: statementsFrom true [] rest := by
  induction ls generalizing kept with
  | nil => simp [statementsFrom, stripped]
  | cons l ls ih =>
    obtain ⟨hl, hls⟩ := not_or.1 (mt List.mem_cons.2 h)
    have passed (t : Text) : kept ++ t ++ stripped (kept ++ t).getLast? ls =
        kept ++ (t ++ stripped (t.getLast?.or kept.getLast?) ls) := by
      rw [List.append_assoc, List.getLast?_append]
    cases l with
    | separator => exact absurd rfl hl
    | plain t | literal t =>
      simp only [statementsFrom, List.cons_append, ih hls, passed, stripped, Lexeme.kept]
      exact ⟨trivial, fun _ => trivial⟩
    | comment t =>
      simp only [statementsFrom, if_true, List.cons_append, ih hls, passed, stripped, Lexeme.kept]
      refine ⟨trivial, fun rest => ?_⟩
      -- The gap was chosen with the separator as the next character where nothing else comes.
      cases hspelling : spelling ls with
      | nil =>
        rw [stripped_eq_nil hspelling, stripped_eq_nil hspelling]
        simp only [List.append_nil, List.head?_nil, gap_none_right]
        rw [trim_append_of_isBlank (isBlank_gap _ _)]
      | cons c t => simp [hspelling]

theorem splitStatements_true (s : Text) (standardStrings : Bool) :
    splitStatements s (scan s standardStrings).points true =
      (slices s standardStrings).map fun r =>
        trim (stripped none (lex r standardStrings).whole) := by
  rw [splitStatements_eq_statementsFrom]
  induction s using separator_induction standardStrings with
  | last s hs =>
    have hwhole := mt Lexing.separator_mem_whole.1 hs
    rw [slices_of_not_mem hs, (statementsFrom_true hwhole []).1]
    rfl
  | cut t rest ht ih =>
    rw [ht.lex_append, Lexing.whole_prepend, List.append_assoc, List.singleton_append,
      (statementsFrom_true ht.undivided []).2, ih, ht.slices_append, List.map_cons,
      Lexing.whole_of_finished ht.finished]
    rfl

theorem mem_stripped {c : Char} {ls : List Lexeme} {last : Option Char} (h : c ∈ stripped last ls) :
    c ∈ spelling ls ∨ c = ' ' := by
  induction ls generalizing last with
  | nil => cases h
  | cons l ls ih =>
    rw [spelling_cons, List.mem_append]
    obtain h | h := List.mem_append.1 h
    · cases l with
      | comment t =>
        simp only [Lexeme.kept, gap] at h
        split at h
        · exact .inr (List.mem_singleton.1 h)
        · cases h
      | plain | literal | separator => exact .inl (.inl h)
    · exact (ih h).imp_left .inr

theorem IsAsciiSpaced.stripped {ls : List Lexeme} (h : IsAsciiSpaced (spelling ls))
    (last : Option Char) : IsAsciiSpaced (stripped last ls) := by
  intro c hc hspace
  obtain hmem | rfl := mem_stripped hc
  · exact h c hmem hspace
  · decide

/-- Only whether a character is white space has an effect on the gap after it. -/
theorem stripped_eq_none {last : Option Char} (h : last.any (!isSpace ·) = false)
    (ls : List Lexeme) : stripped last ls = stripped none ls := by
  induction ls generalizing last with
  | nil => rfl
  | cons l ls ih =>
    have hkept (next : Option Char) : l.kept last next = l.kept none next := by
      cases l with
      | comment t => simp [Lexeme.kept, gap, h]
      | plain | literal | separator => rfl
    rw [stripped, stripped, hkept]
    congr 1
    cases (l.kept none (spelling ls).head?).getLast? with
    | none => exact ih h
    | some c => rfl

/-- Every lexeme but plain text begins with a character that is no white space. -/
def MarksOpen (ls : List Lexeme) : Prop :=
  ∀ l ∈ ls, (∀ t, l ≠ .plain t) → ∃ c, l.text.head? = some c ∧ isSpace c = false

theorem MarksOpen.tail {l : Lexeme} {ls : List Lexeme} (h : MarksOpen (l :: ls)) : MarksOpen ls :=
  fun x hx => h x (List.mem_cons_of_mem l hx)

theorem marksOpen_lexFrom (standardStrings : Bool) (before : Option Char) (s : Text) :
    MarksOpen (lexFrom standardStrings before s).lexemes := by
  intro l hl hplain
  obtain ⟨pre, post, h⟩ := List.append_of_mem hl
  obtain ⟨previous, mark, rest, rest', hread, -, -⟩ := exists_readLexeme_of_lexemes_eq hplain h
  cases readsLexeme_of_readLexeme_eq_ok hread with
  | separator => exact ⟨';', rfl, by decide⟩
  | @quoted q => exact ⟨q.char, rfl, by cases q <;> decide⟩
  | dollar => exact absurd rfl (hplain _)
  | dollarQuoted => exact ⟨'$', rfl, by decide⟩
  | line => exact ⟨'-', rfl, by decide⟩
  | block => exact ⟨'/', rfl, by decide⟩

/-- Lexemes whose text does not begin with a mark do not begin with a comment. -/
theorem MarksOpen.ne_comment {l : Lexeme} {ls : List Lexeme} (hopen : MarksOpen (l :: ls))
    (h : (spelling (l :: ls)).head?.any (!isSpace ·) = false) (t : Text) : l ≠ .comment t := by
  rintro rfl
  obtain ⟨c, hc, hspace⟩ := hopen _ List.mem_cons_self nofun
  rw [spelling_cons, List.head?_append, hc, Option.some_or, Option.any_some, hspace] at h
  cases h

/-- White space at the front is kept. -/
theorem head?_stripped {ls : List Lexeme} (hopen : MarksOpen ls) {c : Char}
    (hc : isSpace c = true) (h : (spelling ls).head? = some c) (last : Option Char) :
    (stripped last ls).head? = some c := by
  induction ls generalizing last with
  | nil => cases h
  | cons l ls ih =>
    have hcomment := hopen.ne_comment (by rw [h, Option.any_some, hc]; rfl)
    rw [spelling_cons] at h
    rw [stripped, Lexeme.kept_eq_text hcomment]
    cases hl : l.text with
    | nil =>
      rw [hl, List.nil_append] at h
      exact ih hopen.tail h _
    | cons d t => rwa [hl] at h

/-- White space reads the same whether or not a comment before it left a space. -/
theorem stripped_eq_none_of_head? {ls : List Lexeme} (hopen : MarksOpen ls)
    (h : (spelling ls).head?.any (!isSpace ·) = false) (last : Option Char) :
    stripped last ls = stripped none ls := by
  induction ls generalizing last with
  | nil => rfl
  | cons l ls ih =>
    have hcomment := hopen.ne_comment h
    rw [stripped, stripped, Lexeme.kept_eq_text hcomment, Lexeme.kept_eq_text hcomment]
    rw [spelling_cons] at h
    cases hl : l.text with
    | nil =>
      rw [hl] at h
      exact congrArg ([] ++ ·) (ih hopen.tail h _)
    | cons c t => simp only [List.getLast?_cons, Option.some_or]

/-- After a comment the rest is stripped as if nothing stood before it. -/
theorem stripped_comment {ls : List Lexeme} (hopen : MarksOpen ls) (last : Option Char) (t : Text) :
    stripped last (.comment t :: ls) = gap last (spelling ls).head? ++ stripped none ls := by
  rw [stripped, Lexeme.kept]
  congr 1
  cases hlast : last.any (!isSpace ·) with
  | false =>
    have hgap : gap last (spelling ls).head? = [] := by simp [gap, hlast]
    rw [hgap]
    exact stripped_eq_none hlast ls
  | true =>
    cases hnext : (spelling ls).head?.any (!isSpace ·) with
    | false => exact stripped_eq_none_of_head? hopen hnext _
    | true =>
      have hgap : gap last (spelling ls).head? = [' '] := by simp [gap, hlast, hnext]
      rw [hgap]
      exact stripped_eq_none rfl ls

/-- Where a comment was left out after a character that is no white space, white space follows or
nothing. -/
theorem isSpace_of_head?_stripped_comment {t : Text} {ls : List Lexeme} (hopen : MarksOpen ls)
    (last : Option Char) (hlast : last.any (!isSpace ·) = true) {c : Char}
    (h : (stripped last (.comment t :: ls)).head? = some c) : isSpace c = true := by
  simp only [stripped, Lexeme.kept, gap, hlast, Bool.true_and] at h
  cases hnext : (spelling ls).head? with
  | none =>
    rw [stripped_eq_nil (List.head?_eq_none_iff.1 hnext), hnext] at h
    cases h
  | some d =>
    rw [hnext] at h
    cases hd : isSpace d with
    | false =>
      simp only [Option.any_some, hd, Bool.not_false, if_true] at h
      rw [← Option.some.inj h]
      decide
    | true =>
      simp only [Option.any_some, hd, Bool.not_true, Bool.false_eq_true, if_false,
        List.nil_append, head?_stripped hopen hd hnext] at h
      rw [← Option.some.inj h, hd]

theorem takeWhile_append_isPrefix {α : Type} {p : α → Bool} {v w u : List α}
    (h : v.all p = true → w.takeWhile p <+: u) : (v ++ w).takeWhile p <+: v ++ u := by
  induction v with
  | nil => exact h rfl
  | cons c v ih =>
    rw [List.cons_append, List.cons_append, List.takeWhile_cons]
    split
    next hc => exact List.cons_prefix_cons.2 ⟨rfl, ih fun hv => h (by simp [hc, hv])⟩
    next => exact List.nil_prefix

/-- After a character that is no white space, the text up to the next white space is that of the
lexemes: a comment ends it. -/
theorem takeWhile_stripped_isPrefix {ls : List Lexeme} (hopen : MarksOpen ls) {last : Option Char}
    (hlast : last.any (!isSpace ·) = true) :
    (stripped last ls).takeWhile (!isSpace ·) <+: spelling ls := by
  induction ls generalizing last with
  | nil => exact List.prefix_rfl
  | cons l ls ih =>
    by_cases hcomment : ∃ t, l = .comment t
    · obtain ⟨t, rfl⟩ := hcomment
      have hhead := fun c =>
        isSpace_of_head?_stripped_comment (t := t) (c := c) hopen.tail last hlast
      cases hstripped : stripped last (.comment t :: ls) with
      | nil => exact List.nil_prefix
      | cons c u =>
        rw [List.takeWhile_cons, hhead c (by rw [hstripped]; rfl)]
        exact List.nil_prefix
    · rw [stripped, spelling_cons, Lexeme.kept_eq_text fun t ht => hcomment ⟨t, ht⟩]
      refine takeWhile_append_isPrefix fun hall => ih hopen.tail ?_
      cases hl : l.text.getLast? with
      | none => exact hlast
      | some c => exact List.all_eq_true.1 hall c (List.mem_of_getLast? hl)

end SqlBoundary
