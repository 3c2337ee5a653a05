import SqlBoundary.Proofs.Scan.Shape

/-! # Literals that become one

White space with a line break joins two single-quoted literals, unless a comment is part of it. Once
the comment is left out they are one literal. It ends where the second one did, unless the first is
an escape string and the second holds a backslash, which is no escape before but is one afterwards.
-/

namespace SqlBoundary

open Text

variable {standardStrings : Bool} {before previous : Option Char}

/-- After white space and comments, with a line break outside the comments, comes a single-quoted
literal that holds a backslash or after which the same is true. -/
def meetsBackslash (broken : Bool) : List Lexeme → Bool
  | [] => false
  | .plain t :: ls => isBlank t && meetsBackslash (broken || t.contains '\n') ls
  | .comment _ :: ls => meetsBackslash broken ls
  | .literal t :: ls =>
    broken && t.head? = some '\'' && (t.contains '\\' || meetsBackslash false ls)
  | .separator :: _ => false

def Lexeme.isSingleQuoted : Lexeme → Bool
  | literal t => t.head? = some '\''
  | plain _ | separator | comment _ => false

/-- An escape string is followed by a backslash that becomes an escape when the comments between
them are left out. The lexemes stand after the character `before`. -/
def escapeRunsOn (before : Option Char) : List Lexeme → Bool
  | [] => false
  | l :: ls =>
    (l.isSingleQuoted && (before = some 'E' || before = some 'e') && meetsBackslash false ls) ||
      escapeRunsOn (l.text.getLast?.or before) ls

theorem meetsBackslash_left {broken : Bool} {ls ms : List Lexeme}
    (h : meetsBackslash broken (ls ++ ms) = false) : meetsBackslash broken ls = false := by
  induction ls generalizing broken with
  | nil => rfl
  | cons l ls ih =>
    cases l with
    | separator => rfl
    | comment t => exact ih h
    | plain t =>
      simp only [List.cons_append, meetsBackslash, Bool.and_eq_false_iff] at h ⊢
      exact h.imp_right ih
    | literal t =>
      simp only [List.cons_append, meetsBackslash, Bool.and_eq_false_iff,
        Bool.or_eq_false_iff] at h ⊢
      exact h.imp_right fun h => ⟨h.1, ih h.2⟩

theorem escapeRunsOn_left {ls ms : List Lexeme} (h : escapeRunsOn before (ls ++ ms) = false) :
    escapeRunsOn before ls = false := by
  induction ls generalizing before with
  | nil => rfl
  | cons l ls ih =>
    simp only [List.cons_append, escapeRunsOn, Bool.or_eq_false_iff, Bool.and_eq_false_iff] at h ⊢
    exact ⟨h.1.imp_right meetsBackslash_left, ih h.2⟩

theorem escapeRunsOn_right (ls : List Lexeme) {ms : List Lexeme}
    (h : escapeRunsOn before (ls ++ ms) = false) :
    escapeRunsOn ((spelling ls).getLast?.or before) ms = false := by
  induction ls generalizing before with
  | nil => exact h
  | cons l ls ih =>
    simp only [List.cons_append, escapeRunsOn, Bool.or_eq_false_iff] at h
    rw [spelling_cons, getLast?_or_append]
    exact ih h.2

/-- What an escape string meets after plain text and a lexeme, and what is met after these. -/
theorem escapeRunsOn_lexeme {p : Text} {l : Lexeme} {ls : List Lexeme}
    (h : escapeRunsOn before (.plain p :: l :: ls) = false) :
    (l.isSingleQuoted = true → p.getLast?.or before = some 'E' ∨ p.getLast?.or before = some 'e' →
        meetsBackslash false ls = false) ∧
      escapeRunsOn (l.text.getLast?.or (p.getLast?.or before)) ls = false := by
  have hplain : (Lexeme.plain p).isSingleQuoted = false := rfl
  simp only [escapeRunsOn, hplain, Lexeme.text_plain, Bool.false_and, Bool.false_or,
    Bool.or_eq_false_iff] at h
  refine ⟨fun hquoted hE => ?_, h.2⟩
  obtain hE | hE := hE <;> simpa [hquoted, hE] using h.1

theorem escapeRunsOn_none {ls : List Lexeme} (h : escapeRunsOn before ls = false) :
    escapeRunsOn none ls = false := by
  induction ls generalizing before with
  | nil => rfl
  | cons l ls ih =>
    simp only [escapeRunsOn, Bool.or_eq_false_iff] at h ⊢
    refine ⟨by simp, ?_⟩
    cases hl : l.text.getLast? with
    | none => exact ih h.2
    | some c =>
      rw [hl] at h
      exact h.2

/-- What `l` becomes when its comments are left out. -/
structure Lexing.StripsTo (l m : Lexing) : Prop where
  inert : m.IsInert
  meets : ∀ broken, meetsBackslash broken m.lexemes = meetsBackslash broken l.lexemes

theorem Lexing.StripsTo.prepend {l m : Lexing} (h : l.StripsTo m) (p : Text) {x : Lexeme}
    (hsep : x ≠ .separator) (hcomment : ∀ t, x ≠ .comment t) :
    (l.prepend [.plain p, x]).StripsTo (m.prepend [.plain p, x]) where
  inert := (isInert_prepend hsep hcomment).2 h.inert
  meets broken := by
    cases x with
    | separator => exact absurd rfl hsep
    | comment t => exact absurd rfl (hcomment t)
    | plain | literal =>
      simp only [Lexing.prepend, List.cons_append, List.nil_append, meetsBackslash, h.meets]

/-- A text that continues a literal is white space with a line break and a literal. -/
theorem lexFrom_of_readContinuation? {s joint rest : Text}
    (hjoint : readContinuation? s = some (joint, rest))
    (finished : (lexFrom standardStrings before s).unfinished = none) :
    ∃ w body tail, joint = w ++ ['\''] ∧ isBlank w = true ∧ '\n' ∈ w ∧
      readQuoted? .single (allowsBackslash standardStrings none .single) rest =
        some (body, tail) ∧
      lexFrom standardStrings before s =
        (lexFrom standardStrings (Lexeme.literal ('\'' :: body)).text.getLast? tail).prepend
          [.plain w, .literal ('\'' :: body)] := by
  obtain ⟨hbreak, hquote, rfl⟩ := readContinuation?_eq_some_iff.1 hjoint
  have hblank := isBlank_takeWhile s
  have hs : s = s.takeWhile isSpace ++ '\'' :: rest := by
    rw [← hquote, List.takeWhile_append_dropWhile]
  generalize s.takeWhile isSpace = w at hbreak hblank hs ⊢
  subst hs
  obtain ⟨c, hc⟩ : ∃ c, w.getLast? = some c :=
    ⟨_, List.getLast?_eq_some_getLast (List.ne_nil_of_mem hbreak)⟩
  have hspace := isBlank_iff.1 hblank c (List.mem_of_getLast? hc)
  have hsearch : search Mark.read? (w ++ '\'' :: rest) = some ⟨w, .quote .single, rest⟩ := by
    refine search_append_mark (search_mark_of_isBlank hblank) (fun d hd => ?_) rfl
    exact Mark.read?_eq_none_of_isSpace (isBlank_iff.1 hblank d (List.mem_of_getLast? hd)) _
  have hescapes : allowsBackslash standardStrings (w.getLast?.or before) .single =
      allowsBackslash standardStrings none .single := by
    rw [hc, Option.some_or, allowsBackslash_of_isSpace hspace]
  cases hread : readQuoted? .single (allowsBackslash standardStrings none .single) rest with
  | none =>
    have herror : readLexeme standardStrings (w.getLast?.or before) (.quote .single) rest =
        .error .quotedString := by simp only [readLexeme, hescapes, hread]
    rw [lexFrom_of_readLexeme_eq_error hsearch herror] at finished
    cases finished
  | some r =>
    obtain ⟨body, tail⟩ := r
    have hok : readLexeme standardStrings (w.getLast?.or before) (.quote .single) rest =
        .ok (.literal ('\'' :: body), tail) := by
      simp only [readLexeme, hescapes, hread, Quote.char]
    exact ⟨w, body, tail, rfl, hblank, hbreak, rfl, lexFrom_of_readLexeme_eq_ok hsearch hok⟩

theorem not_mem_of_isBlank {w : Text} (hw : isBlank w = true) {c : Char} (hc : isSpace c = false) :
    c ∉ w := by
  intro hmem
  rw [isBlank_iff.1 hw c hmem] at hc
  cases hc

section Joined
variable {w body body' t rest tail tail' : Text}

/-- A literal, and the one that continues it, in front of a text. -/
theorem lexFrom_joined {s : Text} {f : Found Mark} (hf : search Mark.read? s = some f)
    (hmark : f.value = .quote .single)
    (hbody : readQuoted? .single
      (allowsBackslash standardStrings (f.skipped.getLast?.or before) .single) f.rest =
        some (body, tail))
    (hjoint : readContinuation? t = some (w ++ ['\''], rest)) (hblank : isBlank w = true)
    (hbreak : '\n' ∈ w)
    (hbody' : readQuoted? .single
      (allowsBackslash standardStrings (f.skipped.getLast?.or before) .single) rest =
        some (body', tail')) :
    lexFrom standardStrings before (f.skipped ++ ('\'' :: body ++ t)) =
      (lexFrom standardStrings (Lexeme.literal ('\'' :: body')).text.getLast? tail').prepend
        [.plain f.skipped, .literal ('\'' :: body ++ w ++ '\'' :: body')] := by
  have hdouble : Text.afterPrefix? [Quote.single.char] t = none := by
    have ht : w ++ ['\''] ++ rest = t := readContinuation?_spells _ _ _ hjoint
    rw [afterPrefix?_eq_none, ← ht, List.append_assoc,
      singleton_prefix_append_iff (List.ne_nil_of_mem hbreak)]
    exact fun h => not_mem_of_isBlank hblank (by decide) (h.subset (List.mem_singleton_self _))
  have hread : readLexeme standardStrings (f.skipped.getLast?.or before) (.quote .single)
      (body ++ t) = .ok (.literal ('\'' :: (body ++ (w ++ ['\'']) ++ body')), tail') := by
    simp only [readLexeme, readQuoted?_replace hbody hdouble, closeQuoted?, readJoint?, hjoint,
      hbody']
    rfl
  have hwhole : '\'' :: (body ++ (w ++ ['\'']) ++ body') = '\'' :: body ++ w ++ '\'' :: body' := by
    simp
  have hsearch := Mark.read?_short.search_replace hf (body ++ t)
  rw [hmark] at hsearch
  rw [hwhole] at hread
  have hlex := lexFrom_of_readLexeme_eq_ok hsearch hread
  rwa [Lexeme.text_literal, List.getLast?_append_cons] at hlex

theorem meetsBackslash_joint {l : Lexing} (hblank : isBlank w = true) (hbreak : '\n' ∈ w)
    (broken : Bool) :
    meetsBackslash broken (l.prepend [.plain w, .literal ('\'' :: body)]).lexemes =
      (('\'' :: body).contains '\\' || meetsBackslash false l.lexemes) := by
  simp only [Lexing.prepend, List.cons_append, List.nil_append, meetsBackslash, hblank,
    List.contains_iff_mem.2 hbreak, Bool.true_and, Bool.or_true, List.head?_cons, decide_true]

/-- Where a literal continues another one, it ends as it does alone, unless backslashes become
escapes in it. -/
theorem readQuoted?_of_previous
    (h : readQuoted? .single (allowsBackslash standardStrings none .single) rest =
      some (body, tail))
    (hescape : standardStrings = true → previous = some 'E' ∨ previous = some 'e' → '\\' ∉ body) :
    readQuoted? .single (allowsBackslash standardStrings previous .single) rest =
      some (body, tail) := by
  by_cases hE : previous = some 'E' ∨ previous = some 'e'
  · cases standardStrings with
    | false => exact h
    | true => exact readQuoted?_escapes h (hescape rfl hE)
  · rw [← h]
    simp only [not_or] at hE
    simp [allowsBackslash, hE]

/-- Two literals become one. -/
theorem Lexing.StripsTo.join {l m : Lexing} (hblank : isBlank w = true) (hbreak : '\n' ∈ w)
    (h : l.StripsTo (m.prepend [.plain w, .literal ('\'' :: body')])) (p : Text) :
    (l.prepend [.plain p, .literal ('\'' :: body)]).StripsTo
      (m.prepend [.plain p, .literal ('\'' :: body ++ w ++ '\'' :: body')]) where
  inert := by
    have hinert := (isInert_prepend (x := .literal _) nofun fun _ => nofun).1 h.inert
    exact (isInert_prepend (x := .literal _) nofun fun _ => nofun).2 hinert
  meets broken := by
    have hw := not_mem_of_isBlank hblank (c := '\\') (by decide)
    have hcontains : ('\'' :: body ++ w ++ '\'' :: body').contains '\\' =
        (('\'' :: body).contains '\\' || ('\'' :: body').contains '\\') := by simp [hw]
    have hmeets := h.meets false
    rw [meetsBackslash_joint hblank hbreak] at hmeets
    simp only [Lexing.prepend, List.cons_append, List.nil_append, meetsBackslash, ← hmeets,
      List.head?_cons] at hcontains ⊢
    rw [hcontains, Bool.or_assoc]

theorem of_readLexeme_singleQuoted {mark : Mark}
    (h : readLexeme standardStrings previous mark rest = .ok (.literal ('\'' :: body), tail)) :
    mark = .quote .single ∧
      readQuoted? .single (allowsBackslash standardStrings previous .single) rest =
        some (body, tail) := by
  generalize hl : Lexeme.literal ('\'' :: body) = l at h
  cases readsLexeme_of_readLexeme_eq_ok h with
  | @quoted q _ body' _ hbody =>
    obtain ⟨hq, rfl⟩ := List.cons.inj (Lexeme.literal.inj hl)
    obtain rfl : q = .single := Quote.char_injective hq.symm
    exact ⟨rfl, hbody⟩
  | dollarQuoted => exact absurd (List.cons.inj (Lexeme.literal.inj hl)).1 (by decide)
  | separator | dollar | line | block => cases hl

/-- A single-quoted literal that is joined with what follows it once the comments are left out. -/
theorem Lexing.StripsTo.joined {s joint : Text} {f : Found Mark} {l : Lexing} {last : Option Char}
    (hf : search Mark.read? s = some f)
    (hread : readLexeme standardStrings (f.skipped.getLast?.or before) f.value f.rest =
      .ok (.literal ('\'' :: body), tail))
    (hjoint : readContinuation? t = some (joint, rest))
    (hescape : standardStrings = true → f.skipped.getLast?.or before = some 'E' ∨
      f.skipped.getLast?.or before = some 'e' → meetsBackslash false l.lexemes = false)
    (h : l.StripsTo (lexFrom standardStrings last t)) :
    (l.prepend [.plain f.skipped, .literal ('\'' :: body)]).StripsTo
      (lexFrom standardStrings before (f.skipped ++ ('\'' :: body ++ t))) := by
  obtain ⟨hmark, hbody⟩ := of_readLexeme_singleQuoted hread
  obtain ⟨w, body', tail', rfl, hblank, hbreak, hread', hlex⟩ :=
    lexFrom_of_readContinuation? hjoint h.inert.finished
  rw [hlex] at h
  have hbody' := readQuoted?_of_previous hread' fun hstandard hE hmem => by
    have hmeets := h.meets false
    rw [hescape hstandard hE, meetsBackslash_joint hblank hbreak, Bool.or_eq_false_iff] at hmeets
    rw [List.contains_iff_mem.2 (List.mem_cons_of_mem _ hmem)] at hmeets
    cases hmeets.1
  rw [lexFrom_joined hf hmark hbody hjoint hblank hbreak hbody']
  exact h.join hblank hbreak f.skipped

end Joined

end SqlBoundary
