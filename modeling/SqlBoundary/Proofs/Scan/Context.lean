import SqlBoundary.Proofs.Lex.Context
import SqlBoundary.Proofs.Scan.Growth

/-! # Lexemes in front of another text

A lexeme is read again in front of every text that does not go on with it. Lexemes can therefore be
taken off the front of one text and be put in front of another. Plain text only passes its last
character on to what follows it.
-/

namespace SqlBoundary

variable {standardStrings : Bool} {before previous : Option Char}

/-- Whether a lexeme that follows a given character ends where a text begins. -/
def Lexeme.EndsBefore (previous : Option Char) (t : Text) : Lexeme → Prop
  | separator => True
  | plain _ => opensDollarQuote previous = true → readTag? t = none
  | literal l => ∀ q : Quote, l.head? = some q.char →
      Text.afterPrefix? [q.char] t = none ∧ readJoint? q t = none
  | comment c => isClosedComment c = true ∨ t = []

theorem Quote.char_injective {q r : Quote} (h : q.char = r.char) : q = r := by
  cases q <;> cases r <;> simp_all [Quote.char]

theorem endsBefore_literal {q : Quote} {body t : Text}
    (hquote : Text.afterPrefix? [q.char] t = none) (hjoint : readJoint? q t = none) :
    (Lexeme.literal (q.char :: body)).EndsBefore previous t := by
  intro r hr
  obtain rfl := Quote.char_injective (Option.some.inj hr)
  exact ⟨hquote, hjoint⟩

theorem endsBefore_dollarQuoted (tag t : Text) :
    (Lexeme.literal ('$' :: tag)).EndsBefore previous t := by
  intro q hq
  cases q <;> cases hq

theorem isClosedComment_readLine (s : Text) :
    isClosedComment ('-' :: '-' :: (readLine s).1) = true ∨ (readLine s).2 = [] := by
  obtain ⟨hs, -⟩ | ⟨line, rest, -, -, hs⟩ := readLine_cases s
  · exact .inr (by rw [hs])
  · exact .inl (by simp [hs, isClosedComment])

/-- A line that is closed, or the rest of the text, is read again. -/
theorem readLine_replace {s t : Text}
    (h : isClosedComment ('-' :: '-' :: (readLine s).1) = true ∨ t = []) :
    readLine ((readLine s).1 ++ t) = ((readLine s).1, t) := by
  obtain ⟨hs, hnone⟩ | ⟨line, rest, -, hnone, hs⟩ := readLine_cases s
  · obtain hclosed | rfl := h
    · rw [hs] at hclosed
      exact absurd (List.mem_of_getLast? (of_decide_eq_true hclosed)) hnone
    · rw [hs, List.append_nil, hs]
  · rw [hs, List.append_assoc, readLine_append_of_not_mem hnone, List.singleton_append,
      readLine_newline]

/-- Every lexeme ends where it was read to end. -/
theorem endsBefore_of_readLexeme {mark : Mark} {rest tail : Text} {l : Lexeme}
    (h : readLexeme standardStrings previous mark rest = .ok (l, tail)) :
    l.EndsBefore previous tail := by
  cases readsLexeme_of_readLexeme_eq_ok h with
  | separator => trivial
  | quoted hbody =>
    obtain ⟨hquote, hjoint⟩ := rest_of_readQuoted? hbody
    exact endsBefore_literal hquote hjoint
  | dollar =>
    intro hopens
    cases htag : readTag? rest with
    | none => rfl
    | some r =>
      have := congrArg Except.toOption h
      rw [toOption_readLexeme_dollar_of_some (by rw [hopens, if_pos rfl, htag])] at this
      obtain ⟨_, -, hl⟩ := Option.map_eq_some_iff.1 this
      cases hl
  | dollarQuoted htag hbody => exact endsBefore_dollarQuoted _ _
  | line => exact isClosedComment_readLine rest
  | block => exact .inl rfl

/-- A lexeme is read again in front of every text before which it ends. -/
theorem readLexeme_replace {mark : Mark} {rest rest' tail t : Text} {l : Lexeme}
    (h : readLexeme standardStrings previous mark rest = .ok (l, tail))
    (ends : l.EndsBefore previous t) (htext : mark.text ++ rest' = l.text ++ t) :
    readLexeme standardStrings previous mark rest' = .ok (l, t) := by
  cases readsLexeme_of_readLexeme_eq_ok h with
  | separator =>
    obtain rfl : rest' = t := List.append_cancel_left htext
    rfl
  | @quoted q _ body _ hbody =>
    obtain rfl : rest' = body ++ t :=
      List.append_cancel_left (show [q.char] ++ _ = [q.char] ++ _ from htext)
    obtain ⟨hquote, hjoint⟩ := ends q rfl
    simp only [readLexeme, readQuoted?_replace hbody hquote,
      closeQuoted?_of_readJoint?_eq_none hjoint]
  | dollar =>
    obtain rfl : rest' = t := List.append_cancel_left htext
    refine readLexeme_dollar_of_none ?_
    cases hopens : opensDollarQuote previous with
    | false => rfl
    | true => exact ends hopens
  | @dollarQuoted _ tag _ body _ htag hbody =>
    obtain rfl : rest' = tag ++ (body ++ t) := by
      simpa [Mark.text] using htext
    have hopens : opensDollarQuote previous = true := by
      cases hopens : opensDollarQuote previous with
      | true => rfl
      | false =>
        rw [readLexeme_dollar_of_none (by simp [hopens])] at h
        cases h
    have hagain : readTag? (tag ++ (body ++ t)) = some (tag, body ++ t) :=
      readTag?_stable _ _ _ htag _
    simp only [readLexeme, hopens, if_true, hagain,
      readThrough?_replace (List.cons_ne_nil _ _) hbody]
  | line =>
    obtain rfl : rest' = (readLine rest).1 ++ t :=
      List.append_cancel_left (show ['-', '-'] ++ _ = ['-', '-'] ++ _ from htext)
    simp only [readLexeme, readLine_replace ends]
  | @block _ body _ hbody =>
    obtain rfl : rest' = body ++ t :=
      List.append_cancel_left (show ['/', '*'] ++ _ = ['/', '*'] ++ _ from htext)
    simp only [readLexeme, readBlock?_replace hbody]

/-- The lexemes up to the first one that is not plain text, put in front of another text. -/
theorem lexFrom_replace {s rest t : Text} {f : Found Mark} {l : Lexeme}
    (hf : search Mark.read? s = some f)
    (hl : readLexeme standardStrings (f.skipped.getLast?.or before) f.value f.rest = .ok (l, rest))
    (ends : l.EndsBefore (f.skipped.getLast?.or before) t) :
    lexFrom standardStrings before (f.skipped ++ (l.text ++ t)) =
      (lexFrom standardStrings l.text.getLast? t).prepend [.plain f.skipped, l] := by
  obtain ⟨body, hbody⟩ : f.value.text <+: l.text :=
    List.prefix_of_prefix_length_le ⟨f.rest, (readLexeme_append hl).symm⟩
      (List.prefix_append _ _) (length_text_le_of_readLexeme hl)
  have htext : f.value.text ++ (body ++ t) = l.text ++ t := by rw [← hbody, List.append_assoc]
  rw [← htext]
  exact lexFrom_of_readLexeme_eq_ok (f := { f with rest := body ++ t })
    (Mark.read?_short.search_replace hf (body ++ t))
    (readLexeme_replace hl ends htext)

/-- A text with which no lexeme goes on that ends before it or in front of it. -/
structure Detached (t : Text) : Prop where
  double : t.head? ≠ some '"'
  single : (t.dropWhile isSpace).head? ≠ some '\''
  dollar : (t.dropWhile isTagChar).head? ≠ some '$'

theorem Lexeme.EndsBefore.of_isPrefix {l : Lexeme} {t u : Text} (h : l.EndsBefore previous u)
    (ht : t <+: u) : l.EndsBefore previous t := by
  obtain ⟨v, rfl⟩ := ht
  cases l with
  | separator => trivial
  | plain p =>
    intro hopens
    cases htag : readTag? t with
    | none => rfl
    | some r =>
      have := readTag?_stable.append readTag?_spells htag v
      rw [h hopens] at this
      cases this
  | literal l =>
    intro q hq
    obtain ⟨hquote, hjoint⟩ := h q hq
    rw [afterPrefix?_eq_none] at hquote ⊢
    refine ⟨fun hstart => hquote (hstart.trans (List.prefix_append _ _)), ?_⟩
    cases hr : readJoint? q t with
    | none => rfl
    | some r =>
      have := (readJoint?_stable q).append (readJoint?_spells q) hr v
      rw [hjoint] at this
      cases this
  | comment c =>
    obtain hclosed | hnil := h
    · exact .inl hclosed
    · exact .inr (List.append_eq_nil_iff.1 hnil).1

theorem readTag?_append_eq_none {t u : Text} (h : readTag? t = none)
    (hu : (u.dropWhile isTagChar).head? ≠ some '$') : readTag? (t ++ u) = none := by
  cases hr : readTag? (t ++ u) with
  | none => rfl
  | some r =>
    obtain ⟨hname, -⟩ := isTagChar_of_readTag?_append h hr
    unfold readTag? at hr
    rw [List.dropWhile_append_of_pos (by simpa using hname)] at hr
    split at hr
    next hdollar => exact absurd (by rw [hdollar]; rfl) hu
    next => cases hr

theorem readJoint?_append_eq_none {q : Quote} {t u : Text} (h : readJoint? q t = none)
    (hu : (u.dropWhile isSpace).head? ≠ some '\'') : readJoint? q (t ++ u) = none := by
  cases hr : readJoint? q (t ++ u) with
  | none => rfl
  | some r =>
    obtain ⟨hblank, -⟩ := isBlank_of_readJoint?_append h hr
    cases q with
    | double => cases hr
    | single =>
      obtain ⟨-, hquote, -⟩ := readContinuation?_eq_some_iff.1 hr
      rw [List.dropWhile_append_of_pos (by simpa [Text.isBlank] using hblank)] at hquote
      exact absurd (by rw [hquote]; rfl) hu

theorem Detached.head?_ne {u : Text} (hu : Detached u) (q : Quote) : u.head? ≠ some q.char := by
  cases q with
  | double => exact hu.double
  | single =>
    intro h
    refine hu.single ?_
    cases u with
    | nil => cases h
    | cons c u =>
      obtain rfl : c = '\'' := Option.some.inj h
      rfl

theorem Lexeme.EndsBefore.append {l : Lexeme} {t u : Text} (h : l.EndsBefore previous t)
    (closed : ∀ c, l = .comment c → isClosedComment c = true) (hu : Detached u) :
    l.EndsBefore previous (t ++ u) := by
  cases l with
  | separator => trivial
  | plain p => exact fun hopens => readTag?_append_eq_none (h hopens) hu.dollar
  | literal l =>
    intro q hq
    obtain ⟨hquote, hjoint⟩ := h q hq
    refine ⟨?_, readJoint?_append_eq_none hjoint hu.single⟩
    rw [afterPrefix?_eq_none] at hquote ⊢
    cases t with
    | nil =>
      rintro ⟨v, rfl⟩
      exact hu.head?_ne q rfl
    | cons c t => rwa [singleton_prefix_append_iff (List.cons_ne_nil c t)]
  | comment c => exact .inl (closed c rfl)

theorem detached_semicolon (t : Text) : Detached (';' :: t) where
  double := by simp
  single := by
    have hspace : isSpace ';' = false := rfl
    simp [hspace]
  dollar := by
    have htag : isTagChar ';' = false := rfl
    simp [htag]

theorem search_append_eq_none {α : Type} {read : Reader α} {v w : Text}
    (h : search read (v ++ w) = none) : search read w = none := by
  induction v with
  | nil => exact h
  | cons c v ih => exact ih (search_cons_eq_none.1 h).2

/-- Only a second hyphen or a star can make a mark out of the end of plain text. -/
theorem Mark.read?_last_eq_none {p t : Text} {c : Char} (hp : search Mark.read? p = none)
    (hc : p.getLast? = some c) (ht : t.head? ≠ some '-' ∧ t.head? ≠ some '*') :
    Mark.read? (c :: t) = none := by
  obtain ⟨q, rfl⟩ := List.getLast?_eq_some_iff.1 hc
  have hlast : Mark.read? [c] = none := (search_cons_eq_none.1 (search_append_eq_none hp)).1
  unfold Mark.read? at hlast ⊢
  split <;> simp_all

theorem search_append_of_eq_none {p t : Text} (hp : search Mark.read? p = none)
    (ht : ∀ c, p.getLast? = some c → Mark.read? (c :: t) = none) :
    search Mark.read? (p ++ t) =
      (search Mark.read? t).map fun f => { f with skipped := p ++ f.skipped } := by
  induction p with
  | nil => simp
  | cons c p ih =>
    obtain ⟨hc, hp⟩ := search_cons_eq_none.1 hp
    have hrest := ih hp fun d hd => ht d (by simp [List.getLast?_cons, hd])
    have hfirst : Mark.read? (c :: (p ++ t)) = none := by
      cases p with
      | nil => exact ht c rfl
      | cons d p =>
        cases hr : Mark.read? (c :: (d :: p ++ t)) with
        | none => rfl
        | some r =>
          have hlong := Mark.read?_stable.length_lt Mark.read?_spells hc hr
          have hwidth := Mark.read?_short.width r.1 .semicolon
          simp only [Mark.text, List.length_cons, List.length_nil] at hlong hwidth
          omega
    rw [List.cons_append, search, hfirst, hrest, Option.map_map]
    rfl

/-- A mark after text without marks is the first one. -/
theorem search_append_mark {p t rest : Text} {mark : Mark} (hp : search Mark.read? p = none)
    (ht : ∀ c, p.getLast? = some c → Mark.read? (c :: t) = none)
    (h : Mark.read? t = some (mark, rest)) :
    search Mark.read? (p ++ t) = some ⟨p, mark, rest⟩ := by
  have here : search Mark.read? t = some ⟨[], mark, rest⟩ := search_eq_some_iff.2 (.here h)
  rw [search_append_of_eq_none hp ht, here, Option.map_some, List.append_nil]

/-- Plain text in front of a text is plain text in front of its lexemes. -/
theorem lexFrom_append_of_eq_none (standardStrings : Bool) (before : Option Char) {p t : Text}
    (hp : search Mark.read? p = none)
    (ht : ∀ c, p.getLast? = some c → Mark.read? (c :: t) = none) :
    ∃ q ls unfinished, lexFrom standardStrings (p.getLast?.or before) t =
        ⟨.plain q :: ls, unfinished⟩ ∧
      lexFrom standardStrings before (p ++ t) = ⟨.plain (p ++ q) :: ls, unfinished⟩ := by
  have hsearch := search_append_of_eq_none hp ht
  cases hf : search Mark.read? t with
  | none =>
    rw [hf] at hsearch
    exact ⟨t, [], none, lexFrom_of_search_eq_none hf, lexFrom_of_search_eq_none hsearch⟩
  | some f =>
    rw [hf] at hsearch
    have hprevious : (p ++ f.skipped).getLast?.or before =
        f.skipped.getLast?.or (p.getLast?.or before) := getLast?_or_append p f.skipped before
    cases hl : readLexeme standardStrings (f.skipped.getLast?.or (p.getLast?.or before)) f.value
        f.rest with
    | ok r =>
      refine ⟨_, _, _, lexFrom_of_readLexeme_eq_ok hf hl, ?_⟩
      exact lexFrom_of_readLexeme_eq_ok hsearch (by rw [hprevious, hl])
    | error construct =>
      refine ⟨_, _, _, lexFrom_of_readLexeme_eq_error hf hl, ?_⟩
      exact lexFrom_of_readLexeme_eq_error hsearch (by rw [hprevious, hl])

end SqlBoundary
