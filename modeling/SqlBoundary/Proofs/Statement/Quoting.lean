import SqlBoundary.Proofs.Statement.Content

/-! # Quoted texts

A text can be written as a literal in several ways. To a scan it is then one literal, whatever it
holds, so that literals with semicolons between them are split into the literals again.
-/

namespace SqlBoundary

open Text

variable {standardStrings : Bool}

/-- A text with `guard` in front of each character that needs it. -/
def guarded (needs : Char → Bool) (guard : Char) (s : Text) : Text :=
  s.flatMap fun c => if needs c then [guard, c] else [c]

/-- A way to write a text as a literal. -/
inductive Quoting
  | single
  | double
  | escape (capital : Bool)
  | dollar (tag : Text)
deriving DecidableEq

namespace Quoting

def write : Quoting → Text → Text
  | single, s => '\'' :: guarded (· = '\'') '\'' s ++ ['\'']
  | double, s => '"' :: guarded (· = '"') '"' s ++ ['"']
  | escape capital, s =>
    (if capital then 'E' else 'e') :: '\'' ::
      guarded (fun c => c = '\'' || c = '\\') '\\' s ++ ['\'']
  | dollar tag, s => tag ++ s ++ tag

/-- Between dollar quotes the tag must not come before the end of the text. -/
def Fits : Quoting → Text → Prop
  | single, _ | double, _ | escape _, _ => True
  | dollar tag, s => isTag tag = true ∧ ∀ i < s.length, ¬tag <+: (s ++ tag).drop i

instance (q : Quoting) (s : Text) : Decidable (q.Fits s) :=
  match q with
  | single | double | escape _ => inferInstanceAs (Decidable True)
  | dollar tag => inferInstanceAs (Decidable (isTag tag = true ∧ _))

end Quoting

/-- A text with a way to quote it. -/
structure QuotedText where
  quoting : Quoting
  payload : Text
  fits : quoting.Fits payload

namespace QuotedText

def text (x : QuotedText) : Text := x.quoting.write x.payload

/-- A backslash is only a character unless the dialect makes it an escape in every string. -/
def IsPlainUnder (standardStrings : Bool) (x : QuotedText) : Prop :=
  standardStrings = true ∨ (x.quoting = .single → '\\' ∉ x.payload)

instance (x : QuotedText) : Decidable (x.IsPlainUnder standardStrings) :=
  inferInstanceAs (Decidable (_ ∨ (_ → _)))

end QuotedText

theorem guarded_cons (needs : Char → Bool) (guard c : Char) (s : Text) :
    guarded needs guard (c :: s) =
      (if needs c then [guard, c] else [c]) ++ guarded needs guard s :=
  List.flatMap_cons

theorem mem_guarded {needs : Char → Bool} {guard c : Char} {s : Text}
    (h : c ∈ guarded needs guard s) : c ∈ s ∨ c = guard := by
  obtain ⟨d, hd, hc⟩ := List.mem_flatMap.1 h
  split at hc
  · obtain rfl | hc := List.mem_cons.1 hc
    · exact .inr rfl
    · exact .inl (List.mem_singleton.1 hc ▸ hd)
  · exact .inl (List.mem_singleton.1 hc ▸ hd)

section Readers
variable {quote : Quote} {escapes : Bool}

theorem search_readChar?_of_accepts {accept : Char → Bool} {c : Char} (hc : accept c = true)
    (s : Text) : search (readChar? accept) (c :: s) = some ⟨[], c, s⟩ :=
  search_eq_some_iff.2 (.here (by simp [readChar?, hc]))

theorem isDelimiter_char (quote : Quote) (escapes : Bool) :
    quote.isDelimiter escapes quote.char = true := by
  cases quote <;> simp [Quote.isDelimiter, Quote.char]

theorem readQuoted?_cons {c : Char} (hc : quote.isDelimiter escapes c = false) (s : Text) :
    readQuoted? quote escapes (c :: s) = prepend [c] (readQuoted? quote escapes s) := by
  have hskip := readChar?_eq_none (s := s) |>.2 hc
  cases hs : search (readChar? (quote.isDelimiter escapes)) s with
  | none =>
    rw [readQuoted?_eq_none hs, readQuoted?_eq_none (search_cons_eq_none.2 ⟨hskip, hs⟩)]
    rfl
  | some f =>
    obtain ⟨skipped, value, rest⟩ := f
    have hcons : search (readChar? (quote.isDelimiter escapes)) (c :: s) =
        some ⟨c :: skipped, value, rest⟩ :=
      search_eq_some_iff.2 (.skip hskip (search_eq_some_iff.1 hs))
    rw [readQuoted?_eq hs, readQuoted?_eq hcons]
    dsimp only
    split
    · split
      next => rfl
      next => exact (prepend_prepend [c] _ _).symm
    · split
      next => exact (prepend_prepend [c] _ _).symm
      next =>
        split
        next => exact (prepend_prepend [c] _ _).symm
        next => rfl

theorem readQuoted?_doubled (quote : Quote) (escapes : Bool) (s : Text) :
    readQuoted? quote escapes (quote.char :: quote.char :: s) =
      prepend [quote.char, quote.char] (readQuoted? quote escapes s) := by
  have hsearch := search_readChar?_of_accepts (isDelimiter_char quote escapes) (quote.char :: s)
  have hplain : ¬quote.char = '\\' := by cases quote <;> decide
  have hagain : afterPrefix? [quote.char] (quote.char :: s) = some s :=
    afterPrefix?_eq_some.2 rfl
  rw [readQuoted?_eq hsearch, if_neg hplain]
  simp only [hagain, List.nil_append]

theorem readQuoted?_backslash (c : Char) (s : Text) :
    readQuoted? .single true ('\\' :: c :: s) =
      prepend ['\\', c] (readQuoted? .single true s) := by
  have hdelimiter : Quote.single.isDelimiter true '\\' = true := rfl
  rw [readQuoted?_eq (search_readChar?_of_accepts hdelimiter (c :: s)), if_pos rfl]
  rfl

theorem readQuoted?_close (quote : Quote) (escapes : Bool) :
    readQuoted? quote escapes [quote.char] = some ([quote.char], []) := by
  have hsearch := search_readChar?_of_accepts (isDelimiter_char quote escapes) []
  have hplain : ¬quote.char = '\\' := by cases quote <;> decide
  rw [readQuoted?_eq hsearch, if_neg hplain]
  cases quote <;> rfl

/-- With a guard in front of each delimiter that takes it in, a text is read up to its close. -/
theorem readQuoted?_guarded {needs : Char → Bool} {guard : Char}
    (hneeds : ∀ c, quote.isDelimiter escapes c = needs c)
    (hguard : ∀ c s, needs c = true → readQuoted? quote escapes (guard :: c :: s) =
      prepend [guard, c] (readQuoted? quote escapes s)) (s : Text) :
    readQuoted? quote escapes (guarded needs guard s ++ [quote.char]) =
      some (guarded needs guard s ++ [quote.char], []) := by
  induction s with
  | nil => exact readQuoted?_close quote escapes
  | cons c s ih =>
    rw [guarded_cons]
    split
    next hc =>
      simp only [List.cons_append, List.nil_append, hguard c _ hc, ih]
      rfl
    next hc =>
      rw [Bool.not_eq_true, ← hneeds] at hc
      simp only [List.cons_append, List.nil_append, readQuoted?_cons hc, ih]
      rfl

theorem readQuoted?_guarded_char (quote : Quote) (s : Text) :
    readQuoted? quote false (guarded (· = quote.char) quote.char s ++ [quote.char]) =
      some (guarded (· = quote.char) quote.char s ++ [quote.char], []) := by
  refine readQuoted?_guarded (fun c => ?_) (fun c t hc => ?_) s
  · cases quote with
    | single => exact Bool.or_false _
    | double => rfl
  · obtain rfl := of_decide_eq_true hc
    exact readQuoted?_doubled quote false t

theorem readQuoted?_guarded_escape (s : Text) :
    readQuoted? .single true (guarded (fun c => c = '\'' || c = '\\') '\\' s ++ ['\'']) =
      some (guarded (fun c => c = '\'' || c = '\\') '\\' s ++ ['\''], []) :=
  readQuoted?_guarded (fun _ => rfl) (fun c t _ => readQuoted?_backslash c t) s

theorem search_readText?_of_first {tag s : Text}
    (h : ∀ i < s.length, ¬tag <+: (s ++ tag).drop i) :
    search (readText? tag) (s ++ tag) = some ⟨s, tag, []⟩ := by
  induction s with
  | nil => exact search_eq_some_iff.2 (.here (readText?_eq_some_iff.2 ⟨rfl, by simp⟩))
  | cons c s ih =>
    have hhere : readText? tag (c :: (s ++ tag)) = none := by
      rw [readText?, Option.map_eq_none_iff, afterPrefix?_eq_none]
      exact h 0 (Nat.zero_lt_succ _)
    have hrest := ih fun i hi => h (i + 1) (Nat.succ_lt_succ hi)
    exact search_eq_some_iff.2 (.skip hhere (search_eq_some_iff.1 hrest))

end Readers

/-- A text that is read as one literal, after nothing or the prefix of an escape string. -/
def IsLiteral (standardStrings : Bool) (s : Text) : Prop :=
  ∃ p t, s = p ++ t ∧ lex s standardStrings = ⟨[.plain p, .literal t, .plain []], none⟩

namespace IsLiteral
variable {s : Text}

theorem of_readLexeme {p t rest : Text} {mark : Mark}
    (hsearch : search Mark.read? s = some ⟨p, mark, rest⟩)
    (hread : readLexeme standardStrings p.getLast? mark rest = .ok (.literal t, [])) :
    IsLiteral standardStrings s := by
  refine ⟨p, t, ?_, ?_⟩
  · simpa using eq_append_of_readLexeme hsearch hread
  · rw [← Option.or_none (o := p.getLast?)] at hread
    rw [lex, lexFrom_of_readLexeme_eq_ok hsearch hread, lexFrom_nil]
    rfl

theorem of_readQuoted? {p body : Text} {quote : Quote}
    (hsearch : search Mark.read? s = some ⟨p, .quote quote, body⟩)
    (hread : readQuoted? quote (allowsBackslash standardStrings p.getLast? quote) body =
      some (body, [])) : IsLiteral standardStrings s := by
  refine of_readLexeme hsearch (t := quote.char :: body) ?_
  simp only [readLexeme, hread]

theorem isSlice (h : IsLiteral standardStrings s) : IsSlice standardStrings s := by
  obtain ⟨p, t, -, hlex⟩ := h
  constructor <;> simp [hlex]

theorem hasContent (h : IsLiteral standardStrings s) :
    (lex s standardStrings).shape.hasContent = true := by
  obtain ⟨p, t, -, hlex⟩ := h
  simp [hlex, Lexing.shape, Shape.hasContent, Lexeme.kind, LexemeKind.isContent]

theorem ne_nil (h : IsLiteral standardStrings s) : s ≠ [] := by
  rintro rfl
  obtain ⟨p, t, -, hlex⟩ := h
  rw [lex, lexFrom_nil] at hlex
  cases hlex

theorem stripped_eq (h : IsLiteral standardStrings s) :
    stripped none (lex s standardStrings).whole = s := by
  obtain ⟨p, t, hs, hlex⟩ := h
  rw [hlex, Lexing.whole_of_finished rfl]
  simp [stripped, Lexeme.kept, hs]

end IsLiteral

namespace QuotedText
variable (x : QuotedText)

theorem isLiteral (h : x.IsPlainUnder standardStrings) : IsLiteral standardStrings x.text := by
  obtain ⟨quoting, s, fits⟩ := x
  cases quoting with
  | single =>
    have hplain := readQuoted?_guarded_char .single s
    refine .of_readQuoted? (p := []) (search_eq_some_iff.2 (.here rfl)) ?_
    cases standardStrings with
    | true => exact hplain
    | false =>
      refine readQuoted?_escapes hplain fun hmem => ?_
      obtain hmem | hmem := List.mem_append.1 hmem
      · exact (mem_guarded hmem).elim (h.resolve_left nofun rfl) (by decide)
      · exact absurd (List.mem_singleton.1 hmem) (by decide)
  | double =>
    refine .of_readQuoted? (p := []) (search_eq_some_iff.2 (.here rfl)) ?_
    exact readQuoted?_guarded_char .double s
  | escape capital =>
    refine .of_readQuoted? (p := [if capital then 'E' else 'e'])
      (search_eq_some_iff.2 (.skip ?_ (.here rfl))) ?_
    · cases capital <;> rfl
    · have hescapes : allowsBackslash standardStrings
          (some (if capital then 'E' else 'e')) .single = true := by
        cases capital <;> simp [allowsBackslash]
      rw [List.getLast?_singleton, hescapes]
      exact readQuoted?_guarded_escape s
  | dollar tag =>
    obtain ⟨htag, hfirst⟩ := fits
    obtain ⟨name, rfl, -⟩ := isTag_iff.1 htag
    have hopens : readTag? (name ++ ['$'] ++ (s ++ '$' :: (name ++ ['$']))) =
        some (name ++ ['$'], s ++ '$' :: (name ++ ['$'])) :=
      readTag?_eq_some_iff.2 ⟨htag, rfl⟩
    have hsearch : search Mark.read? ('$' :: (name ++ ['$']) ++ s ++ '$' :: (name ++ ['$'])) =
        some ⟨[], .dollar, name ++ ['$'] ++ (s ++ '$' :: (name ++ ['$']))⟩ :=
      search_eq_some_iff.2 (.here (by simp [Mark.read?]))
    refine .of_readLexeme (t := '$' :: (name ++ ['$']) ++ (s ++ '$' :: (name ++ ['$']))) hsearch ?_
    simp only [readLexeme, opensDollarQuote, List.getLast?_nil, Option.any_none, Bool.not_false,
      if_true, hopens, readThrough?, search_readText?_of_first hfirst, Option.map_some]

theorem isTrimmed : IsTrimmed x.text := by
  obtain ⟨quoting, s, fits⟩ := x
  cases quoting with
  | single => exact isTrimmed_between (by decide) (by decide) _
  | double => exact isTrimmed_between (by decide) (by decide) _
  | escape capital =>
    exact isTrimmed_between (by cases capital <;> decide) (by decide) ('\'' :: guarded _ _ s)
  | dollar tag =>
    obtain ⟨name, rfl, -⟩ := isTag_iff.1 fits.1
    have := isTrimmed_between (c := '$') (d := '$') (by decide) (by decide)
      (name ++ '$' :: s ++ '$' :: name)
    simpa [text, Quoting.write] using this

end QuotedText

/-- Texts that can stand before a separator are the slices of what they make up with semicolons. -/
theorem slices_joinWith {ts : List Text} (hne : ts ≠ [])
    (h : ∀ t ∈ ts, IsSlice standardStrings t) :
    slices (joinWith [';'] ts) standardStrings = ts ∧
      (lex (joinWith [';'] ts) standardStrings).unfinished = none := by
  induction ts with
  | nil => exact absurd rfl hne
  | cons t ts ih =>
    have ht := h t List.mem_cons_self
    cases ts with
    | nil =>
      rw [joinWith_singleton]
      exact ⟨slices_of_not_mem ht.undivided, ht.finished⟩
    | cons u ts =>
      obtain ⟨hslices, hfinished⟩ := ih (by simp) fun v hv => h v (List.mem_cons_of_mem _ hv)
      rw [joinWith_cons_cons, List.singleton_append, ht.slices_append, hslices, ht.lex_append]
      exact ⟨rfl, hfinished⟩

/-- Trimmed literals with semicolons between them are split into the literals. -/
theorem splitCommand_joinWith_literals {ts : List Text} (hne : ts ≠ [])
    (hliteral : ∀ t ∈ ts, IsLiteral standardStrings t) (htrim : ∀ t ∈ ts, trim t = t)
    (stripComments keepEmpty : Bool) :
    splitCommand (joinWith [';'] ts) standardStrings stripComments keepEmpty = .ok ts := by
  obtain ⟨hslices, hfinished⟩ := slices_joinWith hne fun t ht => (hliteral t ht).isSlice
  have hscan : (scan (joinWith [';'] ts) standardStrings).unterminated = none :=
    Option.map_eq_none_iff.2 hfinished
  refine splitCommand_eq_ok_iff.2 ⟨hscan, ?_⟩
  cases stripComments with
  | false =>
    have hcontent : ∀ t ∈ ts, (keepEmpty || (lex t standardStrings).shape.hasContent) = true :=
      fun t ht => by rw [(hliteral t ht).hasContent, Bool.or_true]
    rw [selectStatements_eq_map_filter hscan, hslices, List.filter_eq_self.2 hcontent,
      List.map_congr_left htrim, List.map_id']
  | true =>
    have hstripped : splitStatements (joinWith [';'] ts)
        (scan (joinWith [';'] ts) standardStrings).points true = ts := by
      have hkept : ∀ t ∈ ts, trim (stripped none (lex t standardStrings).whole) = t :=
        fun t ht => by rw [(hliteral t ht).stripped_eq, htrim t ht]
      rw [splitStatements_true, hslices, List.map_congr_left hkept, List.map_id']
    simp only [selectStatements, hstripped, if_true, ite_eq_left_iff]
    refine fun _ => List.filter_eq_self.2 fun t ht => ?_
    simp [(hliteral t ht).ne_nil]

/-- Whatever texts are quoted, in whatever ways, they are split at the semicolons between the
literals and nowhere else. -/
theorem splitCommand_joinWith_quoted (xs : List QuotedText) (hne : xs ≠ [])
    (hplain : ∀ x ∈ xs, x.IsPlainUnder standardStrings) (stripComments keepEmpty : Bool) :
    splitCommand (joinWith [';'] (xs.map QuotedText.text)) standardStrings stripComments
      keepEmpty = .ok (xs.map QuotedText.text) := by
  refine splitCommand_joinWith_literals (by simpa using hne) (fun t ht => ?_) (fun t ht => ?_)
    stripComments keepEmpty
  · obtain ⟨x, hx, rfl⟩ := List.mem_map.1 ht
    exact x.isLiteral (hplain x hx)
  · obtain ⟨x, -, rfl⟩ := List.mem_map.1 ht
    exact x.isTrimmed.trim_eq

/-- Literals that hold semicolons, marks of comments, each other's quotes and a part of a tag. -/
theorem splitCommand_joinWith_quoted_four :
    splitCommand "'--''$$;';\"/*\"\"';\";e'\\\\;\\'';$a$$;$b$'$a$" false true false =
      .ok ["'--''$$;'".toList, "\"/*\"\"';\"".toList, "e'\\\\;\\''".toList,
        "$a$$;$b$'$a$".toList] :=
  splitCommand_joinWith_quoted
    [⟨.single, "--'$$;", trivial⟩, ⟨.double, "/*\"';", trivial⟩,
      ⟨.escape false, "\\;'", trivial⟩, ⟨.dollar "$a$", "$;$b$'", by decide⟩]
    (by simp) (by decide) true false

end SqlBoundary
