import SqlBoundary.Proofs.Scan.Machine
import SqlBoundary.Proofs.Scan.Position

/-! # The scanner does what the machine does

A search runs the machine through characters that leave it where it is. A reader of a literal or
a comment runs it from the opening mark back to plain text or to the end of the text. Lexeme by
lexeme the scanner therefore finds the split points of the machine.
-/

namespace SqlBoundary.Machine

variable {standardStrings : Bool}

def quoteMode (escapes : Bool) : Quote → Mode
  | .single => .single escapes
  | .double => .double

def quoteConstruct : Quote → Construct
  | .single => .quotedString
  | .double => .quotedIdentifier

theorem idles_quote (standardStrings escapes : Bool) (quote : Quote) :
    Idles standardStrings (quoteMode escapes quote) (readChar? (quote.isDelimiter escapes)) := by
  intro p i c s h
  rw [readChar?_eq_none] at h
  cases quote with
  | single =>
    simp only [Quote.isDelimiter, Bool.or_eq_false_iff, decide_eq_false_iff_not] at h
    simp only [quoteMode, move, moveSingle]
    split
    next tail heq =>
      obtain ⟨rfl, -⟩ := List.cons.inj heq
      have hplain : escapes = false := by simpa using h.2
      rw [hplain]
      rfl
    next tail heq => exact absurd (List.cons.inj heq).1 h.1
    next tail _ heq => exact absurd (List.cons.inj heq).1 h.1
    next => rfl
  | double =>
    simp only [Quote.isDelimiter, decide_eq_false_iff_not] at h
    simp only [quoteMode, move, moveDouble]
    split
    next tail heq => exact absurd (List.cons.inj heq).1 h
    next tail _ heq => exact absurd (List.cons.inj heq).1 h
    next => rfl

theorem moveSingle_joint (escapes : Bool) {s joint rest : Text} (hs : s.head? ≠ some '\'')
    (h : readContinuation? s = some (joint, rest)) :
    moveSingle escapes ('\'' :: s) = ⟨.single escapes, joint.length, []⟩ := by
  obtain ⟨hbreak, hquote, rfl⟩ := readContinuation?_eq_some_iff.1 h
  cases s with
  | nil => simp at hquote
  | cons c s =>
    have hc : c ≠ '\'' := by simpa using hs
    unfold moveSingle
    split <;> simp_all

theorem moveSingle_close (escapes : Bool) {s : Text} (hs : s.head? ≠ some '\'')
    (h : readContinuation? s = none) : moveSingle escapes ('\'' :: s) = .stay .normal := by
  have hopen : ¬ ('\n' ∈ s.takeWhile isSpace ∧ (s.dropWhile isSpace).head? = some '\'') := by
    rintro ⟨hbreak, hquote⟩
    obtain ⟨rest, hrest⟩ := List.head?_eq_some_iff.1 hquote
    have := readContinuation?_eq_some_iff.2 ⟨hbreak, hrest, rfl⟩
    rw [h] at this
    cases this
  cases s with
  | nil => rfl
  | cons c s =>
    have hc : c ≠ '\'' := by simpa using hs
    unfold moveSingle
    split <;> simp_all

theorem head?_ne_of_afterPrefix?_eq_none {c : Char} {s : Text}
    (h : Text.afterPrefix? [c] s = none) : s.head? ≠ some c := by
  intro hc
  obtain ⟨rest, rfl⟩ := List.head?_eq_some_iff.1 hc
  have := Text.afterPrefix?_eq_some.2 (List.singleton_append (x := c) (l := rest)).symm
  rw [h] at this
  cases this

theorem run_joint {quote : Quote} {escapes : Bool} {s joint rest : Text}
    (hs : s.head? ≠ some quote.char) (h : readJoint? quote s = some (joint, rest))
    (p : Option Char) (i : Nat) :
    run standardStrings ⟨quoteMode escapes quote, 0, p, i⟩ (quote.char :: s) =
      run standardStrings ⟨quoteMode escapes quote, 0, joint.getLast?.or (some quote.char),
        i + 1 + joint.length⟩ rest := by
  cases quote with
  | double => cases h
  | single =>
    have hmove := moveSingle_joint escapes hs h
    have hspell : joint ++ rest = s := readContinuation?_spells _ _ _ h
    simp only [quoteMode, Quote.char, run_cons, move, hmove, addPoints_nil]
    rw [← hspell, run_skip]

theorem run_close {quote : Quote} {escapes : Bool} {s : Text} (hs : s.head? ≠ some quote.char)
    (h : readJoint? quote s = none) (p : Option Char) (i : Nat) :
    run standardStrings ⟨quoteMode escapes quote, 0, p, i⟩ (quote.char :: s) =
      run standardStrings ⟨.normal, 0, some quote.char, i + 1⟩ s := by
  cases quote with
  | single =>
    have hmove := moveSingle_close escapes hs h
    simp only [quoteMode, Quote.char, run_cons, move, hmove]
    rfl
  | double =>
    have hmove : moveDouble ('"' :: s) = .stay .normal := by
      cases s with
      | nil => rfl
      | cons c s =>
        have hc : c ≠ '"' := by simpa [Quote.char] using hs
        unfold moveDouble
        split <;> simp_all
    simp only [quoteMode, Quote.char, run_cons, move, hmove]
    rfl

theorem eq_single_of_backslash {quote : Quote} {escapes : Bool} {s : Text} {f : Found Char}
    (hf : search (readChar? (quote.isDelimiter escapes)) s = some f) (h : f.value = '\\') :
    quote = .single ∧ escapes = true := by
  obtain ⟨t, -, hread⟩ := search_read hf
  have hdelimiter := readChar?_accepts hread
  rw [h] at hdelimiter
  cases quote <;> simp_all [Quote.isDelimiter]

/-- The machine leaves a quoted literal where the reader of the literal does. -/
theorem run_readQuoted (quote : Quote) (escapes : Bool) (s : Text) (p : Option Char) (i : Nat) :
    run standardStrings ⟨quoteMode escapes quote, 0, p, i⟩ s =
      resume standardStrings (fun _ => []) (quoteConstruct quote) p i
        (readQuoted? quote escapes s) := by
  have idles := idles_quote standardStrings escapes quote
  fun_induction readQuoted? quote escapes s generalizing p i with
  | case1 s hs =>
    rw [idles.run_of_search_eq_none hs]
    cases quote <;> rfl
  | case2 s f hf hbackslash hrest =>
    rw [idles.run_of_search_eq_some (readChar?_spells _) hf, hbackslash, hrest]
    obtain ⟨rfl, rfl⟩ := eq_single_of_backslash hf hbackslash
    rfl
  | case3 s f hf hbackslash c rest hrest ih =>
    rw [idles.run_of_search_eq_some (readChar?_spells _) hf, hbackslash, hrest, resume_prepend,
      ← ih]
    obtain ⟨rfl, rfl⟩ := eq_single_of_backslash hf hbackslash
    simp only [getLast?_or_append, List.length_append]
    rfl
  | case4 s f hf hplain rest hrest ih =>
    rw [idles.run_of_search_eq_some (readChar?_spells _) hf, eq_char_of_search hf hplain,
      Text.afterPrefix?_eq_some.1 hrest, resume_prepend, ← ih]
    simp only [getLast?_or_append, List.length_append]
    cases quote <;> rfl
  | case5 s f hf hplain hrest joint rest hjoint ih =>
    rw [idles.run_of_search_eq_some (readChar?_spells _) hf, eq_char_of_search hf hplain,
      List.singleton_append, run_joint (head?_ne_of_afterPrefix?_eq_none hrest) hjoint,
      resume_prepend, ← ih, getLast?_or_append, getLast?_or_cons, List.length_append,
      List.length_cons, Nat.add_right_comm _ 1, Nat.add_assoc, Nat.add_assoc]
  | case6 s f hf hplain hrest hjoint =>
    rw [idles.run_of_search_eq_some (readChar?_spells _) hf, eq_char_of_search hf hplain,
      List.singleton_append, run_close (head?_ne_of_afterPrefix?_eq_none hrest) hjoint]
    simp only [resume, addPoints_nil, getLast?_or_append, List.length_append]
    rfl

theorem idles_dollar (standardStrings : Bool) (tag : Text) :
    Idles standardStrings (.dollar tag) (readText? tag) := by
  intro p i c s h
  rw [readText?, Option.map_eq_none_iff, afterPrefix?_eq_none] at h
  simp only [move, moveDollar, if_neg h]

theorem run_readThrough {tag : Text} (htag : tag ≠ []) (s : Text) (p : Option Char) (i : Nat) :
    run standardStrings ⟨.dollar tag, 0, p, i⟩ s =
      resume standardStrings (fun _ => []) .dollarQuotedString p i (readThrough? tag s) := by
  have idles := idles_dollar standardStrings tag
  unfold readThrough?
  cases hs : search (readText? tag) s with
  | none => rw [idles.run_of_search_eq_none hs]; rfl
  | some f =>
    obtain ⟨t, -, hread⟩ := search_read hs
    have hvalue : f.value = tag := (readText?_eq_some_iff.1 hread).1
    rw [idles.run_of_search_eq_some (readText?_spells tag) hs, id, hvalue]
    obtain ⟨c, w, rfl⟩ := List.exists_cons_of_ne_nil htag
    have hmove : moveDollar (c :: w) (c :: w ++ f.rest) = ⟨.normal, w.length, []⟩ :=
      if_pos (List.prefix_append _ _)
    rw [List.cons_append] at hmove
    simp only [List.cons_append, run_cons, move, hmove, addPoints_nil, Option.map_some, resume,
      hvalue]
    rw [run_skip, getLast?_or_append, getLast?_or_cons, List.length_append, List.length_cons,
      Nat.add_right_comm _ 1, Nat.add_assoc, Nat.add_assoc]

/-- A line comment is found at its end, also where the text ends first. -/
theorem run_readLine (start : Nat) (s : Text) (p : Option Char) (i : Nat) :
    run standardStrings ⟨.line start, 0, p, i⟩ s =
      addPoints [.comment start (i + (readLine s).1.length)]
        (run standardStrings ⟨.normal, 0, (readLine s).1.getLast?.or p,
          i + (readLine s).1.length⟩ (readLine s).2) := by
  induction s generalizing p i with
  | nil => rfl
  | cons c s ih =>
    by_cases hc : c = '\n'
    · subst hc
      rw [readLine_newline]
      rfl
    · have hmove : moveLine start i (c :: s) = .stay (.line start) := by
        unfold moveLine
        split <;> simp_all
      simp only [readLine_cons hc, run_cons, move, hmove, getLast?_or_cons, List.length_cons]
      change run standardStrings ⟨.line start, 0, some c, i + 1⟩ s = _
      rw [ih, Nat.add_right_comm i 1, Nat.add_assoc]

theorem idles_block (standardStrings : Bool) (start depth : Nat) :
    Idles standardStrings (.block start depth) BlockDelimiter.read? := by
  intro p i c s h
  simp only [move, moveBlock]
  split
  next tail heq => simp [heq, BlockDelimiter.read?] at h
  next tail heq => simp [heq, BlockDelimiter.read?] at h
  next => rfl

theorem run_readBlock (start inner : Nat) (s : Text) (p : Option Char) (i : Nat) :
    run standardStrings ⟨.block start (inner + 1), 0, p, i⟩ s =
      resume standardStrings (fun stop => [.comment start stop]) .blockComment p i
        (readBlock? inner s) := by
  have idles := idles_block standardStrings start
  fun_induction readBlock? inner s generalizing p i with
  | case1 inner s hs => rw [(idles _).run_of_search_eq_none hs]; rfl
  | case2 s f hf hvalue =>
    rw [(idles _).run_of_search_eq_some BlockDelimiter.read?_spells hf, hvalue]
    simp only [resume, getLast?_or_append, List.length_append]
    rfl
  | case3 s f hf inner hvalue ih =>
    rw [(idles _).run_of_search_eq_some BlockDelimiter.read?_spells hf, hvalue, resume_prepend,
      ← ih]
    simp only [getLast?_or_append, List.length_append]
    rfl
  | case4 s f hf inner hvalue ih =>
    rw [(idles _).run_of_search_eq_some BlockDelimiter.read?_spells hf, hvalue, resume_prepend,
      ← ih]
    simp only [getLast?_or_append, List.length_append]
    rfl

theorem idles_normal : Idles standardStrings .normal Mark.read? := by
  intro p i c s h
  simp only [move, moveNormal]
  split
  next tail heq => simp [heq, Mark.read?] at h
  next tail heq => simp [heq, Mark.read?] at h
  next tail heq => simp [heq, Mark.read?] at h
  next tail heq => simp [heq, Mark.read?] at h
  next tail heq => simp [heq, Mark.read?] at h
  next tail heq => simp [heq, Mark.read?] at h
  next => rfl

/-- A text starts with at most one tag, and the reader finds it. -/
theorem tagAhead?_dollar (s : Text) :
    tagAhead? ('$' :: s) = (readTag? s).map fun (tag, _) => '$' :: tag := by
  have tagged {t : Text} (hs : t <+: '$' :: s) (ht : isTag t = true) :
      ∃ tag rest, t = '$' :: tag ∧ readTag? s = some (tag, rest) := by
    obtain ⟨name, rfl, -⟩ := isTag_iff.1 ht
    obtain ⟨rest, hrest⟩ := hs
    exact ⟨_, rest, rfl, readTag?_eq_some_iff.2 ⟨ht, (List.cons.inj hrest).2.symm⟩⟩
  unfold tagAhead?
  cases h : ('$' :: s).inits.find? isTag with
  | some t =>
    have hs := (List.mem_inits _ _).1 (List.mem_of_find?_eq_some h)
    obtain ⟨tag, rest, rfl, hread⟩ := tagged hs (List.find?_some h)
    rw [hread, Option.map_some]
  | none =>
    cases hread : readTag? s with
    | none => rfl
    | some r =>
      obtain ⟨htag, rfl⟩ := readTag?_eq_some_iff.1 hread
      have hs : '$' :: r.1 <+: '$' :: (r.1 ++ r.2) := ⟨r.2, rfl⟩
      exact absurd htag (List.find?_eq_none.1 h _ ((List.mem_inits _ _).2 hs))

/-- What the machine does from the mark of a lexeme on, told by the reader of the lexeme. -/
def advance (standardStrings : Bool) (i : Nat) : Except Construct (Lexeme × Text) → Scan
  | .ok (lexeme, rest) => addPoints (lexeme.point? i).toList
      (run standardStrings ⟨.normal, 0, lexeme.text.getLast?, i + lexeme.text.length⟩ rest)
  | .error construct => ⟨[], some construct⟩

/-- A reader that starts after `head` completes the lexeme that starts with `head`. -/
theorem resume_eq_advance (lexeme : Text → Lexeme) (found : Nat → List SplitPoint) {i : Nat}
    (htext : ∀ t, (lexeme t).text = t)
    (hfound : ∀ t, ((lexeme t).point? i).toList = found (i + t.length))
    (unterminated : Construct) (head : Text) (r : Option (Text × Text)) :
    resume standardStrings found unterminated head.getLast? (i + head.length) r =
      advance standardStrings i (match r with
        | some (body, rest) => .ok (lexeme (head ++ body), rest)
        | none => .error unterminated) := by
  cases r with
  | none => rfl
  | some r =>
    simp only [resume, advance, htext, hfound, List.getLast?_append, List.length_append,
      Nat.add_assoc]

theorem run_quote (quote : Quote) (p : Option Char) (i : Nat) (rest : Text) :
    run standardStrings ⟨.normal, 0, p, i⟩ (quote.char :: rest) =
      advance standardStrings i (readLexeme standardStrings p (.quote quote) rest) := by
  have hmove : run standardStrings ⟨.normal, 0, p, i⟩ (quote.char :: rest) =
      run standardStrings ⟨quoteMode (allowsBackslash standardStrings p quote) quote, 0,
        some quote.char, i + 1⟩ rest := by
    cases quote <;> rfl
  rw [hmove, run_readQuoted]
  refine (resume_eq_advance .literal _ (fun _ => rfl) (fun _ => rfl) _ [quote.char] _).trans ?_
  cases hread : readQuoted? quote (allowsBackslash standardStrings p quote) rest with
  | none => cases quote <;> simp only [readLexeme, hread] <;> rfl
  | some r => simp only [readLexeme, hread, List.singleton_append]

theorem run_dollar (p : Option Char) (i : Nat) (rest : Text) :
    run standardStrings ⟨.normal, 0, p, i⟩ ('$' :: rest) =
      advance standardStrings i (readLexeme standardStrings p .dollar rest) := by
  have htag : (if p.any isIdentifierChar then none else tagAhead? ('$' :: rest)) =
      (if opensDollarQuote p then readTag? rest else none).map fun (tag, _) => '$' :: tag := by
    rw [tagAhead?_dollar, opensDollarQuote]
    cases p.any isIdentifierChar <;> rfl
  simp only [run_cons, move, moveNormal, htag, readLexeme]
  cases hread : if opensDollarQuote p then readTag? rest else none with
  | none => rfl
  | some r =>
    obtain ⟨tag, body⟩ := r
    obtain ⟨-, rfl⟩ : isTag ('$' :: tag) = true ∧ rest = tag ++ body := by
      rw [Option.ite_none_right_eq_some] at hread
      exact readTag?_eq_some_iff.1 hread.2
    simp only [Option.map_some, List.length_cons, Nat.add_sub_cancel, addPoints_nil]
    rw [run_skip, run_readThrough (List.cons_ne_nil _ _), ← getLast?_or_cons _ _ none,
      Option.or_none, Nat.add_assoc, Nat.add_comm 1, ← List.length_cons]
    exact resume_eq_advance .literal _ (fun _ => rfl) (fun _ => rfl) _ _ _

/-- One lexeme of the scanner is a run of the machine from plain text to plain text. -/
theorem run_mark (p : Option Char) (i : Nat) (mark : Mark) (rest : Text) :
    run standardStrings ⟨.normal, 0, p, i⟩ (mark.text ++ rest) =
      advance standardStrings i (readLexeme standardStrings p mark rest) := by
  cases mark with
  | semicolon => rfl
  | quote q => exact run_quote q p i rest
  | dollar => exact run_dollar p i rest
  | lineComment =>
    change run standardStrings ⟨.line i, 0, some '-', i + 2⟩ rest = _
    rw [run_readLine]
    exact resume_eq_advance .comment (fun stop => [.comment i stop]) (fun _ => rfl) (fun _ => rfl)
      .blockComment ['-', '-'] (some (readLine rest))
  | blockComment =>
    change run standardStrings ⟨.block i (0 + 1), 0, some '*', i + 2⟩ rest = _
    rw [run_readBlock]
    exact resume_eq_advance .comment _ (fun _ => rfl) (fun _ => rfl) _ ['/', '*'] _

/-- The machine in plain text finds the split points of the lexemes ahead. -/
theorem run_normal_eq_lexFrom (before : Option Char) (i : Nat) (s : Text) :
    run standardStrings ⟨.normal, 0, before, i⟩ s =
      ⟨pointsFrom i (lexFrom standardStrings before s).lexemes,
        (lexFrom standardStrings before s).unfinished.map (·.1)⟩ := by
  fun_induction lexFrom standardStrings before s generalizing i with
  | case1 before s hs =>
    rw [idles_normal.run_of_search_eq_none hs]
    rfl
  | case2 before s f hf lexeme rest hread ih =>
    rw [idles_normal.run_of_search_eq_some Mark.read?_spells hf, run_mark, hread, advance, ih]
    rfl
  | case3 before s f hf construct hread =>
    rw [idles_normal.run_of_search_eq_some Mark.read?_spells hf, run_mark, hread]
    rfl

/-- Jumping from mark to mark finds what the machine finds one character at a time. -/
theorem scan_eq_run (s : Text) (standardStrings : Bool) :
    scan s standardStrings = run standardStrings State.initial s :=
  (run_normal_eq_lexFrom none 0 s).symm

end SqlBoundary.Machine
