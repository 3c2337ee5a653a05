import SqlBoundary.Lex.Literal
import SqlBoundary.Lex.Comment

/-! # Lexemes

A text is a sequence of lexemes, up to the first construct that is never closed. The lexemes and
the open construct, one after another, spell the text.
-/

namespace SqlBoundary

/-- What can be left open at the end of a text. -/
inductive Construct
  | quotedString
  | quotedIdentifier
  | dollarQuotedString
  | blockComment
deriving DecidableEq

def Construct.name : Construct → Text
  | quotedString => "quoted string"
  | quotedIdentifier => "quoted identifier"
  | dollarQuotedString => "dollar-quoted string"
  | blockComment => "/* comment"

inductive Lexeme
  | plain (text : Text)
  | separator
  | literal (text : Text)
  | comment (text : Text)
deriving DecidableEq

def Lexeme.text : Lexeme → Text
  | plain t => t
  | separator => [';']
  | literal t => t
  | comment t => t

@[simp] theorem Lexeme.text_plain (t : Text) : (plain t).text = t := rfl

@[simp] theorem Lexeme.text_separator : separator.text = [';'] := rfl

@[simp] theorem Lexeme.text_literal (t : Text) : (literal t).text = t := rfl

@[simp] theorem Lexeme.text_comment (t : Text) : (comment t).text = t := rfl

/-- The lexemes of a text, and the construct left open with its text. A plain lexeme may be
empty. -/
structure Lexing where
  lexemes : List Lexeme
  unfinished : Option (Construct × Text)

namespace Lexing

def text (l : Lexing) : Text := l.lexemes.flatMap Lexeme.text ++ (l.unfinished.elim [] (·.2))

def prepend (head : List Lexeme) (l : Lexing) : Lexing := { l with lexemes := head ++ l.lexemes }

theorem text_prepend (head : List Lexeme) (l : Lexing) :
    (l.prepend head).text = head.flatMap Lexeme.text ++ l.text := by
  simp [prepend, text]

end Lexing

/-- Reads the lexeme that a mark begins, or finds what is never closed. -/
def readLexeme (standardStrings : Bool) (previous : Option Char) (mark : Mark) (rest : Text) :
    Except Construct (Lexeme × Text) :=
  match mark with
  | .semicolon => .ok (.separator, rest)
  | .quote q =>
    match readQuoted? q (allowsBackslash standardStrings previous q) rest with
    | some (body, rest) => .ok (.literal (q.char :: body), rest)
    | none =>
      match q with
      | .single => .error .quotedString
      | .double => .error .quotedIdentifier
  | .dollar =>
    match if opensDollarQuote previous then readTag? rest else none with
    | none => .ok (.plain ['$'], rest)
    | some (tag, rest) =>
      match readThrough? ('$' :: tag) rest with
      | some (body, rest) => .ok (.literal ('$' :: tag ++ body), rest)
      | none => .error .dollarQuotedString
  | .lineComment =>
    .ok (.comment ('-' :: '-' :: (readLine rest).1), (readLine rest).2)
  | .blockComment =>
    match readBlock? 0 rest with
    | some (body, rest) => .ok (.comment ('/' :: '*' :: body), rest)
    | none => .error .blockComment

theorem readLexeme_append {standardStrings : Bool} {previous : Option Char} {mark : Mark}
    {rest rest' : Text} {lexeme : Lexeme}
    (h : readLexeme standardStrings previous mark rest = .ok (lexeme, rest')) :
    lexeme.text ++ rest' = mark.text ++ rest := by
  unfold readLexeme at h
  split at h
  next => cases h; rfl
  next q =>
    split at h
    next body tail read =>
      cases h
      simp [Mark.text, readQuoted?_append read]
    next => cases q <;> simp at h
  next =>
    split at h
    next => cases h; rfl
    next tag tail read =>
      split at h
      next body tail' through =>
        cases h
        have tagged : readTag? rest = some (tag, tail) := by
          split at read
          · exact read
          · simp at read
        have := readTag?_spells _ _ _ tagged
        simp only [id] at this
        simp [Mark.text, readThrough?_append through, this]
      next => simp at h
  next =>
    cases h
    simp [Mark.text, readLine_append]
  next =>
    split at h
    next body tail read =>
      cases h
      simp [Mark.text, readBlock?_append read]
    next => simp at h

theorem text_ne_nil_of_readLexeme {standardStrings : Bool} {previous : Option Char} {mark : Mark}
    {rest rest' : Text} {lexeme : Lexeme}
    (h : readLexeme standardStrings previous mark rest = .ok (lexeme, rest')) :
    lexeme.text ≠ [] := by
  unfold readLexeme at h
  split at h
  next => cases h; simp
  next q =>
    split at h
    next => cases h; simp
    next => cases q <;> simp at h
  next =>
    split at h
    next => cases h; simp
    next =>
      split at h
      next => cases h; simp
      next => simp at h
  next => cases h; simp
  next =>
    split at h
    next => cases h; simp
    next => simp at h

theorem length_lt_of_readLexeme {standardStrings : Bool} {previous : Option Char} {s rest : Text}
    {f : Found Mark} {lexeme : Lexeme} (found : search Mark.read? s = some f)
    (read : readLexeme standardStrings previous f.value f.rest = .ok (lexeme, rest)) :
    rest.length < s.length := by
  have whole := congrArg List.length (search_spells Mark.read?_spells found)
  have part := congrArg List.length (readLexeme_append read)
  have := List.length_pos_iff.2 (text_ne_nil_of_readLexeme read)
  simp only [List.length_append] at whole part
  omega

/-- The lexemes of a text that follows a given character. Plain text between two marks is one
lexeme, and a dollar sign that opens nothing is another. -/
def lexFrom (standardStrings : Bool) (before : Option Char) (s : Text) : Lexing :=
  match _ : search Mark.read? s with
  | none => ⟨[.plain s], none⟩
  | some f =>
    match _ : readLexeme standardStrings (f.skipped.getLast?.or before) f.value f.rest with
    | .ok (lexeme, rest) =>
      (lexFrom standardStrings lexeme.text.getLast? rest).prepend [.plain f.skipped, lexeme]
    | .error construct => ⟨[.plain f.skipped], some (construct, f.value.text ++ f.rest)⟩
termination_by s.length
decreasing_by exact length_lt_of_readLexeme ‹_› ‹_›

def lex (s : Text) (standardStrings : Bool) : Lexing := lexFrom standardStrings none s

theorem text_lexFrom (standardStrings : Bool) (before : Option Char) (s : Text) :
    (lexFrom standardStrings before s).text = s := by
  fun_induction lexFrom standardStrings before s with
  | case1 => simp [Lexing.text]
  | case2 before s f found lexeme rest read ih =>
    simp [Lexing.text_prepend, ih, readLexeme_append read, ← search_spells Mark.read?_spells found]
  | case3 before s f found construct read =>
    simp [Lexing.text, ← search_spells Mark.read?_spells found]

/-- Lexing loses nothing. -/
theorem text_lex (s : Text) (standardStrings : Bool) : (lex s standardStrings).text = s :=
  text_lexFrom standardStrings none s

end SqlBoundary
