import SqlBoundary.Programs.Regex.Basic
import SqlBoundary.Programs.Stray

/-! # Tokens of regular expressions

There are two ways to write an expression. In the basic one the characters that build expressions
are mostly escaped, in the extended one they are bare.
-/

namespace SqlBoundary.Regex

inductive Dialect
  | basic
  | extended
deriving DecidableEq

inductive Token
  | atom (e : Regex)
  | assertion (a : Assertion)
  | caret
  | dollar
  | star
  | plus
  | optional
  | interval (least : Nat) (most : Option Nat)
  | bar
  | opening
  | closing

def readNumber? (s : Text) : Option (Nat × Text) :=
  match s.takeWhile Char.isDigit with
  | [] => none
  | digits =>
    some (digits.foldl (fun n c => n * 10 + (c.toNat - '0'.toNat)) 0, s.dropWhile Char.isDigit)

def maxRepetition : Nat := 32767

/-- Reads the bounds of a repetition through what closes them. Without a lower bound it is zero; the
two bounds have to be in order. -/
def readInterval? (close : Text) (s : Text) : Option (Token × Text) := do
  let (least, rest) ←
    match readNumber? s with
    | some read => some read
    | none => if s.head? = some ',' then some (0, s) else none
  let (most, rest) ←
    match rest with
    | ',' :: rest =>
      match readNumber? rest with
      | some (most, rest) => some (some most, rest)
      | none => some (none, rest)
    | rest => some (some least, rest)
  let rest ← Text.afterPrefix? close rest
  if (most.getD least) < least || maxRepetition < most.getD least then none
  else some (.interval least most, rest)

def readName? (mark : Char) : Text → Option (Text × Text)
  | c :: ']' :: rest =>
    if c = mark then some ([], rest)
    else (readName? mark (']' :: rest)).map fun r => (c :: r.1, r.2)
  | c :: rest => (readName? mark rest).map fun r => (c :: r.1, r.2)
  | [] => none

def isOrdered (c : Char) : Bool := c.toNat < 128 || Stray.isStray c

/-- An end of a range: a character, perhaps written between dots. -/
def readRangeEnd? : Text → Option (Char × Text)
  | '[' :: '.' :: rest =>
    match readName? '.' rest with
    | some ([c], rest) => if isOrdered c then some (c, rest) else none
    | _ => none
  | '[' :: ':' :: _ | '[' :: '=' :: _ => none
  | c :: rest => some (c, rest)
  | [] => none

/-- The characters of a range, which has its ends in order. An octet stands for the character whose
code it is. -/
def rangeBetween? (low high : Char) : Option SetItem :=
  let coded (c : Char) : Char := if Stray.isStray c then Char.ofNat (c.toNat - Stray.base) else c
  if !isOrdered low || !isOrdered high || high < low then none
  else some (.range (coded low) (coded high))

def readSetItem? (first : Bool) (s : Text) : Option (SetItem × Text) :=
  match s with
  | '[' :: ':' :: rest => do
    let (name, rest) ← readName? ':' rest
    return (.named (← CharClass.ofName? name), rest)
  | '[' :: '=' :: rest =>
    match readName? '=' rest with
    | some ([c], rest) => if isOrdered c then some (.range c c, rest) else none
    | _ => none
  | s => do
    if !first && s.head? = some '-' && (s.drop 1).head? ≠ some ']' then none
    let (low, rest) ← readRangeEnd? s
    match rest with
    | '-' :: ']' :: _ => return (.range low low, rest)
    | '-' :: rest =>
      let (high, rest) ← readRangeEnd? rest
      return (← rangeBetween? low high, rest)
    | rest => return (.range low low, rest)

/-- Reads the parts of a bracket expression through the closing bracket, which stands for itself
where it comes first. -/
def readSet? (first : Bool) : (steps : Nat) → Text → Option (List SetItem × Text)
  | 0, _ => none
  | steps + 1, s =>
    match first, s with
    | false, ']' :: rest => some ([], rest)
    | _, s => do
      let (item, rest) ← readSetItem? first s
      let (items, rest) ← readSet? false steps rest
      return (item :: items, rest)

/-- A class that is written without brackets of its own is taken for a mistake: plain characters
between colons. -/
def looksLikeClass (inside : Text) (items : List SetItem) : Bool :=
  items.length = inside.length && inside.head? = some ':' && inside.getLast? = some ':' &&
    inside.any (· ≠ ':')

def readBracket? (s : Text) : Option (Token × Text) := do
  let negated := s.head? = some '^'
  let body := if negated then s.drop 1 else s
  let (items, rest) ← readSet? true (body.length + 1) body
  let inside := body.take (body.length - rest.length - 1)
  if looksLikeClass inside items then none else some (.atom (.oneOf negated items), rest)

def escaped? : Char → Option Token
  | 'w' => some (.atom (.word false))
  | 'W' => some (.atom (.word true))
  | 's' => some (.atom (.space false))
  | 'S' => some (.atom (.space true))
  | '<' => some (.assertion .wordStart)
  | '>' => some (.assertion .wordEnd)
  | 'b' => some (.assertion .wordBoundary)
  | 'B' => some (.assertion .insideOrOutsideWord)
  | '\x60' => some (.assertion .textStart)
  | '\'' => some (.assertion .textEnd)
  | 'n' => some (.atom (.char '\n'))
  | c =>
    if '1' ≤ c && c ≤ '9' then some (.atom (.reference (c.toNat - '0'.toNat))) else none

/-- What a character that builds expressions stands for: bare in the extended dialect, and after a
backslash in the basic one. -/
def operator? : Char → Option Token
  | '+' => some .plus
  | '?' => some .optional
  | '|' => some .bar
  | '(' => some .opening
  | ')' => some .closing
  | _ => none

def readToken? (d : Dialect) : Text → Option (Token × Text)
  | [] => none
  | '.' :: rest => some (.atom .any, rest)
  | '*' :: rest => some (.star, rest)
  | '^' :: rest => some (.caret, rest)
  | '$' :: rest => some (.dollar, rest)
  | '[' :: rest => readBracket? rest
  | '\\' :: c :: rest =>
    match escaped? c with
    | some token => some (token, rest)
    | none =>
      match d with
      | .basic =>
        if c = '\x7b' then readInterval? "\\\x7d" rest
        else some ((operator? c).getD (.atom (.char c)), rest)
      | .extended => some (.atom (.char c), rest)
  | ['\\'] => none
  | c :: rest =>
    match d with
    | .basic => some (.atom (.char c), rest)
    | .extended =>
      if c = '\x7b' then readInterval? "\x7d" rest
      else some ((operator? c).getD (.atom (.char c)), rest)

def readTokens? (d : Dialect) : (steps : Nat) → Text → Option (List Token)
  | _, [] => some []
  | 0, _ => none
  | steps + 1, s => do
    let (token, rest) ← readToken? d s
    return token :: (← readTokens? d steps rest)

end SqlBoundary.Regex
