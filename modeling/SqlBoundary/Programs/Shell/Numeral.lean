import SqlBoundary.Text.Basic

/-! # Numerals

An integer in a text is decimal, octal after a zero, or hexadecimal after a zero and an x. Words
hold 64 bits, and a number that does not fit is replaced by the nearest one that does.
-/

namespace SqlBoundary.Shell.Numeral

def isBlank (c : Char) : Bool := (9 ≤ c.toNat && c.toNat ≤ 13) || c = ' '

/-- The value of a digit of any radix up to 36. -/
def digit? (c : Char) : Option Nat :=
  if c.isDigit then some (c.toNat - '0'.toNat)
  else if c.isAlpha then some (c.toLower.toNat - 'a'.toNat + 10)
  else none

def isDigitOf (radix : Nat) (c : Char) : Bool := (digit? c).any (· < radix)

def ofDigits (radix : Nat) (digits : Text) : Nat :=
  digits.foldl (fun n c => n * radix + (digit? c).getD 0) 0

/-- Reads digits at the front of a text, of a radix that they show themselves. -/
def magnitude? (s : Text) : Option (Nat × Text) :=
  let ofRadix (radix : Nat) (s : Text) : Nat × Text :=
    let digits := s.takeWhile (isDigitOf radix)
    (ofDigits radix digits, s.drop digits.length)
  match s with
  | '0' :: x :: c :: rest =>
    if (x = 'x' || x = 'X') && isDigitOf 16 c then some (ofRadix 16 (c :: rest))
    else some (ofRadix 8 s)
  | '0' :: _ => some (ofRadix 8 s)
  | c :: _ => if c.isDigit then some (ofRadix 10 s) else none
  | [] => none

/-- A number at the front of a text: its sign, its magnitude and what follows it. -/
structure Reading where
  negative : Bool
  magnitude : Nat
  rest : Text

/-- Reads a number after white space and a sign. -/
def read? (s : Text) : Option Reading :=
  let s := s.dropWhile isBlank
  let (negative, digits) :=
    match s with
    | '-' :: rest => (true, rest)
    | '+' :: rest => (false, rest)
    | s => (false, s)
  (magnitude? digits).map fun (magnitude, rest) => ⟨negative, magnitude, rest⟩

namespace Reading

def value (r : Reading) : Int := if r.negative then -(r.magnitude : Int) else r.magnitude

/-- The nearest signed word. -/
def signed (r : Reading) : Int :=
  max (-(Int64.maxValue.toInt + 1)) (min Int64.maxValue.toInt r.value)

/-- The unsigned word, where a minus counts down from the number of words. -/
def unsigned (r : Reading) : Nat :=
  if UInt64.size ≤ r.magnitude then UInt64.size - 1
  else if r.negative then (UInt64.size - r.magnitude) % UInt64.size
  else r.magnitude

end Reading

/-- The number that a whole text is, blanks at its ends aside. -/
def ofText? (s : Text) : Option Int :=
  match read? s with
  | some r => if r.rest.all isBlank then some r.signed else none
  | none => none

end SqlBoundary.Shell.Numeral
