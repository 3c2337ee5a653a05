import SqlBoundary.Text.Basic
import SqlBoundary.Text.Digit

/-! # Integers as a user writes them

An optional sign and decimal digits, where one underscore may stand between two digits and white
space may surround the whole. A text with a character outside ASCII may use any Unicode white
space and any script's digits.
-/

namespace SqlBoundary.Integer

/-- More digits than this are refused. -/
def maxDigits : Nat := 4300

/-- The white space that may surround an integer, once other white space is read as a space. -/
def isPadding (c : Char) : Bool :=
  let n := c.toNat
  n = 32 || (9 ≤ n && n ≤ 13)

/-- Reads a character outside ASCII as the space or the digit that it stands for. -/
def toAscii? (c : Char) : Option Char :=
  if c.toNat < 127 then some c
  else if isSpace c then some ' '
  else (decimalDigit? c).map Nat.digitChar

/-- The value of the digits read so far, and how many they are. -/
structure Digits where
  value : Nat
  count : Nat

def Digits.push (d : Digits) (c : Char) : Digits :=
  ⟨d.value * 10 + (c.toNat - '0'.toNat), d.count + 1⟩

/-- Reads digits to the end of the text; `afterDigit` tells whether an underscore may come next. -/
def readDigits? (d : Digits) (afterDigit : Bool) : Text → Option Digits
  | [] => if afterDigit then some d else none
  | c :: rest =>
    if c.isDigit then readDigits? (d.push c) true rest
    else if c = '_' && afterDigit then readDigits? d false rest
    else none

def readMagnitude? (s : Text) : Option Nat :=
  match readDigits? ⟨0, 0⟩ false s with
  | some d => if d.count ≤ maxDigits then some d.value else none
  | none => none

def readSigned? : Text → Option Int
  | '-' :: rest => (readMagnitude? rest).map fun n => -(n : Int)
  | '+' :: rest => (readMagnitude? rest).map Int.ofNat
  | s => (readMagnitude? s).map Int.ofNat

def read? (s : Text) : Option Int := do
  let ascii ← if s.all (·.toNat < 128) then some s else s.mapM toAscii?
  readSigned? (((ascii.dropWhile isPadding).reverse.dropWhile isPadding).reverse)

end SqlBoundary.Integer
