import SqlBoundary.Programs.Shell.Numeral

/-! # Decimal fractions

A fraction is read as the nearest double and written from the exact value of that. Half a unit of
the last digit goes to the even neighbour, in reading and in writing.
-/

namespace SqlBoundary.Shell

inductive Decimal
  | finite (negative : Bool) (numerator denominator : Nat)
  | infinite (negative : Bool)
  | undefined (negative : Bool)

namespace Decimal

def roundedQuotient (numerator denominator : Nat) : Nat :=
  let quotient := numerator / denominator
  let twice := 2 * (numerator % denominator)
  if denominator < twice || (twice = denominator && quotient % 2 = 1) then quotient + 1
  else quotient

def binaryMagnitude (numerator denominator : Nat) : Int :=
  let guess : Int := numerator.log2 - denominator.log2
  if denominator <<< guess.toNat ≤ numerator <<< (-guess).toNat then guess else guess - 1

/-- Doubles nearer to zero than this power of two have fewer digits. -/
def leastNormalExponent : Int := -1022

def precision : Nat := 52

/-- The nearest double to a quotient that is not zero, and whether it is out of range: too large to
be finite, or so near to zero that digits are lost. -/
def nearest (negative : Bool) (numerator denominator : Nat) : Decimal × Bool :=
  let units (unit : Int) : Nat × Nat :=
    (numerator <<< (-unit).toNat, denominator <<< unit.toNat)
  let exponent := binaryMagnitude numerator denominator
  let full := units (exponent - precision)
  let carries := roundedQuotient full.1 full.2 = 1 <<< (precision + 1)
  let tiny := exponent < leastNormalExponent && !(exponent + 1 = leastNormalExponent && carries)
  let unit := max exponent leastNormalExponent - precision
  let (dividend, divisor) := units unit
  let digits := roundedQuotient dividend divisor
  if (digits <<< unit.toNat).log2 < 1024 then
    (finite negative (digits <<< unit.toNat) (1 <<< (-unit).toNat),
      tiny && dividend % divisor ≠ 0)
  else (infinite negative, true)

/-- The nearest double to a significand times a power of a base. Powers that are out of range by far
are not worked out. -/
def ofScientific (negative : Bool) (base significand : Nat) (exponent : Int) : Decimal × Bool :=
  let least : Int := significand.log2 + base.log2 * exponent
  if significand = 0 then (finite negative 0 1, false)
  else if 0 < exponent && 1024 < least then (infinite negative, true)
  else if exponent < 0 && least < -1100 then (finite negative 0 1, true)
  else
    nearest negative (significand * Nat.pow base exponent.toNat) (Nat.pow base (-exponent).toNat)

structure Reading where
  value : Decimal
  outOfRange : Bool
  rest : Text

def readExponent (letter : Char) (s : Text) : Int × Text :=
  let signed (negative : Bool) (rest : Text) : Int × Text :=
    let digits := rest.takeWhile Char.isDigit
    let n : Int := Numeral.ofDigits 10 digits
    if digits.isEmpty then (0, s) else (if negative then -n else n, rest.drop digits.length)
  match s with
  | c :: rest =>
    if c.toLower ≠ letter then (0, s)
    else
      match rest with
      | '-' :: rest => signed true rest
      | '+' :: rest => signed false rest
      | rest => signed false rest
  | [] => (0, s)

/-- Reads digits of a radix with a point and an exponent. The exponent is one of a base of which so
many places make a digit. -/
def readDigits? (negative : Bool) (radix base places : Nat) (letter : Char) (s : Text) :
    Option Reading :=
  let isDigit := Numeral.isDigitOf radix
  let whole := s.takeWhile isDigit
  let afterWhole := s.drop whole.length
  let part :=
    if afterWhole.head? = some '.' then (afterWhole.drop 1).takeWhile isDigit else []
  if whole.isEmpty && part.isEmpty then none
  else
    let afterPart :=
      if afterWhole.head? = some '.' then afterWhole.drop (part.length + 1) else afterWhole
    let (exponent, rest) := readExponent letter afterPart
    let significand := Numeral.ofDigits radix (whole ++ part)
    let (value, outOfRange) :=
      ofScientific negative base significand (exponent - places * part.length)
    some ⟨value, outOfRange, rest⟩

/-- Reads what may follow the name of the undefined value: a name in parentheses. -/
def skipPayload (s : Text) : Text :=
  match s with
  | '(' :: rest =>
    match rest.dropWhile fun c => c.isAlphanum || c = '_' with
    | ')' :: rest => rest
    | _ => s
  | _ => s

/-- Reads a fraction after white space and a sign: a decimal one, a hexadecimal one after a zero and
an x, or the name of a value that is not finite. -/
def read? (s : Text) : Option Reading :=
  let s := s.dropWhile Numeral.isBlank
  let (negative, s) :=
    match s with
    | '-' :: rest => (true, rest)
    | '+' :: rest => (false, rest)
    | s => (false, s)
  let lower := Text.toLower s
  if ("infinity" : Text).isPrefixOf lower then some ⟨infinite negative, false, s.drop 8⟩
  else if ("inf" : Text).isPrefixOf lower then some ⟨infinite negative, false, s.drop 3⟩
  else if ("nan" : Text).isPrefixOf lower then
    some ⟨undefined negative, false, skipPayload (s.drop 3)⟩
  else
    let hexadecimal := if ("0x" : Text).isPrefixOf lower then
      readDigits? negative 16 2 4 'p' (s.drop 2) else none
    hexadecimal.or (readDigits? negative 10 10 1 'e' s)

def powerOfTen (n : Nat) : Nat := Nat.pow 10 n

def magnitude (numerator denominator : Nat) : Int :=
  let guess : Int := (Text.ofNat numerator).length - (Text.ofNat denominator).length
  if denominator * powerOfTen guess.toNat ≤ numerator * powerOfTen (-guess).toNat then guess
  else guess - 1

def significant (places numerator denominator : Nat) : Nat × Int :=
  if numerator = 0 then (0, 0)
  else
    let exponent := magnitude numerator denominator
    let shift := (places : Int) - exponent
    let digits := roundedQuotient (numerator * powerOfTen shift.toNat)
      (denominator * powerOfTen (-shift).toNat)
    if digits = powerOfTen (places + 1) then (powerOfTen places, exponent + 1)
    else (digits, exponent)

/-- Digits with a point before the last places, which is left out where it would come last. -/
def withPoint (places : Nat) (pointed : Bool) (digits : Nat) : Text :=
  let t := Text.ofNat digits
  let t := List.replicate (places + 1 - t.length) '0' ++ t
  let whole := t.take (t.length - places)
  whole ++ (if places = 0 && !pointed then [] else ['.']) ++ t.drop whole.length

def mostPlaces : Nat := 1100

def fixed (places : Nat) (pointed : Bool) (numerator denominator : Nat) : Text :=
  let exact := min places mostPlaces
  withPoint exact pointed (roundedQuotient (numerator * powerOfTen exact) denominator) ++
    List.replicate (places - exact) '0'

def exponentText (exponent : Int) : Text :=
  let digits := Text.ofNat exponent.natAbs
  'e' :: (if exponent < 0 then '-' else '+') :: List.replicate (2 - digits.length) '0' ++ digits

def scientific (places : Nat) (pointed : Bool) (numerator denominator : Nat) : Text :=
  let exact := min places mostPlaces
  let (digits, exponent) := significant exact numerator denominator
  withPoint exact pointed digits ++ List.replicate (places - exact) '0' ++ exponentText exponent

def trimZeros (t : Text) : Text :=
  if t.contains '.' then
    ((t.reverse.dropWhile (· = '0')).dropWhile (· = '.')).reverse
  else t

def general (digits : Nat) (pointed : Bool) (numerator denominator : Nat) : Text :=
  let places := min (max digits 1 - 1) mostPlaces
  let exponent := (significant places numerator denominator).2
  let trim (t : Text) : Text := if pointed then t else trimZeros t
  if exponent < -4 || places < exponent then
    let t := withPoint places pointed (significant places numerator denominator).1
    trim t ++ exponentText exponent
  else trim (fixed (places - exponent).toNat pointed numerator denominator)

/-- A binary notation with hexadecimal digits, as many as are needed if no number of them is given.
The first of them is one, unless the double is zero or nearer to zero than the others. -/
def hexadecimal (places : Option Nat) (pointed : Bool) (numerator denominator : Nat) : Text :=
  let exponent : Int := max (-1022) (numerator.log2 - denominator.log2)
  let scaled := (numerator <<< (52 + (-exponent).toNat)) / (denominator <<< exponent.toNat)
  let exponent := if numerator = 0 then 0 else exponent
  let kept := min (places.getD 13) 13
  let digits := roundedQuotient scaled (1 <<< (4 * (13 - kept)))
  let t := Nat.toDigits 16 (digits % (1 <<< (4 * kept)))
  let fraction := if kept = 0 then [] else List.replicate (kept - t.length) '0' ++ t
  let fraction :=
    match places with
    | none => (fraction.reverse.dropWhile (· = '0')).reverse
    | some places => fraction ++ List.replicate (places - kept) '0'
  let point : Text := if fraction.isEmpty && !pointed then [] else ['.']
  '0' :: 'x' :: Text.ofNat (digits >>> (4 * kept)) ++ point ++ fraction ++ 'p' ::
    (if exponent < 0 then '-' else '+') :: Text.ofNat exponent.natAbs

def isNegative : Decimal → Bool
  | finite negative _ _ | infinite negative | undefined negative => negative

def render (letter : Char) (precision : Option Nat) (pointed : Bool) : Decimal → Text
  | infinite _ => "inf"
  | undefined _ => "nan"
  | finite _ numerator denominator =>
    let places := precision.getD 6
    if letter = 'a' then hexadecimal precision pointed numerator denominator
    else if letter = 'f' then fixed places pointed numerator denominator
    else if letter = 'e' then scientific places pointed numerator denominator
    else general places pointed numerator denominator

end Decimal
end SqlBoundary.Shell
