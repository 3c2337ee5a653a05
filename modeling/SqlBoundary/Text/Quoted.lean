import SqlBoundary.Text.Basic
import SqlBoundary.Text.Printable

/-! # Quoted texts

A quoted text shows every character visibly: single quotes surround it, unless it holds a single
quote and no double quote, and unprintable characters are written by their code points.
-/

namespace SqlBoundary.Quoted

/-- The hexadecimal digits of a number, in lower case and at least `width` of them. -/
def hexDigits (width n : Nat) : Text :=
  let digits := Nat.toDigits 16 n
  List.replicate (width - digits.length) '0' ++ digits

def quoteFor (s : Text) : Char :=
  if s.contains '\'' && !s.contains '"' then '"' else '\''

def escape (quote c : Char) : Text :=
  let n := c.toNat
  if c = quote || c = '\\' then ['\\', c]
  else if c = '\n' then ['\\', 'n']
  else if c = '\r' then ['\\', 'r']
  else if c = '\t' then ['\\', 't']
  else if isPrintable c then [c]
  else if n < 0x100 then '\\' :: 'x' :: hexDigits 2 n
  else if n < 0x10000 then '\\' :: 'u' :: hexDigits 4 n
  else '\\' :: 'U' :: hexDigits 8 n

def encode (s : Text) : Text :=
  let quote := quoteFor s
  quote :: s.flatMap (escape quote) ++ [quote]

end SqlBoundary.Quoted
