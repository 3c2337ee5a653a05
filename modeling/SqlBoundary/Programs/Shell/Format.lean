import SqlBoundary.Programs.Shell.Decimal
import SqlBoundary.Programs.Shell.Escape

/-! # Formats

A format holds directives that are replaced by arguments. It is written again while arguments are
left; a directive without an argument gets an empty one.
-/

namespace SqlBoundary.Shell

/-- How an argument is laid out. A width or precision of more than 31 bits is excessive. -/
structure Directive where
  left : Bool
  plus : Bool
  blank : Bool
  zero : Bool
  alternate : Bool
  width : Nat
  precision : Option Nat
  excessive : Bool := false

namespace Directive

/-- The largest width and precision. -/
def maxSize : Nat := 2147483647

/-- Whether what a directive asks for is too long to be written. -/
def isTooLong (d : Directive) (letter : Char) : Bool :=
  let isFraction := ("aef" : Text).contains letter.toLower
  d.excessive || (isFraction && d.precision.any (maxSize - 64 < ·))

/-- Widths are kept below this bound. -/
def maxWidth : Nat := 1000000

/-- Fills a text up to the width, between its sign and its body with zeros. -/
def fill (d : Directive) (zeros : Bool) (sign body : Text) : Text :=
  let lacking := d.width - (sign.length + body.length)
  if d.left then sign ++ body ++ List.replicate lacking ' '
  else if zeros then sign ++ List.replicate lacking '0' ++ body
  else List.replicate lacking ' ' ++ sign ++ body

def signOf (d : Directive) (negative : Bool) : Text :=
  if negative then ['-'] else if d.plus then ['+'] else if d.blank then [' '] else []

def text (d : Directive) (t : Text) : Text :=
  d.fill false [] (match d.precision with
    | some n => t.take n
    | none => t)

/-- Digits, at least as many as the precision asks for; nothing where it asks for none of zero. -/
def digits (d : Directive) (sign : Text) (n : Nat) (t : Text) : Text :=
  match d.precision with
  | none => d.fill d.zero sign t
  | some least =>
    let t := if n = 0 && least = 0 then [] else t
    d.fill false sign (List.replicate (min least maxWidth - t.length) '0' ++ t)

def signed (d : Directive) (n : Int) : Text :=
  d.digits (d.signOf (n < 0)) n.natAbs (Text.ofNat n.natAbs)

def octal (d : Directive) (n : Nat) : Text :=
  let t := Nat.toDigits 8 n
  let least := if d.alternate && n ≠ 0 then t.length + 1 else 0
  let empty := n = 0 && d.precision = some 0
  if d.alternate && empty then d.fill false [] ['0']
  else
    match d.precision with
    | some p => { d with precision := some (max p least) }.digits [] n t
    | none =>
      if d.zero then d.digits [] n (List.replicate (least - t.length) '0' ++ t)
      else { d with precision := some (max 1 least) }.digits [] n t

def hexadecimal (d : Directive) (upper : Bool) (n : Nat) : Text :=
  let t := Nat.toDigits 16 n
  let sign : Text := if d.alternate && n ≠ 0 then "0x" else []
  let case (t : Text) : Text := if upper then t.map Char.toUpper else t
  d.digits (case sign) n (case t)

def fraction (d : Directive) (letter : Char) (x : Decimal) : Text :=
  let t := x.render letter.toLower (d.precision.map (min maxWidth)) d.alternate
  let t := if letter.isUpper then t.map Char.toUpper else t
  let finite :=
    match x with
    | .finite _ _ _ => true
    | _ => false
  let base := if letter.toLower = 'a' && finite then t.take 2 else []
  d.fill (d.zero && finite) (d.signOf x.isNegative ++ base) (t.drop base.length)

end Directive

/-- What has been written of a format, with complaints about arguments, and what arguments are
left. -/
structure Printing where
  arguments : List Text
  output : Text := []
  complaints : List Text := []

namespace Printing

/-- How the writing of a format ends: at its end, at an escape that ends the output, or at a
directive that makes no sense. -/
inductive Ending
  | finished
  | cut
  | refused (complaint : Text)

def put (t : Text) (p : Printing) : Printing := { p with output := p.output ++ t }

def complain (complaint : Option Text) (p : Printing) : Printing :=
  { p with complaints := p.complaints ++ complaint.toList }

def take (p : Printing) : Option Text × Printing :=
  (p.arguments.head?, { p with arguments := p.arguments.drop 1 })

/-- The code of what follows a quote at the front of an argument. -/
def quotedCode? : Text → Option Nat
  | '\'' :: rest | '"' :: rest => some (rest.head?.elim 0 Char.toNat)
  | _ => none

/-- What is wrong with an argument after reading it as a number. -/
def complaint? (t : Text) (rest : Option Text) (outOfRange : Bool) : Option Text :=
  match rest with
  | none => if t.isEmpty then none else some (t ++ ": expected numeric value".toList)
  | some (_ :: _) => some (t ++ ": not completely converted".toList)
  | some [] =>
    if outOfRange then some (t ++ ": Numerical result out of range".toList) else none

def takeSigned (p : Printing) : Int × Printing :=
  match p.take with
  | (none, p) => (0, p)
  | (some t, p) =>
    match quotedCode? t, Numeral.read? t with
    | some code, _ => (code, p)
    | none, none => (0, p.complain (complaint? t none false))
    | none, some r => (r.signed, p.complain (complaint? t (some r.rest) (r.signed ≠ r.value)))

def takeUnsigned (p : Printing) : Nat × Printing :=
  match p.take with
  | (none, p) => (0, p)
  | (some t, p) =>
    match quotedCode? t, Numeral.read? t with
    | some code, _ => (code, p)
    | none, none => (0, p.complain (complaint? t none false))
    | none, some r =>
      (r.unsigned, p.complain (complaint? t (some r.rest) (UInt64.size ≤ r.magnitude)))

def takeFraction (p : Printing) : Decimal × Printing :=
  match p.take with
  | (none, p) => (.finite false 0 1, p)
  | (some t, p) =>
    match quotedCode? t, Decimal.read? t with
    | some code, _ => (.finite false code 1, p)
    | none, none => (.finite false 0 1, p.complain (complaint? t none false))
    | none, some r => (r.value, p.complain (complaint? t (some r.rest) r.outOfRange))

/-- Reads a width or a precision: digits, or a star that takes an argument of 32 bits. -/
def size (s : Text) (p : Printing) : Int × Text × Printing :=
  match s with
  | '*' :: rest =>
    let (n, p) := p.takeSigned
    (n.bmod UInt32.size, rest, p)
  | s =>
    let digits := s.takeWhile Char.isDigit
    (Numeral.ofDigits 10 digits, s.drop digits.length, p)

/-- Reads a directive up to its letter. -/
def directive (s : Text) (p : Printing) : Directive × Text × Printing :=
  let flags := s.takeWhile fun c => ("#-+ 0" : Text).contains c
  let (width, s, p) := size (s.drop flags.length) p
  let (precision, s, p) :=
    match s with
    | '.' :: rest =>
      let (n, s, p) := size rest p
      (if n < 0 then none else some n.toNat, s, p)
    | s => (none, s, p)
  (⟨flags.contains '-' || width < 0, flags.contains '+', flags.contains ' ', flags.contains '0',
    flags.contains '#', min width.natAbs Directive.maxWidth, precision,
    Directive.maxSize < width.natAbs || precision.any (Directive.maxSize < ·)⟩, s, p)

/-- Writes an argument as a letter asks for it, if it is one that is known. -/
def convert? (d : Directive) (letter : Char) (p : Printing) : Option (Printing × Bool) :=
  match letter with
  | 's' =>
    let (argument, p) := p.take
    some (p.put (d.text (argument.getD [])), false)
  | 'b' =>
    let (argument, p) := p.take
    let (t, ends) := Escape.expand (argument.getD [])
    some (p.put (d.text t), ends)
  | 'c' =>
    let (argument, p) := p.take
    some (p.put (d.fill false [] [(argument.getD []).head?.getD '\x00']), false)
  | 'd' | 'i' =>
    let (n, p) := p.takeSigned
    some (p.put (d.signed n), false)
  | 'o' =>
    let (n, p) := p.takeUnsigned
    some (p.put (d.octal n), false)
  | 'u' =>
    let (n, p) := p.takeUnsigned
    some (p.put (d.digits [] n (Text.ofNat n)), false)
  | 'x' | 'X' =>
    let (n, p) := p.takeUnsigned
    some (p.put (d.hexadecimal (letter = 'X') n), false)
  | 'a' | 'A' | 'e' | 'E' | 'f' | 'F' | 'g' | 'G' =>
    let (x, p) := p.takeFraction
    some (p.put (d.fraction letter x), false)
  | _ => none

/-- Writes a format once. -/
def once : (steps : Nat) → Text → Printing → Printing × Ending
  | 0, _, p | _, [], p => (p, .finished)
  | steps + 1, '%' :: '%' :: rest, p => once steps rest (p.put ['%'])
  | steps + 1, '%' :: s, p =>
    let (d, rest, p) := p.directive s
    match rest with
    | [] => (p, .refused "missing format character")
    | letter :: after =>
      match p.convert? d letter with
      | some (q, ends) =>
        if d.isTooLong letter then
          ({ q with output := p.output }, .refused "xvsnprintf failed")
        else if ends then (q, .cut)
        else once steps after q
      | none =>
        let length := s.length - after.length
        (p, .refused ('%' :: s.take length ++ ": invalid directive".toList))
  | steps + 1, '\\' :: rest, p =>
    let (octet, after) := Escape.read rest
    once steps after (p.put [octet])
  | steps + 1, c :: rest, p => once steps rest (p.put [c])

/-- Writes a format as long as it uses up arguments. -/
def all : (steps : Nat) → Text → Printing → Printing × Ending
  | 0, _, p => (p, .finished)
  | steps + 1, format, p =>
    match once (format.length + 1) format p with
    | (q, .finished) =>
      if q.arguments.isEmpty || q.arguments.length = p.arguments.length then (q, .finished)
      else all steps format q
    | r => r

end Printing
end SqlBoundary.Shell
