import SqlBoundary.Programs.Filter.Arguments
import SqlBoundary.Programs.CharClass

/-! # Sets of octets

A set names octets in an order: singly, by ranges, by classes, and by repetition. A backslash makes
an octet plain or names one.
-/

namespace SqlBoundary.Filter

/-- A part of a set. A repetition without a count fills the set up. -/
inductive SetPart
  | range (low high : Char)
  | named (characters : CharClass)
  | same (c : Char)
  | repeated (c : Char) (count : Option Nat)
deriving DecidableEq

namespace SetPart

/-- A set is never written out further than this many repetitions of one octet. -/
def mostRepeated : Nat := 100000

/-- Octets outside ASCII belong to no class. -/
def octetsOf (characters : CharClass) : Text :=
  ((List.range 128).map Char.ofNat).filter characters.holds

def octets : SetPart → Text
  | range low high =>
    (List.range (high.toNat + 1 - low.toNat)).map fun i => Char.ofNat (low.toNat + i)
  | named characters => octetsOf characters
  | same c => [c]
  | repeated c count => List.replicate (min (count.getD 0) mostRepeated) c

end SetPart

namespace CharacterSet

def ofLetter? : Char → Option Char
  | 'a' => some '\x07'
  | 'b' => some '\x08'
  | 'f' => some '\x0c'
  | 'n' => some '\n'
  | 'r' => some '\r'
  | 't' => some '\t'
  | 'v' => some '\x0b'
  | _ => none

def isOctalDigit (c : Char) : Bool := '0' ≤ c && c ≤ '7'

def octal (digits : Text) : Nat := digits.foldl (fun n c => n * 8 + (c.toNat - '0'.toNat)) 0

/-- The octal digits at the front, at most three and no more than make an octet. -/
def octalDigits (s : Text) : Text :=
  let digits := (s.take 3).takeWhile isOctalDigit
  if 255 < octal digits then digits.take 2 else digits

/-- Resolves backslashes; tells of each octet whether one stood before it. -/
def unescape (s : Text) : List (Char × Bool) :=
  match s with
  | [] => []
  | ['\\'] => [('\\', false)]
  | '\\' :: c :: rest =>
    if isOctalDigit c then
      let digits := octalDigits (c :: rest)
      (Char.ofNat (octal digits), true) :: unescape (rest.drop (digits.length - 1))
    else ((ofLetter? c).getD c, true) :: unescape rest
  | c :: rest => (c, false) :: unescape rest
termination_by s.length
decreasing_by all_goals grind

def isPlain (c : Char) (octet : Char × Bool) : Bool := octet = (c, false)

/-- Reads a name through a mark and a bracket that stand for themselves. -/
def readName? (mark : Char) : List (Char × Bool) → Option (Text × List (Char × Bool))
  | c :: d :: rest =>
    if isPlain mark c && isPlain ']' d then some ([], rest)
    else (readName? mark (d :: rest)).map fun r => (c.1 :: r.1, r.2)
  | _ => none

/-- A count, octal after a zero; it has to fit 64 bits. -/
def count? (digits : Text) : Option (Option Nat) :=
  if digits.isEmpty then some none
  else
    let radix := if digits.head? = some '0' then 8 else 10
    if digits.all fun c => c.isDigit && c.toNat - '0'.toNat < radix then
      let count := digits.foldl (fun n c => n * radix + (c.toNat - '0'.toNat)) 0
      if count < UInt64.size then some (some count) else none
    else none

inductive Bracket
  | none
  | invalid
  | part (p : SetPart) (rest : List (Char × Bool))

/-- Reads a repetition, after its bracket. -/
def readRepeated (s : List (Char × Bool)) : Bracket :=
  match s with
  | c :: star :: rest =>
    if isPlain '*' star then
      let digits := rest.takeWhile fun octet => !octet.2 && octet.1 ≠ ']'
      match rest.drop digits.length with
      | close :: after =>
        if isPlain ']' close then
          match count? (digits.map (·.1)) with
          | some count => .part (.repeated c.1 (count.filter (· ≠ 0))) after
          | none => .invalid
        else .none
      | [] => .none
    else .none
  | _ => .none

/-- Whether a star, digits and a closing bracket follow. -/
def closesRepetition (s : List (Char × Bool)) : Bool :=
  match s with
  | star :: rest =>
    isPlain '*' star && (rest.dropWhile (·.1.isDigit)).head?.any (isPlain ']')
  | [] => false

/-- Reads what a bracket begins: a class, an equivalence or a repetition. -/
def readBracket (s : List (Char × Bool)) : Bracket :=
  match s with
  | mark :: rest =>
    if isPlain ':' mark || isPlain '=' mark then
      match readName? mark.1 rest with
      | none => readRepeated s
      | some (name, after) =>
        let part :=
          if name.isEmpty then none
          else if mark.1 = ':' then (CharClass.ofName? name).map .named
          else if name.length = 1 then name.head?.map .same
          else none
        match part with
        | some part => .part part after
        | none =>
          if !name.isEmpty && closesRepetition rest then readRepeated s else .invalid
    else readRepeated s
  | [] => .none

/-- Reads the parts of a set. The last two octets are plain, and ranges have their ends in order. -/
def readParts? : (steps : Nat) → List (Char × Bool) → Option (List SetPart)
  | 0, _ => some []
  | steps + 1, s =>
    match s with
    | first :: second :: third :: rest =>
      match if isPlain '[' first then readBracket (second :: third :: rest) else .none with
      | .invalid => none
      | .part part after => (readParts? steps after).map (part :: ·)
      | .none =>
        if isPlain '-' second then
          if third.1 < first.1 then none
          else (readParts? steps rest).map (.range first.1 third.1 :: ·)
        else (readParts? steps (second :: third :: rest)).map (.range first.1 first.1 :: ·)
    | short => some (short.map fun octet => .range octet.1 octet.1)

def read? (s : Text) : Option (List SetPart) :=
  let octets := unescape s
  readParts? (octets.length + 1) octets

end CharacterSet
end SqlBoundary.Filter
