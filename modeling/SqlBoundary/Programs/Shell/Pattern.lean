import SqlBoundary.Programs.CharClass

/-! # Patterns

A pattern is a text in which stars, question marks and brackets stand for other texts, unless they
are quoted. Octets are matched one by one.
-/

namespace SqlBoundary.Shell

inductive Member
  | range (low high : Char)
  | named (characters : CharClass)

inductive Wildcard
  | char (c : Char)
  | any
  | anyText
  | set (inverted : Bool) (members : List Member)

abbrev PatternChar := Char × Bool

/-- Octets of the upper half come before those of the lower one in ranges. -/
def Member.rank (c : Char) : Nat := (c.toNat + 128) % 256

def Member.holds (c : Char) : Member → Bool
  | range low high => rank low ≤ rank c && rank c ≤ rank high
  | named characters => c.toNat < 128 && characters.holds c

def Wildcard.accepts (c : Char) : Wildcard → Bool
  | char d => c = d
  | any | anyText => true
  | set inverted members => members.any (Member.holds c) ≠ inverted

namespace Pattern

def readClass? (s : List PatternChar) : Option (CharClass × List PatternChar) :=
  match s with
  | (':', false) :: rest =>
    let name := rest.takeWhile fun c => !c.2 && c.1.isAlpha
    match rest.drop name.length with
    | (':', false) :: (']', false) :: after =>
      (CharClass.ofName? (name.map (·.1))).map fun characters => (characters, after)
    | _ => none
  | _ => none

/-- Reads the members of a set through its closing bracket, which does not come first. -/
def readMembers? : (steps : Nat) → (first : Bool) → List PatternChar →
    Option (List Member × List PatternChar)
  | 0, _, _ => none
  | steps + 1, first, s =>
    match s with
    | [] => none
    | c :: rest =>
      if c = (']', false) && !first then some ([], rest)
      else
        let named? := if c = ('[', false) then readClass? rest else none
        match named?, rest with
        | some (characters, after), _ =>
          (readMembers? steps false after).map fun r => (.named characters :: r.1, r.2)
        | none, dash :: high :: after =>
          if dash = ('-', false) && high ≠ (']', false) then
            (readMembers? steps false after).map fun r => (.range c.1 high.1 :: r.1, r.2)
          else (readMembers? steps false rest).map fun r => (.range c.1 c.1 :: r.1, r.2)
        | none, rest => (readMembers? steps false rest).map fun r => (.range c.1 c.1 :: r.1, r.2)

/-- Reads a pattern. A bracket that is not closed stands for itself, and a backslash that is not
quoted quotes what follows it. -/
def read : (steps : Nat) → List PatternChar → List Wildcard
  | 0, _ | _, [] => []
  | steps + 1, ('*', false) :: rest => .anyText :: read steps rest
  | steps + 1, ('?', false) :: rest => .any :: read steps rest
  | steps + 1, ('\\', false) :: c :: rest => .char c.1 :: read steps rest
  | steps + 1, ('[', false) :: rest =>
    let inverted := rest.head? = some ('!', false)
    match readMembers? (rest.length + 1) true (if inverted then rest.drop 1 else rest) with
    | some (members, after) => .set inverted members :: read steps after
    | none => .char '[' :: read steps rest
  | steps + 1, c :: rest => .char c.1 :: read steps rest

def ofChars (s : List PatternChar) : List Wildcard := read (s.length + 1) s

/-- Whether a pattern matches the whole of a text. -/
def accepts : List Wildcard → Text → Bool
  | [], s => s.isEmpty
  | .anyText :: rest, [] => accepts rest []
  | .anyText :: rest, c :: s => accepts rest (c :: s) || accepts (.anyText :: rest) s
  | wildcard :: rest, c :: s => wildcard.accepts c && accepts rest s
  | _ :: _, [] => false
termination_by pattern s => pattern.length + s.length

/-- The text without the shortest or longest beginning that a pattern matches. -/
def trimFront (pattern : List Wildcard) (longest : Bool) (s : Text) : Text :=
  let lengths := List.range (s.length + 1)
  let fits (n : Nat) : Bool := accepts pattern (s.take n)
  match (if longest then lengths.reverse else lengths).find? fits with
  | some n => s.drop n
  | none => s

/-- The text without the shortest or longest end that a pattern matches. -/
def trimBack (pattern : List Wildcard) (longest : Bool) (s : Text) : Text :=
  let lengths := List.range (s.length + 1)
  let fits (n : Nat) : Bool := accepts pattern (s.drop n)
  match (if longest then lengths else lengths.reverse).find? fits with
  | some n => s.take n
  | none => s

end Pattern
end SqlBoundary.Shell
