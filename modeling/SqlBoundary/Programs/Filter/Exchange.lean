import SqlBoundary.Programs.Filter.CharacterSet

/-! # Exchanging octets

Octets of one set are replaced by those of another, deleted, or written once where they repeat. The
second set is brought to the length of the first by repeating its last octet.
-/

namespace SqlBoundary.Filter.Exchange

def known : List Known :=
  [{ letter := 'c', names := ["complement"] }, { letter := 'C' },
    { letter := 'd', names := ["delete"] }, { letter := 's', names := ["squeeze-repeats"] },
    { letter := 't', names := ["truncate-set1"] }]

def expand (parts : List SetPart) : Text := parts.flatMap SetPart.octets

def complement (octets : Text) : Text :=
  ((List.range 256).map Char.ofNat).filter fun c => !octets.contains c

def isUnbounded (part : SetPart) : Bool :=
  match part with
  | .repeated _ none => true
  | _ => false

/-- Lets the one repetition without a count fill a set up to a length. -/
def fill (parts : List SetPart) (length : Nat) : List SetPart :=
  let lacking := length - (expand parts).length
  parts.map fun part =>
    match part with
    | .repeated c none => .repeated c (some lacking)
    | part => part

/-- An octet of a set, or a class that may take part in a change of case. -/
inductive Slot
  | octet (c : Char)
  | letters (characters : CharClass)

def slots (parts : List SetPart) : List Slot :=
  parts.flatMap fun part =>
    match part with
    | .named .upper => [.letters .upper]
    | .named .lower => [.letters .lower]
    | part => part.octets.map .octet

def casePairs (source target : CharClass) : List (Char × Char) :=
  if source = target then []
  else
    (SetPart.octetsOf source).map fun c =>
      (c, if target = .upper then c.toUpper else c.toLower)

/-- Pairs the slots of two sets; gives what is left of the first once the second is used up. A class
of the second has to meet one of the first. -/
def pair : (steps : Nat) → List Slot → List Slot → Option (List (Char × Char) × List Slot)
  | 0, _, _ => none
  | steps + 1, source, target =>
    match source, target with
    | .letters a :: source, .letters b :: target =>
      (pair steps source target).map fun r => (casePairs a b ++ r.1, r.2)
    | _, .letters _ :: _ => none
    | .letters a :: source, .octet d :: target =>
      pair steps ((SetPart.octetsOf a).map .octet ++ source) (.octet d :: target)
    | .octet c :: source, .octet d :: target =>
      (pair steps source target).map fun r => ((c, d) :: r.1, r.2)
    | source, [] => some ([], source)
    | [], _ => some ([], [])

def Slot.octets : Slot → Text
  | octet c => [c]
  | letters characters => SetPart.octetsOf characters

def filler? (parts : List SetPart) : Option Char :=
  match parts.getLast? with
  | some (.named _) | none => none
  | some (.repeated c _) => some c
  | some part => part.octets.getLast?

/-- Pairs for the octets that the second set is too short for. -/
def lengthen? (truncates : Bool) (target : List SetPart) (left : Text) :
    Option (List (Char × Char)) :=
  if left.isEmpty || truncates then some []
  else (filler? target).map fun d => left.map fun c => (c, d)

/-- The octets that an exchange puts in the place of others; later pairs win. The exchange of all
octets outside a set with classes has to be to one octet. -/
def pairs? (complements truncates : Bool) (source target : List SetPart) :
    Option (List (Char × Char)) := do
  let allowed (part : SetPart) : Bool :=
    match part with
    | .same _ => false
    | .named characters => characters = .upper || characters = .lower
    | _ => true
  if !target.all allowed then none
  else if complements then
    let outside := complement (expand source)
    let inside := expand target
    let extra ← lengthen? truncates target (outside.drop inside.length)
    let pairs := outside.zip inside ++ extra
    let hasClass := source.any fun part =>
      match part with
      | .named _ => true
      | _ => false
    let uniform := pairs.all fun p => pairs.head?.any (·.2 = p.2)
    if hasClass && !(uniform && pairs.length = outside.length && inside.length ≤ outside.length)
    then none
    else some pairs
  else
    let steps := (expand source).length + source.length + 1
    let (pairs, left) ← pair steps (slots source) (slots target)
    return pairs ++ (← lengthen? truncates target (left.flatMap Slot.octets))

/-- Writes neighbours of one kind once where they are in a set. -/
def squeeze (set : Text) : Text → Text
  | c :: d :: rest =>
    if c = d && set.contains c then squeeze set (d :: rest) else c :: squeeze set (d :: rest)
  | s => s

def exchange (pairs : List (Char × Char)) (s : Text) : Text :=
  let latest := pairs.reverse
  s.map fun c => (latest.lookup c).getD c

def exchanged? (a : Arguments) (input : Text) : Option Text := do
  let deletes := a.has 'd'
  let squeezes := a.has 's'
  let complements := a.has 'c' || a.has 'C'
  match a.operands with
  | [first] =>
    if deletes = squeezes then none
    else
      let source ← CharacterSet.read? first
      if source.any isUnbounded then none
      else
        let set := if complements then complement (expand source) else expand source
        return if deletes then input.filter (!set.contains ·) else squeeze set input
  | [first, second] =>
    if deletes && !squeezes then none
    else
      let source ← CharacterSet.read? first
      let target ← CharacterSet.read? second
      if source.any isUnbounded then none
      else
        let set := if complements then complement (expand source) else expand source
        if deletes then
          if target.any isUnbounded then none
          else return squeeze (expand target) (input.filter (!set.contains ·))
        else if 1 < (target.filter isUnbounded).length then none
        else
          let target := fill target set.length
          let pairs ← pairs? complements (a.has 't') source target
          let exchanged := exchange pairs input
          return if squeezes then squeeze (expand target) exchanged else exchanged
  | _ => none

def run (files : Files) (arguments : List Text) (input : Text) : Effect :=
  match (Arguments.read known false arguments).toOption.bind (exchanged? · input) with
  | some output => { chunks := [.output output], files }
  | none => .failure files

end SqlBoundary.Filter.Exchange
