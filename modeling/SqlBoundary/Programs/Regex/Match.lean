import SqlBoundary.Programs.Regex.Basic
import SqlBoundary.Programs.Stray

/-! # Matching

Of all matches the leftmost is taken, and of those the longest. Where that can come about in several
ways, earlier alternatives and further repetitions are preferred.
-/

namespace SqlBoundary.Regex

structure Place where
  position : Nat
  previous : Option Char
  rest : Text
  groups : List (Nat × Nat × Nat) := []

/-- A text may be matched line by line: then only a line feed itself matches a line feed. Where
lines end in a null character, nothing matches that, and the ends of the text are those of its
lines. -/
structure Mode where
  ignoreCase : Bool := false
  multiline : Bool := false
  nullEnded : Bool := false

namespace Mode

def endsLine (m : Mode) (c : Char) : Bool :=
  m.multiline && c = if m.nullEnded then '\x00' else '\n'

def bars (m : Mode) (c : Char) : Bool := m.nullEnded && m.endsLine c

end Mode

namespace Place

def step (p : Place) : Option (Char × Place) :=
  match p.rest with
  | [] => none
  | c :: rest => some (c, { p with position := p.position + 1, previous := some c, rest })

def asserts (m : Mode) (p : Place) (a : Assertion) : Bool :=
  let before := p.previous.any isWordChar
  let after := p.rest.head?.any isWordChar
  match a with
  | .lineStart => p.previous.all m.endsLine
  | .lineEnd => p.rest.head?.all m.endsLine
  | .textStart => p.previous.all m.bars
  | .textEnd => p.rest.head?.all m.bars
  | .wordStart => !before && after
  | .wordEnd => before && !after
  | .wordBoundary => before != after
  | .insideOrOutsideWord => before == after

def past (m : Mode) (p : Place) : Text → Option Place
  | [] => some p
  | d :: text =>
    match p.step with
    | none => none
    | some (c, p) =>
      let same := c = d || (m.ignoreCase && LetterCase.toUpper c = LetterCase.toUpper d)
      if same && !m.bars c then p.past m text else none

/-- Steps over a character that is accepted. A stray octet is none. -/
def single (m : Mode) (p : Place) (accepts : Char → Bool) : List Place :=
  match p.step with
  | some (c, next) => if accepts c && !m.bars c && !Stray.isStray c then [next] else []
  | none => []

end Place

def sameWay (exact : Bool) (p q : Place) : Bool :=
  p.position = q.position && (!exact || p.groups = q.groups)

def firsts (exact : Bool) (places : List Place) : List Place :=
  (places.foldl (fun kept p => if kept.any (sameWay exact p) then kept else p :: kept) []).reverse

/-- The places reached by taking a step up to so many times, each time getting farther: more steps
come before fewer. `found` are those found before, the last one first, each with the steps that were
left; a place that was found with as many steps left is not tried again. -/
def climb (exact bounded : Bool) (next : Place → List Place) :
    (most : Nat) → (found : List (Nat × Place)) → Place → List (Nat × Place)
  | 0, found, p => (0, p) :: found
  | most + 1, found, p =>
    let found := (next p).foldl (fun found q =>
      if q.position ≤ p.position then found
      else if found.any fun f => (!bounded || f.1 = most) && sameWay exact q f.2 then found
      else climb exact bounded next most found q) found
    (most + 1, p) :: found

def times (exact : Bool) (next : Place → List Place) : (count : Nat) → List Place → List Place
  | 0, places => places
  | count + 1, places => times exact next count (firsts exact (places.flatMap next))

/-- The places where a match that begins at a place can end, in the order of preference. -/
def ends (m : Mode) (exact : Bool) (whole : Text) : Regex → Place → List Place
  | empty, p => [p]
  | char d, p => (p.past m [d]).toList
  | any, p => p.single m fun c => !(m.multiline && c = '\n')
  | oneOf negated items, p =>
    p.single m fun c =>
      items.any (SetItem.holds m.ignoreCase · c) != negated &&
        !(negated && m.multiline && c = '\n')
  | word negated, p => p.single m fun c => isWordChar c != negated
  | space negated, p => p.single m fun c => CharClass.space.holds c != negated
  | sequence a b, p => firsts exact ((ends m exact whole a p).flatMap (ends m exact whole b))
  | either a b, p => firsts exact (ends m exact whole a p ++ ends m exact whole b p)
  | repeated least most body, p =>
    let next := ends m exact whole body
    firsts exact <| (times exact next least [p]).flatMap fun q =>
      let further := most.elim q.rest.length (· - least)
      ((climb exact most.isSome next further [] q).map (·.2)).reverse
  | group number body, p =>
    (ends m exact whole body p).map fun q =>
      { q with groups := (number, p.position, q.position) :: q.groups.filter (·.1 ≠ number) }
  | reference number, p =>
    match p.groups.lookup number with
    | none => []
    | some (start, stop) => (p.past m (whole.slice start stop)).toList
  | assertion a, p => if p.asserts m a then [p] else []

structure Match where
  start : Nat
  stop : Nat
  groups : List (Nat × Nat × Nat)

def matchAt? (m : Mode) (e : Regex) (whole : Text) (p : Place) : Option Match :=
  let farther (best : Option Place) (q : Place) : Option Place :=
    if best.all (·.position < q.position) then some q else best
  ((ends m e.refers whole e p).foldl farther none).map fun q => ⟨p.position, q.position, q.groups⟩

def search (m : Mode) (e : Regex) (whole : Text) (previous : Option Char) (position : Nat) :
    Text → Option Match
  | [] => matchAt? m e whole ⟨position, previous, [], []⟩
  | c :: rest =>
    (matchAt? m e whole ⟨position, previous, c :: rest, []⟩).or
      (search m e whole (some c) (position + 1) rest)

def find? (m : Mode) (e : Regex) (whole : Text) (start : Nat) : Option Match :=
  if whole.length < start then none
  else
    search m e whole (if start = 0 then none else whole[start - 1]?) start (whole.drop start)

/-- What a group matched, nothing if it took no part. The whole match counts as group zero. -/
def Match.group (found : Match) (whole : Text) (number : Nat) : Text :=
  if number = 0 then whole.slice found.start found.stop
  else
    match found.groups.lookup number with
    | some (start, stop) => whole.slice start stop
    | none => []

end SqlBoundary.Regex
