import SqlBoundary.Programs.Regex.Token

/-! # Reading regular expressions

An expression is a choice of branches, and a branch is a row of parts that may be repeated. What a
repetition, a caret or a dollar sign means depends on where it stands.
-/

namespace SqlBoundary.Regex

structure Reading where
  tokens : List Token
  opened : Nat := 0
  closed : List Nat := []

def Token.plain? : Token → Option Regex
  | star => some (.char '*')
  | plus => some (.char '+')
  | optional => some (.char '?')
  | _ => none

def Token.repetition? : Token → Option (Nat × Option Nat)
  | star => some (0, none)
  | plus => some (1, none)
  | optional => some (0, some 1)
  | interval least most => some (least, most)
  | _ => none

/-- Reads the repetitions of a part. In the basic dialect a star or bounds may not follow another
repetition. -/
def readRepetitions? (d : Dialect) (again : Bool) (e : Regex) :
    List Token → Option (Regex × List Token)
  | [] => some (e, [])
  | token :: rest =>
    match token.repetition? with
    | none => some (e, token :: rest)
    | some (least, most) =>
      let refused : Bool :=
        match token with
        | .star | .interval _ _ => again && d = .basic
        | _ => false
      if refused then none else readRepetitions? d true (.repeated least most e) rest

def endsBranch : List Token → Bool
  | [] | .bar :: _ | .closing :: _ => true
  | _ => false

mutual

/-- Reads a choice of branches. The groups of one cannot be referred to in another. -/
def readChoice? (d : Dialect) : (steps : Nat) → Reading → Option (Regex × Reading)
  | 0, _ => none
  | steps + 1, start => do
    let (e, r) ← readBranch? d steps true start
    match r.tokens with
    | .bar :: tokens =>
      let (f, last) ← readChoice? d steps { r with tokens, closed := start.closed }
      return (.either e f, { last with closed := r.closed ++ last.closed })
    | _ => return (e, r)

/-- Reads a branch; `fresh` tells that nothing stands before it. -/
def readBranch? (d : Dialect) : (steps : Nat) → (fresh : Bool) → Reading → Option (Regex × Reading)
  | 0, _, _ => none
  | steps + 1, fresh, r =>
    match r.tokens with
    | [] | .bar :: _ | .closing :: _ => some (.empty, r)
    | _ => do
      let (e, r) ← readPart? d steps fresh r
      let (f, r) ← readBranch? d steps false r
      return (.sequence e f, r)

/-- Reads one part with its repetitions. Assertions are not repeated. -/
def readPart? (d : Dialect) : (steps : Nat) → (fresh : Bool) → Reading → Option (Regex × Reading)
  | 0, _, _ => none
  | steps + 1, fresh, r => do
    let withRepetitions (e : Regex) (r : Reading) : Option (Regex × Reading) := do
      let (e, tokens) ← readRepetitions? d false e r.tokens
      return (e, { r with tokens })
    match r.tokens with
    | [] => none
    | token :: tokens =>
      let r := { r with tokens }
      match token with
      | .atom (.reference n) =>
        if r.closed.contains n then withRepetitions (.reference n) r else none
      | .atom e => withRepetitions e r
      | .assertion a => return (.assertion a, r)
      | .caret =>
        if d = .extended || fresh then return (.assertion .lineStart, r)
        else withRepetitions (.char '^') r
      | .dollar =>
        if d = .extended || endsBranch tokens then return (.assertion .lineEnd, r)
        else withRepetitions (.char '$') r
      | .opening =>
        let number := r.opened + 1
        let (e, r) ← readChoice? d steps { r with opened := number }
        match r.tokens with
        | .closing :: tokens =>
          withRepetitions (.group number e) { r with tokens, closed := number :: r.closed }
        | _ => none
      | .star | .plus | .optional | .interval _ _ =>
        if d = .extended then none else withRepetitions (← token.plain?) r
      | .bar | .closing => none

end

def read? (d : Dialect) (s : Text) : Option Regex := do
  let tokens ← readTokens? d s.length s
  let (e, r) ← readChoice? d (3 * tokens.length + 3) { tokens }
  if r.tokens.isEmpty then some e else none

end SqlBoundary.Regex
