import SqlBoundary.Programs.Shell.Grammar
import SqlBoundary.Programs.Shell.Numeral

/-! # Arithmetic

Expressions over 64-bit words with the operators and the precedences of C, apart from increments and
the comma. Variables hold texts that are numerals.
-/

namespace SqlBoundary.Shell

inductive Operator
  | times
  | over
  | modulo
  | plus
  | minus
  | shiftLeft
  | shiftRight
  | less
  | atMost
  | greater
  | atLeast
  | equal
  | different
  | bitAnd
  | bitXor
  | bitOr
deriving DecidableEq

inductive Expression
  | number (n : Int64)
  | variable (name : Text)
  | negate (e : Expression)
  | isZero (e : Expression)
  | complement (e : Expression)
  | binary (op : Operator) (left right : Expression)
  | both (left right : Expression)
  | either (left right : Expression)
  | choose (test left right : Expression)
  | assign (name : Text) (op : Option Operator) (e : Expression)

namespace Arithmetic

inductive Lexeme
  | number (n : Int64)
  | name (t : Text)
  | sign (t : Text)
  | ending
deriving DecidableEq

/-- What is wrong with an expression, or the end of the shell by a quotient that does not fit. -/
inductive Fault
  | expectingPrimary
  | expectingParenthesis
  | expectingColon
  | expectingEnd
  | divisionByZero
  | illegalNumber (t : Text)
  | quotientTooLarge

/-- The complaint about a fault, if there is one. -/
def Fault.message? (expression : Text) : Fault → Option Text
  | quotientTooLarge => none
  | illegalNumber t => some ("Illegal number: ".toList ++ t)
  | expectingPrimary => about "expecting primary"
  | expectingParenthesis => about "expecting ')'"
  | expectingColon => about "expecting ':'"
  | expectingEnd => about "expecting EOF"
  | divisionByZero => about "division by zero"
where
  about (problem : Text) : Option Text :=
    some ("arithmetic expression: ".toList ++ problem ++ ": \"".toList ++ expression ++ ['"'])

/-- The signs of more than one character, longer ones first. -/
def longSigns : List Text :=
  ["<<=", ">>=", "<<", ">>", "<=", ">=", "==", "!=", "&&", "||", "+=", "-=", "*=", "/=", "%=", "&=",
    "^=", "|="]

/-- Reads a lexeme. A character that begins none is a sign that no rule knows. -/
def lexeme (s : Text) : Lexeme × Text :=
  match s.dropWhile fun c => c = ' ' || c = '\t' || c = '\n' with
  | [] => (.ending, [])
  | c :: rest =>
    let s := c :: rest
    match Numeral.magnitude? s with
    | some (magnitude, rest) =>
      (.number (Int64.ofInt (Numeral.Reading.signed ⟨false, magnitude, rest⟩)), rest)
    | none =>
      if isNameStart c then
        let name := s.takeWhile isNameChar
        (.name name, s.drop name.length)
      else
        match longSigns.find? (·.isPrefixOf s) with
        | some sign => (.sign sign, s.drop sign.length)
        | none => (.sign [c], rest)

def lexemes : (steps : Nat) → Text → List Lexeme
  | 0, _ => []
  | steps + 1, s =>
    match lexeme s with
    | (.ending, _) => []
    | (l, rest) => l :: lexemes steps rest

/-- The binary operators, those that bind tightest first. -/
def levels : List (List (String × Operator)) :=
  [[("*", .times), ("/", .over), ("%", .modulo)], [("+", .plus), ("-", .minus)],
    [("<<", .shiftLeft), (">>", .shiftRight)],
    [("<", .less), ("<=", .atMost), (">", .greater), (">=", .atLeast)],
    [("==", .equal), ("!=", .different)], [("&", .bitAnd)], [("^", .bitXor)], [("|", .bitOr)]]

/-- The assignments that combine the old value with the new one. -/
def combining : List (String × Operator) :=
  [("*=", .times), ("/=", .over), ("%=", .modulo), ("+=", .plus), ("-=", .minus),
    ("<<=", .shiftLeft), (">>=", .shiftRight), ("&=", .bitAnd), ("^=", .bitXor), ("|=", .bitOr)]

def operator? (operators : List (String × Operator)) : Lexeme → Option Operator
  | .sign t => (operators.find? (·.1.toList = t)).map (·.2)
  | _ => none

abbrev Reading := StateT (List Lexeme) (Except Fault)

def next : Reading Lexeme := modifyGet fun lexemes =>
  (lexemes.head?.getD .ending, lexemes.drop 1)

def peek : Reading Lexeme := return (← get).head?.getD .ending

/-- Goes on with a sign if it comes next. -/
def trySign (t : String) : Reading Bool := do
  if (← peek) = .sign t.toList then
    let _ ← next
    return true
  else return false

mutual

def primary : (steps : Nat) → Reading Expression
  | 0 => throw .expectingPrimary
  | steps + 1 => do
    match ← next with
    | .number n => return .number n
    | .name t => return .variable t
    | .sign ['('] =>
      let e ← assignment steps
      if ← trySign ")" then return e else throw .expectingParenthesis
    | .sign ['+'] => primary steps
    | .sign ['-'] => return .negate (← primary steps)
    | .sign ['!'] => return .isZero (← primary steps)
    | .sign ['~'] => return .complement (← primary steps)
    | _ => throw .expectingPrimary

/-- Reads operands joined by the operators of some levels, the loosest of which come last. -/
def binary : (steps : Nat) → List (List (String × Operator)) → Reading Expression
  | 0, _ => throw .expectingPrimary
  | steps + 1, [] => primary steps
  | steps + 1, operators :: tighter => do
    binaryFrom steps operators tighter (← binary steps tighter)

def binaryFrom : (steps : Nat) → List (String × Operator) → List (List (String × Operator)) →
    Expression → Reading Expression
  | 0, _, _, _ => throw .expectingPrimary
  | steps + 1, operators, tighter, left => do
    match operator? operators (← peek) with
    | none => return left
    | some op =>
      let _ ← next
      binaryFrom steps operators tighter (.binary op left (← binary steps tighter))

def both : (steps : Nat) → Reading Expression
  | 0 => throw .expectingPrimary
  | steps + 1 => do
    let left ← binary steps levels.reverse
    if ← trySign "&&" then return .both left (← both steps) else return left

def either : (steps : Nat) → Reading Expression
  | 0 => throw .expectingPrimary
  | steps + 1 => do
    let left ← both steps
    if ← trySign "||" then return .either left (← either steps) else return left

def choice : (steps : Nat) → Reading Expression
  | 0 => throw .expectingPrimary
  | steps + 1 => do
    let test ← either steps
    if ← trySign "?" then
      let left ← assignment steps
      if ← trySign ":" then return .choose test left (← choice steps) else throw .expectingColon
    else return test

def assignment : (steps : Nat) → Reading Expression
  | 0 => throw .expectingPrimary
  | steps + 1 => do
    match ← get with
    | .name name :: sign :: rest =>
      let op := operator? combining sign
      if sign = .sign ['='] || op.isSome then
        set rest
        return .assign name op (← assignment steps)
      else choice steps
    | _ => choice steps

end

/-- The expression that a text is. -/
def read (s : Text) : Except Fault Expression := do
  let lexemes := lexemes (s.length + 1) s
  let (e, rest) ← (assignment (16 * (lexemes.length + 2))).run lexemes
  if rest.isEmpty then return e else throw .expectingEnd

/-- Texts by the names of variables. -/
abbrev Bindings := List (Text × Text)

def bind (name value : Text) (bindings : Bindings) : Bindings :=
  (name, value) :: bindings.filter (·.1 ≠ name)

def lookUp (name : Text) (bindings : Bindings) : Except Fault Int64 :=
  match bindings.lookup name with
  | none => .ok 0
  | some t =>
    if t.all Numeral.isBlank then .ok 0
    else
      match Numeral.ofText? t with
      | some n => .ok (Int64.ofInt n)
      | none => .error (.illegalNumber t)

def ofBool (b : Bool) : Int64 := if b then 1 else 0

/-- Divides unless the quotient is no word, also where only the remainder is wanted. -/
def divide (a b result : Int64) : Except Fault Int64 :=
  if b = 0 then .error .divisionByZero
  else if b = -1 && a = Int64.minValue then .error .quotientTooLarge
  else .ok result

def operate (op : Operator) (a b : Int64) : Except Fault Int64 :=
  match op with
  | .times => .ok (a * b)
  | .over => divide a b (a / b)
  | .modulo => divide a b (a % b)
  | .plus => .ok (a + b)
  | .minus => .ok (a - b)
  | .shiftLeft => .ok (a <<< b)
  | .shiftRight => .ok (a >>> b)
  | .less => .ok (ofBool (a < b))
  | .atMost => .ok (ofBool (a ≤ b))
  | .greater => .ok (ofBool (b < a))
  | .atLeast => .ok (ofBool (b ≤ a))
  | .equal => .ok (ofBool (a = b))
  | .different => .ok (ofBool (a ≠ b))
  | .bitAnd => .ok (a &&& b)
  | .bitXor => .ok (a ^^^ b)
  | .bitOr => .ok (a ||| b)

abbrev Evaluation := StateT Bindings (Except Fault)

def evaluate : Expression → Evaluation Int64
  | .number n => return n
  | .variable name => do lookUp name (← get)
  | .negate e => return -(← evaluate e)
  | .isZero e => return ofBool ((← evaluate e) = 0)
  | .complement e => return ~~~(← evaluate e)
  | .binary op left right => do
    let a ← evaluate left
    let b ← evaluate right
    operate op a b
  | .both left right => do
    if (← evaluate left) = 0 then return 0 else return ofBool ((← evaluate right) ≠ 0)
  | .either left right => do
    if (← evaluate left) ≠ 0 then return 1 else return ofBool ((← evaluate right) ≠ 0)
  | .choose test left right => do
    if (← evaluate test) ≠ 0 then evaluate left else evaluate right
  | .assign name op e => do
    let new ← evaluate e
    let value ←
      match op with
      | none => pure new
      | some op => operate op (← lookUp name (← get)) new
    modify (bind name (Text.ofInt value.toInt))
    return value

end Arithmetic
end SqlBoundary.Shell
