import SqlBoundary.Programs.Shell.Field
import SqlBoundary.Programs.Shell.State

/-! # Expansion of words

Parameters, the output of commands and arithmetic are put into words. How a command runs is given by
a function.
-/

namespace SqlBoundary.Shell

/-- The texts that a parameter has, if it is set: one, or for the arguments as a whole any number.
-/
def State.parameter? (name : Text) (s : State) : Option (List Text) :=
  match name with
  | ['#'] => some [Text.ofNat s.arguments.length]
  | ['?'] => some [Text.ofNat s.status]
  | ['-'] => some [[]]
  | ['@'] | ['*'] => some s.arguments
  | ['!'] | ['$'] => none
  | c :: _ =>
    if c.isDigit then
      let n := Numeral.ofDigits 10 name
      if n = 0 then some [s.name] else s.arguments[n - 1]?.map ([·])
    else (s.setting? name).map ([·])
  | [] => none

def State.separators (s : State) : Text := (s.setting? "IFS").getD " \t\n"

def State.homeOf? (name : Text) (s : State) : Option Text :=
  if name.isEmpty then s.setting? "HOME"
  else if name = "root".toList then some "/root"
  else none

def expandTilde (s : State) (assigning : Bool) (w : Word) : Word :=
  match w with
  | .char '~' false :: rest =>
    let inName (part : Part) : Bool :=
      match part with
      | .char c false => c ≠ '/' && !(assigning && c = ':')
      | _ => false
    let name := rest.takeWhile inName
    let after := rest.drop name.length
    let ends :=
      match after with
      | [] | .char _ false :: _ => true
      | _ => false
    match (Word.bare? name).bind s.homeOf? with
    | some home => if ends then home.map (.char · true) ++ after else w
    | none => w
  | w => w

def expandTildes (s : State) : (steps : Nat) → Word → Word
  | 0, w => w
  | steps + 1, w =>
    let isColon (part : Part) : Bool :=
      match part with
      | .char ':' false => true
      | _ => false
    let w := expandTilde s true w
    let head := w.takeWhile (!isColon ·)
    match w.drop head.length with
    | colon :: rest => head ++ colon :: expandTildes s steps rest
    | [] => head

def glyphs (s : State) (name : Text) (quoted : Bool) (texts : List Text) : Field :=
  let separator := s.separators.take 1
  if name = ['@'] && quoted then
    (texts.map fun t => Glyph.mark :: Field.ofText true false t).intersperse [.break] |>.flatten
  else if name = ['@'] || name = ['*'] then
    Field.ofText quoted (!quoted) (Text.joinWith separator texts)
  else Field.ofText quoted (!quoted) texts.flatten

section

variable (output : Command → Run Text)

/-- Puts a value in the place of a part. In the word of an expansion unquoted characters may
separate fields. -/
def expandPart : (steps : Nat) → (inExpansion : Bool) → Part → Run Field
  | 0, _, _ => throw 2
  | _, inExpansion, .char c quoted => return [.char c quoted (inExpansion && !quoted)]
  | _, _, .quotes => return [.mark]
  | _, _, .output command quoted => return Field.ofText quoted (!quoted) (← output command)
  | steps + 1, _, .arithmetic expression quoted => do
    let text := Field.toText (← expression.flatMapM (expandPart steps false))
    let bindings := (← get).bindings
    match Arithmetic.read text >>= fun e => (Arithmetic.evaluate e).run bindings with
    | .ok (n, bindings) =>
      modify fun s => { s with bindings }
      return Field.ofText quoted (!quoted) (Text.ofInt n.toInt)
    | .error fault =>
      match fault.message? text with
      | some message => refuse message
      | none => throw brokenOff
  | steps + 1, _, .parameter name use word quoted => do
    let s ← get
    let texts := s.parameter? name
    let value := glyphs s name quoted (texts.getD [])
    let text := Text.joinWith [' '] (texts.getD [])
    let isSet (emptyIsNone : Bool) : Bool := texts.isSome && !(emptyIsNone && text.isEmpty)
    let expand (inExpansion : Bool) : Run Field :=
      (expandTilde s false word).flatMapM (expandPart steps inExpansion)
    match use with
    | .value => return value
    | .length => return Field.ofText quoted (!quoted) (Text.ofNat text.length)
    | .orElse e => if isSet e then return value else expand !quoted
    | .ifSet e => if isSet e then expand !quoted else return []
    | .orAssign e =>
      if isSet e then return value
      else
        let new := (← expand false).toText
        if isName name then
          modify (State.assign name new)
          return Field.ofText quoted (!quoted) new
        else refuse (name ++ ": bad variable name".toList)
    | .orFail e =>
      if isSet e then return value
      else
        let problem := (← expand false).toText
        let message : Text :=
          if !word.isEmpty then problem
          else if e then "parameter not set or null"
          else "parameter not set"
        refuse (name ++ ": ".toList ++ message)
    | .trimFront longest =>
      if texts.isNone then return []
      let pattern := Pattern.ofChars (← expand false).toPattern
      return Field.ofText quoted (!quoted) (Pattern.trimFront pattern longest text)
    | .trimBack longest =>
      if texts.isNone then return []
      let pattern := Pattern.ofChars (← expand false).toPattern
      return Field.ofText quoted (!quoted) (Pattern.trimBack pattern longest text)
    | .invalid => refuse "Bad substitution"

def maxExpansion : Nat := 1000

def expandWord (w : Word) : Run Field := do
  (expandTilde (← get) false w).flatMapM (expandPart output maxExpansion false)

def expandFields (w : Word) : Run (List Text) := do
  let field ← expandWord output w
  let s ← get
  return (field.split s.separators).flatMap (Path.expand s.files)

def expandValue (w : Word) : Run Text := do
  let w := expandTildes (← get) (w.length + 1) w
  return Field.toText (← w.flatMapM (expandPart output maxExpansion false))

end

end SqlBoundary.Shell
