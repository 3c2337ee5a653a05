import SqlBoundary.Files
import SqlBoundary.Programs.Octets

/-! # Arguments of filters

An argument that begins with a dash holds letters, each an option; the last may carry a value. Two
dashes begin a long name, which may be cut short while it stays unambiguous, and end the options
where they stand alone.
-/

namespace SqlBoundary.Filter

inductive Chunk
  | output (t : Text)
  | complaint (t : Text)

def Chunk.fault (program subject message : Text) : Chunk :=
  .complaint (program ++ ": ".toList ++ subject ++ ": ".toList ++ message ++ ['\n'])

/-- What a filter leaves behind, and whether it has used up its input. A status of zero means that
nothing went wrong. -/
structure Effect where
  chunks : List Chunk
  status : Nat := 0
  usesInput : Bool := true
  files : Files

namespace Effect

def output (effect : Effect) : Text :=
  effect.chunks.flatMap fun chunk =>
    match chunk with
    | .output t => t
    | .complaint _ => []

def failure (files : Files) (complaints : List Chunk := []) : Effect :=
  { chunks := complaints, status := 1, usesInput := false, files }

end Effect

/-- What runs a command line on files: gives what the line writes, and the files then. -/
abbrev Interpreter := Files → Text → Text × Files

def namesInput (path : Text) : Bool :=
  path = ['-'] ||
    ["/dev/stdin".toList, "/dev/fd/0".toList, "/proc/self/fd/0".toList].contains path

inductive Takes
  | nothing
  | value
  | valueIfAttached
deriving DecidableEq

/-- An option that a filter knows: its letter, its long names and whether it takes a value. It may
answer to its long names only. -/
structure Known where
  letter : Char
  names : List Text := []
  takes : Takes := .nothing
  long : Bool := false

structure Arguments where
  options : List (Char × Option Text)
  operands : List Text

namespace Arguments

def option (letter : Char) (value : Option Text) (a : Arguments) : Arguments :=
  { a with options := (letter, value) :: a.options }

def operand (t : Text) (a : Arguments) : Arguments := { a with operands := t :: a.operands }

def has (a : Arguments) (letter : Char) : Bool := a.options.any (·.1 = letter)

/-- What was read of one argument, with an option that still needs a value. -/
structure Found where
  options : List (Char × Option Text)
  lacking : Option Char := none

def readLetters (known : List Known) : Text → Except Text Found
  | [] => .ok ⟨[], none⟩
  | c :: rest =>
    match known.find? fun option => option.letter = c && !option.long with
    | none => .error ("invalid option -- '".toList ++ [c, '\''])
    | some option =>
      match option.takes, rest with
      | .nothing, rest => do
        let found ← readLetters known rest
        return { found with options := (c, none) :: found.options }
      | .value, [] => .ok ⟨[], some c⟩
      | .valueIfAttached, [] => .ok ⟨[(c, none)], none⟩
      | _, value => .ok ⟨[(c, some value)], none⟩

def readName (known : List Known) (t : Text) : Except Text Found :=
  let name := t.takeWhile (· ≠ '=')
  let value := (t.dropWhile (· ≠ '=')).tail?
  let shown (name : Text) : Text := "'--".toList ++ name ++ ['\'']
  let of (option : Known) : Except Text Found :=
    match option.takes, value with
    | .nothing, none | .valueIfAttached, _ => .ok ⟨[(option.letter, value)], none⟩
    | .nothing, some _ =>
      let full := (option.names.find? name.isPrefixOf).getD name
      .error ("option ".toList ++ shown full ++ " doesn't allow an argument".toList)
    | .value, none => .ok ⟨[], some option.letter⟩
    | .value, some value => .ok ⟨[(option.letter, some value)], none⟩
  let candidates := known.filter fun option => option.names.any name.isPrefixOf
  match known.find? (·.names.contains name), candidates with
  | some option, _ => of option
  | none, [option] => of option
  | none, [] => .error ("unrecognized option ".toList ++ shown name)
  | none, candidates =>
    let names := candidates.flatMap fun option => option.names.filter name.isPrefixOf
    .error ("option ".toList ++ shown name ++ " is ambiguous; possibilities: ".toList ++
      Text.joinWith [' '] (names.map shown))

/-- Reads all arguments, or tells what is wrong with them. Options may stand among the operands or
only before them. -/
def read (known : List Known) (among : Bool) : List Text → Except Text Arguments
  | [] => .ok ⟨[], []⟩
  | ['-', '-'] :: rest => .ok ⟨[], rest⟩
  | ('-' :: c :: letters) :: rest => do
    let found ← if c = '-' then readName known letters else readLetters known (c :: letters)
    match found.lacking, rest with
    | none, rest =>
      let a ← read known among rest
      return { a with options := found.options ++ a.options }
    | some letter, value :: rest =>
      let a ← read known among rest
      return { a with options := found.options ++ (letter, some value) :: a.options }
    | some letter, [] => .error ("option requires an argument -- '".toList ++ [letter, '\''])
  | t :: rest =>
    if among then (read known among rest).map (operand t) else .ok ⟨[], t :: rest⟩

end Arguments
end SqlBoundary.Filter
