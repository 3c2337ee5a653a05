import SqlBoundary.Programs.Filter.Arguments

/-! # Copying

Files are written one after another, with their lines numbered or made visible on demand.
-/

namespace SqlBoundary.Filter.Copy

structure Layout where
  numbersAll : Bool
  numbersFilled : Bool
  squeezes : Bool
  showsEnds : Bool
  showsTabs : Bool
  showsControls : Bool

def known : List Known :=
  [{ letter := 'b', names := ["number-nonblank"] }, { letter := 'n', names := ["number"] },
    { letter := 's', names := ["squeeze-blank"] },
    { letter := 'v', names := ["show-nonprinting"] }, { letter := 'E', names := ["show-ends"] },
    { letter := 'T', names := ["show-tabs"] }, { letter := 'A', names := ["show-all"] },
    { letter := 'e' }, { letter := 't' }, { letter := 'u' }]

def Layout.ofArguments (a : Arguments) : Layout where
  numbersAll := a.has 'n' && !a.has 'b'
  numbersFilled := a.has 'b'
  squeezes := a.has 's'
  showsEnds := a.has 'A' || a.has 'e' || a.has 'E'
  showsTabs := a.has 'A' || a.has 't' || a.has 'T'
  showsControls := a.has 'A' || a.has 'e' || a.has 't' || a.has 'v'

/-- An octet made visible: a control as a caret and a letter, one of the upper half by its partner
in the lower. -/
def visible (c : Char) : Text :=
  let lower (n : Nat) : Text :=
    if n < 32 then ['^', Char.ofNat (n + 64)] else if n = 127 then ['^', '?'] else [Char.ofNat n]
  if 128 ≤ c.toNat then 'M' :: '-' :: lower (c.toNat - 128) else lower c.toNat

def Layout.showChar (o : Layout) (c : Char) : Text :=
  if c = '\t' then if o.showsTabs then ['^', 'I'] else [c]
  else if o.showsControls then visible c
  else [c]

/-- The text of a line. A carriage return at its end counts as a part of the end. -/
def Layout.showLine (o : Layout) (line : Text) (ended : Bool) : Text :=
  if ended && o.showsEnds && !o.showsControls && line.getLast? = some '\r' then
    line.dropLast.flatMap o.showChar ++ ['^', 'M']
  else line.flatMap o.showChar

def number (n : Nat) : Text :=
  let digits := Text.ofNat n
  List.replicate (6 - digits.length) ' ' ++ digits ++ ['\t']

/-- Writes lines, the last of which has no end. `blank` tells that the line before was empty. -/
def Layout.lines (o : Layout) (next : Nat) (blank : Bool) : List Text → Text
  | [] => []
  | [line] =>
    if line.isEmpty then []
    else (if o.numbersAll || o.numbersFilled then number next else []) ++ o.showLine line false
  | line :: rest =>
    if line.isEmpty && blank && o.squeezes then o.lines next true rest
    else
      let numbered := o.numbersAll || (o.numbersFilled && !line.isEmpty)
      (if numbered then number next else []) ++ o.showLine line true ++
        (if o.showsEnds then ['$', '\n'] else ['\n']) ++
        o.lines (if numbered then next + 1 else next) line.isEmpty rest

/-- A file name as a complaint shows it, in quotes where a shell would not read it as one word. -/
def quoted (path : Text) : Text :=
  let special (c : Char) : Bool := (" !\"$&()*:;<=>?[\\^`|\t" : Text).contains c
  let first := path.head?
  if path.contains '\'' then '"' :: path ++ ['"']
  else if path.isEmpty || path.any special || first = some '#' || first = some '~' ||
      path = ['\x7b'] || path = ['\x7d'] then
    '\'' :: path ++ ['\'']
  else path

/-- The file that the output goes to, and how far. Copying what has been written there would not
end. -/
structure Target where
  location : Location
  written : Nat

/-- What the operands name, one after another: contents or complaints. The input is used up the
first time that it is named. -/
def gather (files : Files) (program : Text) (target : Option Target) (input : Except Text Text) :
    List Text → List Chunk
  | [] => []
  | path :: rest =>
    let isInput := namesInput path
    let contents : Except Text Text :=
      if isInput then input
      else
        match files.locateFile (Octets.toText path) with
        | .error problem => .error problem.message
        | .ok location =>
          let same := target.any fun target => target.location = location && 0 < target.written
          if same then .error "input file is output file"
          else .ok (Octets.ofBytes ((files.content? location).elim [] Content.toBytes))
    match contents with
    | .error message =>
      .fault program (quoted path) message :: gather files program target input rest
    | .ok t =>
      let target := target.map fun target => { target with written := target.written + t.length }
      .output t :: gather files program target (if isInput then .ok [] else input) rest

/-- Lays out contents, of which some have been laid out already. -/
def layOut (o : Layout) (before : Text) : List Chunk → List Chunk
  | [] => []
  | .complaint t :: rest => .complaint t :: layOut o before rest
  | .output t :: rest =>
    let written (t : Text) : Text := o.lines 1 false (Text.segments '\n' t)
    .output ((written (before ++ t)).drop (written before).length) :: layOut o (before ++ t) rest

/-- Copies the operands, or the input where there are none. The input may not be readable. -/
def run (files : Files) (program : Text) (target : Option Target) (arguments : List Text)
    (input : Except Text Text) : Effect :=
  match Arguments.read known true arguments with
  | .error message =>
    let advice := "\nTry '".toList ++ program ++ " --help' for more information.\n".toList
    .failure files [.complaint (program ++ ": ".toList ++ message ++ advice)]
  | .ok a =>
    let operands := if a.operands.isEmpty then [['-']] else a.operands
    let chunks := gather files program target input operands
    let isComplaint (chunk : Chunk) : Bool :=
      match chunk with
      | .complaint _ => true
      | .output _ => false
    { chunks := layOut (Layout.ofArguments a) [] chunks
      status := if chunks.any isComplaint then 1 else 0
      usesInput := operands.any namesInput
      files }

end SqlBoundary.Filter.Copy
