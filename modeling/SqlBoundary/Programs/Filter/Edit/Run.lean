import SqlBoundary.Programs.Filter.Arguments
import SqlBoundary.Programs.Filter.Edit.Reader

/-! # Running scripts

Each line of the input becomes the pattern space, the commands that select it are carried out, and
then it is written. Texts that were put off are written after it.
-/

namespace SqlBoundary.Edit

structure Space where
  text : Text := []
  ended : Bool := true

/-- A line of the input, with the name of its file. A first line begins anew: lines are counted from
it, nothing is held and no range is under way. A last line is what a dollar sign selects. -/
structure Line extends Space where
  file : Text
  first : Bool := false
  last : Bool := false

inductive Postponed
  | text (t : Text)
  | file (path : Text)

/-- Where output goes: to the output of the script, to the same as to a file, to a file, or among
complaints. -/
inductive Sink
  | output
  | outputFile
  | file (location : Location)
  | complaints
deriving DecidableEq

structure Options where
  interpreter : Filter.Interpreter
  silent : Bool := false
  delimiter : Char := '\n'
  width : Nat := 70
  /-- Files are edited one by one. -/
  separate : Bool := false
  /-- Files are edited in place, and kept under a longer name if there is a suffix. -/
  inPlace : Option Text := none
  /-- The last of the files that were named. -/
  lastFile : Text := ['-']

/-- What a script works on. Of a range that is under way the last line is kept if it is known. Texts
that take the place of the pattern space are made in a scratch space, whose end they get. -/
structure State where
  files : Files
  input : List Line
  pattern : Space := {}
  held : Space := {}
  scratchEnded : Bool := true
  file : Text := ['-']
  isLast : Bool := false
  number : Nat := 0
  postponed : List Postponed := []
  output : Text := []
  unfinished : List Sink := []
  ranges : List (Nat × Option Nat) := []
  closedRanges : List Nat := []
  substituted : Bool := false
  lastExpression : Option (Regex × Regex.Mode) := none
  sources : List (Text × List Space) := []
  refused : Bool := false
  status : Nat := 0

namespace State

/-- Writes the line end that the last line of a sink may lack. -/
def finishLine (sink : Sink) (delimiter : Char) (s : State) : State :=
  if s.unfinished.contains sink then
    let s := { s with unfinished := s.unfinished.filter (· ≠ sink) }
    match sink with
    | .output | .outputFile => { s with output := s.output ++ [delimiter] }
    | .complaints => s
    | .file location =>
      let size := (s.files.content? location).elim 0 Content.size
      { s with files := s.files.writeBytes location size (Stray.encode [delimiter]) }
  else s

def put (sink : Sink) (o : Options) (t : Text) (s : State) : State :=
  let s := s.finishLine sink o.delimiter
  match sink with
  | .output | .outputFile => { s with output := s.output ++ t }
  | .complaints => s
  | .file location =>
    let size := (s.files.content? location).elim 0 Content.size
    { s with files := s.files.writeBytes location size (Stray.encode t) }

/-- Writes a text as a line, whose end may be left to what comes next. -/
def putLine (sink : Sink) (o : Options) (line : Space) (s : State) : State :=
  if line.ended then s.put sink o (line.text ++ [o.delimiter])
  else
    let s := s.put sink o line.text
    { s with unfinished := sink :: s.unfinished }

def putPattern (o : Options) (s : State) : State := s.putLine .output o s.pattern

def firstLine (o : Options) (space : Space) : Space :=
  if space.text.contains o.delimiter then ⟨space.text.takeWhile (· ≠ o.delimiter), true⟩ else space

def spacesOf (delimiter : Char) (t : Text) : List Space :=
  let pieces := Text.segments delimiter t
  pieces.dropLast.map (⟨·, true⟩) ++
    match pieces.getLast? with
    | some [] | none => []
    | some last => [⟨last, false⟩]

def fileText? (files : Files) (path : Text) : Option Text :=
  match files.read path with
  | .ok content => some (Stray.decode content.toBytes)
  | .error _ => none

def refuse (status : Nat) (s : State) : State := { s with status, refused := true }

/-- Gives up on a directory, which cannot be read; a file that is missing is as good as empty. -/
def source (path : Text) (s : State) : Text × State :=
  match s.files.read path with
  | .ok content => (Stray.decode content.toBytes, s)
  | .error fault => ([], if fault = .isDirectory then s.refuse 4 else s)

def flush (o : Options) (s : State) : State :=
  s.postponed.foldl (fun s postponed =>
    if s.refused then s
    else
      match postponed with
      | .text t => s.put .output o t
      | .file path =>
        let (t, s) := s.source path
        s.put .output o t) { s with postponed := [] }

/-- The place where a file is kept that is edited. A star in the suffix stands for the path of the
file; without one the suffix follows the path. -/
def keptPath (path suffix : Text) : Text :=
  if suffix.contains '*' then suffix.flatMap fun c => if c = '*' then path else [c]
  else path ++ suffix

def keep? (files : Files) (location : Location) (path : Text) : Option Files := do
  let node ← files.node? location
  match files.locateWritable path with
  | .ok kept => some (files.put kept node)
  | .error _ => none

def store (o : Options) (s : State) : State :=
  match o.inPlace with
  | none => s
  | some suffix =>
    if s.refused || s.number = 0 then s
    else
      let files? := do
        let location ← (s.files.locate s.file).toOption
        let files ←
          if suffix.isEmpty then some s.files
          else keep? s.files location (keptPath s.file suffix)
        return files.put location (.file (.bytes (Stray.encode s.output)))
      let s := { s with output := [], unfinished := [] }
      match files? with
      | some files => { s with files }
      | none => s.refuse 4

def advance? (o : Options) (joined : Bool) (s : State) : Option State :=
  match s.input with
  | [] => none
  | line :: input =>
    let s := s.flush o
    let s :=
      if line.first then
        { s.store o with
          held := {}, number := 0, ranges := [], closedRanges := [], sources := [] }
      else s
    let pattern : Space :=
      if joined then ⟨s.pattern.text ++ o.delimiter :: line.text, line.ended⟩ else line.toSpace
    some { s with
      input
      pattern
      file := line.file
      isLast := line.last
      number := s.number + 1
      substituted := false }

/-! ## Selection -/

def expression? (o : Options) (p : Pattern) (s : State) : Option (Regex × Regex.Mode) :=
  let mode := { p.mode with nullEnded := o.delimiter = '\x00' }
  (p.expression.map (·, mode)).or s.lastExpression

/-- Whether an address is that of the present line. Line zero is as good as the first one. To tell
whether it is the last one the next file is opened where the present one is used up. -/
def isAt (o : Options) (a : Address) (s : State) : Bool × State :=
  match a with
  | .line n => (s.number = max n 1, s)
  | .every first step => (first ≤ s.number && (s.number - first) % step = 0, s)
  | .last =>
    let next := (s.input.head?.map Line.file).getD o.lastFile
    (s.isLast, if o.separate then s else { s with file := next })
  | .matching p =>
    match s.expression? o p with
    | some (e, mode) =>
      ((e.find? mode s.pattern.text 0).isSome, { s with lastExpression := some (e, mode) })
    | none => (false, s.refuse 1)

def closeRange (index : Nat) (s : State) : State :=
  { s with ranges := s.ranges.filter (·.1 ≠ index), closedRanges := index :: s.closedRanges }

/-- Whether a range begins at the present line. One that begins at a line number does so once, there
or at the first line after it that is looked at, unless that is past the line where the range ends.
-/
def begins (o : Options) (index : Nat) (start : Address) (stop : RangeEnd) (s : State) :
    Bool × State :=
  match start, stop with
  | .line n, .address (.line last) =>
    (!s.closedRanges.contains index && (s.number = n || (n < s.number && s.number ≤ last)), s)
  | .line n, _ => (!s.closedRanges.contains index && n ≤ s.number, s)
  | _, _ => s.isAt o start

def openRange (o : Options) (index : Nat) (stop : RangeEnd) (s : State) : State :=
  let short : State := s.closeRange index
  let lasting (last : Option Nat) : State := { s with ranges := (index, last) :: s.ranges }
  match stop with
  | .address (.line n) => if n ≤ s.number then short else lasting (some n)
  | .address (.every first step) =>
    if (s.isAt o (.every first step)).1 then short else lasting none
  | .address .last => if s.isLast then short else lasting none
  | .address _ => lasting none
  | .after count => if count = 0 then short else lasting (some (s.number + count))
  | .multiple factor =>
    if factor = 0 then short else lasting (some ((s.number / factor + 1) * factor))

/-- The last line of a range that is under way, if it is known. A range from line zero is under way
before the first line. -/
def underWay? (command : Command) (s : State) : Option (Option Nat) :=
  match command.selection with
  | .range (.line 0) _ => if s.closedRanges.contains command.index then none else some none
  | _ => s.ranges.lookup command.index

/-- Whether a command is for the present line. Lines may have been skipped since the last time: a
range up to a line number is over then, but one of so many lines takes in one more. -/
def selects (o : Options) (command : Command) (s : State) : Bool × State :=
  match command.selection with
  | .all => (true, s)
  | .one a => s.isAt o a
  | .range start stop =>
    match s.underWay? command, stop with
    | none, _ =>
      let (begun, s) := s.begins o command.index start stop
      if begun then (true, s.openRange o command.index stop) else (false, s)
    | some (some last), .address _ =>
      (s.number ≤ last, if last ≤ s.number then s.closeRange command.index else s)
    | some (some last), _ =>
      (true, if last ≤ s.number then s.closeRange command.index else s)
    | some none, .address a =>
      let (ends, s) := s.isAt o a
      (true, if ends then s.closeRange command.index else s)
    | some none, _ => (true, s)

/-! ## Substitution -/

/-- How case is changed: for one character, and until further notice. -/
structure Casing where
  once : Option CaseChange := none
  steady : Option CaseChange := none

def CaseChange.char (change : Option CaseChange) (c : Char) : Char :=
  match change with
  | some .lower | some .nextLower => LetterCase.toLower c
  | some .upper | some .nextUpper => LetterCase.toUpper c
  | _ => c

def Casing.apply (casing : Casing) : Text → Text × Casing
  | [] => ([], casing)
  | c :: rest =>
    let first := if casing.once.isSome then casing.once else casing.steady
    (CaseChange.char first c :: rest.map (CaseChange.char casing.steady),
      { casing with once := none })

def Casing.change (casing : Casing) : CaseChange → Casing
  | .nextLower => { casing with once := some .nextLower }
  | .nextUpper => { casing with once := some .nextUpper }
  | .lower => { steady := some .lower }
  | .upper => { steady := some .upper }
  | .stop => {}

def replace (found : Regex.Match) (whole : Text) (casing : Casing) : List Insert → Text
  | [] => []
  | .char c :: rest =>
    let (t, casing) := casing.apply [c]
    t ++ replace found whole casing rest
  | .group n :: rest =>
    let (t, casing) := casing.apply (found.group whole n)
    t ++ replace found whole casing rest
  | .change c :: rest => replace found whole (casing.change c) rest

/-- Replaces matches from a position on; `count` matches were passed before. An empty match right
after another match is none. Tells whether there was anything to replace. After an empty match a
plain expression is looked for from the next octet on, and another one from the next character. -/
def substituteFrom (sub : Substitution) (e : Regex) (mode : Regex.Mode) :
    (steps : Nat) → (whole : Text) → (start count : Nat) → (afterMatch : Option Nat) → Text × Bool
  | 0, whole, start, _, _ => (whole.drop start, false)
  | steps + 1, whole, start, count, afterMatch =>
    match e.find? mode whole start with
    | none => (whole.drop start, false)
    | some found =>
      let isEmpty := found.start = found.stop
      let before := whole.slice start found.start
      let onward (count : Nat) (t : Text) : Text × Bool :=
        let whole : Text :=
          if isEmpty && e.isPlain && !mode.ignoreCase then
            whole.take found.stop ++ Stray.splitFirst (whole.drop found.stop)
          else whole
        let beyond := if isEmpty then whole.slice found.stop (found.stop + 1) else []
        let next := if isEmpty then found.stop + 1 else found.stop
        let r := substituteFrom sub e mode steps whole next count (some found.stop)
        (before ++ t ++ beyond ++ r.1, r.2)
      if isEmpty && afterMatch = some found.start then onward count []
      else if count + 1 < sub.number.getD 1 then onward (count + 1) (found.group whole 0)
      else
        let replaced := replace found whole {} sub.replacement
        if sub.everywhere then ((onward (count + 1) replaced).1, true)
        else (before ++ replaced ++ whole.drop found.stop, true)

def openSink (files : Files) (path : Text) : Except FileFault (Sink × Files) :=
  if path = "/dev/stdout".toList then .ok (.outputFile, files)
  else if path = "/dev/stderr".toList then .ok (.complaints, files)
  else (files.create path).map fun (location, files) => (.file location, files)

def putTo (path : Text) (o : Options) (line : Space) (s : State) : State :=
  match openSink s.files path with
  | .ok (sink, _) => s.putLine sink o line
  | .error _ => s

def interpret (o : Options) (line : Text) (s : State) : Text × State :=
  let octets := Octets.ofBytes (Stray.encode (line.takeWhile (· ≠ '\x00')))
  let (written, files) := o.interpreter s.files octets
  (Stray.decode (Octets.toBytes written), { s with files })

def evaluate (o : Options) (s : State) : State :=
  let (t, s) := s.interpret o s.pattern.text
  let text := if t.getLast? = some o.delimiter then t.dropLast else t
  { s with pattern := ⟨text, s.scratchEnded⟩, scratchEnded := s.pattern.ended }

/-- Whether a substitution just cuts off the beginning or the end of a text, for which it takes no
scratch space. -/
def cuts (sub : Substitution) (e : Regex) (mode : Regex.Mode) (whole : Text) : Bool :=
  match e.find? mode whole 0 with
  | none => false
  | some found =>
    sub.replacement.isEmpty && sub.number.getD 1 = 1 &&
      ((found.start = 0 && !sub.everywhere) || found.stop = whole.length)

def substitute (o : Options) (sub : Substitution) (s : State) : State :=
  match s.expression? o sub.pattern with
  | none => s.refuse 1
  | some (e, mode) =>
    let whole := s.pattern.text
    let steps := (Stray.encode whole).length + 2
    let (text, done) := substituteFrom sub e mode steps whole 0 0 none
    let s := { s with lastExpression := some (e, mode) }
    if !done then s
    else
      let pattern := { s.pattern with text := Stray.join text }
      let scratchEnded := if cuts sub e mode whole then s.scratchEnded else pattern.ended
      let s := { s with pattern, scratchEnded, substituted := true }
      let s := if sub.prints then s.putPattern o else s
      let s := if sub.evaluates then s.evaluate o else s
      let s := if sub.printsValue then s.putPattern o else s
      match sub.target with
      | none => s
      | some path => s.putTo path o s.pattern

/-! ## Commands -/

def escape (b : UInt8) : Text :=
  match b with
  | 92 => ['\\', '\\']
  | 7 => ['\\', 'a']
  | 8 => ['\\', 'b']
  | 12 => ['\\', 'f']
  | 10 => ['\\', 'n']
  | 13 => ['\\', 'r']
  | 9 => ['\\', 't']
  | 11 => ['\\', 'v']
  | b =>
    let n := b.toNat
    if 32 ≤ n && n < 127 then [Char.ofNat n]
    else '\\' :: [n / 64, n / 8 % 8, n % 8].map fun d => Char.ofNat ('0'.toNat + d)

/-- The visible form of a text, in lines of a given width; a width of zero does not break lines. -/
def listing (delimiter : Char) (width : Nat) (t : Text) : Text :=
  let lines := (Stray.encode t).foldl (fun (sofar : Text × Nat) b =>
    let part := escape b
    if 0 < width && width - 1 < sofar.2 + part.length then
      (sofar.1 ++ '\\' :: delimiter :: part, part.length)
    else (sofar.1 ++ part, sofar.2 + part.length)) ([], 0)
  lines.1 ++ ['$', delimiter]

/-- What comes after a command: the next one, those after a label, the next line, or nothing more.
The pattern space may be written before that, and may be kept instead of reading a line. -/
inductive Flow
  | on
  | jump (label : Text)
  | nextLine
  | sameLine
  | lastPrinted
  | leave

def endText (delimiter : Char) (t : Text) : Text :=
  if t.isEmpty then t else t.dropLast ++ [delimiter]

def join (delimiter : Char) (space added : Space) : Space :=
  ⟨space.text ++ delimiter :: added.text, added.ended⟩

def readSource (o : Options) (path : Text) (s : State) : State :=
  let (lines, s) :=
    match s.sources.lookup path with
    | some lines => (lines, s)
    | none =>
      let (t, s) := s.source path
      (spacesOf o.delimiter t, s)
  match lines with
  | [] => s
  | line :: rest =>
    let t := if line.ended then line.text ++ [o.delimiter] else line.text
    { s with
      sources := (path, rest) :: s.sources.filter (·.1 ≠ path)
      postponed := s.postponed ++ [.text t] }

def perform (o : Options) (command : Command) (s : State) : State × Flow :=
  let go (s : State) : State × Flow := (s, .on)
  match command.action with
  | .blockStart | .blockEnd | .label _ | .requireVersion => go s
  | .jump .always label => (s, .jump label)
  | .jump .substituted label =>
    if s.substituted then ({ s with substituted := false }, .jump label) else go s
  | .jump .notSubstituted label =>
    if s.substituted then go { s with substituted := false } else (s, .jump label)
  | .append t => go { s with postponed := s.postponed ++ [.text t] }
  | .insert t => go (s.put .output o (endText o.delimiter t))
  | .change t =>
    let lasts := (s.underWay? command).isSome
    (if lasts then s else s.put .output o (endText o.delimiter t), .nextLine)
  | .delete => (s, .nextLine)
  | .deleteFirst =>
    match s.pattern.text.dropWhile (· ≠ o.delimiter) with
    | [] => (s, .nextLine)
    | _ :: text => ({ s with pattern := { s.pattern with text } }, .sameLine)
  | .print => go (s.putPattern o)
  | .printFirst => go (s.putLine .output o (firstLine o s.pattern))
  | .list width => go (s.put .output o (listing o.delimiter (width.getD o.width) s.pattern.text))
  | .lineNumber => go (s.put .output o (Text.ofNat s.number ++ [o.delimiter]))
  | .fileName => go (s.put .output o (s.file ++ [o.delimiter]))
  | .next =>
    let s := if o.silent then s else s.putPattern o
    if s.isLast then (s, .nextLine) else go ((s.advance? o false).getD s)
  | .joinNext =>
    match if s.isLast then none else s.advance? o true with
    | none => (if o.silent then s else s.putPattern o, .nextLine)
    | some s => go s
  | .hold => go { s with held := s.pattern }
  | .holdMore => go { s with held := join o.delimiter s.held s.pattern }
  | .fetch => go { s with pattern := s.held }
  | .fetchMore => go { s with pattern := join o.delimiter s.pattern s.held }
  | .swap => go { s with pattern := s.held, held := s.pattern }
  | .clear => go { s with pattern := { s.pattern with text := [] } }
  | .quit true status => ({ if o.silent then s else s.putPattern o with status }, .lastPrinted)
  | .quit false status => ({ s with postponed := [], status }, .leave)
  | .readFile path =>
    match command.selection with
    | .one (.line 0) =>
      let (t, s) := s.source path
      go { s with output := s.output ++ t }
    | _ => go { s with postponed := s.postponed ++ [.file path] }
  | .readLine path => go (s.readSource o path)
  | .writeFile path => go (s.putTo path o s.pattern)
  | .writeFirst path => go (s.putTo path o (firstLine o s.pattern))
  | .evaluate none => go (s.evaluate o)
  | .evaluate (some line) =>
    let (t, s) := s.interpret o line.dropLast
    go (s.put .output o t)
  | .substitute sub => go (s.substitute o sub)
  | .breakDown => go (s.refuse 4)
  | .transliterate pairs =>
    let text := s.pattern.text.map fun c => (pairs.lookup c).getD c
    go { s with pattern := { s.pattern with text } }

def afterBlock (depth : Nat) : List Command → List Command
  | [] => []
  | command :: rest =>
    match command.action with
    | .blockStart => afterBlock (depth + 1) rest
    | .blockEnd => if depth = 0 then rest else afterBlock (depth - 1) rest
    | _ => afterBlock depth rest

def afterLabel (label : Text) : List Command → List Command
  | [] => []
  | command :: rest =>
    match command.action with
    | .label name => if name = label then rest else afterLabel label rest
    | _ => afterLabel label rest

/-- Carries out commands until the input is used up. `script` is the whole script and the list is
what is left of it for the present line. -/
def run (o : Options) (script : List Command) : (steps : Nat) → List Command → State → State
  | 0, _, s => s
  | steps + 1, rest, s =>
    let nextLine (s : State) : State :=
      match s.advance? o false with
      | none => (s.flush o).store o
      | some s => run o script steps script s
    if s.refused then s
    else
      match rest with
      | [] => nextLine (if o.silent then s else s.putPattern o)
      | command :: rest =>
        let (selected, s) := s.selects o command
        if selected = command.negated then
          match command.action with
          | .blockStart => run o script steps (afterBlock 0 rest) s
          | _ => run o script steps rest s
        else
          match s.perform o command with
          | (s, .on) => run o script steps rest s
          | (s, .jump label) => run o script steps (afterLabel label script) s
          | (s, .nextLine) => nextLine s
          | (s, .sameLine) => run o script steps script (s.flush o)
          | (s, .lastPrinted) => ((s.finishLine .output o.delimiter).flush o).store o
          | (s, .leave) => (s.flush o).store o

end State

/-! ## Arguments -/

def known : List Filter.Known :=
  [{ letter := 'n', names := ["quiet", "silent"] },
    { letter := 'e', names := ["expression"], takes := .value },
    { letter := 'f', names := ["file"], takes := .value },
    { letter := 'E', names := ["regexp-extended"] }, { letter := 'r' },
    { letter := 's', names := ["separate"] }, { letter := 'u', names := ["unbuffered"] },
    { letter := 'z', names := ["null-data", "zero-terminated"] },
    { letter := 'l', names := ["line-length"], takes := .value },
    { letter := 'p', names := ["posix"], long := true },
    { letter := 'i', names := ["in-place"], takes := .valueIfAttached },
    { letter := 'b', names := ["binary"] }, { letter := 'S', names := ["sandbox"], long := true },
    { letter := 'F', names := ["follow-symlinks"], long := true }]

/-- The scripts among the options, or else the first operand; and the other operands. -/
def scripts? (files : Files) (a : Filter.Arguments) : Option (List Text × List Text) := do
  let given ← a.options.filterMapM fun (letter, value) =>
    let t := Octets.toText (value.getD [])
    if letter = 'e' then some (some t)
    else if letter = 'f' then
      (State.fileText? files t).map fun t => some (if t.getLast? = some '\n' then t.dropLast else t)
    else some none
  match given, a.operands with
  | [], [] => none
  | [], script :: rest => return ([Octets.toText script], rest)
  | given, operands => return (given, operands)

def markEnds (lines : List Line) : List Line :=
  let lines := lines.mapIdx fun i line => { line with first := i = 0 }
  match lines.getLast? with
  | some last => lines.dropLast ++ [{ last with last := true }]
  | none => []

/-- What is wrong with a file that was named. A directory ends the input, other faults pass. -/
structure Unread where
  path : Text
  fault : FileFault

def Unread.isFatal (unread : Unread) : Bool := unread.fault = .isDirectory

def Unread.complaint (program : Text) (unread : Unread) : Filter.Chunk :=
  if unread.isFatal then
    .fault program ("read error on ".toList ++ unread.path) unread.fault.message
  else .fault program ("can't read ".toList ++ unread.path) unread.fault.message

/-- The lines of the files that are named, file by file, up to a directory. The input is used up the
first time that it is named. -/
def fileLines (files : Files) (delimiter : Char) (input : Text) :
    List Text → List (List Line) × List Unread
  | [] => ([], [])
  | path :: rest =>
    let lines (t : Text) : List Line :=
      (State.spacesOf delimiter t).map fun space => { space with file := Octets.toText path }
    let followedBy (t input : Text) : List (List Line) × List Unread :=
      let r := fileLines files delimiter input rest
      (lines t :: r.1, r.2)
    if Filter.namesInput path then followedBy input []
    else
      match files.read (Octets.toText path) with
      | .ok content => followedBy (Stray.decode content.toBytes) input
      | .error fault =>
        let unread : Unread := ⟨path, fault⟩
        if unread.isFatal then ([], [unread])
        else
          let r := fileLines files delimiter input rest
          (r.1, unread :: r.2)

def createTargets (files : Files) : List Text → Files × Option (Text × FileFault)
  | [] => (files, none)
  | path :: rest =>
    match State.openSink files path with
    | .ok (_, files) => createTargets files rest
    | .error fault => (files, some (path, fault))

def maxSteps : Nat := 1000000

/-- Runs a script over lines, file by file. What was meant for a file is lost if the script gives
up. -/
def edit (files : Files) (program : Text) (o : Options) (script : List Command)
    (operands : List Text) (input : Text) : Filter.Effect :=
  let (lines, unread) := fileLines files o.delimiter (Stray.decode (Octets.toBytes input)) operands
  let lines := if o.separate then lines.flatMap markEnds else markEnds lines.flatten
  let start : State := { files, input := lines }
  let s := (start.advance? o false).elim start (State.run o script maxSteps script)
  let status :=
    if s.status ≠ 0 then s.status
    else if unread.any Unread.isFatal then 4
    else if unread.isEmpty then 0
    else 2
  let isLost := s.refused && o.inPlace.isSome
  let output := Octets.ofBytes (Stray.encode (if isLost then [] else s.output))
  { chunks := unread.map (Unread.complaint program) ++ [.output output]
    status
    usesInput := operands.any Filter.namesInput
    files := s.files }

def run (interpreter : Filter.Interpreter) (files : Files) (program : Text) (arguments : List Text)
    (input : Text) : Filter.Effect :=
  let parts := do
    let a ← (Filter.Arguments.read known true arguments).toOption
    return (a, ← scripts? files a)
  match parts with
  | none => .failure files
  | some (a, scripts, operands) =>
    let text := Text.joinWith ['\n'] scripts
    let dialect : Regex.Dialect := if a.has 'E' || a.has 'r' then .extended else .basic
    let width := (a.options.lookup 'l').bind fun value => Regex.readNumber? (value.getD [])
    let inPlace := (a.options.lookup 'i').map fun suffix => Octets.toText (suffix.getD [])
    let o : Options :=
      { interpreter
        silent := a.has 'n' || silences text
        delimiter := if a.has 'z' then '\x00' else '\n'
        width := (width.map (·.1)).getD 70
        separate := a.has 's' || inPlace.isSome
        inPlace
        lastFile := (operands.getLast?.map Octets.toText).getD ['-'] }
    let (script, targets) := readScript dialect (a.has 'S') text
    match createTargets files targets, script with
    | (files, some (path, fault)), _ =>
      let subject := "couldn't open file ".toList ++ Octets.ofText path
      let complaint := Filter.Chunk.fault program subject fault.message
      { Filter.Effect.failure files [complaint] with status := 4 }
    | (files, none), none => .failure files
    | (files, none), some script =>
      if inPlace.isSome && operands.isEmpty then { Filter.Effect.failure files with status := 4 }
      else edit files program o script (if operands.isEmpty then [['-']] else operands) input

end SqlBoundary.Edit
