import SqlBoundary.Programs.Filter.Edit.Script
import SqlBoundary.Programs.Regex.Reader

/-! # Reading scripts

Commands are separated by semicolons and line ends. Fields between delimiters and texts may write
characters by their codes.
-/

namespace SqlBoundary.Edit

/-- What is left of a script, and the files to write to that were named before. They count even if
the script turns out to be wrong. A restricted script may neither name files nor run programs. -/
structure Reading where
  rest : Text
  targets : List Text := []
  restricted : Bool := false

abbrev Read := OptionT (StateM Reading)

namespace Read

def fail {α : Type} : Read α := failure

def rest : Read Text := do return (← get).rest

def unrestricted : Read Unit := do
  if (← get).restricted then fail

def goOn (rest : Text) : Read Unit := modify fun r => { r with rest }

def part {α : Type} (read : Text → Option (α × Text)) : Read α := do
  match read (← rest) with
  | none => fail
  | some (value, rest) =>
    goOn rest
    return value

def peek : Read (Option Char) := do return (← rest).head?

def next : Read (Option Char) := part fun s => some (s.head?, s.drop 1)

def skip (p : Char → Bool) : Read Unit := part fun s => some ((), s.dropWhile p)

def take (p : Char → Bool) : Read Text := part fun s => some (s.takeWhile p, s.dropWhile p)

def isBlank (c : Char) : Bool := c = ' ' || c = '\t' || c = '\r' || c = '\x0b' || c = '\x0c'

def number : Read Nat := do
  let digits ← take Char.isDigit
  return digits.foldl (fun n c => n * 10 + (c.toNat - '0'.toNat)) 0

def peekFilled : Read (Option Char) := do
  skip isBlank
  peek

end Read

/-! ## Characters written by their codes -/

def digitOf? (radix : Nat) (c : Char) : Option Nat :=
  let value :=
    if c.isDigit then c.toNat - '0'.toNat
    else if 'a' ≤ c.toLower && c.toLower ≤ 'f' then c.toLower.toNat - 'a'.toNat + 10
    else radix
  if value < radix then some value else none

/-- The character of a code in so many digits at the most, and how many there are. -/
def codeAt (radix most : Nat) (s : Text) : Option (Char × Nat) :=
  let digits := (s.take most).takeWhile fun c => (digitOf? radix c).isSome
  if digits.isEmpty then none
  else
    let code := digits.foldl (fun n c => n * radix + (digitOf? radix c).getD 0) 0
    some (Stray.ofCode (code % 256), digits.length)

def namedControl? : Char → Option Char
  | 'a' => some '\x07'
  | 'f' => some '\x0c'
  | 'r' => some '\r'
  | 't' => some '\t'
  | 'v' => some '\x0b'
  | _ => none

/-- What a field is for decides which characters stay plain where they are written by codes. -/
inductive Use
  | expression
  | replacement
  | text
deriving DecidableEq

def written (use : Use) (c : Char) : Text :=
  if c = '\\' || (use = .replacement && c = '&') || (use = .replacement && c = '\n') then ['\\', c]
  else [c]

/-- What a backslash and a character write by a code, and how many further characters belong to it.
-/
def code? (use : Use) (c : Char) (rest : Text) : Option (Text × Nat) :=
  let coded (radix most : Nat) : Option (Text × Nat) :=
    (codeAt radix most rest).map fun (d, length) => (written use d, length)
  match c, rest with
  | 'd', _ => coded 10 3
  | 'o', _ => coded 8 3
  | 'x', _ => coded 16 2
  | 'c', '\\' :: '\\' :: _ => some (['\x1c'], 2)
  | 'c', d :: _ =>
    let octets := Stray.splitFirst [d]
    some (octets.modifyHead fun c => Stray.ofCode (c.toUpper.toNat % 256 ^^^ 64), 1)
  | 'c', [] => some (['\\'], 0)
  | 'n', _ => if use = .text then some (['\n'], 0) else none
  | c, _ => (namedControl? c).map fun d => ([d], 0)

/-- Whether a code is that of a control character that is itself written by a code. -/
def isNested : Char → Text → Bool
  | 'c', '\\' :: c :: _ => c ≠ '\\'
  | _, _ => false

/-- Puts characters in the place of their codes; other backslashes are kept. -/
def replaceCodes? (use : Use) (s : Text) : Option Text :=
  match s with
  | [] => some []
  | '\\' :: c :: rest =>
    if isNested c rest then none
    else
      match code? use c rest with
      | some (t, length) => (replaceCodes? use (rest.drop length)).map (t ++ ·)
      | none => (replaceCodes? use rest).map ('\\' :: c :: ·)
  | c :: rest => (replaceCodes? use rest).map (c :: ·)
termination_by s.length
decreasing_by all_goals grind

/-- Codes are those of octets, which may make characters together. -/
def resolveCodes? (use : Use) (s : Text) : Option Text := (replaceCodes? use s).map Stray.join

/-! ## Fields -/

/-- Reads on through the end of a bracket expression, in which delimiters are plain. -/
def readBracket? : (steps : Nat) → Text → Option (Text × Text)
  | 0, _ => none
  | steps + 1, s =>
    let onward (read rest : Text) : Option (Text × Text) :=
      (readBracket? steps rest).map fun r => (read ++ r.1, r.2)
    match s with
    | [] | '\n' :: _ => none
    | ']' :: rest => some ([']'], rest)
    | '\\' :: 'n' :: rest => onward ['\n'] rest
    | '\\' :: 'c' :: '\\' :: c :: rest => onward ['\\', 'c', '\\', c] rest
    | '\\' :: '\\' :: rest => onward ['\\', '\\'] rest
    | '[' :: mark :: rest =>
      if mark = ':' || mark = '.' || mark = '=' then
        match Regex.readName? mark rest with
        | some (name, rest) => onward ('[' :: mark :: name ++ [mark, ']']) rest
        | none => none
      else onward ['['] (mark :: rest)
    | c :: rest => onward [c] rest

def readWholeBracket? (s : Text) : Option (Text × Text) :=
  let opening : Text :=
    match s with
    | '^' :: ']' :: _ => ['^', ']']
    | '^' :: _ => ['^']
    | ']' :: _ => [']']
    | _ => []
  let rest := s.drop opening.length
  (readBracket? (rest.length + 1) rest).map fun r => ('[' :: opening ++ r.1, r.2)

/-- Reads up to a delimiter on the same line. A backslash before the delimiter or a line feed is
dropped; in an expression one before an `n` makes a line feed, which has no control character. -/
def readField? (delimiter : Char) (use : Use) : (steps : Nat) → Text → Option (Text × Text)
  | 0, _ | _, [] => none
  | steps + 1, c :: rest =>
    if c = delimiter then some ([], rest)
    else
      match c, rest with
      | '\\', d :: rest =>
        let kept : Text :=
          if use = .expression && d = 'n' then ['\n']
          else if d = '\n' || (d = delimiter && !(use = .replacement && d = '&')) then [d]
          else ['\\', d]
        let nests := use = .expression && d = 'c' && ['\\', 'n'].isPrefixOf rest
        if nests then none
        else (readField? delimiter use steps rest).map fun r => (kept ++ r.1, r.2)
      | '\n', _ => none
      | c, rest =>
        if c = '[' && use = .expression then do
          let (bracket, rest) ← readWholeBracket? rest
          let (t, rest) ← readField? delimiter use steps rest
          return (bracket ++ t, rest)
        else (readField? delimiter use steps rest).map fun r => (c :: r.1, r.2)

def readDelimiter : Read Char := do
  match ← Read.next with
  | none => Read.fail
  | some c => if c = '\n' || 128 ≤ c.toNat then Read.fail else return c

def field (delimiter : Char) (use : Use) : Read Text :=
  Read.part fun s => readField? delimiter use (s.length + 1) s

def codedField (delimiter : Char) (use : Use) : Read Text := do
  match resolveCodes? use (← field delimiter use) with
  | some t => return t
  | none => Read.fail

def pattern? (d : Regex.Dialect) (s : Text) (mode : Regex.Mode) : Option Pattern :=
  if s.isEmpty then
    if mode.ignoreCase || mode.multiline then none else some { expression := none }
  else do
    let e ← Regex.read? d (← resolveCodes? .expression s)
    return { expression := some e, mode }

/-! ## Addresses -/

def addressFlags : (steps : Nat) → Regex.Mode → Read Regex.Mode
  | 0, mode => return mode
  | steps + 1, mode => do
    match ← Read.peekFilled with
    | some 'I' => do
      let _ ← Read.next
      addressFlags steps { mode with ignoreCase := true }
    | some 'M' => do
      let _ ← Read.next
      addressFlags steps { mode with multiline := true }
    | _ => return mode

def matchingAddress (d : Regex.Dialect) (delimiter : Char) : Read (Option Address) := do
  let expression ← field delimiter .expression
  let rest ← Read.rest
  let mode ← addressFlags (rest.length + 1) {}
  match pattern? d expression mode with
  | some pattern => return some (.matching pattern)
  | none => Read.fail

/-- Reads an address if there is one. No lines on, or a multiple of nothing, is at any line. -/
def address? (d : Regex.Dialect) : Read (Option Address) := do
  match ← Read.peekFilled with
  | some '$' =>
    let _ ← Read.next
    return some .last
  | some '/' =>
    let _ ← Read.next
    matchingAddress d '/'
  | some '\\' =>
    let _ ← Read.next
    matchingAddress d (← readDelimiter)
  | some c =>
    if c.isDigit then
      let first ← Read.number
      match ← Read.peekFilled with
      | some '~' =>
        let _ ← Read.next
        Read.skip Read.isBlank
        let step ← Read.number
        return some (if step = 0 then .line first else .every first step)
      | _ => return some (.line first)
    else if c = '+' || c = '~' then
      let _ ← Read.next
      Read.skip Read.isBlank
      if (← Read.number) = 0 then return some (.every 0 1) else Read.fail
    else return none
  | none => return none

def rangeEnd (d : Regex.Dialect) : Read RangeEnd := do
  match ← Read.peekFilled with
  | some '+' =>
    let _ ← Read.next
    Read.skip Read.isBlank
    return .after (← Read.number)
  | some '~' =>
    let _ ← Read.next
    Read.skip Read.isBlank
    return .multiple (← Read.number)
  | _ =>
    match ← address? d with
    | some a => return .address a
    | none => Read.fail

/-- Line zero can only begin a range that ends at a match, or be where a file is read. -/
def selection (d : Regex.Dialect) : Read Selection := do
  match ← address? d with
  | none => return .all
  | some start =>
    match ← Read.peekFilled with
    | some ',' =>
      let _ ← Read.next
      let stop ← rangeEnd d
      match start, stop with
      | .line 0, .address (.matching _) => return .range start stop
      | .line 0, _ => Read.fail
      | _, _ => return .range start stop
    | letter =>
      match start with
      | .line 0 => if letter = some 'r' then return .one start else Read.fail
      | _ => return .one start

/-! ## Arguments of commands -/

/-- Reads what may follow a command: nothing more on its line but a comment or the end of a
block. -/
def endOfCommand : Read Unit := do
  match ← Read.peekFilled with
  | none | some '\x7d' | some '#' => return
  | some ';' | some '\n' =>
    let _ ← Read.next
    return
  | some _ => Read.fail

def isLabelChar (c : Char) : Bool :=
  !(Read.isBlank c || c = '\n' || c = ';' || c = '\x7d' || c = '#')

def restOfLine : Read Text := do
  Read.skip Read.isBlank
  let t ← Read.take (· ≠ '\n')
  let _ ← Read.next
  return t

def path : Read Text := do
  let t ← restOfLine
  if t.isEmpty then Read.fail else return t

def target : Read Text := do
  Read.unrestricted
  let t ← path
  modify fun r => { r with targets := r.targets ++ [t] }
  return t

/-- How a text ends: with its line, with the script, or with the script after a backslash. -/
inductive TextEnd
  | line
  | script
  | backslash
deriving DecidableEq

/-- Reads a text up to its line end; a line feed after a backslash is a part of it. -/
def readRawText : Text → Text × TextEnd × Text
  | [] => ([], .script, [])
  | ['\\'] => ([], .backslash, [])
  | '\\' :: c :: rest =>
    let r := readRawText rest
    ('\\' :: c :: r.1, r.2)
  | '\n' :: rest => ([], .line, rest)
  | c :: rest =>
    let r := readRawText rest
    (c :: r.1, r.2)

def dropBackslashes : Text → Text
  | '\\' :: c :: rest => c :: dropBackslashes rest
  | c :: rest => c :: dropBackslashes rest
  | [] => []

/-- Reads a text to add, with its line end, which a code may take in; where the script ends before
it there may be none. A backslash that ends the script keeps the others. -/
def textBody (required : Bool) : Read Text :=
  Read.part fun s => do
    let (raw, ending, rest) := readRawText s
    let raw := if required || ending = .line || !raw.isEmpty then raw ++ ['\n'] else []
    if ending = .backslash then return (raw, rest)
    else return (dropBackslashes (← resolveCodes? .text raw), rest)

/-- Reads a text to add. It begins after a backslash and a line end, or right after the command,
where a backslash may keep the blanks before it. -/
def addedText : Read Text := do
  match ← Read.peekFilled with
  | none => Read.fail
  | some '\\' =>
    let _ ← Read.next
    let here ← Read.rest
    match ← Read.peekFilled with
    | some '\n' =>
      let _ ← Read.next
      textBody true
    | _ =>
      Read.goOn here
      textBody false
  | some _ => textBody false

/-! ## Substitutions -/

def readReplacement : Text → List Insert
  | '\\' :: c :: rest =>
    let insert : Insert :=
      if c.isDigit then .group (c.toNat - '0'.toNat)
      else
        match c with
        | 'L' => .change .lower
        | 'U' => .change .upper
        | 'l' => .change .nextLower
        | 'u' => .change .nextUpper
        | 'E' => .change .stop
        | 'n' => .char '\n'
        | c => .char c
    insert :: readReplacement rest
  | '&' :: rest => .group 0 :: readReplacement rest
  | c :: rest => .char c :: readReplacement rest
  | [] => []

def substitutionFlags : (steps : Nat) → Substitution → Regex.Mode → Read (Substitution × Regex.Mode)
  | 0, s, mode => return (s, mode)
  | steps + 1, s, mode => do
    match ← Read.peekFilled with
    | some 'g' =>
      let _ ← Read.next
      if s.everywhere then Read.fail else substitutionFlags steps { s with everywhere := true } mode
    | some 'p' =>
      let _ ← Read.next
      if s.prints || s.printsValue then Read.fail
      else
        let s :=
          if s.evaluates then { s with printsValue := true } else { s with prints := true }
        substitutionFlags steps s mode
    | some 'e' =>
      let _ ← Read.next
      Read.unrestricted
      substitutionFlags steps { s with evaluates := true } mode
    | some 'i' | some 'I' =>
      let _ ← Read.next
      substitutionFlags steps s { mode with ignoreCase := true }
    | some 'm' | some 'M' =>
      let _ ← Read.next
      substitutionFlags steps s { mode with multiline := true }
    | some 'w' =>
      let _ ← Read.next
      return ({ s with target := some (← target) }, mode)
    | some c =>
      if c.isDigit then
        let n ← Read.number
        if s.number.isSome || n = 0 then Read.fail
        else substitutionFlags steps { s with number := some n } mode
      else
        endOfCommand
        return (s, mode)
    | none => return (s, mode)

def largestGroup (inserts : List Insert) : Nat :=
  inserts.foldl (fun n insert =>
    match insert with
    | .group m => max n m
    | _ => n) 0

def substitution (d : Regex.Dialect) : Read Substitution := do
  let delimiter ← readDelimiter
  let expression ← field delimiter .expression
  let replacement := readReplacement (← codedField delimiter .replacement)
  let rest ← Read.rest
  let (s, mode) ← substitutionFlags (rest.length + 1)
    { pattern := { expression := none }, replacement } {}
  match pattern? d expression mode with
  | none => Read.fail
  | some pattern =>
    let groups := pattern.expression.elim 9 Regex.groupCount
    if groups < largestGroup replacement then Read.fail else return { s with pattern }

/-- The characters of a field of a transliteration. A backslash at its end is none. -/
def plainChars : Text → Text
  | ['\\'] => []
  | '\\' :: 'n' :: rest => '\n' :: plainChars rest
  | '\\' :: c :: rest => c :: plainChars rest
  | c :: rest => c :: plainChars rest
  | [] => []

def transliteration : Read (List (Char × Char)) := do
  let delimiter ← readDelimiter
  let source := plainChars (← codedField delimiter .text)
  let target := plainChars (← codedField delimiter .text)
  if source.length ≠ target.length then Read.fail
  else
    endOfCommand
    return source.zip target

/-! ## Commands -/

def plain (action : Action) : Read Action := do
  endOfCommand
  return action

def optionalNumber : Read (Option Nat) := do
  match ← Read.peekFilled with
  | some c => if c.isDigit then return some (← Read.number) else return none
  | none => return none

def status : Read Nat := do
  return (← optionalNumber).getD 0 % 256

def commandLine : Read (Option Text) := do
  Read.unrestricted
  match ← Read.peekFilled with
  | none => return none
  | some '\n' =>
    let _ ← Read.next
    return none
  | some _ => return some (← addedText)

/-- Whether a version comes after another one: runs of digits are compared as numbers, and other
characters one by one. -/
def isLater : (steps : Nat) → Text → Text → Bool
  | 0, _, _ | _, [], _ => false
  | _, _ :: _, [] => true
  | steps + 1, c :: s, d :: t =>
    if c.isDigit && d.isDigit then
      let run (s : Text) : Nat × Text :=
        let digits := s.takeWhile Char.isDigit
        (digits.foldl (fun n c => n * 10 + (c.toNat - '0'.toNat)) 0, s.drop digits.length)
      let (n, s) := run (c :: s)
      let (m, t) := run (d :: t)
      m < n || (n = m && isLater steps s t)
    else d < c || (c = d && isLater steps s t)

def version : Text := "4.9"

def requiredVersion : Read Unit := do
  Read.skip Read.isBlank
  let t ← Read.take isLabelChar
  if isLater (t.length + 1) t version then Read.fail

def jumpLabel : Read Text := do
  Read.skip Read.isBlank
  let label ← Read.take isLabelChar
  endOfCommand
  return label

def action (d : Regex.Dialect) : Char → Read Action
  | '\x7b' => return .blockStart
  | '\x7d' => plain .blockEnd
  | ':' => do
    Read.skip Read.isBlank
    let name ← Read.take isLabelChar
    if name.isEmpty then Read.fail else return .label name
  | 'b' => return .jump .always (← jumpLabel)
  | 't' => return .jump .substituted (← jumpLabel)
  | 'T' => return .jump .notSubstituted (← jumpLabel)
  | 'a' => return .append (← addedText)
  | 'i' => return .insert (← addedText)
  | 'c' => return .change (← addedText)
  | 'd' => plain .delete
  | 'D' => plain .deleteFirst
  | 'p' => plain .print
  | 'P' => plain .printFirst
  | 'l' => do
    let width ← optionalNumber
    plain (.list width)
  | 'L' => do
    let _ ← optionalNumber
    plain .breakDown
  | '=' => plain .lineNumber
  | 'F' => plain .fileName
  | 'n' => plain .next
  | 'N' => plain .joinNext
  | 'h' => plain .hold
  | 'H' => plain .holdMore
  | 'g' => plain .fetch
  | 'G' => plain .fetchMore
  | 'x' => plain .swap
  | 'z' => plain .clear
  | 'q' => do
    let status ← status
    plain (.quit true status)
  | 'Q' => do
    let status ← status
    plain (.quit false status)
  | 'r' => do
    Read.unrestricted
    return .readFile (← path)
  | 'R' => do
    Read.unrestricted
    return .readLine (← path)
  | 'w' => return .writeFile (← target)
  | 'W' => return .writeFirst (← target)
  | 'e' => return .evaluate (← commandLine)
  | 'v' => do
    requiredVersion
    return .requireVersion
  | 's' => return .substitute (← substitution d)
  | 'y' => return .transliterate (← transliteration)
  | _ => Read.fail

/-- Some commands take no address, and some only one. -/
def allows (selection : Selection) (action : Action) : Bool :=
  match action, selection with
  | .label _, .all | .blockEnd, .all => true
  | .label _, _ | .blockEnd, _ => false
  | .quit .., .range .. => false
  | _, _ => true

def isSeparator (c : Char) : Bool := c = ';' || c = '\n' || Read.isBlank c

/-- Reads commands to the end; `index` counts them. -/
def commands (d : Regex.Dialect) (index : Nat) : (steps : Nat) → Read (List Command)
  | 0 => return []
  | steps + 1 => do
    Read.skip isSeparator
    match ← Read.peek with
    | none => return []
    | some '#' =>
      Read.skip (· ≠ '\n')
      commands d index steps
    | some _ =>
      let selection ← selection d
      let negated := (← Read.peekFilled) = some '!'
      if negated then
        let _ ← Read.next
      Read.skip Read.isBlank
      match ← Read.next with
      | none => Read.fail
      | some letter =>
        let action ← action d letter
        if allows selection action then
          let command : Command := { index, selection, negated, action }
          return command :: (← commands d (index + 1) steps)
        else Read.fail

def balanced (depth : Nat) : List Command → Bool
  | [] => depth = 0
  | command :: rest =>
    match command.action with
    | .blockStart => balanced (depth + 1) rest
    | .blockEnd => depth ≠ 0 && balanced (depth - 1) rest
    | _ => balanced depth rest

def labelled (script : List Command) : Bool :=
  let labels := script.filterMap fun command =>
    match command.action with
    | .label name => some name
    | _ => none
  script.all fun command =>
    match command.action with
    | .jump _ name => name.isEmpty || labels.contains name
    | _ => true

/-- Reads a script, if it is one; and the files to write to that it names. -/
def readScript (d : Regex.Dialect) (restricted : Bool) (s : Text) :
    Option (List Command) × List Text :=
  let (script, r) := (commands d 0 (s.length + 1)).run.run { rest := s, restricted }
  (script.filter fun script => balanced 0 script && labelled script, r.targets)

/-- A script that begins with this comment prints no line unasked. -/
def silences (s : Text) : Bool := ['#', 'n'].isPrefixOf s

end SqlBoundary.Edit
