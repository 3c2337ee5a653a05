import SqlBoundary.Files
import SqlBoundary.Programs.Octets
import SqlBoundary.Programs.Shell.Pattern

/-! # Fields

What a word expands to is split at separators that came out of its expansions, and each field is
then a pattern for the paths of files.
-/

namespace SqlBoundary.Shell

/-- A character of an expanded word. Quotes leave a mark, a break ends a field, and an edge is where
an expansion begins or ends. -/
inductive Glyph
  | char (c : Char) (quoted splits : Bool)
  | mark
  | break
  | edge
deriving DecidableEq

abbrev Field := List Glyph

namespace Field

def ofText (quoted splits : Bool) (t : Text) : Field :=
  let glyphs := t.map (Glyph.char · quoted splits)
  if splits then .edge :: glyphs ++ [.edge] else glyphs

def toText (field : Field) : Text :=
  field.filterMap fun glyph =>
    match glyph with
    | .char c _ _ => some c
    | .break => some ' '
    | .mark | .edge => none

def toPattern (field : Field) : List PatternChar :=
  field.filterMap fun glyph =>
    match glyph with
    | .char c quoted _ => some (c, quoted)
    | .mark | .break | .edge => none

/-- What the separators passed so far can still take in before a field begins: nothing, blanks, or
blanks and one other separator. -/
inductive Passed
  | nothing
  | separator
  | blanks
deriving DecidableEq

def isBlank (c : Char) : Bool := c = ' ' || c = '\t' || c = '\n'

/-- Splits at separators. Blanks among them come in runs and do not stand for empty fields; the
separators of one expansion do not go together with those of another one. -/
def splitFrom (separators : Text) (passed : Passed) (current : Field) : Field → List Field
  | [] => if current.isEmpty then [] else [current]
  | .break :: rest => current :: splitFrom separators .nothing [] rest
  | .char c quoted splits :: rest =>
    if !splits || !separators.contains c then
      splitFrom separators .nothing (current ++ [.char c quoted splits]) rest
    else if isBlank c then
      if current.isEmpty then splitFrom separators passed [] rest
      else current :: splitFrom separators .blanks [] rest
    else if current.isEmpty && passed = .blanks then splitFrom separators .separator [] rest
    else current :: splitFrom separators .separator [] rest
  | .mark :: rest => splitFrom separators .nothing (current ++ [.mark]) rest
  | .edge :: rest => splitFrom separators .nothing current rest

def split (separators : Text) (field : Field) : List Field := splitFrom separators .nothing [] field

end Field

/-! ## Paths that match -/

namespace Path

/-- Whether a pattern has a wildcard; a bracket counts only if it is closed before a slash. -/
def hasWildcard : List PatternChar → Bool
  | [] => false
  | ('*', false) :: _ | ('?', false) :: _ => true
  | ('[', false) :: rest =>
    let inside := (if rest.head? = some ('!', false) then rest.drop 1 else rest).drop 1
    let closed := (inside.dropWhile fun c => c.1 ≠ '/' && c ≠ (']', false)).head? =
      some (']', false)
    closed || hasWildcard rest
  | ('\\', false) :: _ :: rest => hasWildcard rest
  | _ :: rest => hasWildcard rest

def literal : List PatternChar → Text
  | ('\\', false) :: c :: rest => c.1 :: literal rest
  | c :: rest => c.1 :: literal rest
  | [] => []

def segments : List PatternChar → List (List PatternChar)
  | [] => [[]]
  | c :: rest =>
    match segments rest with
    | [] => [[c]]
    | first :: others => if c.1 = '/' then [] :: first :: others else (c :: first) :: others

def namesIn (files : Files) (path : Text) : List Text :=
  match files.locate (if path.isEmpty then ['.'] else Octets.toText path) with
  | .error _ => []
  | .ok location =>
    if files.node? location = some .directory then
      ['.'] :: ['.', '.'] :: (files.names location).map Octets.ofText
    else []

/-- The paths that match segments of a pattern, after what has been matched already. Names that
begin with a dot are matched only by one. -/
def expandFrom (files : Files) (found : Text) : List (List PatternChar) → List Text
  | [] => []
  | [last] =>
    if hasWildcard last then (matching last).map (found ++ ·)
    else
      let path := found ++ literal last
      if files.exists? (Octets.toText path) then [path] else []
  | segment :: rest =>
    if hasWildcard segment then
      (matching segment).flatMap fun name => expandFrom files (found ++ name ++ ['/']) rest
    else expandFrom files (found ++ literal segment ++ ['/']) rest
where
  matching (segment : List PatternChar) : List Text :=
    let pattern := Pattern.ofChars segment
    let dotted := (literal (segment.take 2)).head? = some '.'
    (namesIn files found).filter fun name =>
      (dotted || name.head? ≠ some '.') && Pattern.accepts pattern name

def expand (files : Files) (field : Field) : List Text :=
  let pattern := field.toPattern
  let found :=
    if hasWildcard pattern then expandFrom files [] (segments pattern) else []
  if found.isEmpty then [field.toText] else found.mergeSort Text.precedes

end Path
end SqlBoundary.Shell
