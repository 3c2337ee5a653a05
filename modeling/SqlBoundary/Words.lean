import SqlBoundary.Text.Basic

/-! # Words of a command line

White space separates words. Single quotes keep everything, double quotes keep everything but a
backslash before a backslash or a double quote, and elsewhere a backslash keeps the next character.
-/

namespace SqlBoundary.Words

inductive Fault
  | noClosingQuotation
  | noEscapedCharacter
deriving DecidableEq

def Fault.message : Fault → Text
  | noClosingQuotation => "No closing quotation"
  | noEscapedCharacter => "No escaped character"

inductive Mode
  | bare
  | quoted (q : Char)
  | escaped
  | escapedInQuotes
deriving DecidableEq

def isSeparator (c : Char) : Bool := c = ' ' || c = '\t' || c = '\r' || c = '\n'

/-- Reads on with the characters of the current word, if one has begun. -/
def splitFrom (mode : Mode) (word : Option Text) : Text → Except Fault (List Text)
  | [] =>
    match mode with
    | .bare => .ok word.toList
    | .quoted _ => .error .noClosingQuotation
    | .escaped | .escapedInQuotes => .error .noEscapedCharacter
  | c :: rest =>
    let sofar := word.getD []
    match mode with
    | .bare =>
      if isSeparator c then (splitFrom .bare none rest).map (word.toList ++ ·)
      else if c = '\'' || c = '"' then splitFrom (.quoted c) (some sofar) rest
      else if c = '\\' then splitFrom .escaped (some sofar) rest
      else splitFrom .bare (some (sofar ++ [c])) rest
    | .quoted q =>
      if c = q then splitFrom .bare (some sofar) rest
      else if c = '\\' && q = '"' then splitFrom .escapedInQuotes (some sofar) rest
      else splitFrom (.quoted q) (some (sofar ++ [c])) rest
    | .escaped => splitFrom .bare (some (sofar ++ [c])) rest
    | .escapedInQuotes =>
      let kept := if c = '\\' || c = '"' then [c] else ['\\', c]
      splitFrom (.quoted '"') (some (sofar ++ kept)) rest

def split (s : Text) : Except Fault (List Text) := splitFrom .bare none s

end SqlBoundary.Words
