import SqlBoundary.Text.Basic

/-! # History files

In a history file a line that starts with a plus sign belongs to an entry, and any other line ends
the entry before it. The last character of an entry is the end of its last line and is left out.
-/

namespace SqlBoundary.HistoryFile

/-- An entry without the end of its last line; no lines make no entry. -/
def close (lines : List Text) : List Text :=
  if lines.isEmpty then [] else [lines.flatten.dropLast]

def linesWithEnds : Text → List Text
  | [] => []
  | c :: rest =>
    if c = '\n' then [c] :: linesWithEnds rest
    else
      match linesWithEnds rest with
      | [] => [[c]]
      | line :: lines => (c :: line) :: lines

/-- The entries that begin with lines already read, oldest first. -/
def entriesFrom (lines : List Text) : List Text → List Text
  | [] => close lines
  | ('+' :: line) :: rest => entriesFrom (lines ++ [line]) rest
  | _ :: rest => close lines ++ entriesFrom [] rest

def entries (content : Text) : List Text := entriesFrom [] (linesWithEnds content)

def load (content : Text) : List Text := (entries content).reverse

end SqlBoundary.HistoryFile
