import SqlBoundary.Text.Basic

/-! # Lines

A line ends at a line feed, at a carriage return, or at the two together; reading makes them all
line feeds.
-/

namespace SqlBoundary.Text

/-- Makes every line end a line feed. -/
def unifyLineEnds : Text → Text
  | '\r' :: '\n' :: rest => '\n' :: unifyLineEnds rest
  | '\r' :: rest => '\n' :: unifyLineEnds rest
  | c :: rest => c :: unifyLineEnds rest
  | [] => []

/-- The pieces of a text between the copies of a character. -/
def segments (separator : Char) : Text → List Text
  | [] => [[]]
  | c :: rest =>
    match segments separator rest with
    | [] => [[c]]
    | piece :: pieces =>
      if c = separator then [] :: piece :: pieces else (c :: piece) :: pieces

/-- The lines of a text without their ends; an empty last line is none. -/
def lines (s : Text) : List Text :=
  let pieces := segments '\n' s
  if pieces.getLast? = some [] then pieces.dropLast else pieces

end SqlBoundary.Text
