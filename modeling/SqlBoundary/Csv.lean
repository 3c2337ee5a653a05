import SqlBoundary.Text.Basic

/-! # Comma-separated records

A field is quoted when it holds a comma, a double quote or a character of the record separator. A
double quote inside a quoted field is written twice.
-/

namespace SqlBoundary.Csv

def needsQuotes (separator field : Text) : Bool :=
  field.any fun c => c = ',' || c = '"' || separator.contains c

def doubleQuotes (field : Text) : Text := field.flatMap fun c => if c = '"' then ['"', '"'] else [c]

def field (separator t : Text) : Text :=
  if needsQuotes separator t then '"' :: doubleQuotes t ++ ['"'] else t

def record (separator : Text) (fields : List Text) : Text :=
  Text.joinWith [','] (fields.map (field separator)) ++ separator

end SqlBoundary.Csv
