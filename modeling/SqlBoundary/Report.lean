import SqlBoundary.Statement
import SqlBoundary.Settings.Basic
import SqlBoundary.Csv

/-! # Reports

What is written for a text that was split, in each of the four formats. Positions need the split
points, the other formats the statements. Statements may be coloured by a given function.
-/

namespace SqlBoundary.Report

/-- A coloured statement, without the line ends that colouring leaves behind it. -/
def colorize (markUp : Text → Text) (settings : Settings) (t : Text) : Text :=
  if settings.colored then ((markUp t).reverse.dropWhile (· = '\n')).reverse else t

/-- A statement with its semicolon, which has to stand outside a line comment. -/
def statement (markUp : Text → Text) (settings : Settings) (t : Text) : Text :=
  colorize markUp settings t ++
    (if endsInLineComment t settings.standardStrings then ['\n'] else []) ++
    ';' :: settings.recordSeparator

def statements (markUp : Text → Text) (settings : Settings) (ts : List Text) : Text :=
  ts.flatMap (statement markUp settings)

def csvRow (separator : Text) (number : Nat) (t : Text) : Text :=
  Csv.record separator [Text.ofNat number, t]

def csvRows (separator : Text) (number : Nat) : List Text → Text
  | [] => []
  | t :: ts => csvRow separator number t ++ csvRows separator (number + 1) ts

def csvHeader (separator : Text) : Text := Csv.record separator ["index".toList, "statement".toList]

def csv (settings : Settings) (ts : List Text) : Text :=
  let separator := settings.recordSeparator
  (if settings.tuplesOnly then [] else csvHeader separator) ++ csvRows separator 1 ts

def fields : SplitPoint → List Text
  | .semicolon position => ["semicolon".toList, Text.ofNat position]
  | .comment start stop => ["comment".toList, Text.ofNat start, Text.ofNat stop]

def position (settings : Settings) (point : SplitPoint) : Text :=
  Text.joinWith settings.fieldSeparator (fields point) ++ settings.recordSeparator

def positions (settings : Settings) (points : List SplitPoint) : Text :=
  points.flatMap (position settings)

def count (settings : Settings) (n : Nat) : Text :=
  let shown := Text.ofNat n
  (if settings.tuplesOnly then shown
    else '(' :: shown ++ " statement".toList ++ (if n = 1 then [')'] else ['s', ')'])) ++
    settings.recordSeparator

/-- Statements are written where the format is none of the three others. -/
def render (markUp : Text → Text) (settings : Settings) (ts : List Text)
    (points : List SplitPoint) : Text :=
  if settings.format = "csv".toList then csv settings ts
  else if settings.format = "positions".toList then positions settings points
  else if settings.format = "count".toList then count settings ts.length
  else statements markUp settings ts

def writesStatements (settings : Settings) : Bool :=
  !(["csv".toList, "positions".toList, "count".toList].contains settings.format)

/-- The statements that are scanned to be written. -/
def scanned (settings : Settings) (ts : List Text) : List Text :=
  if writesStatements settings then ts else []

end SqlBoundary.Report
