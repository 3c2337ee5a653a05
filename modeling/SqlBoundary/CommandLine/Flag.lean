import SqlBoundary.Text.Basic

/-! # Flags

What the command line understands: each flag has a long name, perhaps a short one, and either takes
a value or none.
-/

namespace SqlBoundary

inductive Flag
  | help
  | command
  | file
  | output
  | quiet
  | noStartup
  | positions
  | csv
  | count
  | tuplesOnly
  | fieldSeparator
  | recordSeparator
  | fieldSeparatorZero
  | recordSeparatorZero
  | stripComments
  | keepEmpty
  | backslashEscapes
  | verbose
  | assign
  | version
deriving DecidableEq

namespace Flag

def all : List Flag :=
  [help, command, file, output, quiet, noStartup, positions, csv, count, tuplesOnly,
    fieldSeparator, recordSeparator, fieldSeparatorZero, recordSeparatorZero, stripComments,
    keepEmpty, backslashEscapes, verbose, assign, version]

def short? : Flag → Option Char
  | help => some 'h'
  | command => some 'c'
  | file => some 'f'
  | output => some 'o'
  | quiet => some 'q'
  | noStartup => some 'X'
  | positions => some 'A'
  | tuplesOnly => some 't'
  | fieldSeparator => some 'F'
  | recordSeparator => some 'R'
  | fieldSeparatorZero => some 'z'
  | recordSeparatorZero => some '0'
  | verbose => some 'v'
  | version => some 'V'
  | csv | count | stripComments | keepEmpty | backslashEscapes | assign => none

def long : Flag → Text
  | help => "--help"
  | command => "--command"
  | file => "--file"
  | output => "--output"
  | quiet => "--quiet"
  | noStartup => "--no-sqlsplitsrc"
  | positions => "--no-align"
  | csv => "--csv"
  | count => "--count"
  | tuplesOnly => "--tuples-only"
  | fieldSeparator => "--field-separator"
  | recordSeparator => "--record-separator"
  | fieldSeparatorZero => "--field-separator-zero"
  | recordSeparatorZero => "--record-separator-zero"
  | stripComments => "--strip-comments"
  | keepEmpty => "--keep-empty"
  | backslashEscapes => "--no-standard-conforming-strings"
  | verbose => "--verbose"
  | assign => "--set"
  | version => "--version"

def takesValue : Flag → Bool
  | command | file | output | fieldSeparator | recordSeparator | assign => true
  | _ => false

/-- The names of a flag, the short one first. -/
def names (flag : Flag) : List Text :=
  (flag.short?.toList.map fun c => ['-', c]) ++ [flag.long]

/-- All names, with the flags they stand for. -/
def index : List (Text × Flag) := all.flatMap fun flag => flag.names.map (·, flag)

def ofName? (name : Text) : Option Flag := index.lookup name

/-- The names that begin with a text, with their flags. -/
def withPrefix (head : Text) : List (Text × Flag) := index.filter fun e => head.isPrefixOf e.1

end Flag
end SqlBoundary
