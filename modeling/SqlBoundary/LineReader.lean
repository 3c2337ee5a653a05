import SqlBoundary.Files

/-! # Reading line by line

A file is read in blocks, and a block only when no whole line is left over from the ones before it.
What is written to the file in the meantime is therefore read if it stands past the blocks taken so
far.
-/

namespace SqlBoundary

/-- A file that is being read: how far, and what has been read but not given out. Left over may be
some bytes of a character, and a carriage return that a line feed may follow. -/
structure LineReader where
  location : Location
  offset : Nat := 0
  pending : Option Utf8.Partial := none
  heldReturn : Bool := false
  ready : Text := []

namespace LineReader

def blockSize : Nat := 8192

/-- Takes in decoded characters. Until the end of the file, a carriage return at their end waits. -/
def accept (r : LineReader) (decoded : Text) (ended : Bool) : LineReader :=
  let sofar := if r.heldReturn then '\r' :: decoded else decoded
  let waits := !ended && sofar.getLast? = some '\r'
  { r with
    heldReturn := waits
    ready := r.ready ++ Text.unifyLineEnds (if waits then sofar.dropLast else sofar) }

def readBlock? (files : Files) (r : LineReader) : Option (LineReader × Bool) :=
  let bytes := ((files.content? r.location).elim [] Content.toBytes).drop r.offset
  let block := bytes.take blockSize
  let decoding := Utf8.decodeFrom 0 r.pending block
  let decoded := decoding.chars.map (·.1)
  let next := { r with offset := r.offset + block.length }
  match decoding.ending with
  | .invalid _ => none
  | .truncated pending =>
    if block.isEmpty then none else some ({ next with pending }.accept decoded false, false)
  | .complete => some ({ next with pending := none }.accept decoded block.isEmpty, block.isEmpty)

def takeLine? (r : LineReader) : Option (Text × LineReader) :=
  match r.ready.dropWhile (· ≠ '\n') with
  | [] => none
  | _ :: rest => some (r.ready.takeWhile (· ≠ '\n'), { r with ready := rest })

/-- Reads blocks until there is a line. The last line may lack its end. -/
def readLine (files : Files) : (blocks : Nat) → LineReader → Option (Option (Text × LineReader))
  | 0, _ => some none
  | blocks + 1, r =>
    match r.takeLine? with
    | some taken => some (some taken)
    | none =>
      match r.readBlock? files with
      | none => none
      | some (next, false) => readLine files blocks next
      | some (next, true) =>
        if next.ready.isEmpty then some none
        else some (some (next.takeLine?.getD (next.ready, { next with ready := [] })))

/-- The next line without its end, if there is one; no answer where the file is not text. -/
def next? (files : Files) (r : LineReader) : Option (Option (Text × LineReader)) :=
  readLine files (((files.content? r.location).elim 0 Content.size) - r.offset + 2) r

end LineReader

namespace Content

/-- The lines of a file that does not change. -/
def lines (content : Content) : List Text := Text.lines ((content.read?).getD [])

end Content
end SqlBoundary
