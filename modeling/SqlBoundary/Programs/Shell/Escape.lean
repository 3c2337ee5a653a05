import SqlBoundary.Programs.Shell.Numeral

/-! # Backslash escapes

Arguments of commands name control characters by letters and any octet by octal digits.
-/

namespace SqlBoundary.Shell.Escape

def ofLetter? : Char → Option Char
  | 'a' => some '\x07'
  | 'b' => some '\x08'
  | 'e' => some '\x1b'
  | 'f' => some '\x0c'
  | 'n' => some '\n'
  | 'r' => some '\r'
  | 't' => some '\t'
  | 'v' => some '\x0b'
  | '\\' => some '\\'
  | _ => none

/-- Reads what follows a backslash: a letter or up to three octal digits. A backslash before
anything else stands for itself. -/
def read (s : Text) : Char × Text :=
  if s.head?.any (Numeral.isDigitOf 8) then
    let digits := (s.take 3).takeWhile (Numeral.isDigitOf 8)
    (Char.ofNat (Numeral.ofDigits 8 digits % 256), s.drop digits.length)
  else
    match s.head?.bind ofLetter? with
    | some c => (c, s.drop 1)
    | none => ('\\', s)

theorem length_read_le (s : Text) : (read s).2.length ≤ s.length := by
  unfold read
  split
  · simp [List.length_drop]
  · split <;> simp

/-- In an argument the octal digits may come after a zero. -/
def readInArgument (s : Text) : Char × Text :=
  if s.head? = some '0' && (s.drop 1).head?.any (Numeral.isDigitOf 8) then read (s.drop 1)
  else read s

theorem length_readInArgument_le (s : Text) : (readInArgument s).2.length ≤ s.length := by
  unfold readInArgument
  split
  · exact Nat.le_trans (length_read_le _) (by simp)
  · exact length_read_le s

/-- Replaces the escapes of an argument; tells whether one of them ends the output. -/
def expand (s : Text) : Text × Bool :=
  match s with
  | [] => ([], false)
  | '\\' :: 'c' :: _ => ([], true)
  | '\\' :: rest =>
    let more := expand (readInArgument rest).2
    ((readInArgument rest).1 :: more.1, more.2)
  | c :: rest =>
    let more := expand rest
    (c :: more.1, more.2)
termination_by s.length
decreasing_by
  · exact Nat.lt_succ_of_le (length_readInArgument_le rest)
  · exact Nat.lt_succ_self _

end SqlBoundary.Shell.Escape
