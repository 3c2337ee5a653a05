import SqlBoundary.Text.Basic
import SqlBoundary.Programs.LetterCase
import SqlBoundary.Text.Printable

/-! # Character classes

The twelve named classes of characters. Outside ASCII a printable character is a letter unless it
stands in a block of marks or symbols.
-/

namespace SqlBoundary

inductive CharClass
  | alnum
  | alpha
  | blank
  | cntrl
  | digit
  | graph
  | lower
  | print
  | punct
  | space
  | upper
  | xdigit
deriving DecidableEq

namespace CharClass

def all : List CharClass :=
  [alnum, alpha, blank, cntrl, digit, graph, lower, print, punct, space, upper, xdigit]

def name : CharClass → Text
  | alnum => "alnum"
  | alpha => "alpha"
  | blank => "blank"
  | cntrl => "cntrl"
  | digit => "digit"
  | graph => "graph"
  | lower => "lower"
  | print => "print"
  | punct => "punct"
  | space => "space"
  | upper => "upper"
  | xdigit => "xdigit"

def ofName? (t : Text) : Option CharClass := all.find? (·.name = t)

/-- Characters outside ASCII that stand in blocks of punctuation, marks and symbols. -/
def isSymbol (c : Char) : Bool :=
  let n := c.toNat
  (0x80 ≤ n && n ≤ 0xbf && n ≠ 0xaa && n ≠ 0xb5 && n ≠ 0xba) || n = 0xd7 || n = 0xf7 ||
    (0x300 ≤ n && n ≤ 0x36f && n ≠ 0x345) || (0x483 ≤ n && n ≤ 0x489) ||
    (0x1ab0 ≤ n && n ≤ 0x1aff) || (0x1dc0 ≤ n && n ≤ 0x1dff) ||
    (0x2000 ≤ n && n ≤ 0x2bff) || (0x3000 ≤ n && n ≤ 0x3004) || (0x3007 ≤ n && n ≤ 0x3020) ||
    (0xe000 ≤ n && n ≤ 0xf8ff) || (0xfe10 ≤ n && n ≤ 0xfe6f) || (0xff01 ≤ n && n ≤ 0xff0f) ||
    (0xff1a ≤ n && n ≤ 0xff20) || (0xfff0 ≤ n && n ≤ 0xffff) || (0x1f000 ≤ n && n ≤ 0x1faff)

/-- Spaces at which a line may be broken; the others are punctuation. -/
def isBreakingSpace (c : Char) : Bool :=
  isSpace c && c.toNat ≠ 0xa0 && c.toNat ≠ 0x2007 && c.toNat ≠ 0x202f &&
    !(0x1c ≤ c.toNat && c.toNat ≤ 0x1f)

def isLetter (c : Char) : Bool :=
  c.isAlpha || (0x80 ≤ c.toNat && isPrintable c && !isSpace c && !isSymbol c)

def isGraphic (c : Char) : Bool :=
  if c.toNat < 0x80 then 0x20 < c.toNat && c.toNat < 0x7f
  else (isPrintable c || isSpace c) && !isBreakingSpace c && 0xa0 ≤ c.toNat

def holds : CharClass → Char → Bool
  | alnum, c => isLetter c || c.isDigit
  | alpha, c => isLetter c
  | blank, c => c = ' ' || c = '\t' || (0x80 ≤ c.toNat && c.toNat ≠ 0x85 && c.toNat ≠ 0x2028 &&
      c.toNat ≠ 0x2029 && isBreakingSpace c)
  | cntrl, c => c.toNat < 0x20 || (0x7f ≤ c.toNat && c.toNat < 0xa0) || c.toNat = 0x2028 ||
      c.toNat = 0x2029
  | digit, c => c.isDigit
  | graph, c => isGraphic c
  | lower, c => LetterCase.isLower c
  | print, c => isGraphic c || c = ' ' ||
      (0x80 ≤ c.toNat && isBreakingSpace c && c.toNat ≠ 0x85 && c.toNat ≠ 0x2028 &&
        c.toNat ≠ 0x2029)
  | punct, c => isGraphic c && !isLetter c && !c.isDigit
  | space, c => isBreakingSpace c
  | upper, c => LetterCase.isUpper c
  | xdigit, c => c.isDigit || ('a' ≤ c && c ≤ 'f') || ('A' ≤ c && c ≤ 'F')

end CharClass
end SqlBoundary
