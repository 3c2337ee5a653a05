/-! # Text as a sequence of code points

Every position in this library counts code points. White space is the Unicode property of that
name together with the four separators U+001C to U+001F.
-/

namespace SqlBoundary

abbrev Text := List Char

instance : Coe String Text := ⟨String.toList⟩

/-- White space: the same set trims texts, separates words and joins adjacent string literals. -/
def isSpace (c : Char) : Bool :=
  let n := c.toNat
  (9 ≤ n && n ≤ 13) || (28 ≤ n && n ≤ 32) || n = 0x85 || n = 0xa0 || n = 0x1680 ||
    (0x2000 ≤ n && n ≤ 0x200a) || n = 0x2028 || n = 0x2029 || n = 0x202f || n = 0x205f ||
    n = 0x3000

namespace Text

def trimStart (s : Text) : Text := s.dropWhile isSpace

def trimEnd (s : Text) : Text := (s.reverse.dropWhile isSpace).reverse

def trim (s : Text) : Text := trimEnd (trimStart s)

def isBlank (s : Text) : Bool := s.all isSpace

/-- The part of a text from one position up to another, empty when they are out of order. -/
def slice (s : Text) (start stop : Nat) : Text := (s.drop start).take (stop - start)

/-- The text without the single quotes at its two ends. -/
def trimQuotes (s : Text) : Text :=
  ((s.dropWhile (· = '\'')).reverse.dropWhile (· = '\'')).reverse

/-- The text before the first white space, and the text after that run of white space if there
is any. -/
def splitWord (s : Text) : Text × Option Text :=
  match s.dropWhile (!isSpace ·) with
  | [] => (s, none)
  | c :: rest => (s.takeWhile (!isSpace ·), some (trimStart (c :: rest)))

/-- Reads a given text, giving what follows it. -/
def afterPrefix? (head s : Text) : Option Text :=
  if head.isPrefixOf s then some (s.drop head.length) else none

theorem afterPrefix?_eq_some {head s rest : Text} :
    afterPrefix? head s = some rest ↔ s = head ++ rest := by
  simp only [afterPrefix?, Option.ite_none_right_eq_some, Option.some.injEq,
    List.isPrefixOf_iff_prefix]
  constructor
  · rintro ⟨⟨tail, rfl⟩, rfl⟩
    simp
  · rintro rfl
    exact ⟨List.prefix_append _ _, by simp⟩

/-- The decimal digits of a number. -/
def ofNat (n : Nat) : Text := Nat.toDigits 10 n

def ofInt (i : Int) : Text :=
  if i < 0 then '-' :: ofNat i.natAbs else ofNat i.natAbs

/-- The lower case of an ASCII text; other characters are kept. -/
def toLower (s : Text) : Text := s.map Char.toLower

/-- The order of texts by their code points; a text comes before its extensions. -/
def precedes : Text → Text → Bool
  | [], _ => true
  | _ :: _, [] => false
  | c :: s, d :: t => c.toNat < d.toNat || (c = d && precedes s t)

/-- The texts one after another with a separator between neighbours. -/
def joinWith (separator : Text) (parts : List Text) : Text :=
  (parts.intersperse separator).flatten

theorem joinWith_singleton (separator t : Text) : joinWith separator [t] = t := by
  simp [joinWith]

theorem joinWith_cons_cons (separator t u : Text) (parts : List Text) :
    joinWith separator (t :: u :: parts) =
      t ++ (separator ++ joinWith separator (u :: parts)) := by
  simp [joinWith]

theorem trim_nil : trim [] = [] := rfl

end Text
end SqlBoundary
