import SqlBoundary.Programs.Octets

/-! # Stray octets

An octet that belongs to no character of a text is kept as a character of a block set aside for it,
so that bytes of any kind can be read as a text and written back.
-/

namespace SqlBoundary.Stray

def base : Nat := 0x10fe00

def ofByte (b : UInt8) : Char := Char.ofNat (base + b.toNat)

/-- Octets of ASCII are characters and never stray. -/
def isStray (c : Char) : Bool := base + 128 ≤ c.toNat && c.toNat < base + 256

/-- The character of one octet. -/
def ofCode (n : Nat) : Char := if n < 128 then Char.ofNat n else Char.ofNat (base + n)

def bytesOf (c : Char) : List UInt8 :=
  if isStray c then [UInt8.ofNat (c.toNat - base)] else String.utf8EncodeChar c

def encode (t : Text) : List UInt8 := t.flatMap bytesOf

/-- Reads bytes, of which some may be a character begun: where it does not go on, they are stray. -/
def decodeFrom (begun : List UInt8) (pending : Option Utf8.Partial) : List UInt8 → Text
  | [] => begun.map ofByte
  | b :: rest =>
    match pending.elim Utf8.start Utf8.resume b.toNat with
    | .char c => c :: decodeFrom [] none rest
    | .more p => decodeFrom (begun ++ [b]) (some p) rest
    | .invalid =>
      begun.map ofByte ++
        match Utf8.start b.toNat with
        | .char c => c :: decodeFrom [] none rest
        | .more p => decodeFrom [b] (some p) rest
        | .invalid => ofByte b :: decodeFrom [] none rest

def decode (bytes : List UInt8) : Text := decodeFrom [] none bytes

/-- Joins stray octets to characters where they make such. -/
def join (t : Text) : Text := if t.any isStray then decode (encode t) else t

def splitFirst : Text → Text
  | [] => []
  | c :: rest => if c.toNat < 128 then c :: rest else (bytesOf c).map ofByte ++ rest

end SqlBoundary.Stray
