import SqlBoundary.Text.Utf8

/-! # Octets

Programs that know bytes and no characters see a text as its bytes. Here a byte is written as the
character of the same code, so that such a sequence is again a text.
-/

namespace SqlBoundary.Octets

def ofBytes (bytes : List UInt8) : Text := bytes.map fun b => Char.ofNat b.toNat

def toBytes (octets : Text) : List UInt8 := octets.map fun c => UInt8.ofNat c.toNat

def ofText (t : Text) : Text := ofBytes (Utf8.encode t)

/-- The text that octets encode, with replacement characters where they are not UTF-8. -/
def toText (octets : Text) : Text := Utf8.decodeLossy (toBytes octets)

end SqlBoundary.Octets
