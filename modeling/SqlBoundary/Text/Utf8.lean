import SqlBoundary.Text.Basic

/-! # UTF-8

Bytes are decoded one at a time, so that the place where they stop being UTF-8 is known exactly.
-/

namespace SqlBoundary.Utf8

/-- A character of which some bytes are still to come, the next one in a given range. -/
structure Partial where
  missing : Nat
  low : Nat
  high : Nat
  value : Nat
deriving DecidableEq

inductive Step
  | char (c : Char)
  | more (p : Partial)
  | invalid

/-- The first byte of a character. -/
def start (b : Nat) : Step :=
  if b < 0x80 then .char (Char.ofNat b)
  else if b < 0xc2 then .invalid
  else if b < 0xe0 then .more ⟨1, 0x80, 0xbf, b - 0xc0⟩
  else if b = 0xe0 then .more ⟨2, 0xa0, 0xbf, 0⟩
  else if b = 0xed then .more ⟨2, 0x80, 0x9f, 0xd⟩
  else if b < 0xf0 then .more ⟨2, 0x80, 0xbf, b - 0xe0⟩
  else if b = 0xf0 then .more ⟨3, 0x90, 0xbf, 0⟩
  else if b < 0xf4 then .more ⟨3, 0x80, 0xbf, b - 0xf0⟩
  else if b = 0xf4 then .more ⟨3, 0x80, 0x8f, 4⟩
  else .invalid

def resume (p : Partial) (b : Nat) : Step :=
  if b < p.low || p.high < b then .invalid
  else
    let value := p.value * 64 + (b - 0x80)
    if p.missing ≤ 1 then .char (Char.ofNat value)
    else .more ⟨p.missing - 1, 0x80, 0xbf, value⟩

/-- How decoding ends: at the end of the bytes, inside a character there, or at a byte that
cannot stand at its index. -/
inductive Ending
  | complete
  | truncated (pending : Partial)
  | invalid (index : Nat)
deriving DecidableEq

/-- The characters, each with the index just past its bytes. -/
structure Decoding where
  chars : List (Char × Nat)
  ending : Ending

def decodeFrom (index : Nat) (pending : Option Partial) : List UInt8 → Decoding
  | [] => ⟨[], pending.elim .complete .truncated⟩
  | b :: rest =>
    match pending.elim start resume b.toNat with
    | .char c =>
      let decoding := decodeFrom (index + 1) none rest
      { decoding with chars := (c, index + 1) :: decoding.chars }
    | .more p => decodeFrom (index + 1) (some p) rest
    | .invalid => ⟨[], .invalid index⟩

def decode (bytes : List UInt8) : Decoding := decodeFrom 0 none bytes

/-- The text that the bytes encode. -/
def decode? (bytes : List UInt8) : Option Text :=
  let decoding := decode bytes
  if decoding.ending = .complete then some (decoding.chars.map (·.1)) else none

/-- The text with a replacement character for each run of bytes that begins a character but does not
go on as one, and for each byte that cannot begin a character. -/
def decodeLossyFrom (pending : Option Partial) : List UInt8 → Text
  | [] => if pending.isSome then ['\uFFFD'] else []
  | b :: rest =>
    match pending.elim start resume b.toNat with
    | .char c => c :: decodeLossyFrom none rest
    | .more p => decodeLossyFrom (some p) rest
    | .invalid =>
      if pending.isNone then '\uFFFD' :: decodeLossyFrom none rest
      else
        match start b.toNat with
        | .char c => '\uFFFD' :: c :: decodeLossyFrom none rest
        | .more p => '\uFFFD' :: decodeLossyFrom (some p) rest
        | .invalid => '\uFFFD' :: '\uFFFD' :: decodeLossyFrom none rest

def decodeLossy (bytes : List UInt8) : Text := decodeLossyFrom none bytes

def encode (s : Text) : List UInt8 := s.flatMap String.utf8EncodeChar

end SqlBoundary.Utf8
