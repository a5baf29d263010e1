import Calculator.Decimal
import Calculator.Text.Hexadecimal

/-!
# Texts as bytes

Encoding of texts in UTF-8, and decoding that refuses every byte sequence that is not the encoding of
a text and says where and why.
-/

namespace Calculator.Text

/-! ### Encoding -/

/-- A byte that continues a character, with the lowest six binary digits of a number. -/
def tailByte (n : Nat) : UInt8 := .ofNat (0x80 + n % 0x40)

/-- The bytes of a character. -/
def encodeChar (c : Char) : List UInt8 :=
  let n := c.toNat
  if n < 0x80 then [.ofNat n]
  else if n < 0x800 then [.ofNat (0xC0 + n / 0x40), tailByte n]
  else if n < 0x10000 then [.ofNat (0xE0 + n / 0x1000), tailByte (n / 0x40), tailByte n]
  else [.ofNat (0xF0 + n / 0x40000), tailByte (n / 0x1000), tailByte (n / 0x40), tailByte n]

/-- The bytes of a text. -/
def encode (cs : List Char) : List UInt8 := cs.flatMap encodeChar

/-! ### Decoding -/

/-- Why bytes are not a text. -/
inductive DecodeFault where
  /-- No character begins with this byte. -/
  | start
  /-- A character is broken off by a byte that does not continue it. -/
  | continuation
  /-- The bytes end within a character. -/
  | unfinished
deriving DecidableEq, Repr

/-- The first bytes that are no text. -/
structure DecodeError where
  /-- Where they begin. -/
  position : Nat
  /-- The first of them. -/
  byte : UInt8
  /-- How many there are. -/
  length : Nat
  fault : DecodeFault
deriving DecidableEq, Repr

/-- A character of which some bytes are read. -/
structure PartialChar where
  /-- The first byte. -/
  byte : UInt8
  /-- The number of bytes read. -/
  taken : Nat
  /-- The number of bytes to come after the next one. -/
  owed : Nat
  /-- The least byte that may come next. -/
  low : Nat
  /-- The greatest byte that may come next. -/
  high : Nat
  /-- The binary digits read so far. -/
  value : Nat

/-- The state after the first byte of a character of more than one byte. The second byte is
restricted where the character would be too small for its number of bytes, a surrogate or too
large. -/
def PartialChar.ofFirst? (byte : UInt8) : Option PartialChar :=
  let b := byte.toNat
  if 0xC2 ≤ b ∧ b ≤ 0xDF then some ⟨byte, 1, 0, 0x80, 0xBF, b - 0xC0⟩
  else if 0xE0 ≤ b ∧ b ≤ 0xEF then
    some ⟨byte, 1, 1, if b = 0xE0 then 0xA0 else 0x80, if b = 0xED then 0x9F else 0xBF, b - 0xE0⟩
  else if 0xF0 ≤ b ∧ b ≤ 0xF4 then
    some ⟨byte, 1, 2, if b = 0xF0 then 0x90 else 0x80, if b = 0xF4 then 0x8F else 0xBF, b - 0xF0⟩
  else none

/-- Decodes bytes from a position on, in the middle of a character if one is given. The characters
before come in reverse. -/
def decodeFrom (position : Nat) (open? : Option PartialChar) (before : List Char) :
    List UInt8 → Except DecodeError (List Char)
  | [] =>
    match open? with
    | none => .ok before.reverse
    | some c => .error ⟨position - c.taken, c.byte, c.taken, .unfinished⟩
  | byte :: rest =>
    match open? with
    | none =>
      if byte.toNat < 0x80 then
        decodeFrom (position + 1) none (Char.ofNat byte.toNat :: before) rest
      else match PartialChar.ofFirst? byte with
        | some c => decodeFrom (position + 1) (some c) before rest
        | none => .error ⟨position, byte, 1, .start⟩
    | some c =>
      if c.low ≤ byte.toNat ∧ byte.toNat ≤ c.high then
        let value := c.value * 0x40 + byte.toNat % 0x40
        match c.owed with
        | 0 => decodeFrom (position + 1) none (Char.ofNat value :: before) rest
        | owed + 1 =>
          decodeFrom (position + 1) (some ⟨c.byte, c.taken + 1, owed, 0x80, 0xBF, value⟩) before rest
      else .error ⟨position - c.taken, c.byte, c.taken, .continuation⟩

/-- The text of which the bytes are the encoding. -/
def decode (bytes : List UInt8) : Except DecodeError (List Char) := decodeFrom 0 none [] bytes

/-! ### Wording -/

/-- The wording of a fault. -/
def DecodeFault.message : DecodeFault → String
  | .start => "invalid start byte"
  | .continuation => "invalid continuation byte"
  | .unfinished => "unexpected end of data"

/-- The wording of an error: one byte is shown, several are given by their positions. -/
def DecodeError.message (e : DecodeError) : String :=
  let place :=
    if e.length = 1 then
      "byte 0x" ++ String.ofList (hex 2 e.byte.toNat) ++ " in position " ++
        String.ofList (digits e.position)
    else
      "bytes in position " ++ String.ofList (digits e.position) ++ "-" ++
        String.ofList (digits (e.position + e.length - 1))
  "'utf-8' codec can't decode " ++ place ++ ": " ++ e.fault.message

end Calculator.Text
