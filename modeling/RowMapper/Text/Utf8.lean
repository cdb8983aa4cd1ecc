/-!
Bytes read as UTF-8 for display: each longest run of bytes that begins a character without
completing it is shown as one replacement character.
-/

set_option autoImplicit false

namespace RowMapper.Text

/-- The character shown for bytes that are no character. -/
def replacementChar : Char := '\ufffd'

/-- How many bytes follow a leading byte, with the bounds of the first of them; none if no character
starts with the byte. -/
def leadingByte (a : UInt8) : Option (Nat × UInt8 × UInt8) :=
  if a < 0xc2 then none
  else if a < 0xe0 then some (1, 0x80, 0xbf)
  else if a == 0xe0 then some (2, 0xa0, 0xbf)
  else if a == 0xed then some (2, 0x80, 0x9f)
  else if a < 0xf0 then some (2, 0x80, 0xbf)
  else if a == 0xf0 then some (3, 0x90, 0xbf)
  else if a < 0xf4 then some (3, 0x80, 0xbf)
  else if a == 0xf4 then some (3, 0x80, 0x8f)
  else none

/-- Reads the bytes that complete a character; owed of them are missing, the first within the
bounds, and value holds the bits read so far. -/
def decodeLossyFrom : List UInt8 → Nat → UInt8 → UInt8 → Nat → List Char
  | [], owed, _, _, _ => if owed = 0 then [] else [replacementChar]
  | a :: rest, owed, low, high, value =>
    if owed ≠ 0 && low ≤ a && a ≤ high then
      let value := value * 64 + (a.toNat - 0x80)
      if owed = 1 then Char.ofNat value :: decodeLossyFrom rest 0 0 0 0
      else decodeLossyFrom rest (owed - 1) 0x80 0xbf value
    else
      let broken := if owed = 0 then [] else [replacementChar]
      if a < 0x80 then broken ++ Char.ofNat a.toNat :: decodeLossyFrom rest 0 0 0 0
      else match leadingByte a with
        | some (count, low, high) =>
          let bits := if count = 1 then a.toNat % 32 else if count =
            2 then a.toNat % 16 else a.toNat % 8
          broken ++ decodeLossyFrom rest count low high bits
        | none => broken ++ replacementChar :: decodeLossyFrom rest 0 0 0 0

def decodeLossy (bytes : List UInt8) : String := String.ofList (decodeLossyFrom bytes 0 0 0 0)

def encodeUtf8 (text : String) : List UInt8 := text.toUTF8.toList

end RowMapper.Text
