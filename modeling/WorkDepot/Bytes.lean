import WorkDepot.Text.Basic

/-!
# Byte strings

Contents of files and output of programs are lists of bytes. Each byte is spelled by two hexadecimal
digits in small letters, high digit first.
-/
namespace WorkDepot

abbrev Bytes := List UInt8

namespace Bytes

/-- The bytes of a text of code points below 256, one byte each. -/
def ofAscii (text : String) : Bytes := text.toList.map fun c => UInt8.ofNat c.toNat

def hexDigit (value : Nat) : Char :=
  if value < 10 then Char.ofNat ('0'.toNat + value) else Char.ofNat ('a'.toNat + (value - 10))

def byteToHex (byte : UInt8) : Text := [hexDigit (byte.toNat / 16), hexDigit (byte.toNat % 16)]

def toHex (bytes : Bytes) : Text := bytes.flatMap byteToHex

/-- The number that the bytes spell, most significant byte first. -/
def toNatBigEndian (bytes : Bytes) : Nat :=
  bytes.foldl (fun value byte => value * 256 + byte.toNat) 0

end Bytes
end WorkDepot
