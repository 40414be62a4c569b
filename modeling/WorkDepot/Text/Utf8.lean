import WorkDepot.Bytes

/-!
# UTF-8

A character is encoded in one to four bytes. The decoder reads byte by byte and owes continuation
bytes within a range; a byte outside of the range ends the malformed part and is read afresh, so
each maximal malformed part counts once. A strict reading refuses malformed parts, and a lossy one
puts U+FFFD in the place of each.
-/
namespace WorkDepot.Text

def encodeChar (c : Char) : Bytes :=
  let n := c.toNat
  if n < 0x80 then [UInt8.ofNat n]
  else if n < 0x800 then [UInt8.ofNat (0xC0 + n / 0x40), UInt8.ofNat (0x80 + n % 0x40)]
  else if n < 0x10000 then
    [UInt8.ofNat (0xE0 + n / 0x1000), UInt8.ofNat (0x80 + n / 0x40 % 0x40),
     UInt8.ofNat (0x80 + n % 0x40)]
  else
    [UInt8.ofNat (0xF0 + n / 0x40000), UInt8.ofNat (0x80 + n / 0x1000 % 0x40),
     UInt8.ofNat (0x80 + n / 0x40 % 0x40), UInt8.ofNat (0x80 + n % 0x40)]

def encode (text : Text) : Bytes := text.flatMap encodeChar

def byteLength (text : Text) : Nat := (encode text).length

/-- A character of which `owed` continuation bytes are to come, the next one from `low` to
`high`; `value` is what the bytes so far amount to. -/
structure Pending where
  owed : Nat
  low : Nat
  high : Nat
  value : Nat

/-- What a byte between characters begins. -/
inductive Lead where
  | whole (c : Char)
  | opens (pending : Pending)
  | malformed

def Lead.ofByte (byte : UInt8) : Lead :=
  let b := byte.toNat
  if b < 0x80 then .whole (Char.ofNat b)
  else if b < 0xC2 then .malformed
  else if b < 0xE0 then .opens ⟨1, 0x80, 0xBF, b - 0xC0⟩
  else if b = 0xE0 then .opens ⟨2, 0xA0, 0xBF, 0⟩
  else if b = 0xED then .opens ⟨2, 0x80, 0x9F, 0xD⟩
  else if b < 0xF0 then .opens ⟨2, 0x80, 0xBF, b - 0xE0⟩
  else if b = 0xF0 then .opens ⟨3, 0x90, 0xBF, 0⟩
  else if b < 0xF4 then .opens ⟨3, 0x80, 0xBF, b - 0xF0⟩
  else if b = 0xF4 then .opens ⟨3, 0x80, 0x8F, 4⟩
  else .malformed

/-- One entry per character, and `none` for each maximal malformed part. -/
def scan : Option Pending → Bytes → List (Option Char)
  | none, [] => []
  | some _, [] => [none]
  | none, byte :: rest => fresh byte fun state => scan state rest
  | some pending, byte :: rest =>
    let b := byte.toNat
    if pending.low ≤ b ∧ b ≤ pending.high then
      let value := pending.value * 0x40 + (b - 0x80)
      if pending.owed ≤ 1 then some (Char.ofNat value) :: scan none rest
      else scan (some ⟨pending.owed - 1, 0x80, 0xBF, value⟩) rest
    else none :: fresh byte fun state => scan state rest
where
  /-- Reads a byte between characters and goes on with the state after it. -/
  fresh (byte : UInt8) (next : Option Pending → List (Option Char)) : List (Option Char) :=
    match Lead.ofByte byte with
    | .whole c => some c :: next none
    | .opens pending => next (some pending)
    | .malformed => none :: next none

/-- The text that the bytes encode, when nothing in them is malformed. -/
def decode? (bytes : Bytes) : Option Text := (scan none bytes).mapM id

/-- The text of the bytes, with U+FFFD for each malformed part. -/
def decodeLossy (bytes : Bytes) : Text := (scan none bytes).map (·.getD '\uFFFD')

end WorkDepot.Text
