import WorkDepot.Text.Basic

/-!
# Numbers in text

Digits in a radix are read from the left, with either case of letter; an unsigned number may begin
with one plus sign and must stay below a power of two.
-/
namespace WorkDepot.Text

/-- The value of a digit in a radix of at most 36. -/
def digit? (radix : Nat) (c : Char) : Option Nat :=
  let value :=
    if c.isDigit then some (c.toNat - '0'.toNat)
    else if c.isLower then some (c.toNat - 'a'.toNat + 10)
    else if c.isUpper then some (c.toNat - 'A'.toNat + 10)
    else none
  value.filter (· < radix)

/-- The number that the digits spell after `value`, when all of them are digits. -/
def readDigitsFrom (radix : Nat) : (value : Nat) → Text → Option Nat
  | value, [] => some value
  | value, c :: rest => do
    let d ← digit? radix c
    readDigitsFrom radix (value * radix + d) rest

/-- At least one digit, and nothing else. -/
def readDigits (radix : Nat) : Text → Option Nat
  | [] => none
  | text => readDigitsFrom radix 0 text

def withoutPlus : Text → Text
  | '+' :: rest => rest
  | text => text

/-- An unsigned number of so many bits. -/
def readUnsigned (radix bits : Nat) (text : Text) : Option Nat :=
  (readDigits radix (withoutPlus text)).filter (· < Nat.pow 2 bits)

def decimal (n : Nat) : Text := Nat.toDigits 10 n

/-- The hexadecimal digits of a number in small letters, without leading zeros. -/
def hexadecimal (n : Nat) : Text := Nat.toDigits 16 n

def octal (n : Nat) : Text := Nat.toDigits 8 n

end WorkDepot.Text
