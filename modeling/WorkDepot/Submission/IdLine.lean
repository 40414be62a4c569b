import WorkDepot.Bytes

/-!
# The line that reports a work unit

Among its output, a tool that succeeds prints a line that begins with a fixed phrase and has a
comma, `ID` and decimal digits behind the last such mark. Lines end at a line feed or a carriage
return, the first such line counts, and its number must fit in 64 bits. Output need not be text.
-/
namespace WorkDepot.Submission

inductive Violation where
  | missingIdLine
  | idOutOfRange
  deriving DecidableEq

def Violation.reason : Violation → Text
  | .missingIdLine => "no 'created workunit' line in output".toList
  | .idOutOfRange => "work-unit id does not fit in 64 bits".toList

namespace IdLine

def opening : Bytes := Bytes.ofAscii "created workunit; "

/-- What stands before the number. -/
def mark : Bytes := Bytes.ofAscii ", ID "

def isLineEnd (byte : UInt8) : Bool := byte = 0x0A || byte = 0x0D

def isDigit (byte : UInt8) : Bool := 0x30 ≤ byte && byte ≤ 0x39

def lines : Bytes → List Bytes
  | [] => [[]]
  | byte :: rest =>
    if isLineEnd byte then [] :: lines rest
    else match lines rest with
      | [] => [[byte]]
      | line :: more => (byte :: line) :: more

/-- The bytes behind a given beginning, when there is that beginning. -/
def strip? : (beginning : Bytes) → Bytes → Option Bytes
  | [], bytes => some bytes
  | _ :: _, [] => none
  | b :: beginning, byte :: bytes => if b = byte then strip? beginning bytes else none

/-- The digits at the front of the bytes behind a mark, if there are any. -/
def digitsAfterMark? (bytes : Bytes) : Option Bytes := do
  let digits := (← strip? mark bytes).takeWhile isDigit
  if digits.isEmpty then none else some digits

/-- The digits behind the last mark that has some. -/
def lastDigits? : Bytes → Option Bytes
  | [] => none
  | byte :: rest => (lastDigits? rest).or (digitsAfterMark? (byte :: rest))

def digits? (line : Bytes) : Option Bytes := (strip? opening line).bind lastDigits?

def value (digits : Bytes) : Nat := digits.foldl (fun n byte => n * 10 + (byte.toNat - 0x30)) 0

def read (output : Bytes) : Except Violation Nat :=
  match (lines output).findSome? digits? with
  | none => .error .missingIdLine
  | some digits => if value digits < Nat.pow 2 64 then .ok (value digits) else .error .idOutOfRange

end IdLine
end WorkDepot.Submission
