import WorkDepot.Bytes
import WorkDepot.Text.Number

/-!
# Strings of JSON

Writing escapes quotes, backslashes and the characters below the blank, five of them by a letter.
Reading takes any escape of the format; a code unit of a surrogate pair must be followed by its
other half.
-/
namespace WorkDepot.Json

/-- Four hexadecimal digits for a number below 65536. -/
def codeUnit (n : Nat) : Text :=
  [n / 0x1000 % 16, n / 0x100 % 16, n / 0x10 % 16, n % 16].map Bytes.hexDigit

def escape (c : Char) : Text :=
  if c = '"' then ['\\', '"']
  else if c = '\\' then ['\\', '\\']
  else if c = '\x08' then ['\\', 'b']
  else if c = '\x0c' then ['\\', 'f']
  else if c = '\n' then ['\\', 'n']
  else if c = '\r' then ['\\', 'r']
  else if c = '\t' then ['\\', 't']
  else if c.toNat < 0x20 then '\\' :: 'u' :: codeUnit c.toNat
  else [c]

def quote (text : Text) : Text := '"' :: text.flatMap escape ++ ['"']

/-- The value of four hexadecimal digits and the text behind them. -/
def readCodeUnit? : Text → Option (Nat × Text)
  | a :: b :: c :: d :: rest => do return (← Text.readDigits 16 [a, b, c, d], rest)
  | _ => none

def escaped? : Char → Option Char
  | '"' => some '"'
  | '\\' => some '\\'
  | '/' => some '/'
  | 'b' => some '\x08'
  | 'f' => some '\x0c'
  | 'n' => some '\n'
  | 'r' => some '\r'
  | 't' => some '\t'
  | _ => none

/-- The character that code units spell, from the text behind the first backslash and its letter. -/
def readCodePoint? (text : Text) : Option (Char × Text) := do
  let (first, rest) ← readCodeUnit? text
  if first < 0xD800 || 0xDFFF < first then return (Char.ofNat first, rest)
  guard (first < 0xDC00)
  match rest with
  | '\\' :: 'u' :: rest =>
    let (second, rest) ← readCodeUnit? rest
    guard (0xDC00 ≤ second && second ≤ 0xDFFF)
    return (Char.ofNat (0x10000 + (first - 0xD800) * 0x400 + (second - 0xDC00)), rest)
  | _ => none

/-- The characters up to the closing quote and the text behind it. Every step takes a character at
least, so as many steps as there are characters are enough. -/
def readQuoted? : (steps : Nat) → Text → Option (Text × Text)
  | 0, _ => none
  | _, [] => none
  | _ + 1, '"' :: rest => some ([], rest)
  | steps + 1, '\\' :: 'u' :: rest => do
    let (c, rest) ← readCodePoint? rest
    let (text, rest) ← readQuoted? steps rest
    return (c :: text, rest)
  | steps + 1, '\\' :: letter :: rest => do
    let c ← escaped? letter
    let (text, rest) ← readQuoted? steps rest
    return (c :: text, rest)
  | steps + 1, c :: rest => do
    guard (0x20 ≤ c.toNat)
    let (text, rest) ← readQuoted? steps rest
    return (c :: text, rest)

def readString? : Text → Option (Text × Text)
  | '"' :: rest => readQuoted? rest.length rest
  | _ => none

/-- The blanks of the format: space, tab and the two line breaks. -/
def skipBlanks (text : Text) : Text :=
  text.dropWhile fun c => c = ' ' || c = '\t' || c = '\n' || c = '\r'

end WorkDepot.Json
