/-!
# Text

Text is a list of characters. Names, paths, prompts and program output are all text, so that a
statement about them is a statement about lists. Here are blanks (the characters with Unicode's
`White_Space` property), trimming, ASCII case and splitting at a character.
-/
namespace WorkDepot

abbrev Text := List Char

namespace Text

/-- The ranges of the `White_Space` property, first and last code point of each. -/
def blankRanges : List (Nat × Nat) :=
  [(0x09, 0x0D), (0x20, 0x20), (0x85, 0x85), (0xA0, 0xA0), (0x1680, 0x1680), (0x2000, 0x200A),
   (0x2028, 0x2029), (0x202F, 0x202F), (0x205F, 0x205F), (0x3000, 0x3000)]

def inRanges (ranges : List (Nat × Nat)) (code : Nat) : Bool :=
  ranges.any fun range => range.1 ≤ code && code ≤ range.2

def isBlankChar (c : Char) : Bool := inRanges blankRanges c.toNat

/-- A text is blank when it is empty or has blank characters only. -/
def isBlank (text : Text) : Bool := text.all isBlankChar

def trimStart (text : Text) : Text := text.dropWhile isBlankChar

def trimEnd (text : Text) : Text := (text.reverse.dropWhile isBlankChar).reverse

def trim (text : Text) : Text := trimEnd (trimStart text)

/-- ASCII capitals become small letters; every other character stays. -/
def toLowerAscii (text : Text) : Text := text.map Char.toLower

/-- The pieces between the separators; there is one more piece than there are separators. -/
def splitAt (separator : Char) : Text → List Text
  | [] => [[]]
  | c :: rest =>
    if c = separator then [] :: splitAt separator rest
    else match splitAt separator rest with
      | [] => [[c]]
      | piece :: pieces => (c :: piece) :: pieces

/-- The text after a given beginning, when the text has that beginning. -/
def strip? : (beginning : Text) → Text → Option Text
  | [], text => some text
  | _ :: _, [] => none
  | b :: beginning, c :: text => if b = c then strip? beginning text else none

/-- What follows the last occurrence of a marker, where occurrences may overlap; `none` when the
marker does not occur. An empty marker occurs last at the very end. -/
def afterLast? (marker : Text) : Text → Option Text
  | [] => strip? marker []
  | c :: rest => (afterLast? marker rest).or (strip? marker (c :: rest))

end Text
end WorkDepot
