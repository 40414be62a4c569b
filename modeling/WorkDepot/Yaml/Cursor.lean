import WorkDepot.Text.Number

/-!
# A place in a YAML text

A cursor is the text that is left together with how much has been read: characters, lines and the
characters of the line. Here are also the character classes of the format.
-/
namespace WorkDepot.Yaml

structure Cursor where
  rest : Text
  index : Nat := 0
  line : Nat := 0
  column : Nat := 0

def isBreak (c : Char) : Bool :=
  c = '\n' || c = '\r' || c = '\u0085' || c = '\u2028' || c = '\u2029'

def isSpaceOrTab (c : Char) : Bool := c = ' ' || c = '\t'

def isWordChar (c : Char) : Bool := c.isAlphanum || c = '-' || c = '_'

/-- The ranges of the characters that a text may consist of. -/
def allowedRanges : List (Nat × Nat) :=
  [(0x09, 0x0A), (0x0D, 0x0D), (0x20, 0x7E), (0x85, 0x85), (0xA0, 0xD7FF), (0xE000, 0xFFFD),
   (0x10000, 0x10FFFF)]

def isAllowed (c : Char) : Bool := Text.inRanges allowedRanges c.toNat

namespace Cursor

def ofText (text : Text) : Cursor := { rest := text }

def head? (cursor : Cursor) : Option Char := cursor.rest.head?

def at? (cursor : Cursor) (offset : Nat) : Option Char := cursor.rest[offset]?

def sees (cursor : Cursor) (test : Char → Bool) : Bool := cursor.head?.any test

def isAt (cursor : Cursor) (c : Char) : Bool := cursor.head? = some c

/-- Whether there is a blank, a line break or the end so many characters ahead. -/
def gapAt (cursor : Cursor) (offset : Nat) : Bool :=
  (cursor.at? offset).all fun c => isSpaceOrTab c || isBreak c

def skip (cursor : Cursor) (count : Nat) : Cursor :=
  { cursor with
    rest := cursor.rest.drop count
    index := cursor.index + count
    column := cursor.column + count }

def takeWhile (cursor : Cursor) (test : Char → Bool) : Text × Cursor :=
  let taken := cursor.rest.takeWhile test
  (taken, cursor.skip taken.length)

def skipWhile (cursor : Cursor) (test : Char → Bool) : Cursor := (cursor.takeWhile test).2

/-- The text of a line break and the cursor behind it. All breaks but the two separators of Unicode
are written as a line feed. -/
def lineBreak? (cursor : Cursor) : Option (Char × Cursor) :=
  let next := fun (count : Nat) =>
    { cursor with
      rest := cursor.rest.drop count
      index := cursor.index + count
      line := cursor.line + 1
      column := 0 }
  match cursor.rest with
  | '\r' :: '\n' :: _ => some ('\n', next 2)
  | c :: _ =>
    if c = '\u2028' || c = '\u2029' then some (c, next 1)
    else if isBreak c then some ('\n', next 1)
    else none
  | [] => none

def skipLine (cursor : Cursor) : Cursor := (cursor.lineBreak?.map (·.2)).getD cursor

/-- Whether the line begins with a given mark of three characters, alone. -/
def atMark (cursor : Cursor) (mark : Text) : Bool :=
  cursor.column = 0 && (Text.strip? mark cursor.rest).isSome && cursor.gapAt 3

def atDocumentMark (cursor : Cursor) : Bool :=
  cursor.atMark "---".toList || cursor.atMark "...".toList

end Cursor
end WorkDepot.Yaml
