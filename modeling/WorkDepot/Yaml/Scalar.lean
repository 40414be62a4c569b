import WorkDepot.Yaml.Cursor

/-!
# Scalars of YAML

How a scalar's characters become its text in each of the five styles. A gap is the blank space
between two pieces of a scalar: without line breaks it stays as it is, one break folds into a blank,
and of several breaks the first one is dropped.
-/
namespace WorkDepot.Yaml

inductive Style where
  | plain
  | singleQuoted
  | doubleQuoted
  | literal
  | folded
  deriving DecidableEq

/-- Blank space within a scalar: the blanks before the first break, and the breaks. -/
structure Gap where
  blanks : Text := []
  breaks : Text := []

namespace Gap

def text (gap : Gap) : Text :=
  match gap.breaks with
  | [] => gap.blanks
  | ['\n'] => [' ']
  | '\n' :: more => more
  | breaks => breaks

/-- Reads a gap, where `broken` tells that a line has been broken before it. A tab that stands left
of a column on a line of its own is refused. -/
def read (leftmost : Int) : (steps : Nat) → (broken : Bool) → Gap → Cursor → Option (Gap × Cursor)
  | 0, _, gap, cursor => some (gap, cursor)
  | steps + 1, broken, gap, cursor =>
    match cursor.lineBreak? with
    | some (c, next) => read leftmost steps true { gap with breaks := gap.breaks ++ [c] } next
    | none =>
      match cursor.head? with
      | some c =>
        if !isSpaceOrTab c then some (gap, cursor)
        else if !broken then
          read leftmost steps broken { gap with blanks := gap.blanks ++ [c] } (cursor.skip 1)
        else if c = '\t' && (cursor.column : Int) < leftmost then none
        else read leftmost steps broken gap (cursor.skip 1)
      | none => some (gap, cursor)

end Gap

namespace Scalar

def isFlowMark (c : Char) : Bool := c = ',' || c = '[' || c = ']' || c = '{' || c = '}'

/-- The characters of a plain scalar up to a gap or a mark that ends it. -/
def plainPiece (inFlow : Bool) : (rest : Text) → Option Text
  | [] => some []
  | c :: rest =>
    if isSpaceOrTab c || isBreak c then some []
    else if inFlow && c = ':' && rest.head?.any fun next => next = '?' || isFlowMark next then none
    else if c = ':' && rest.head?.all (fun next => isSpaceOrTab next || isBreak next) then some []
    else if inFlow && isFlowMark c then some []
    else (c :: ·) <$> plainPiece inFlow rest

/-- The text of a plain scalar, the cursor behind it and whether a line break came last. -/
def plain (inFlow : Bool) (indent : Int) :
    (steps : Nat) → (sofar gap : Text) → (broken : Bool) → Cursor → Option (Text × Cursor × Bool)
  | 0, _, _, _, _ => none
  | steps + 1, sofar, gap, broken, cursor =>
    if cursor.atDocumentMark || cursor.isAt '#' then some (sofar, cursor, broken)
    else do
      let piece ← plainPiece inFlow cursor.rest
      let (sofar, broken) :=
        if piece.isEmpty then (sofar, broken) else (sofar ++ gap ++ piece, false)
      let cursor := cursor.skip piece.length
      if !cursor.sees fun c => isSpaceOrTab c || isBreak c then return (sofar, cursor, broken)
      let (nextGap, cursor) ← Gap.read indent cursor.rest.length broken {} cursor
      let broken := broken || !nextGap.breaks.isEmpty
      if !inFlow && (cursor.column : Int) < indent then return (sofar, cursor, broken)
      plain inFlow indent steps sofar nextGap.text broken cursor

def escaped? : Char → Option Char
  | '0' => some '\x00'
  | 'a' => some '\x07'
  | 'b' => some '\x08'
  | 't' | '\t' => some '\t'
  | 'n' => some '\n'
  | 'v' => some '\x0b'
  | 'f' => some '\x0c'
  | 'r' => some '\r'
  | 'e' => some '\x1b'
  | ' ' => some ' '
  | '"' => some '"'
  | '/' => some '/'
  | '\\' => some '\\'
  | 'N' => some '\u0085'
  | '_' => some '\u00A0'
  | 'L' => some '\u2028'
  | 'P' => some '\u2029'
  | _ => none

/-- How many hexadecimal digits follow a letter behind a backslash. -/
def codeLength? : Char → Option Nat
  | 'x' => some 2
  | 'u' => some 4
  | 'U' => some 8
  | _ => none

/-- The character of a code point, which must not be a surrogate. -/
def ofCode? (code : Nat) : Option Char :=
  if (0xD800 ≤ code && code ≤ 0xDFFF) || 0x10FFFF < code then none else some (Char.ofNat code)

/-- The piece of a quoted scalar up to a gap or the closing quote, the cursor behind it, and whether
the piece ends with a line break that is escaped. -/
def quotedPiece (single : Bool) : (steps : Nat) → Cursor → Option (Text × Cursor × Bool)
  | 0, _ => none
  | steps + 1, cursor =>
    match cursor.head?, cursor.at? 1 with
    | none, _ => some ([], cursor, false)
    | some c, next? => do
      if isSpaceOrTab c || isBreak c then return ([], cursor, false)
      if single && c = '\'' && next? = some '\'' then
        let (piece, cursor, escapedBreak) ← quotedPiece single steps (cursor.skip 2)
        return ('\'' :: piece, cursor, escapedBreak)
      if c = (if single then '\'' else '"') then return ([], cursor, false)
      if single || c ≠ '\\' then
        let (piece, cursor, escapedBreak) ← quotedPiece single steps (cursor.skip 1)
        return (c :: piece, cursor, escapedBreak)
      let next ← next?
      if isBreak next then return ([], (cursor.skip 1).skipLine, true)
      match codeLength? next with
      | some length =>
        let digits := (cursor.rest.drop 2).take length
        guard (digits.length = length)
        let code ← Text.readDigits 16 digits
        let (piece, cursor, escapedBreak) ← quotedPiece single steps (cursor.skip (2 + length))
        return ((← ofCode? code) :: piece, cursor, escapedBreak)
      | none =>
        let meaning ← escaped? next
        let (piece, cursor, escapedBreak) ← quotedPiece single steps (cursor.skip 2)
        return (meaning :: piece, cursor, escapedBreak)

/-- The text of a quoted scalar from behind its first quote, and the cursor behind its last one. -/
def quoted (single : Bool) : (steps : Nat) → (sofar : Text) → Cursor → Option (Text × Cursor)
  | 0, _, _ => none
  | steps + 1, sofar, cursor => do
    if cursor.atDocumentMark || cursor.rest.isEmpty then none
    else
      let (piece, cursor, escapedBreak) ← quotedPiece single (cursor.rest.length + 1) cursor
      let sofar := sofar ++ piece
      if cursor.isAt (if single then '\'' else '"') then return (sofar, cursor.skip 1)
      let (gap, cursor) ← Gap.read (-1) cursor.rest.length escapedBreak {} cursor
      quoted single steps (sofar ++ if escapedBreak then gap.breaks else gap.text) cursor

/-- What a block scalar keeps of the line breaks at its end. -/
inductive Chomping where
  | clip
  | strip
  | keep
  deriving DecidableEq

def Chomping.ofMark? : Char → Option Chomping
  | '-' => some .strip
  | '+' => some .keep
  | _ => none

/-- The marks behind the first character of a block scalar: chomping and indentation in either
order, each at most once. -/
def blockMarks (cursor : Cursor) : Option (Chomping × Nat × Cursor) := do
  let digit? := fun (cursor : Cursor) => (cursor.head?.filter Char.isDigit).bind (Text.digit? 10)
  match cursor.head?.bind Chomping.ofMark? with
  | some chomping =>
    match digit? (cursor.skip 1) with
    | some 0 => none
    | some increment => return (chomping, increment, cursor.skip 2)
    | none => return (chomping, 0, cursor.skip 1)
  | none =>
    match digit? cursor with
    | some 0 => none
    | some increment =>
      match (cursor.skip 1).head?.bind Chomping.ofMark? with
      | some chomping => return (chomping, increment, cursor.skip 2)
      | none => return (.clip, increment, cursor.skip 1)
    | none => return (.clip, 0, cursor)

/-- Reads the indentation and the empty lines before a line with content: the breaks, the cursor and
the widest indentation seen. While `indent` is zero it is not known yet. -/
def blockBreaks (indent : Nat) :
    (steps : Nat) → (breaks : Text) → (widest : Nat) → Cursor → Option (Text × Nat × Cursor)
  | 0, breaks, widest, cursor => some (breaks, widest, cursor)
  | steps + 1, breaks, widest, cursor =>
    let blanks := (cursor.rest.takeWhile (· = ' ')).length
    let cursor := cursor.skip (if indent = 0 then blanks else min blanks (indent - cursor.column))
    let widest := max widest cursor.column
    if (indent = 0 || cursor.column < indent) && cursor.isAt '\t' then none
    else
      match cursor.lineBreak? with
      | some (c, cursor) => blockBreaks indent steps (breaks ++ [c]) widest cursor
      | none => some (breaks, widest, cursor)

/-- Reads the lines of a block scalar. `leading` is the break at the end of the line before,
`breaks` are those of the empty lines since, and `indented` tells whether that line began with a
blank. -/
def blockLines (style : Style) (indent : Nat) :
    (steps : Nat) → (sofar leading breaks : Text) → (indented : Bool) → Cursor →
    Option (Text × Text × Text × Cursor)
  | 0, _, _, _, _, _ => none
  | steps + 1, sofar, leading, breaks, indented, cursor => do
    if cursor.column ≠ indent || cursor.rest.isEmpty then return (sofar, leading, breaks, cursor)
    let indentedNow := cursor.sees isSpaceOrTab
    let joint :=
      if style = .folded && leading = ['\n'] && !indented && !indentedNow then
        if breaks.isEmpty then [' '] else []
      else leading
    let (line, cursor) := cursor.takeWhile fun c => !isBreak c
    let (leading, cursor) :=
      match cursor.lineBreak? with
      | some (c, next) => ([c], next)
      | none => ([], cursor)
    let (nextBreaks, _, next) ← blockBreaks indent (cursor.rest.length + 1) [] 0 cursor
    blockLines style indent steps (sofar ++ joint ++ breaks ++ line) leading nextBreaks indentedNow
      next

/-- The text of a block scalar from behind its first character, and the cursor behind it. The
enclosing indentation is `outer`, which is -1 at the top. -/
def block (style : Style) (outer : Int) (cursor : Cursor) : Option (Text × Cursor) := do
  let (chomping, increment, cursor) ← blockMarks cursor
  let cursor := cursor.skipWhile isSpaceOrTab
  let cursor := if cursor.isAt '#' then cursor.skipWhile fun c => !isBreak c else cursor
  guard (cursor.head?.all isBreak)
  let cursor := cursor.skipLine
  let given := if increment = 0 then 0 else outer.toNat + increment
  let (breaks, widest, cursor) ← blockBreaks given (cursor.rest.length + 1) [] 0 cursor
  let indent := if given ≠ 0 then given else max widest (max (outer + 1).toNat 1)
  let (text, leading, breaks, cursor) ←
    blockLines style indent (cursor.rest.length + 1) [] [] breaks false cursor
  let ending :=
    match chomping with
    | .strip => []
    | .clip => leading
    | .keep => leading ++ breaks
  return (text ++ ending, cursor)

end Scalar
end WorkDepot.Yaml
