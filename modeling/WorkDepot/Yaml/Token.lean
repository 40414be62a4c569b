import WorkDepot.Text.Utf8
import WorkDepot.Yaml.Scalar

/-!
# Tokens of YAML

The tokens of a whole text. Indentation becomes tokens that open and close block collections.
Whether something is the key of a mapping shows only at the colon behind it, so each level remembers
where its possible key began, and the tokens for it are put there when the colon comes; a possible
key is given up at the end of its line and after 1024 characters, and it is an error to give up one
that the indentation requires.
-/
namespace WorkDepot.Yaml

inductive Token where
  | version (major minor : Text)
  | tagHandle (handle : Text)
  | documentStart
  | documentEnd
  | blockSequence
  | blockMapping
  | blockEnd
  | flowSequence
  | flowSequenceEnd
  | flowMapping
  | flowMappingEnd
  | sequenceEntry
  | flowEntry
  | key
  | value
  | alias (name : Text)
  | anchor (name : Text)
  | tag (handle suffix : Text)
  | scalar (text : Text) (style : Style)
  deriving DecidableEq

structure PossibleKey where
  /-- How many tokens come before it. -/
  place : Nat
  required : Bool
  index : Nat
  line : Nat
  column : Nat

/-- The state between two tokens. -/
structure Lexer where
  cursor : Cursor
  tokens : Array Token := #[]
  /-- The column of the block collection that is open, or -1. -/
  indent : Int := -1
  /-- The columns of the collections around it. -/
  outerIndents : List Int := []
  /-- The possible key of each level, of the innermost flow collection first. -/
  keys : List (Option PossibleKey) := [none]
  keyAllowed : Bool := true

namespace Lexer

def inFlow (lexer : Lexer) : Bool := 1 < lexer.keys.length

def push (lexer : Lexer) (token : Token) : Lexer := { lexer with tokens := lexer.tokens.push token }

def insertAt (lexer : Lexer) (place : Nat) (token : Token) : Lexer :=
  { lexer with tokens := lexer.tokens.insertIdxIfInBounds place token }

def allowKey (lexer : Lexer) (keyAllowed : Bool) : Lexer := { lexer with keyAllowed }

def take (lexer : Lexer) (count : Nat) (token : Token) : Lexer :=
  { lexer with cursor := lexer.cursor.skip count }.push token

/-- Closes the block collections that are indented further than a column. -/
def closeTo (column : Int) : (outer : List Int) → Lexer → Lexer
  | [], lexer => lexer
  | enclosing :: outer, lexer =>
    if lexer.indent ≤ column then lexer
    else closeTo column outer
      { lexer.push .blockEnd with indent := enclosing, outerIndents := outer }

def unroll (lexer : Lexer) (column : Int) : Lexer :=
  if lexer.inFlow then lexer else closeTo column lexer.outerIndents lexer

/-- Opens a block collection before the token at a place, if the column is further in. -/
def roll (lexer : Lexer) (column place : Nat) (token : Token) : Lexer :=
  if lexer.inFlow || (column : Int) ≤ lexer.indent then lexer
  else
    { lexer.insertAt place token with
      indent := column
      outerIndents := lexer.indent :: lexer.outerIndents }

def dropKey (lexer : Lexer) : Option Lexer :=
  match lexer.keys with
  | some key :: keys => if key.required then none else some { lexer with keys := none :: keys }
  | _ => some lexer

def saveKey (lexer : Lexer) : Option Lexer := do
  if !lexer.keyAllowed then return lexer
  let lexer ← lexer.dropKey
  let key : PossibleKey :=
    { place := lexer.tokens.size
      required := !lexer.inFlow && lexer.indent = lexer.cursor.column
      index := lexer.cursor.index
      line := lexer.cursor.line
      column := lexer.cursor.column }
  return { lexer with keys := some key :: lexer.keys.tail }

/-- Gives up the possible keys that the cursor has left behind. -/
def dropStaleKeys (lexer : Lexer) : Option Lexer := do
  let keys ← lexer.keys.mapM fun
    | none => some none
    | some key =>
      if key.line < lexer.cursor.line || key.index + 1024 < lexer.cursor.index then
        if key.required then none else some none
      else some (some key)
  return { lexer with keys }

/-- Skips blank space, comments and line breaks. A tab counts as blank space where no key may begin,
and a byte order mark at the beginning of a line. -/
def skipToToken : (steps : Nat) → Lexer → Lexer
  | 0, lexer => lexer
  | steps + 1, lexer =>
    let tabs := lexer.inFlow || !lexer.keyAllowed
    let marked := lexer.cursor.column = 0 && lexer.cursor.isAt '\uFEFF'
    let cursor := lexer.cursor.skip (if marked then 1 else 0)
    let cursor := cursor.skipWhile fun c => c = ' ' || (tabs && c = '\t')
    let cursor := if cursor.isAt '#' then cursor.skipWhile fun c => !isBreak c else cursor
    match cursor.lineBreak? with
    | some (_, cursor) =>
      skipToToken steps { lexer with cursor, keyAllowed := lexer.keyAllowed || !lexer.inFlow }
    | none => { lexer with cursor }

/-- The bytes that percent signs and two digits each spell, and the text behind them. -/
def readEscapes : (steps : Nat) → Text → Option (Bytes × Text)
  | 0, text => some ([], text)
  | steps + 1, '%' :: text => do
    guard (2 ≤ text.length)
    let byte ← Text.readDigits 16 (text.take 2)
    let (bytes, rest) ← readEscapes steps (text.drop 2)
    return (UInt8.ofNat byte :: bytes, rest)
  | _ + 1, text => some ([], text)

/-- The characters that a tag may have beside those of words. The last three of them are allowed
only in its long form and in directives. -/
def isTagChar (long : Bool) (c : Char) : Bool :=
  isWordChar c || c ∈ ";/?:@&=+$.!~*'()%".toList || (long && c ∈ ",[]".toList)

/-- The characters of a tag, with escapes read, and the cursor behind it. -/
def readTagText (long : Bool) (cursor : Cursor) : Option (Text × Cursor) := do
  let (raw, cursor) := cursor.takeWhile (isTagChar long)
  return (← unescape raw.length raw, cursor)
where
  unescape : (steps : Nat) → Text → Option Text
    | 0, text => some text
    | _, [] => some []
    | steps + 1, '%' :: text => do
      let (bytes, rest) ← readEscapes text.length ('%' :: text)
      return (← Text.decode? bytes) ++ (← unescape steps rest)
    | steps + 1, c :: text => (c :: ·) <$> unescape steps text

/-- An exclamation mark, a word and, if there is one, a second exclamation mark. -/
def readHandle (cursor : Cursor) : Option (Text × Cursor) := do
  guard (cursor.isAt '!')
  let (word, cursor) := (cursor.skip 1).takeWhile isWordChar
  if cursor.isAt '!' then return ('!' :: word ++ ['!'], cursor.skip 1)
  return ('!' :: word, cursor)

def readTag (inFlow : Bool) (cursor : Cursor) : Option (Token × Cursor) := do
  let (token, cursor) ←
    if cursor.at? 1 = some '<' then
      let (suffix, cursor) ← readTagText true (cursor.skip 2)
      guard (!suffix.isEmpty && cursor.isAt '>')
      pure (Token.tag [] suffix, cursor.skip 1)
    else
      let (handle, cursor) ← readHandle cursor
      let (text, cursor) ← readTagText false cursor
      if 1 < handle.length && handle.getLast? = some '!' then
        guard (!text.isEmpty)
        pure (Token.tag handle text, cursor)
      else if (handle.drop 1 ++ text).isEmpty then pure (Token.tag [] ['!'], cursor)
      else pure (Token.tag ['!'] (handle.drop 1 ++ text), cursor)
  guard ((inFlow && cursor.isAt ',') || cursor.gapAt 0)
  return (token, cursor)

def readName (cursor : Cursor) : Option (Text × Cursor) := do
  let (name, cursor) := (cursor.skip 1).takeWhile isWordChar
  guard (!name.isEmpty && (cursor.gapAt 0 || cursor.sees fun c => c ∈ "?:,]\x7d%@\x60".toList))
  return (name, cursor)

def readVersionPart (cursor : Cursor) : Option (Text × Cursor) := do
  let (digits, cursor) := cursor.takeWhile Char.isDigit
  guard (!digits.isEmpty && digits.length ≤ 9)
  return (digits, cursor)

def readDirective (cursor : Cursor) : Option (Token × Cursor) := do
  let (name, cursor) := (cursor.skip 1).takeWhile isWordChar
  guard (!name.isEmpty && cursor.gapAt 0)
  let cursor := cursor.skipWhile isSpaceOrTab
  let (token, cursor) ←
    if name = "YAML".toList then
      let (major, cursor) ← readVersionPart cursor
      guard (cursor.isAt '.')
      let (minor, cursor) ← readVersionPart (cursor.skip 1)
      pure (Token.version major minor, cursor)
    else if name = "TAG".toList then
      let (handle, cursor) ← readHandle cursor
      guard (handle = ['!'] || handle.getLast? = some '!')
      guard (cursor.sees isSpaceOrTab)
      let (text, cursor) ← readTagText true (cursor.skipWhile isSpaceOrTab)
      guard (!text.isEmpty && cursor.gapAt 0)
      pure (Token.tagHandle handle, cursor)
    else none
  let cursor := cursor.skipWhile isSpaceOrTab
  let cursor := if cursor.isAt '#' then cursor.skipWhile fun c => !isBreak c else cursor
  guard (cursor.head?.all isBreak)
  return (token, cursor.skipLine)

/-- A token that cannot be a key and closes all block collections. -/
def outermost (lexer : Lexer) : Option Lexer := do
  let lexer ← (lexer.unroll (-1)).dropKey
  return lexer.allowKey false

/-- The mark of an entry, a key or a value in a block collection, which it opens if need be. -/
def blockMark (lexer : Lexer) (collection mark : Token) : Option Lexer := do
  guard lexer.keyAllowed
  return (lexer.roll lexer.cursor.column lexer.tokens.size collection).take 1 mark

def fetchValue (lexer : Lexer) : Option Lexer :=
  match lexer.keys with
  | some key :: keys =>
    let lexer := (lexer.insertAt key.place .key).roll key.column key.place .blockMapping
    some ({ lexer with keys := none :: keys, keyAllowed := false }.take 1 .value)
  | _ =>
    if lexer.inFlow then some ((lexer.allowKey false).take 1 .value)
    else lexer.blockMark .blockMapping .value |>.map (·.allowKey true)

/-- A scalar or a property of a node: a key may begin with it. -/
def fetchNode (lexer : Lexer) (read : Lexer → Option (Token × Cursor × Bool)) : Option Lexer := do
  let lexer ← lexer.saveKey
  let (token, cursor, keyAllowed) ← read (lexer.allowKey false)
  return { lexer with cursor, keyAllowed }.push token

def fetchQuoted (single : Bool) (lexer : Lexer) : Option Lexer :=
  lexer.fetchNode fun lexer => do
    let (text, cursor) ←
      Scalar.quoted single (lexer.cursor.rest.length + 1) [] (lexer.cursor.skip 1)
    return (.scalar text (if single then .singleQuoted else .doubleQuoted), cursor, false)

def fetchPlain (lexer : Lexer) : Option Lexer :=
  lexer.fetchNode fun lexer => do
    let (text, cursor, broken) ←
      Scalar.plain lexer.inFlow (lexer.indent + 1) (lexer.cursor.rest.length + 1) [] [] false
        lexer.cursor
    return (.scalar text .plain, cursor, broken)

def fetchBlock (style : Style) (lexer : Lexer) : Option Lexer := do
  let lexer ← lexer.dropKey
  let (text, cursor) ← Scalar.block style lexer.indent (lexer.cursor.skip 1)
  return ({ lexer with cursor, keyAllowed := true } : Lexer).push (.scalar text style)

/-- The characters that cannot begin a plain scalar, unless the next character makes them one. -/
def indicators : Text := "-?:,[]\x7b\x7d#&*!|>'\"%@\x60".toList

/-- One token from a cursor that stands at its first character. -/
def fetch (lexer : Lexer) (c : Char) : Option Lexer := do
  let cursor := lexer.cursor
  let gapBehind := cursor.gapAt 1
  if cursor.column = 0 && c = '%' then
    let lexer ← lexer.outermost
    let (token, cursor) ← readDirective lexer.cursor
    return ({ lexer with cursor } : Lexer).push token
  if cursor.atMark "---".toList then return (← lexer.outermost).take 3 .documentStart
  if cursor.atMark "...".toList then return (← lexer.outermost).take 3 .documentEnd
  match c with
  | '[' | '{' =>
    let lexer ← lexer.saveKey
    return { lexer with keys := none :: lexer.keys, keyAllowed := true }.take 1
      (if c = '[' then .flowSequence else .flowMapping)
  | ']' | '}' =>
    let lexer ← lexer.dropKey
    let keys := if lexer.inFlow then lexer.keys.tail else lexer.keys
    return { lexer with keys, keyAllowed := false }.take 1
      (if c = ']' then .flowSequenceEnd else .flowMappingEnd)
  | ',' =>
    let lexer ← lexer.dropKey
    return (lexer.allowKey true).take 1 .flowEntry
  | _ =>
    if c = '-' && gapBehind then
      let lexer ← if lexer.inFlow then some (lexer.take 1 .sequenceEntry)
        else lexer.blockMark .blockSequence .sequenceEntry
      return (← lexer.dropKey).allowKey true
    if c = '?' && (lexer.inFlow || gapBehind) then
      let lexer ← if lexer.inFlow then some (lexer.take 1 .key)
        else lexer.blockMark .blockMapping .key
      return (← lexer.dropKey).allowKey !lexer.inFlow
    if c = ':' && (lexer.inFlow || gapBehind) then return ← lexer.fetchValue
    if c = '*' || c = '&' then
      return ← lexer.fetchNode fun lexer => do
        let (name, cursor) ← readName lexer.cursor
        return (if c = '*' then .alias name else .anchor name, cursor, false)
    if c = '!' then
      return ← lexer.fetchNode fun lexer => do
        let (token, cursor) ← readTag lexer.inFlow lexer.cursor
        return (token, cursor, false)
    if c = '|' && !lexer.inFlow then return ← lexer.fetchBlock .literal
    if c = '>' && !lexer.inFlow then return ← lexer.fetchBlock .folded
    if c = '\'' then return ← lexer.fetchQuoted true
    if c = '"' then return ← lexer.fetchQuoted false
    guard (!(isSpaceOrTab c || c ∈ indicators) || (c = '-' && !(cursor.at? 1).any isSpaceOrTab) ||
      (!lexer.inFlow && (c = '?' || c = ':') && !gapBehind))
    lexer.fetchPlain

/-- Fetches tokens to the end of the text. Every token takes a character. -/
def run : (steps : Nat) → Lexer → Option Lexer
  | 0, _ => none
  | steps + 1, lexer => do
    let lexer ← (lexer.skipToToken (lexer.cursor.rest.length + 1)).dropStaleKeys
    let lexer := lexer.unroll lexer.cursor.column
    match lexer.cursor.head? with
    | none => lexer.outermost
    | some c => run steps (← lexer.fetch c)

end Lexer

def Token.ofText? (text : Text) : Option (List Token) := do
  guard (text.all isAllowed)
  return (← Lexer.run (text.length + 2) { cursor := .ofText text }).tokens.toList

end WorkDepot.Yaml
