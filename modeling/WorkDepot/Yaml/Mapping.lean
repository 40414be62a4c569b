import WorkDepot.Yaml.Token

/-!
# Flat mappings in YAML

The one shape that a configuration file may have: a single document that is a mapping, in block or
flow style, whose keys and values are scalars. Aliases are replaced by the scalars that they name.
Every other text is refused.
-/
namespace WorkDepot.Yaml

/-- A scalar with its tag, if it has one. -/
structure ScalarNode where
  text : Text
  style : Style
  tag? : Option Text
  deriving DecidableEq

/-- A scalar, perhaps with an anchor, or an alias for one. -/
inductive NodeToken where
  | scalar (anchor? : Option Text) (node : ScalarNode)
  | alias (name : Text)

namespace Mapping

def isDirective : Token → Bool
  | .version .. | .tagHandle _ => true
  | _ => false

/-- What the usual handles of tags stand for; a directive may give others. -/
def usualTag (handle suffix : Text) : Text :=
  if handle = ['!', '!'] then "tag:yaml.org,2002:".toList ++ suffix else handle ++ suffix

/-- An anchor and a tag in either order, and the tokens behind them. -/
def properties (handles : List Text) : List Token → Option (Option Text × Option Text × List Token)
  | .anchor name :: .tag handle suffix :: rest
  | .tag handle suffix :: .anchor name :: rest => do
    guard (handle = [] || handles.contains handle)
    return (some name, some (usualTag handle suffix), rest)
  | .anchor name :: rest => some (some name, none, rest)
  | .tag handle suffix :: rest => do
    guard (handle = [] || handles.contains handle)
    return (none, some (usualTag handle suffix), rest)
  | rest => some (none, none, rest)

/-- A scalar or an alias. Behind an anchor or a tag there need not be anything. -/
def node (handles : List Text) : List Token → Option (NodeToken × List Token)
  | .alias name :: rest => some (.alias name, rest)
  | tokens => do
    match ← properties handles tokens with
    | (anchor?, tag?, .scalar text style :: rest) =>
      return (.scalar anchor? ⟨text, style, tag?⟩, rest)
    | (none, none, _) => none
    | (_, _, .flowSequence :: _) | (_, _, .flowMapping :: _) | (_, _, .blockSequence :: _)
    | (_, _, .blockMapping :: _) | (_, _, .sequenceEntry :: _) => none
    | (anchor?, tag?, rest) => return (.scalar anchor? ⟨[], .plain, tag?⟩, rest)

def emptyNode : NodeToken := .scalar none ⟨[], .plain, none⟩

/-- A node, or the empty scalar before a token at which there is none. -/
def nodeBefore (handles : List Text) (isEnd : Token → Bool) (tokens : List Token) :
    Option (NodeToken × List Token) :=
  if tokens.head?.any isEnd then some (emptyNode, tokens) else node handles tokens

def endsBlockNode : Token → Bool
  | .key | .value | .blockEnd => true
  | _ => false

def blockPairs (handles : List Text) :
    (steps : Nat) → List Token → Option (List (NodeToken × NodeToken) × List Token)
  | _, .blockEnd :: rest => some ([], rest)
  | steps + 1, .key :: rest => do
    let (key, rest) ← nodeBefore handles endsBlockNode rest
    let (value, rest) ←
      match rest with
      | .value :: rest => nodeBefore handles endsBlockNode rest
      | _ => pure (emptyNode, rest)
    let (pairs, rest) ← blockPairs handles steps rest
    return ((key, value) :: pairs, rest)
  | _, _ => none

def endsFlowNode : Token → Bool
  | .value | .flowEntry | .flowMappingEnd => true
  | _ => false

/-- One pair of a flow mapping: a key without a mark has no value unless a key was seen in it. -/
def flowPair (handles : List Text) :
    List Token → Option ((NodeToken × NodeToken) × List Token)
  | .key :: rest => do
    let (key, rest) ← nodeBefore handles endsFlowNode rest
    match rest with
    | .value :: rest =>
      let (value, rest) ← nodeBefore handles
        (fun token => token = .flowEntry || token = .flowMappingEnd) rest
      return ((key, value), rest)
    | _ => return ((key, emptyNode), rest)
  | tokens => do
    let (key, rest) ← node handles tokens
    return ((key, emptyNode), rest)

/-- The pairs of a flow mapping behind its first one, and the tokens behind it. A comma may stand
before the end. -/
def flowPairs (handles : List Text) :
    (steps : Nat) → List Token → Option (List (NodeToken × NodeToken) × List Token)
  | _, .flowMappingEnd :: rest => some ([], rest)
  | _, .flowEntry :: .flowMappingEnd :: rest => some ([], rest)
  | steps + 1, .flowEntry :: rest => do
    let (pair, rest) ← flowPair handles rest
    let (pairs, rest) ← flowPairs handles steps rest
    return (pair :: pairs, rest)
  | _, _ => none

/-- The handles that the directives before a document declare beside the usual ones, and the tokens
behind them. No directive may be given twice. -/
def directives : (version : Bool) → (handles : List Text) → List Token →
    Option (List Text × List Token)
  | version, handles, .version major minor :: rest => do
    guard (!version && Text.readDigits 10 major = some 1)
    guard (Text.readDigits 10 minor = some 1 || Text.readDigits 10 minor = some 2)
    directives true handles rest
  | version, handles, .tagHandle handle :: rest => do
    guard !handles.contains handle
    directives version (handle :: handles) rest
  | _, handles, rest => some (handles, rest)

def isDocumentMark : Token → Bool
  | .documentStart | .documentEnd => true
  | token => isDirective token

/-- The pairs of the mapping at the root of a document, and the tokens behind it. Where there is
nothing, there is the mapping without pairs. -/
def root (handles : List Text) (tokens : List Token) :
    Option (List (NodeToken × NodeToken) × List Token) := do
  if tokens.head?.all isDocumentMark then return ([], tokens)
  let (anchor?, tag?, rest) ← properties handles tokens
  match rest with
  | .blockMapping :: rest => blockPairs handles rest.length rest
  | .flowMapping :: .flowMappingEnd :: rest => return ([], rest)
  | .flowMapping :: rest => flowPairs handles (rest.length + 1) (.flowEntry :: rest)
  | _ =>
    guard ((anchor?.isSome || tag?.isSome) && rest.head?.all isDocumentMark)
    return ([], rest)

def document (tokens : List Token) : Option (List (NodeToken × NodeToken)) := do
  let usual := [['!'], ['!', '!']]
  let isExplicit := tokens.head?.any fun token => isDirective token || token = .documentStart
  let (handles, tokens) ←
    if isExplicit then
      let (handles, rest) ← directives false [] tokens
      match rest with
      | .documentStart :: rest => pure (handles ++ usual, rest)
      | _ => none
    else do
      guard (tokens.head? ≠ some .documentEnd)
      pure (usual, tokens)
  let (pairs, rest) ← root handles tokens
  guard (rest.all (· = .documentEnd))
  return pairs

/-- The scalar that a node stands for, where `anchors` has the latest first, and the anchors known
after it. -/
def resolve (anchors : List (Text × ScalarNode)) :
    NodeToken → Option (ScalarNode × List (Text × ScalarNode))
  | .scalar none node => some (node, anchors)
  | .scalar (some name) node => some (node, (name, node) :: anchors)
  | .alias name => (anchors.lookup name).map (·, anchors)

def resolveAll : List (Text × ScalarNode) → List (NodeToken × NodeToken) →
    Option (List (ScalarNode × ScalarNode))
  | _, [] => some []
  | anchors, (key, value) :: rest => do
    let (key, anchors) ← resolve anchors key
    let (value, anchors) ← resolve anchors value
    return (key, value) :: (← resolveAll anchors rest)

def ofText? (text : Text) : Option (List (ScalarNode × ScalarNode)) := do
  resolveAll [] (← document (← Token.ofText? text))

end Mapping
end WorkDepot.Yaml
