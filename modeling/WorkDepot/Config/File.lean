import WorkDepot.Config.Settings
import WorkDepot.Yaml.Mapping

/-!
# Configuration files

A configuration file is a flat mapping in YAML with keys from a fixed set, each at most once. A text
field takes any scalar by its text, and the timeout takes a plain integer; a scalar that says null
leaves its field absent.
-/
namespace WorkDepot.Config

open Yaml (ScalarNode)

def nullTag : Text := "tag:yaml.org,2002:null".toList

def integerTag : Text := "tag:yaml.org,2002:int".toList

def nullSpellings : List Text :=
  ["~".toList, "null".toList, "Null".toList, "NULL".toList]

/-- Whether a scalar gives no value. A null by its tag must be spelled as one. -/
def isNull? (node : ScalarNode) : Option Bool :=
  if node.style ≠ .plain then some false
  else
    match node.tag? with
    | none => some (node.text.isEmpty || nullSpellings.contains node.text)
    | some tag =>
      if tag ≠ nullTag then some false
      else if nullSpellings.contains node.text then some true
      else none

/-- A value read by `read`, or nothing for a null. -/
def optional? {α : Type} (read : ScalarNode → Option α) (node : ScalarNode) :
    Option (Option α) := do
  if ← isNull? node then return none
  return some (← read node)

/-- A zero before other digits makes a text of digits a text. -/
def isZeroPadded (digits : Text) : Bool :=
  1 < digits.length && digits.head? = some '0' && digits.all Char.isDigit

/-- An integer of 64 bits: decimal, or behind `0x`, `0o` or `0b` in another radix. -/
def integer? (text : Text) : Option Nat :=
  let unsigned := Text.withoutPlus text
  let inRadix := fun (mark : String) (radix : Nat) =>
    (Text.strip? mark.toList unsigned).bind fun digits =>
      if digits.head? = some '+' then none else Text.readUnsigned radix 64 digits
  let decimal :=
    if unsigned.head? = some '+' || isZeroPadded unsigned then none
    else Text.readUnsigned 10 64 unsigned
  (inRadix "0x" 16).or ((inRadix "0o" 8).or ((inRadix "0b" 2).or decimal))

def seconds? (node : ScalarNode) : Option Nat := do
  guard (node.style = .plain || (node.style = .literal && node.tag? = some integerTag))
  integer? node.text

def Document.put (document : Document) (key value : ScalarNode) : Option Document := do
  let text := optional? fun node => some node.text
  if key.text = "project_dir".toList then
    return { document with projectDir := ← text value }
  else if key.text = "oracle_program".toList then
    return { document with oracleProgram := ← text value }
  else if key.text = "create_work_program".toList then
    return { document with createWorkProgram := ← text value }
  else if key.text = "tool_timeout_secs".toList then
    return { document with toolTimeoutSecs := ← optional? seconds? value }
  else if key.text = "digest".toList then
    return { document with digest := ← text value }
  else if key.text = "file_mode".toList then
    return { document with fileMode := ← text value }
  else if key.text = "download_marker".toList then
    return { document with downloadMarker := ← text value }
  else none

def Document.ofText? (text : Text) : Option Document := do
  let pairs ← Yaml.Mapping.ofText? text
  guard (pairs.map fun pair => pair.1.text).Nodup
  pairs.foldlM (fun document pair => document.put pair.1 pair.2) {}

end WorkDepot.Config
