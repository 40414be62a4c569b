import WorkDepot.Digest.Algorithm
import WorkDepot.Json.Quoted

/-!
# Names of algorithms in JSON

An algorithm is written as the string of its name. It is read from that string or from an object
whose only member has that name and the value null.
-/
namespace WorkDepot.Json

def ofAlgorithm (algorithm : Digest.Algorithm) : Text := quote algorithm.name

/-- The text behind a character, with blanks before it. -/
def skipPast? (c : Char) (text : Text) : Option Text :=
  Text.strip? [c] (skipBlanks text)

def algorithm? (text : Text) : Option Digest.Algorithm := do
  let (name, rest) ←
    match skipPast? '\x7b' text with
    | none => readString? (skipBlanks text)
    | some member =>
      let (name, rest) ← readString? (skipBlanks member)
      let rest ← skipPast? ':' rest
      let rest ← Text.strip? "null".toList (skipBlanks rest)
      let rest ← skipPast? '\x7d' rest
      pure (name, rest)
  guard (skipBlanks rest).isEmpty
  Digest.Algorithm.ofName? name

end WorkDepot.Json
