import WorkDepot.Digest.Blake3
import WorkDepot.Digest.Sha2

/-!
# Fingerprints

A fingerprint is the hexadecimal spelling of a digest. Staging takes any function from contents to
fingerprints, with a name to report; the algorithms of the configuration are three of them.
-/
namespace WorkDepot

/-- A named function from contents to the text that identifies them. -/
structure Fingerprinter where
  name : Text
  fingerprint : Bytes → Text

namespace Digest

inductive Algorithm where
  | sha256
  | sha512
  | blake3
  deriving DecidableEq

namespace Algorithm

def all : List Algorithm := [sha256, sha512, blake3]

def name : Algorithm → Text
  | sha256 => "sha256".toList
  | sha512 => "sha512".toList
  | blake3 => "blake3".toList

def digest : Algorithm → Bytes → Bytes
  | sha256, content => (Sha2.sha256.digest content).toList
  | sha512, content => (Sha2.sha512.digest content).toList
  | blake3, content => (Blake3.digest content).toList

def fingerprinter (algorithm : Algorithm) : Fingerprinter :=
  ⟨algorithm.name, fun content => Bytes.toHex (algorithm.digest content)⟩

def ofName? (name : Text) : Option Algorithm := all.find? fun algorithm => algorithm.name = name

/-- The spellings that a configuration may use, in small letters. -/
def spellings : Algorithm → List Text
  | sha256 => ["sha256".toList, "sha-256".toList]
  | sha512 => ["sha512".toList, "sha-512".toList]
  | blake3 => ["blake3".toList]

/-- Reads a spelling in either case of letter, with blanks around it. -/
def ofSpelling? (text : Text) : Option Algorithm :=
  all.find? fun algorithm => algorithm.spellings.contains (Text.toLowerAscii (Text.trim text))

end Algorithm
end Digest

def Fingerprinter.constant (fingerprint : Text) : Fingerprinter :=
  ⟨"colliding".toList, fun _ => fingerprint⟩

end WorkDepot
