import WorkDepot.Config.Settings
import WorkDepot.Proofs.Text.Trim

/-! # Digests by name

A digest is called by a name, in letters of either case and with blanks around it; two of the three
digests have a second name. A value that is no such name is refused as it was given.
-/
namespace WorkDepot.Config
variable {value name : Text} {algorithm : Digest.Algorithm}

/-- The names of digests, in small letters. -/
def digestNames : List (Text × Digest.Algorithm) :=
  [("sha256".toList, .sha256), ("sha-256".toList, .sha256), ("sha512".toList, .sha512),
   ("sha-512".toList, .sha512), ("blake3".toList, .blake3)]

/-- The value is the name, in letters of either case and with blanks around it. -/
def Calls (value name : Text) : Prop :=
  ∃ inner, Text.Trimmed value inner ∧ Text.toLowerAscii inner = name

/-- The digest that a value calls, if it calls one. -/
def digestCalled? (value : Text) : Option Digest.Algorithm :=
  digestNames.lookup (Text.toLowerAscii (Text.trim value))

theorem calls_iff : Calls value name ↔ Text.toLowerAscii (Text.trim value) = name := by
  constructor
  · rintro ⟨inner, htrimmed, hname⟩
    rw [htrimmed.trim_eq, hname]
  · exact fun h => ⟨_, Text.trimmed_trim value, h⟩

theorem mem_digestNames_iff : name ∈ digestNames.map Prod.fst ↔
    name = "sha256".toList ∨ name = "sha-256".toList ∨ name = "sha512".toList ∨
      name = "sha-512".toList ∨ name = "blake3".toList := by
  simp only [digestNames, List.map_cons, List.map_nil, List.mem_cons, List.not_mem_nil, or_false]

theorem lookup_digestNames_eq_none (h : name ∉ digestNames.map Prod.fst) :
    digestNames.lookup name = none := by
  rw [List.lookup_eq_none_iff]
  intro entry hentry
  rw [bne_iff_ne]
  rintro rfl
  exact h (List.mem_map_of_mem hentry)

/-- No two digests share a name. -/
theorem lookup_digestNames_iff :
    digestNames.lookup name = some algorithm ↔ (name, algorithm) ∈ digestNames := by
  by_cases hname : name ∈ digestNames.map Prod.fst
  · rcases mem_digestNames_iff.mp hname with rfl | rfl | rfl | rfl | rfl <;>
      cases algorithm <;> decide
  · rw [lookup_digestNames_eq_none hname]
    exact iff_of_false nofun fun hmem => hname (List.mem_map_of_mem hmem)

theorem digestCalled?_eq_some_iff : digestCalled? value = some algorithm ↔
    ∃ name, (name, algorithm) ∈ digestNames ∧ Calls value name := by
  simp only [digestCalled?, lookup_digestNames_iff, calls_iff, exists_eq_right']

theorem ofSpelling?_eq (value : Text) :
    Digest.Algorithm.ofSpelling? value = digestCalled? value := by
  rw [Digest.Algorithm.ofSpelling?, digestCalled?]
  generalize Text.toLowerAscii (Text.trim value) = name
  by_cases hname : name ∈ digestNames.map Prod.fst
  · rcases mem_digestNames_iff.mp hname with rfl | rfl | rfl | rfl | rfl <;> decide
  · have hnone : digestNames.lookup name = none := lookup_digestNames_eq_none hname
    rw [hnone, List.find?_eq_none]
    intro algorithm _ hspelled
    apply hname
    rw [List.contains_iff_mem] at hspelled
    revert hspelled
    cases algorithm <;> simp [Digest.Algorithm.spellings, digestNames] <;> tauto

/-- A value is read as the digest that it calls. A value that calls none is refused as it was
given. -/
theorem readDigest_exact (value : Text) :
    (∀ algorithm, readDigest value = .ok algorithm ↔
      ∃ name, (name, algorithm) ∈ digestNames ∧ Calls value name) ∧
    ∀ error, readDigest value = .error error ↔
      error = .invalid .unknownDigest value ∧ ∀ entry ∈ digestNames, ¬ Calls value entry.1 := by
  have hnone : digestCalled? value = none ↔ ∀ entry ∈ digestNames, ¬ Calls value entry.1 := by
    simp only [Option.eq_none_iff_forall_not_mem, Option.mem_def, digestCalled?_eq_some_iff]
    constructor
    · exact fun h entry hentry hcalls => h entry.2 ⟨entry.1, hentry, hcalls⟩
    · exact fun h algorithm ⟨name, hname, hcalls⟩ => h _ hname hcalls
  simp only [← digestCalled?_eq_some_iff, ← hnone, readDigest, ofSpelling?_eq]
  cases digestCalled? value <;> simp [eq_comm]

example : readDigest " SHA-512\t".toList = .ok .sha512 := by decide

end WorkDepot.Config
