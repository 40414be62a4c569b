import WorkDepot.CommandLine.Result
import WorkDepot.Proofs.Json.Object

/-! # What is printed

A result is printed as one line of text or as one object of JSON. The line of a path is the path,
the line of a staged file has a tab and the name of the file behind the path, and the line of a work
unit is its number. The object of a path or a staged file has the name of the file in it as well,
and that of a staged file says whether the file has been made.
-/
namespace WorkDepot.CommandLine

/-- The members of the object that a result is printed as. -/
def Result.fields : Result → List (Text × Json.Value)
  | path filename place =>
    [("filename".toList, .text filename), ("path".toList, .text place)]
  | staged file =>
    [("filename".toList, .text file.filename), ("fingerprint".toList, .text file.fingerprint),
     ("path".toList, .text file.path), ("created".toList, .flag (file.outcome = .created))]
  | workUnit id => [("workunit_id".toList, .number id)]

/-- All that has been printed is the result. -/
def Shows : OutputFormat → Result → (stdout : Text) → Prop
  | .text, .path _ place, stdout => stdout = place ++ "\n".toList
  | .text, .staged file, stdout =>
    stdout = file.path ++ "\t".toList ++ file.filename ++ "\n".toList
  | .text, .workUnit id, stdout => stdout = Nat.toDigits 10 id ++ "\n".toList
  | .json, result, stdout => Json.readObject? stdout = some result.fields

variable {file : Staging.Staged} {stdout : Text}

theorem Result.writes (result : Result) : Json.Writes result.members result.fields := by
  have hquote (text : Text) := Json.spells_quote text
  cases result with
  | path filename place => exact .cons ⟨rfl, hquote _⟩ (.cons ⟨rfl, hquote _⟩ .nil)
  | staged file =>
    exact .cons ⟨rfl, hquote _⟩ (.cons ⟨rfl, hquote _⟩ (.cons ⟨rfl, hquote _⟩
      (.cons ⟨rfl, Json.spells_ofBool _⟩ .nil)))
  | workUnit id => exact .cons ⟨rfl, Json.spells_decimal id⟩ .nil

theorem Result.shows_render (result : Result) (output : OutputFormat) :
    Shows output result (result.render output) := by
  cases output with
  | text =>
    cases result with
    | path filename place => rfl
    | staged file => simp [Shows, render, text]
    | workUnit id => rfl
  | json =>
    have hne : result.members ≠ [] := by cases result <;> nofun
    exact Json.readObject?_object result.writes hne

end WorkDepot.CommandLine
