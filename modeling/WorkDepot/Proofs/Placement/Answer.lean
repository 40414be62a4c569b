import WorkDepot.Placement.Oracle
import WorkDepot.Proofs.Text.Trim

/-! # How answers are read

Of what an oracle has printed the blanks around it are dropped, and what is left is judged: nothing
left, several lines, one line with a relative path, or one with an absolute path, which is the
answer. Blanks that are put around a path which has been accepted do not change how it is read.
-/
namespace WorkDepot.Placement
variable {filename answer path : Text}

theorem AnswerFault.reason_injective : Function.Injective AnswerFault.reason := by
  intro first second h
  revert h
  cases first <;> cases second <;> decide

/-- The four ways to read an answer of which trimming leaves this path. -/
inductive Judged (filename answer path : Text) : Except Failure Text → Prop
  | empty : path = [] → Judged filename answer path (.error (.malformed filename answer .empty))
  | severalLines : path ≠ [] → '\n' ∈ path →
      Judged filename answer path (.error (.malformed filename answer .severalLines))
  | relative : path ≠ [] → '\n' ∉ path → path.head? ≠ some '/' →
      Judged filename answer path (.error (.malformed filename answer .relative))
  | accepted : path.head? = some '/' → '\n' ∉ path → Judged filename answer path (.ok path)

theorem readAnswer_judged (filename answer : Text) :
    Judged filename answer (Text.trim answer) (readAnswer filename answer) := by
  unfold readAnswer
  dsimp only
  split
  · next he => exact .empty (List.isEmpty_iff.mp he)
  · next he =>
    have hne : Text.trim answer ≠ [] := fun h => he (List.isEmpty_iff.mpr h)
    split
    · next hn => exact .severalLines hne hn
    · next hn =>
      split
      · next ha =>
        refine .relative hne hn ?_
        simpa [Path.isAbsolute] using ha
      · next ha =>
        refine .accepted ?_ hn
        simpa [Path.isAbsolute] using ha

/-- An answer is good when trimming it leaves one line with an absolute path. -/
theorem readAnswer_eq_ok (h : readAnswer filename answer = .ok path) :
    path = Text.trim answer ∧ '\n' ∉ path ∧ Path.isAbsolute path := by
  have hjudged := readAnswer_judged filename answer
  rw [h] at hjudged
  cases hjudged with
  | accepted ha hn => exact ⟨rfl, hn, by simpa [Path.isAbsolute] using ha⟩

theorem readAnswer_of_trimmed (h : Text.Trimmed answer path) (ha : path.head? = some '/')
    (hn : '\n' ∉ path) : readAnswer filename answer = .ok path := by
  have hjudged := readAnswer_judged filename answer
  rw [h.trim_eq] at hjudged
  have hne : path ≠ [] := by
    rintro rfl
    cases ha
  cases hresult : readAnswer filename answer with
  | error failure =>
    rw [hresult] at hjudged
    cases hjudged with
    | empty he => exact absurd he hne
    | severalLines _ hl => exact absurd hl hn
    | relative _ _ hr => exact absurd ha hr
  | ok found =>
    rw [hresult] at hjudged
    cases hjudged
    rfl

/-- Every answer is accepted or refused by what trimming leaves of it, with the first reason that
there is to refuse it; and whatever has been accepted is read the same with other blanks around it
and for other names. -/
theorem readAnswer_exact (filename answer : Text) :
    let path := Text.trim answer
    Text.Trimmed answer path ∧ (path ≠ [] → (Text.lineCount path = 1 ↔ '\n' ∉ path)) ∧
      (readAnswer filename answer = .ok path ↔ path.head? = some '/' ∧ '\n' ∉ path) ∧
      (readAnswer filename answer ≠ .ok path → ∃ fault,
        readAnswer filename answer = .error (.malformed filename answer fault) ∧
          (fault.reason = "empty output".toList ↔ path = []) ∧
          (fault.reason = "expected exactly one line".toList ↔ path ≠ [] ∧ '\n' ∈ path) ∧
          (fault.reason = "path is not absolute".toList ↔ path ≠ [] ∧ '\n' ∉ path)) ∧
      ∀ found name before behind, readAnswer filename answer = .ok found →
        Text.isBlank before → Text.isBlank behind →
          readAnswer name (before ++ found ++ behind) = .ok found := by
  intro path
  have htrimmed : Text.Trimmed answer path := Text.trimmed_trim answer
  have hjudged : Judged filename answer path (readAnswer filename answer) :=
    readAnswer_judged filename answer
  refine ⟨htrimmed, htrimmed.lineCount_eq_one_iff, ⟨?_, ?_⟩, ?_, ?_⟩
  · intro hok
    rw [hok] at hjudged
    cases hjudged with
    | accepted ha hn => exact ⟨ha, hn⟩
  · rintro ⟨ha, hn⟩
    exact readAnswer_of_trimmed htrimmed ha hn
  · intro hrefused
    have hinjective := AnswerFault.reason_injective
    have hempty (fault : AnswerFault) : fault.reason = "empty output".toList ↔ fault = .empty :=
      hinjective.eq_iff' rfl
    have hlines (fault : AnswerFault) :
        fault.reason = "expected exactly one line".toList ↔ fault = .severalLines :=
      hinjective.eq_iff' rfl
    have hrelative (fault : AnswerFault) :
        fault.reason = "path is not absolute".toList ↔ fault = .relative :=
      hinjective.eq_iff' rfl
    simp only [hempty, hlines, hrelative]
    generalize readAnswer filename answer = result at hjudged hrefused
    cases hjudged with
    | empty he => exact ⟨.empty, rfl, by simp [he]⟩
    | severalLines hne hn => exact ⟨.severalLines, rfl, by simp [hne, hn]⟩
    | relative hne hn _ => exact ⟨.relative, rfl, by simp [hne, hn]⟩
    | accepted _ _ => exact absurd rfl hrefused
  · intro found name before behind hok hbefore hbehind
    rw [hok] at hjudged
    cases hjudged with
    | accepted ha hn => exact readAnswer_of_trimmed (htrimmed.again hbefore hbehind) ha hn

/-- Blank lines around the path and a carriage return within it leave one line. -/
example : readAnswer "f".toList "\n\u2003/a\rb\u2028c \r\n\n".toList =
    .ok "/a\rb\u2028c".toList := by
  decide

end WorkDepot.Placement
