import WorkDepot.Config.Settings
import WorkDepot.Proofs.Text.Number
import WorkDepot.Proofs.Text.Trim

/-! # Modes in octal digits

A mode is spelled in octal digits. Blanks around them, one `0o` in front, and then one plus sign are
taken away first; what is left must have digits from zero to seven and nothing else. Its number is
a mode up to the limit, is too large above it, and is no mode at all once it has more than 32 bits.
Zeros in front count for nothing, so how many digits there are does not matter.
-/
namespace WorkDepot.Config
variable {value digits other : Text}

/-- What is left of a value without the blanks around it, then without `0o` and then without a plus
sign in front. -/
def ModeDigits (value digits : Text) : Prop :=
  ∃ inner unmarked, Text.Trimmed value inner ∧ Text.Bared "0o".toList inner unmarked ∧
    Text.Bared "+".toList unmarked digits

/-- At least one digit, and only digits from zero to seven. -/
def IsOctal (digits : Text) : Prop := digits ≠ [] ∧ ∀ c ∈ digits, '0' ≤ c ∧ c ≤ '7'

/-- Octal digits of a number that has 32 bits but is above the limit for modes. -/
def Excessive (digits : Text) : Prop :=
  IsOctal digits ∧ 0o10000 ≤ Text.placeValue 8 digits ∧ Text.placeValue 8 digits ≤ 2 ^ 32 - 1

theorem ModeDigits.unique (h : ModeDigits value digits) (h' : ModeDigits value other) :
    other = digits := by
  obtain ⟨inner, unmarked, hinner, hmark, hsign⟩ := h
  obtain ⟨inner', unmarked', hinner', hmark', hsign'⟩ := h'
  obtain rfl : inner' = inner := hinner'.trim_eq.symm.trans hinner.trim_eq
  obtain rfl : unmarked' = unmarked := hmark'.unique hmark
  exact hsign'.unique hsign

/-! ## What is read -/

theorem bared_withoutPlus (text : Text) : Text.Bared "+".toList text (Text.withoutPlus text) := by
  unfold Text.withoutPlus
  split
  · exact .inl rfl
  · next hne =>
    refine .inr ⟨?_, rfl⟩
    rintro ⟨rest, hrest⟩
    exact hne rest hrest.symm

theorem isDigitIn_eight {c : Char} : Text.IsDigitIn 8 c ↔ '0' ≤ c ∧ c ≤ '7' := by
  have hzero : '0'.toNat = 0x30 := rfl
  have hseven : '7'.toNat = 0x37 := rfl
  unfold Text.IsDigitIn
  simp only [Char.le_def, UInt32.le_iff_toNat_le, Char.toNat_val]
  omega

/-- The number that the digits of a mode are read as, as far as it has 32 bits. -/
theorem readUnsigned_octal_iff {unmarked : Text} {n : Nat} :
    Text.readUnsigned 8 32 unmarked = some n ↔ IsOctal (Text.withoutPlus unmarked) ∧
      Text.placeValue 8 (Text.withoutPlus unmarked) = n ∧ n < 2 ^ 32 := by
  rw [Text.readUnsigned_eq_some_iff (by decide), and_assoc, IsOctal]
  simp only [isDigitIn_eight]

/-- Digits are read as a mode, refused as too large, or refused as no octal digits. -/
theorem readMode_cases (value : Text) : ∃ digits, ModeDigits value digits ∧
    ((IsOctal digits ∧ Text.placeValue 8 digits ≤ 0o7777 ∧
        readMode value = .ok (Text.placeValue 8 digits)) ∨
      (Excessive digits ∧ readMode value = .error (.invalid .modeTooLarge value)) ∨
      (¬ (IsOctal digits ∧ Text.placeValue 8 digits ≤ 2 ^ 32 - 1) ∧
        readMode value = .error (.invalid .modeNotOctal value))) := by
  let unmarked := (Text.strip? "0o".toList (Text.trim value)).getD (Text.trim value)
  refine ⟨Text.withoutPlus unmarked, ⟨_, unmarked, Text.trimmed_trim value, Text.bared_strip? _ _,
    bared_withoutPlus unmarked⟩, ?_⟩
  unfold readMode
  dsimp only
  cases hread : Text.readUnsigned 8 32 unmarked with
  | none =>
    refine .inr (.inr ⟨?_, rfl⟩)
    rintro ⟨hoctal, hle⟩
    have hsome := readUnsigned_octal_iff.mpr ⟨hoctal, rfl, by omega⟩
    rw [hread] at hsome
    cases hsome
  | some mode =>
    obtain ⟨hoctal, rfl, hlt⟩ := readUnsigned_octal_iff.mp hread
    by_cases hlarge : modeLimit < Text.placeValue 8 (Text.withoutPlus unmarked)
    · exact .inr (.inl ⟨⟨hoctal, hlarge, by omega⟩, if_pos hlarge⟩)
    · exact .inl ⟨hoctal, Nat.le_of_not_lt hlarge, if_neg hlarge⟩

/-- A value is read as a mode exactly if what is left of it is octal digits of a number up to the
limit. Otherwise the field is refused with the value as it was given, as too large if the number has
32 bits and as not octal in all other cases. -/
theorem readMode_exact (value : Text) :
    ∃ digits, ModeDigits value digits ∧ (∀ other, ModeDigits value other → other = digits) ∧
      (∀ mode, readMode value = .ok mode ↔
        IsOctal digits ∧ Text.placeValue 8 digits = mode ∧ mode ≤ 0o7777) ∧
      ∀ error, readMode value = .error error → ∃ fault, error = .invalid fault value ∧
        fault.field = "file_mode".toList ∧
        (fault.reason = "must not exceed 0o7777".toList ↔ Excessive digits) ∧
        (fault.reason = "must be an octal mode".toList ↔ ¬ Excessive digits) := by
  obtain ⟨digits, hdigits, hcases⟩ := readMode_cases value
  refine ⟨digits, hdigits, fun other hother => hdigits.unique hother, ?_⟩
  rcases hcases with ⟨hoctal, hle, hread⟩ | ⟨hlarge, hread⟩ | ⟨hnot, hread⟩
  · simp only [hread, reduceCtorEq, false_implies, implies_true, and_true, Except.ok.injEq]
    intro mode
    constructor
    · rintro rfl
      exact ⟨hoctal, rfl, hle⟩
    · exact fun h => h.2.1
  · rw [hread]
    refine ⟨fun mode => ⟨nofun, ?_⟩, ?_⟩
    · rintro ⟨-, rfl, hle⟩
      exact absurd hlarge.2.1 (Nat.not_le_of_lt (Nat.lt_succ_of_le hle))
    · rintro error ⟨rfl⟩
      exact ⟨_, rfl, rfl, iff_of_true rfl hlarge, iff_of_false (by decide) (not_not.mpr hlarge)⟩
  · have hlarge : ¬ Excessive digits := fun h => hnot ⟨h.1, h.2.2⟩
    rw [hread]
    refine ⟨fun mode => ⟨nofun, ?_⟩, ?_⟩
    · rintro ⟨hoctal, rfl, hle⟩
      exact absurd ⟨hoctal, Nat.le_trans hle (by decide)⟩ hnot
    · rintro error ⟨rfl⟩
      exact ⟨_, rfl, rfl, iff_of_false (by decide) hlarge, iff_of_true rfl hlarge⟩

example : readMode "\t0o+0000000000000755\n".toList = .ok 0o755 := by decide

end WorkDepot.Config
