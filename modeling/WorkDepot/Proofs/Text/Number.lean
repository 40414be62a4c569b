import Mathlib
import WorkDepot.Text.Number

/-! # Numbers that are read

In a radix of at most ten the digits stand in one row from zero on. A text is read as a number when
it has digits only and at least one of them, and the number is the sum of the digits by their
places. That it must have so many bits is asked of the number as a whole, so zeros in front make no
difference, and what is too large is never cut down.
-/
namespace WorkDepot.Text
variable {radix bits n d : Nat} {text : Text} {c : Char}

/-- The sum of the digits by their places. -/
def placeValue (radix : Nat) (digits : Text) : Nat :=
  Nat.ofDigits radix (digits.reverse.map fun c => c.toNat - '0'.toNat)

/-- A character in the row of digits that starts at zero. -/
def IsDigitIn (radix : Nat) (c : Char) : Prop :=
  '0'.toNat ≤ c.toNat ∧ c.toNat < '0'.toNat + radix

theorem placeValue_cons (radix : Nat) (c : Char) (rest : Text) : placeValue radix (c :: rest) =
    (c.toNat - '0'.toNat) * radix ^ rest.length + placeValue radix rest := by
  unfold placeValue
  rw [List.reverse_cons, List.map_append, Nat.ofDigits_append, List.map_singleton,
    Nat.ofDigits_singleton, List.length_map, List.length_reverse]
  ring

theorem isDigit_iff_toNat : c.isDigit ↔ 0x30 ≤ c.toNat ∧ c.toNat ≤ 0x39 := by
  simp [Char.isDigit, UInt32.le_iff_toNat_le]

/-- Letters are no digits in so small a radix. -/
theorem digit?_eq_some_iff (hr : radix ≤ 10) :
    digit? radix c = some d ↔ IsDigitIn radix c ∧ c.toNat - '0'.toNat = d := by
  have hzero : '0'.toNat = 0x30 := rfl
  unfold digit? IsDigitIn
  by_cases h : c.isDigit
  · have hrange := isDigit_iff_toNat.mp h
    simp only [h, if_true, Option.filter_eq_some_iff, Option.some.injEq, decide_eq_true_eq]
    omega
  · have hrange := mt isDigit_iff_toNat.mpr h
    have hletter (base : Nat) : (some (c.toNat - base + 10)).filter (· < radix) = none := by
      simp [Option.filter]
      omega
    have hnone : ¬ (('0'.toNat ≤ c.toNat ∧ c.toNat < '0'.toNat + radix) ∧
        c.toNat - '0'.toNat = d) := by
      omega
    simp only [h, iff_false, hnone]
    split
    · contradiction
    · split
      · simp [hletter]
      · split
        · simp [hletter]
        · simp

theorem readDigitsFrom_eq_some_iff (hr : radix ≤ 10) {value : Nat} :
    readDigitsFrom radix value text = some n ↔ (∀ c ∈ text, IsDigitIn radix c) ∧
      value * radix ^ text.length + placeValue radix text = n := by
  induction text generalizing value with
  | nil => simp [readDigitsFrom, placeValue]
  | cons c rest ih =>
    have hplaces (d : Nat) : (value * radix + d) * radix ^ rest.length + placeValue radix rest =
        value * radix ^ (rest.length + 1) + (d * radix ^ rest.length + placeValue radix rest) := by
      ring
    rw [readDigitsFrom, placeValue_cons, List.forall_mem_cons, List.length_cons]
    simp only [Option.bind_eq_bind, Option.bind_eq_some_iff, digit?_eq_some_iff hr, ih, hplaces]
    constructor
    · rintro ⟨d, ⟨hc, rfl⟩, hrest, hn⟩
      exact ⟨⟨hc, hrest⟩, hn⟩
    · rintro ⟨⟨hc, hrest⟩, hn⟩
      exact ⟨_, ⟨hc, rfl⟩, hrest, hn⟩

theorem readDigits_eq_some_iff (hr : radix ≤ 10) : readDigits radix text = some n ↔
    (text ≠ [] ∧ ∀ c ∈ text, IsDigitIn radix c) ∧ placeValue radix text = n := by
  cases text with
  | nil => simp [readDigits]
  | cons c rest =>
    rw [readDigits, readDigitsFrom_eq_some_iff hr, Nat.zero_mul, Nat.zero_add]
    · simp
    · exact nofun

theorem readUnsigned_eq_some_iff (hr : radix ≤ 10) : readUnsigned radix bits text = some n ↔
    ((withoutPlus text ≠ [] ∧ ∀ c ∈ withoutPlus text, IsDigitIn radix c) ∧
      placeValue radix (withoutPlus text) = n) ∧ n < 2 ^ bits := by
  rw [readUnsigned, Option.filter_eq_some_iff, readDigits_eq_some_iff hr, decide_eq_true_eq]
  rfl

/-! ## Decimal digits -/

theorem placeValue_append (radix : Nat) (digits : Text) (c : Char) :
    placeValue radix (digits ++ [c]) = placeValue radix digits * radix + (c.toNat - '0'.toNat) := by
  unfold placeValue
  rw [List.reverse_append, List.reverse_singleton, List.singleton_append, List.map_cons,
    Nat.ofDigits_cons]
  ring

theorem toNat_digitChar {d : Nat} (h : d < 10) : d.digitChar.toNat = '0'.toNat + d := by
  interval_cases d <;> decide

theorem placeValue_decimal (n : Nat) : placeValue 10 (decimal n) = n := by
  unfold decimal
  induction n using Nat.strongRecOn with
  | ind n ih =>
    rw [Nat.toDigits_eq_if (by decide)]
    split
    · next hn =>
      rw [← List.nil_append [n.digitChar], placeValue_append, toNat_digitChar hn]
      simp [placeValue]
    · next hn =>
      have hlast : n % 10 < 10 := Nat.mod_lt n (by decide)
      rw [placeValue_append, ih (n / 10) (by omega), toNat_digitChar hlast]
      omega

theorem isDigit_of_mem_decimal (h : c ∈ decimal n) : c.isDigit :=
  Nat.isDigit_of_mem_toDigits (by decide) (by decide) h

theorem isDigitIn_of_mem_decimal (h : c ∈ decimal n) : IsDigitIn 10 c := by
  obtain ⟨hlow, hhigh⟩ := isDigit_iff_toNat.mp (isDigit_of_mem_decimal h)
  exact ⟨hlow, Nat.lt_succ_of_le hhigh⟩

/-- What is written in decimal digits is read as the number that has been written. -/
theorem readDigits_decimal (n : Nat) : readDigits 10 (decimal n) = some n := by
  rw [readDigits_eq_some_iff (by decide)]
  exact ⟨⟨Nat.toDigits_ne_nil, fun c => isDigitIn_of_mem_decimal⟩, placeValue_decimal n⟩

end WorkDepot.Text
