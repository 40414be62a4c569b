import Mathlib
import WorkDepot.Text.Number
import WorkDepot.Text.Utf8

/-! # Hexadecimal text

The hexadecimal spelling of a number has digits and small letters only, at least one of them, and no
more than eight when the number has 32 bits. Such characters take one byte each and are not blank.
Whoever spells a number by hand may use capitals as well.
-/
namespace WorkDepot

namespace Bytes

theorem toNatBigEndian_append (bytes : Bytes) (byte : UInt8) :
    toNatBigEndian (bytes ++ [byte]) = toNatBigEndian bytes * 256 + byte.toNat := by
  simp [toNatBigEndian]

theorem toNatBigEndian_lt (bytes : Bytes) : toNatBigEndian bytes < 256 ^ bytes.length := by
  induction bytes using List.reverseRecOn with
  | nil => decide
  | append_singleton bytes byte ih =>
    have hbyte := byte.toNat_lt
    rw [toNatBigEndian_append, List.length_append, List.length_singleton, Nat.pow_succ]
    omega

end Bytes

namespace Text

def hexDigits : List Char :=
  ['0', '1', '2', '3', '4', '5', '6', '7', '8', '9', 'a', 'b', 'c', 'd', 'e', 'f']

/-- Only digits and the small letters from `a` to `f`. -/
def IsLowerHex (text : Text) : Prop := ∀ c ∈ text, c ∈ hexDigits

instance : DecidablePred IsLowerHex := fun text =>
  inferInstanceAs (Decidable (∀ c ∈ text, c ∈ hexDigits))

theorem IsLowerHex.notMem {text : Text} (h : IsLowerHex text) {c : Char}
    (hc : c ∉ hexDigits) : c ∉ text := fun hm => hc (h c hm)

theorem IsLowerHex.range {text : Text} (h : IsLowerHex text) {c : Char} (hc : c ∈ text) :
    0x30 ≤ c.toNat ∧ c.toNat ≤ 0x66 := by
  have hall : ∀ c ∈ hexDigits, 0x30 ≤ c.toNat ∧ c.toNat ≤ 0x66 := by simp [hexDigits]
  exact hall c (h c hc)

theorem digitChar_mem {value : Nat} (h : value < 16) :
    value.digitChar ∈ hexDigits := by
  interval_cases value <;> decide

theorem hexadecimal_isLowerHex (n : Nat) : IsLowerHex (hexadecimal n) := by
  induction n using Nat.strongRecOn with
  | ind n ih =>
    intro c hc
    rw [hexadecimal, Nat.toDigits_eq_if (by decide)] at hc
    split at hc
    · next hn =>
      rw [List.mem_singleton] at hc
      rw [hc]
      exact digitChar_mem hn
    · next hn =>
      rcases List.mem_append.mp hc with hc | hc
      · exact ih (n / 16) (by omega) c hc
      · rw [List.mem_singleton] at hc
        rw [hc]
        exact digitChar_mem (Nat.mod_lt n (by decide))

theorem hexadecimal_ne_nil (n : Nat) : hexadecimal n ≠ [] := Nat.toDigits_ne_nil

theorem length_hexadecimal_le {n : Nat} (h : n < 256 ^ 4) : (hexadecimal n).length ≤ 8 :=
  (Nat.length_toDigits_le_iff (by decide) (by decide)).mpr (by norm_num at h ⊢; exact h)

theorem byteLength_append (first second : Text) :
    byteLength (first ++ second) = byteLength first + byteLength second := by
  simp [byteLength, encode]

theorem byteLength_cons (c : Char) (text : Text) :
    byteLength (c :: text) = (encodeChar c).length + byteLength text := by
  simp [byteLength, encode]

theorem byteLength_replicate (count : Nat) (c : Char) :
    byteLength (List.replicate count c) = count * (encodeChar c).length := by
  induction count with
  | zero => rw [Nat.zero_mul]; rfl
  | succ count ih => rw [List.replicate_succ, byteLength_cons, ih, Nat.succ_mul, Nat.add_comm]

theorem IsLowerHex.byteLength {text : Text} (h : IsLowerHex text) :
    byteLength text = text.length := by
  induction text with
  | nil => rfl
  | cons c text ih =>
    have hc : (encodeChar c).length = 1 := by
      have hrange := h.range List.mem_cons_self
      rw [encodeChar, if_pos (by omega)]
      rfl
    have hrest := ih fun d hd => h d (List.mem_cons_of_mem c hd)
    rw [byteLength_cons, hc, hrest, List.length_cons]
    omega

theorem IsLowerHex.not_blank {text : Text} (h : IsLowerHex text) {c : Char} (hc : c ∈ text) :
    isBlankChar c = false := by
  have hrange := h.range hc
  simp [isBlankChar, inRanges, blankRanges]
  omega

/-- Only hexadecimal digits, with letters of either case. -/
def IsHex (text : Text) : Prop := ∀ c ∈ text, (digit? 16 c).isSome

instance : DecidablePred IsHex := fun text => List.decidableBAll _ text

theorem IsHex.notMem {text : Text} (h : IsHex text) {c : Char} (hc : digit? 16 c = none) :
    c ∉ text := by
  intro hm
  have hdigit := h c hm
  rw [hc] at hdigit
  cases hdigit

end Text
end WorkDepot
