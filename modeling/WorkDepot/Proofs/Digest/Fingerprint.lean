import WorkDepot.Digest.Algorithm
import WorkDepot.Proofs.Text.Hexadecimal

/-! # Fingerprints in hexadecimal

A digest is spelled with two digits for each of its bytes, so that its fingerprint is never empty
and as long as the algorithm says. The digits are read back in pairs, and each text that can be read
is the one spelling of its bytes: fingerprints are equal only where digests are. Whoever spells the
fingerprint with capitals still spells it with hexadecimal digits.
-/
namespace WorkDepot

namespace Bytes

theorem hexDigit_mem {value : Nat} (h : value < 16) : hexDigit value ∈ Text.hexDigits := by
  interval_cases value <;> decide

theorem byteToHex_isLowerHex (byte : UInt8) : Text.IsLowerHex (byteToHex byte) := by
  have hbyte := byte.toNat_lt
  intro c hc
  simp only [byteToHex, List.mem_cons, List.not_mem_nil, or_false] at hc
  rcases hc with rfl | rfl
  · exact hexDigit_mem (by omega)
  · exact hexDigit_mem (by omega)

theorem toHex_isLowerHex (bytes : Bytes) : Text.IsLowerHex (toHex bytes) := by
  intro c hc
  obtain ⟨byte, -, hbyte⟩ := List.mem_flatMap.mp hc
  exact byteToHex_isLowerHex byte c hbyte

theorem toHex_cons (byte : UInt8) (bytes : Bytes) : toHex (byte :: bytes) =
    hexDigit (byte.toNat / 16) :: hexDigit (byte.toNat % 16) :: toHex bytes := rfl

theorem length_toHex (bytes : Bytes) : (toHex bytes).length = 2 * bytes.length := by
  induction bytes with
  | nil => rfl
  | cons byte bytes ih =>
    rw [toHex_cons, List.length_cons, List.length_cons, ih, List.length_cons]
    omega

/-! ## Reading the digits back -/

/-- The value of a hexadecimal digit in small letters. -/
def hexValue? (c : Char) : Option Nat := Text.hexDigits.idxOf? c

/-- The bytes that a text spells with two digits each, high digit first, in small letters only. -/
def ofHex? : Text → Option Bytes
  | [] => some []
  | [_] => none
  | high :: low :: rest => do
    let high ← hexValue? high
    let low ← hexValue? low
    let bytes ← ofHex? rest
    return UInt8.ofNat (high * 16 + low) :: bytes

theorem hexValue?_hexDigit {value : Nat} (h : value < 16) :
    hexValue? (hexDigit value) = some value := by
  interval_cases value <;> decide

/-- A character with a value is the digit that is written for it. -/
theorem hexDigit_of_hexValue? {c : Char} {value : Nat} (h : hexValue? c = some value) :
    value < 16 ∧ hexDigit value = c := by
  obtain ⟨hplace, hc, -⟩ := List.idxOf?_eq_some_iff.mp h
  have hvalue : value < 16 := hplace
  refine ⟨hvalue, ?_⟩
  rw [← hc]
  interval_cases value <;> rfl

theorem ofHex?_toHex (bytes : Bytes) : ofHex? (toHex bytes) = some bytes := by
  induction bytes with
  | nil => rfl
  | cons byte bytes ih =>
    have hbyte := byte.toNat_lt
    have hhigh := hexValue?_hexDigit (show byte.toNat / 16 < 16 by omega)
    have hlow := hexValue?_hexDigit (show byte.toNat % 16 < 16 by omega)
    have hwhole : UInt8.ofNat (byte.toNat / 16 * 16 + byte.toNat % 16) = byte := by
      have hvalue : byte.toNat / 16 * 16 + byte.toNat % 16 = byte.toNat := by omega
      rw [hvalue, UInt8.ofNat_toNat]
    rw [toHex_cons, ofHex?, hhigh, hlow, ih]
    simp only [Option.bind_eq_bind, Option.bind_some, Option.pure_def, hwhole]

theorem toHex_of_ofHex? {text : Text} {bytes : Bytes} (h : ofHex? text = some bytes) :
    toHex bytes = text := by
  induction text using ofHex?.induct generalizing bytes with
  | case1 =>
    cases h
    rfl
  | case2 c => cases h
  | case3 high low rest ih =>
    simp only [ofHex?, Option.bind_eq_bind, Option.bind_eq_some_iff, Option.pure_def,
      Option.some.injEq] at h
    obtain ⟨upper, hhigh, lower, hlow, more, hrest, rfl⟩ := h
    obtain ⟨hupper, rfl⟩ := hexDigit_of_hexValue? hhigh
    obtain ⟨hlower, rfl⟩ := hexDigit_of_hexValue? hlow
    -- two digits never make more than a byte, so nothing is cut off
    have hbyte : (UInt8.ofNat (upper * 16 + lower)).toNat = upper * 16 + lower :=
      UInt8.toNat_ofNat_of_lt' (by norm_num [UInt8.size]; omega)
    have hdiv : (upper * 16 + lower) / 16 = upper := by omega
    have hmod : (upper * 16 + lower) % 16 = lower := by omega
    rw [toHex_cons, hbyte, hdiv, hmod, ih hrest]

theorem ofHex?_eq_some_iff {text : Text} {bytes : Bytes} :
    ofHex? text = some bytes ↔ text = toHex bytes := by
  constructor
  · intro h
    exact (toHex_of_ofHex? h).symm
  · rintro rfl
    exact ofHex?_toHex bytes

theorem toHex_injective : Function.Injective toHex := by
  intro bytes other h
  have hbytes := ofHex?_toHex bytes
  rw [h, ofHex?_toHex] at hbytes
  exact (Option.some.inj hbytes).symm

end Bytes

namespace Digest.Algorithm

/-- The number of bytes in a digest. -/
def width : Algorithm → Nat
  | sha256 | blake3 => 32
  | sha512 => 64

theorem length_digest (algorithm : Algorithm) (content : Bytes) :
    (algorithm.digest content).length = algorithm.width := by
  cases algorithm <;> exact Vector.length_toList

theorem length_fingerprint (algorithm : Algorithm) (content : Bytes) :
    (algorithm.fingerprinter.fingerprint content).length = 2 * algorithm.width := by
  rw [fingerprinter, Bytes.length_toHex, length_digest]

/-- Bytes are spelled by two digits each, and a text can be read back exactly if it is the spelling
of some bytes. So fingerprints of an algorithm are all of one length, and they are the same where
the digests are the same. -/
theorem fingerprint_faithful :
    (∀ bytes : Bytes, (Bytes.toHex bytes).length = 2 * bytes.length ∧
        Text.IsLowerHex (Bytes.toHex bytes)) ∧
      (∀ text bytes, Bytes.ofHex? text = some bytes ↔ text = Bytes.toHex bytes) ∧
      Function.Injective Bytes.toHex ∧
      (∀ content, (sha256.fingerprinter.fingerprint content).length = 64 ∧
        (sha512.fingerprinter.fingerprint content).length = 128 ∧
        (blake3.fingerprinter.fingerprint content).length = 64) ∧
      ∀ (algorithm : Algorithm) (content : Bytes),
        Text.IsLowerHex (algorithm.fingerprinter.fingerprint content) ∧
          ∀ other, algorithm.fingerprinter.fingerprint content =
              algorithm.fingerprinter.fingerprint other ↔
            algorithm.digest content = algorithm.digest other := by
  refine ⟨?_, ?_, Bytes.toHex_injective, ?_, ?_⟩
  · intro bytes
    exact ⟨Bytes.length_toHex bytes, Bytes.toHex_isLowerHex bytes⟩
  · intro text bytes
    exact Bytes.ofHex?_eq_some_iff
  · intro content
    exact ⟨length_fingerprint sha256 content, length_fingerprint sha512 content,
      length_fingerprint blake3 content⟩
  · intro algorithm content
    refine ⟨Bytes.toHex_isLowerHex _, ?_⟩
    intro other
    exact Bytes.toHex_injective.eq_iff

end Digest.Algorithm

namespace Text

theorem toLower_eq_of_large {c : Char} (h : 0x80 ≤ c.toNat) : c.toLower = c := by
  rw [Char.toLower, dif_neg]
  rintro ⟨-, hz⟩
  have hz : c.toNat ≤ 0x5A := hz
  omega

/-- A character whose small letter is a hexadecimal digit is one itself. -/
theorem digit?_of_lower_mem {c : Char} (h : c.toLower ∈ hexDigits) : (digit? 16 c).isSome := by
  have hascii : ∀ n < 0x80, (Char.ofNat n).toLower ∈ hexDigits →
      (digit? 16 (Char.ofNat n)).isSome := by decide
  by_cases hsmall : c.toNat < 0x80
  · rw [← c.ofNat_toNat] at h ⊢
    exact hascii _ hsmall h
  · rw [toLower_eq_of_large (Nat.le_of_not_lt hsmall)] at h
    have hdigit : IsLowerHex [c] := by simpa [IsLowerHex] using h
    have hrange := hdigit.range (List.mem_singleton_self c)
    omega

end Text
end WorkDepot
