import Mathlib
import WorkDepot.Text.Utf8

/-! # Reading what has been encoded

The first byte of a character says how many bytes follow and between which bounds the next one is.
The bounds leave out what no character is encoded as, so the bytes of a character meet them, and
bytes that meet them are those of a character. Reading the encoding of a text gives the text, and
nothing in it is malformed; bytes in which nothing is malformed are the encoding of what is read.
-/
namespace WorkDepot.Text
variable {byte : UInt8} {pending : Pending} {rest : Bytes}

theorem toNat_ofNat_of_lt {n : Nat} (h : n < 0x100) : (UInt8.ofNat n).toNat = n := by
  rw [UInt8.toNat_ofNat']
  exact Nat.mod_eq_of_lt h

theorem scan_of_opens (h : Lead.ofByte byte = .opens pending) :
    scan none (byte :: rest) = scan (some pending) rest := by
  rw [scan, scan.fresh, h]

section
variable {low high value k : Nat} (hlow : low ≤ 0x80 + k % 0x40) (hhigh : 0x80 + k % 0x40 ≤ high)
include hlow hhigh

/-- The last byte that is owed completes the character. -/
theorem scan_last : scan (some ⟨1, low, high, value⟩) (UInt8.ofNat (0x80 + k % 0x40) :: rest) =
    some (Char.ofNat (value * 0x40 + k % 0x40)) :: scan none rest := by
  have hb : (UInt8.ofNat (0x80 + k % 0x40)).toNat = 0x80 + k % 0x40 :=
    toNat_ofNat_of_lt (by omega)
  simp only [scan, hb, Nat.add_sub_cancel_left]
  rw [if_pos ⟨hlow, hhigh⟩, if_pos le_rfl]

/-- Any other byte that is owed leaves one byte less to come. -/
theorem scan_more (owed : Nat) :
    scan (some ⟨owed + 2, low, high, value⟩) (UInt8.ofNat (0x80 + k % 0x40) :: rest) =
      scan (some ⟨owed + 1, 0x80, 0xBF, value * 0x40 + k % 0x40⟩) rest := by
  have hb : (UInt8.ofNat (0x80 + k % 0x40)).toNat = 0x80 + k % 0x40 :=
    toNat_ofNat_of_lt (by omega)
  simp only [scan, hb, Nat.add_sub_cancel_left]
  rw [if_pos ⟨hlow, hhigh⟩, if_neg (by omega)]
  rfl

end

/-! ## The first byte of a character -/

section
variable {n : Nat}

theorem opens_two (h : 0x80 ≤ n) (h' : n < 0x800) :
    Lead.ofByte (UInt8.ofNat (0xC0 + n / 0x40)) = .opens ⟨1, 0x80, 0xBF, n / 0x40⟩ := by
  have hb : (UInt8.ofNat (0xC0 + n / 0x40)).toNat = 0xC0 + n / 0x40 :=
    toNat_ofNat_of_lt (by omega)
  simp only [Lead.ofByte, hb]
  rw [if_neg (by omega), if_neg (by omega), if_pos (by omega), Nat.add_sub_cancel_left]

/-- The narrow bounds after the first bytes `E0` and `ED` leave out encodings that are too long and
surrogates. -/
theorem opens_three (h : 0x800 ≤ n) (h' : n < 0x10000) (hs : n < 0xD800 ∨ 0xDFFF < n) :
    ∃ low high, Lead.ofByte (UInt8.ofNat (0xE0 + n / 0x1000)) = .opens ⟨2, low, high, n / 0x1000⟩ ∧
      low ≤ 0x80 + n / 0x40 % 0x40 ∧ 0x80 + n / 0x40 % 0x40 ≤ high := by
  have hb : (UInt8.ofNat (0xE0 + n / 0x1000)).toNat = 0xE0 + n / 0x1000 :=
    toNat_ofNat_of_lt (by omega)
  simp only [Lead.ofByte, hb]
  rw [if_neg (by omega), if_neg (by omega), if_neg (by omega)]
  by_cases hfirst : n / 0x1000 = 0
  · rw [if_pos (by omega), hfirst]
    exact ⟨_, _, rfl, by omega, by omega⟩
  · rw [if_neg (by omega)]
    by_cases hsurrogate : n / 0x1000 = 0xD
    · rw [if_pos (by omega), hsurrogate]
      exact ⟨_, _, rfl, by omega, by omega⟩
    · rw [if_neg (by omega), if_pos (by omega), Nat.add_sub_cancel_left]
      exact ⟨_, _, rfl, by omega, by omega⟩

/-- The narrow bounds after the first bytes `F0` and `F4` leave out encodings that are too long and
numbers beyond the last character. -/
theorem opens_four (h : 0x10000 ≤ n) (h' : n < 0x110000) :
    ∃ low high, Lead.ofByte (UInt8.ofNat (0xF0 + n / 0x40000)) =
        .opens ⟨3, low, high, n / 0x40000⟩ ∧
      low ≤ 0x80 + n / 0x1000 % 0x40 ∧ 0x80 + n / 0x1000 % 0x40 ≤ high := by
  have hb : (UInt8.ofNat (0xF0 + n / 0x40000)).toNat = 0xF0 + n / 0x40000 :=
    toNat_ofNat_of_lt (by omega)
  simp only [Lead.ofByte, hb]
  rw [if_neg (by omega), if_neg (by omega), if_neg (by omega), if_neg (by omega),
    if_neg (by omega), if_neg (by omega)]
  by_cases hfirst : n / 0x40000 = 0
  · rw [if_pos (by omega), hfirst]
    exact ⟨_, _, rfl, by omega, by omega⟩
  · rw [if_neg (by omega)]
    by_cases hlast : n / 0x40000 = 4
    · rw [if_neg (by omega), if_pos (by omega), hlast]
      exact ⟨_, _, rfl, by omega, by omega⟩
    · rw [if_pos (by omega), Nat.add_sub_cancel_left]
      exact ⟨_, _, rfl, by omega, by omega⟩

end

/-! ## Whole characters -/

theorem toNat_range (c : Char) : c.toNat < 0xD800 ∨ 0xDFFF < c.toNat ∧ c.toNat < 0x110000 := c.valid

theorem scan_encodeChar (c : Char) (rest : Bytes) :
    scan none (encodeChar c ++ rest) = some c :: scan none rest := by
  have hrange := toNat_range c
  have hc : Char.ofNat c.toNat = c := Char.ofNat_toNat c
  rw [encodeChar]
  split
  · next h =>
    have hb : (UInt8.ofNat c.toNat).toNat = c.toNat := toNat_ofNat_of_lt (by omega)
    have hwhole : Lead.ofByte (UInt8.ofNat c.toNat) = .whole c := by simp [Lead.ofByte, hb, h, hc]
    rw [List.singleton_append, scan, scan.fresh, hwhole]
  · next h =>
    split
    · next h' =>
      have hvalue : c.toNat / 0x40 * 0x40 + c.toNat % 0x40 = c.toNat := by omega
      simp only [List.cons_append, List.nil_append]
      rw [scan_of_opens (opens_two (by omega) h'), scan_last (by omega) (by omega), hvalue, hc]
    · next h' =>
      split
      · next h'' =>
        obtain ⟨low, high, hopens, hlow, hhigh⟩ :=
          opens_three (n := c.toNat) (by omega) h'' (by omega)
        have hvalue : (c.toNat / 0x1000 * 0x40 + c.toNat / 0x40 % 0x40) * 0x40 + c.toNat % 0x40 =
            c.toNat := by omega
        simp only [List.cons_append, List.nil_append]
        rw [scan_of_opens hopens, scan_more hlow hhigh, scan_last (by omega) (by omega), hvalue, hc]
      · next h'' =>
        obtain ⟨low, high, hopens, hlow, hhigh⟩ := opens_four (n := c.toNat) (by omega) (by omega)
        have hvalue : ((c.toNat / 0x40000 * 0x40 + c.toNat / 0x1000 % 0x40) * 0x40 +
            c.toNat / 0x40 % 0x40) * 0x40 + c.toNat % 0x40 = c.toNat := by omega
        simp only [List.cons_append, List.nil_append]
        rw [scan_of_opens hopens, scan_more hlow hhigh, scan_more (by omega) (by omega),
          scan_last (by omega) (by omega), hvalue, hc]

theorem encode_cons (c : Char) (text : Text) : encode (c :: text) = encodeChar c ++ encode text :=
  List.flatMap_cons

theorem scan_encode (text : Text) : scan none (encode text) = text.map some := by
  induction text with
  | nil => rfl
  | cons c text ih =>
    rw [encode_cons, scan_encodeChar, ih, List.map_cons]

/-- What is valid is decoded as it is. -/
theorem decodeLossy_encode (text : Text) : decodeLossy (encode text) = text := by
  rw [decodeLossy, scan_encode, List.map_map]
  exact List.map_id text

/-! ## Strict reading -/

/-- A number that is no surrogate and not too large is that of a character. -/
theorem toNat_ofNat {n : Nat} (h : n < 0xD800 ∨ 0xDFFF < n ∧ n < 0x110000) :
    (Char.ofNat n).toNat = n := by
  rw [Char.ofNat, dif_pos h]
  rfl

theorem scan_pending_ne_nil (pending : Pending) (bytes : Bytes) :
    scan (some pending) bytes ≠ [] := by
  induction bytes generalizing pending with
  | nil => simp [scan]
  | cons byte rest ih =>
    rw [scan]
    split
    · split
      · simp
      · exact ih _
    · simp

theorem scan_ne_nil (byte : UInt8) (rest : Bytes) : scan none (byte :: rest) ≠ [] := by
  rw [scan, scan.fresh]
  split
  · simp
  · exact scan_pending_ne_nil _ rest
  · simp

section
variable {c : Char} {bytes : Bytes} {entries : List (Option Char)} {low high value owed : Nat}

/-- Where a character comes from its last byte, this byte is within the bounds. -/
theorem last_of_scan (h : scan (some ⟨1, low, high, value⟩) bytes = some c :: entries) :
    ∃ byte rest, bytes = byte :: rest ∧ low ≤ byte.toNat ∧ byte.toNat ≤ high ∧
      c = Char.ofNat (value * 0x40 + (byte.toNat - 0x80)) ∧ scan none rest = entries := by
  cases bytes with
  | nil => simp [scan] at h
  | cons byte rest =>
    rw [scan] at h
    split at h
    · next hbounds =>
      rw [if_pos le_rfl] at h
      simp only [List.cons.injEq, Option.some.injEq] at h
      exact ⟨byte, rest, rfl, hbounds.1, hbounds.2, h.1.symm, h.2⟩
    · simp at h

theorem more_of_scan (h : scan (some ⟨owed + 2, low, high, value⟩) bytes = some c :: entries) :
    ∃ byte rest, bytes = byte :: rest ∧ low ≤ byte.toNat ∧ byte.toNat ≤ high ∧
      scan (some ⟨owed + 1, 0x80, 0xBF, value * 0x40 + (byte.toNat - 0x80)⟩) rest =
        some c :: entries := by
  cases bytes with
  | nil => simp [scan] at h
  | cons byte rest =>
    rw [scan] at h
    split at h
    · next hbounds =>
      rw [if_neg (by simp)] at h
      exact ⟨byte, rest, rfl, hbounds.1, hbounds.2, h⟩
    · simp at h

end

/-- What the first byte of several says: how many follow and between which bounds the next one
is. -/
theorem opens_cases (h : Lead.ofByte byte = .opens pending) :
    (0xC2 ≤ byte.toNat ∧ byte.toNat < 0xE0 ∧ pending = ⟨1, 0x80, 0xBF, byte.toNat - 0xC0⟩) ∨
      (∃ low high, 0xE0 ≤ byte.toNat ∧ byte.toNat < 0xF0 ∧
        pending = ⟨2, low, high, byte.toNat - 0xE0⟩ ∧ 0x80 ≤ low ∧ high ≤ 0xBF ∧
        (byte.toNat = 0xE0 → 0xA0 ≤ low) ∧ (byte.toNat = 0xED → high ≤ 0x9F)) ∨
      ∃ low high, 0xF0 ≤ byte.toNat ∧ byte.toNat < 0xF5 ∧
        pending = ⟨3, low, high, byte.toNat - 0xF0⟩ ∧ 0x80 ≤ low ∧ high ≤ 0xBF ∧
        (byte.toNat = 0xF0 → 0x90 ≤ low) ∧ (byte.toNat = 0xF4 → high ≤ 0x8F) := by
  unfold Lead.ofByte at h
  dsimp only at h
  generalize byte.toNat = b at h ⊢
  split at h
  · cases h
  split at h
  · cases h
  split at h
  · cases h
    left
    exact ⟨by omega, by omega, rfl⟩
  right
  split at h
  · next hb =>
    cases h
    left
    exact ⟨_, _, by omega, by omega, by rw [hb], by omega, by omega, by omega, by omega⟩
  split at h
  · next hb =>
    cases h
    left
    exact ⟨_, _, by omega, by omega, by rw [hb], by omega, by omega, by omega, by omega⟩
  split at h
  · cases h
    left
    exact ⟨_, _, by omega, by omega, rfl, by omega, by omega, by omega, by omega⟩
  right
  split at h
  · next hb =>
    cases h
    exact ⟨_, _, by omega, by omega, by rw [hb], by omega, by omega, by omega, by omega⟩
  split at h
  · cases h
    exact ⟨_, _, by omega, by omega, rfl, by omega, by omega, by omega, by omega⟩
  split at h
  · next hb =>
    cases h
    exact ⟨_, _, by omega, by omega, by rw [hb], by omega, by omega, by omega, by omega⟩
  · cases h

section
variable {n : Nat} {first second third fourth : UInt8}

theorem ofNat_eq_of_toNat (h : n = first.toNat) : UInt8.ofNat n = first := by
  rw [h, UInt8.ofNat_toNat]

theorem encodeChar_two (h : 0x80 ≤ n) (h' : n < 0x800) (hfirst : 0xC0 + n / 0x40 = first.toNat)
    (hsecond : 0x80 + n % 0x40 = second.toNat) : encodeChar (Char.ofNat n) = [first, second] := by
  unfold encodeChar
  rw [toNat_ofNat (by omega)]
  dsimp only
  rw [if_neg (by omega), if_pos h', ofNat_eq_of_toNat hfirst, ofNat_eq_of_toNat hsecond]

theorem encodeChar_three (h : 0x800 ≤ n) (h' : n < 0x10000) (hs : n < 0xD800 ∨ 0xDFFF < n)
    (hfirst : 0xE0 + n / 0x1000 = first.toNat)
    (hsecond : 0x80 + n / 0x40 % 0x40 = second.toNat) (hthird : 0x80 + n % 0x40 = third.toNat) :
    encodeChar (Char.ofNat n) = [first, second, third] := by
  unfold encodeChar
  rw [toNat_ofNat (by omega)]
  dsimp only
  rw [if_neg (by omega), if_neg (by omega), if_pos h', ofNat_eq_of_toNat hfirst,
    ofNat_eq_of_toNat hsecond, ofNat_eq_of_toNat hthird]

theorem encodeChar_four (h : 0x10000 ≤ n) (h' : n < 0x110000)
    (hfirst : 0xF0 + n / 0x40000 = first.toNat) (hsecond : 0x80 + n / 0x1000 % 0x40 = second.toNat)
    (hthird : 0x80 + n / 0x40 % 0x40 = third.toNat) (hfourth : 0x80 + n % 0x40 = fourth.toNat) :
    encodeChar (Char.ofNat n) = [first, second, third, fourth] := by
  unfold encodeChar
  rw [toNat_ofNat (by omega)]
  dsimp only
  rw [if_neg (by omega), if_neg (by omega), if_neg (by omega), ofNat_eq_of_toNat hfirst,
    ofNat_eq_of_toNat hsecond, ofNat_eq_of_toNat hthird, ofNat_eq_of_toNat hfourth]

end

theorem encodeChar_of_whole {c : Char} (h : Lead.ofByte byte = .whole c) :
    encodeChar c = [byte] := by
  unfold Lead.ofByte at h
  dsimp only at h
  split at h
  · next hb =>
    cases h
    unfold encodeChar
    rw [toNat_ofNat (by omega)]
    dsimp only
    rw [if_pos hb, UInt8.ofNat_toNat]
  · repeat (split at h; · cases h)
    cases h

section
variable {c : Char} {bytes : Bytes} {entries : List (Option Char)}

theorem encodeChar_of_opens (h : Lead.ofByte byte = .opens pending)
    (hscan : scan (some pending) bytes = some c :: entries) :
    ∃ rest, byte :: bytes = encodeChar c ++ rest ∧ scan none rest = entries := by
  rcases opens_cases h with ⟨hl, hh, rfl⟩ | ⟨low, high, hl, hh, rfl, hlow, hhigh, hlong, hlarge⟩ |
    ⟨low, high, hl, hh, rfl, hlow, hhigh, hlong, hlarge⟩
  · obtain ⟨second, rest, rfl, hl2, hh2, hc, hrest⟩ := last_of_scan hscan
    have hencode : encodeChar c = [byte, second] := by
      rw [hc]
      apply encodeChar_two <;> omega
    rw [hencode]
    exact ⟨rest, rfl, hrest⟩
  · obtain ⟨second, more, rfl, hl2, hh2, hmore⟩ := more_of_scan hscan
    obtain ⟨third, rest, rfl, hl3, hh3, hc, hrest⟩ := last_of_scan hmore
    have hencode : encodeChar c = [byte, second, third] := by
      rw [hc]
      apply encodeChar_three <;> omega
    rw [hencode]
    exact ⟨rest, rfl, hrest⟩
  · obtain ⟨second, more, rfl, hl2, hh2, hmore⟩ := more_of_scan hscan
    obtain ⟨third, last, rfl, hl3, hh3, hlast⟩ := more_of_scan hmore
    obtain ⟨fourth, rest, rfl, hl4, hh4, hc, hrest⟩ := last_of_scan hlast
    have hencode : encodeChar c = [byte, second, third, fourth] := by
      rw [hc]
      apply encodeChar_four <;> omega
    rw [hencode]
    exact ⟨rest, rfl, hrest⟩

/-- A character that is read stands encoded at the beginning of the bytes. -/
theorem encodeChar_of_scan (h : scan none bytes = some c :: entries) :
    ∃ rest, bytes = encodeChar c ++ rest ∧ scan none rest = entries := by
  cases bytes with
  | nil => simp [scan] at h
  | cons byte bytes =>
    rw [scan, scan.fresh] at h
    split at h
    · next d hwhole =>
      simp only [List.cons.injEq, Option.some.injEq] at h
      obtain ⟨rfl, hrest⟩ := h
      rw [encodeChar_of_whole hwhole]
      exact ⟨bytes, rfl, hrest⟩
    · next pending hopens => exact encodeChar_of_opens hopens h
    · simp at h

end

theorem encode_of_scan {text : Text} {bytes : Bytes} (h : scan none bytes = text.map some) :
    bytes = encode text := by
  induction text generalizing bytes with
  | nil =>
    cases bytes with
    | nil => rfl
    | cons byte rest => exact absurd h (scan_ne_nil byte rest)
  | cons c text ih =>
    obtain ⟨rest, rfl, hrest⟩ := encodeChar_of_scan h
    rw [encode_cons, ih hrest]

theorem mapM_id_eq_some_iff {α : Type} {entries : List (Option α)} {values : List α} :
    entries.mapM id = some values ↔ entries = values.map some := by
  induction entries generalizing values with
  | nil =>
    rw [List.mapM_nil]
    cases values with
    | nil => exact iff_of_true rfl rfl
    | cons first values => exact iff_of_false nofun nofun
  | cons entry entries ih =>
    rw [List.mapM_cons]
    cases entry with
    | none => cases values <;> exact iff_of_false nofun nofun
    | some value =>
      have hbind : (id (some value) >>= fun first => entries.mapM id >>= fun rest =>
          pure (first :: rest)) = (entries.mapM id).map (value :: ·) := by
        cases entries.mapM id <;> rfl
      rw [hbind, Option.map_eq_some_iff]
      constructor
      · rintro ⟨rest, hrest, rfl⟩
        rw [ih.mp hrest, List.map_cons]
      · intro h
        cases values with
        | nil => cases h
        | cons first values =>
          simp only [List.map_cons, List.cons.injEq, Option.some.injEq] at h
          obtain ⟨rfl, hrest⟩ := h
          exact ⟨values, ih.mpr hrest, rfl⟩

/-- Bytes are read strictly exactly if they are the encoding of a text, and then as this text. -/
theorem decode?_eq_some_iff {bytes : Bytes} {text : Text} :
    decode? bytes = some text ↔ bytes = encode text := by
  unfold decode?
  rw [mapM_id_eq_some_iff]
  constructor
  · exact encode_of_scan
  · rintro rfl
    exact scan_encode text

theorem decode?_eq_none_iff {bytes : Bytes} :
    decode? bytes = none ↔ ∀ text, bytes ≠ encode text := by
  rw [Option.eq_none_iff_forall_ne_some]
  exact forall_congr' fun _ => decode?_eq_some_iff.not

end WorkDepot.Text
