import WorkDepot.Proofs.Text.Utf8

/-! # The order of text

Texts are compared character by character, and characters by their code points. The bytes of two
different characters differ, and the greater one has the greater byte where they do so first. So
texts are in the order of their bytes.
-/
namespace WorkDepot.Text

/-- A greater character has greater bytes, whatever comes behind them. -/
theorem encodeChar_append_lt {c d : Char} (h : c < d) (rest rest' : Bytes) :
    encodeChar c ++ rest < encodeChar d ++ rest' := by
  have hlt : c.toNat < d.toNat := h
  have hc := toNat_range c
  have hd := toNat_range d
  unfold encodeChar
  generalize c.toNat = n at *
  generalize d.toNat = m at *
  dsimp only
  -- one case for each pair of lengths; a first byte tells how many are to follow
  split_ifs <;>
    simp (disch := omega) only [List.cons_append, List.nil_append, List.cons_lt_cons_iff,
      UInt8.lt_iff_toNat_lt, ← UInt8.toNat_inj, toNat_ofNat_of_lt] <;>
    omega

theorem encodeChar_ne_nil (c : Char) : encodeChar c ≠ [] := by
  unfold encodeChar
  dsimp only
  split_ifs <;> exact List.cons_ne_nil _ _

/-- What is less as text is less in bytes. -/
theorem encode_lt_encode {first second : Text} (h : compare first second = .lt) :
    encode first < encode second := by
  induction first generalizing second with
  | nil =>
    cases second with
    | nil => cases h
    | cons d rest' =>
      have hne : encode (d :: rest') ≠ [] := by
        rw [encode_cons]
        exact List.append_ne_nil_of_left_ne_nil (encodeChar_ne_nil d) _
      obtain ⟨byte, bytes, hbytes⟩ := List.exists_cons_of_ne_nil hne
      rw [hbytes]
      exact List.nil_lt_cons byte bytes
  | cons c rest ih =>
    cases second with
    | nil => cases h
    | cons d rest' =>
      rw [List.compare_eq_compareLex, List.compareLex_cons_cons, Ordering.then_eq_lt] at h
      rw [encode_cons, encode_cons]
      rcases h with hlt | ⟨heq, hrest⟩
      · exact encodeChar_append_lt (compare_lt_iff_lt.mp hlt) _ _
      · obtain rfl := Std.compare_eq_iff_eq.mp heq
        exact List.append_left_lt (ih hrest)

end WorkDepot.Text
