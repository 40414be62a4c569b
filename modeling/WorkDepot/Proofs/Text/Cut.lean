import Mathlib
import WorkDepot.Text.Basic

/-! # Cutting text

Trimming leaves nothing of a text exactly when the text is blank. A text is cut behind a marker at
the last place where the marker stands, wherever occurrences overlap.
-/
namespace WorkDepot.Text
variable {marker text rest : Text}

theorem trim_eq_nil_iff : trim text = [] ↔ isBlank text := by
  have hstart : (∀ c ∈ trimStart text, isBlankChar c) ↔ ∀ c ∈ text, isBlankChar c := by
    constructor
    · intro h c hc
      rw [← List.takeWhile_append_dropWhile (p := isBlankChar) (l := text)] at hc
      rcases List.mem_append.mp hc with hc | hc
      · exact List.mem_takeWhile_imp hc
      · exact h c hc
    · intro h c hc
      exact h c ((List.dropWhile_sublist isBlankChar).mem hc)
  rw [isBlank, List.all_eq_true, ← hstart, trim, trimEnd, List.reverse_eq_nil_iff,
    List.dropWhile_eq_nil_iff]
  simp

theorem strip?_eq_some_iff {beginning : Text} :
    strip? beginning text = some rest ↔ text = beginning ++ rest := by
  induction beginning generalizing text with
  | nil => simp [strip?]
  | cons b beginning ih =>
    cases text with
    | nil => simp [strip?]
    | cons c text =>
      by_cases hc : b = c
      · simp [strip?, hc, ih]
      · simp [strip?, hc, Ne.symm hc]

theorem strip?_eq_none_iff {beginning : Text} :
    strip? beginning text = none ↔ ¬ beginning <+: text := by
  constructor
  · rintro hnone ⟨rest, rfl⟩
    rw [strip?_eq_some_iff.mpr rfl] at hnone
    cases hnone
  · intro h
    rw [Option.eq_none_iff_forall_ne_some]
    exact fun rest hrest => h ⟨rest, (strip?_eq_some_iff.mp hrest).symm⟩

/-- The text without a beginning, which it may lack. -/
def Bared (beginning text rest : Text) : Prop :=
  text = beginning ++ rest ∨ (¬ beginning <+: text ∧ rest = text)

theorem bared_strip? (beginning text : Text) :
    Bared beginning text ((strip? beginning text).getD text) := by
  cases h : strip? beginning text with
  | none => exact .inr ⟨strip?_eq_none_iff.mp h, rfl⟩
  | some rest => exact .inl (strip?_eq_some_iff.mp h)

theorem Bared.unique {beginning other : Text} (h : Bared beginning text rest)
    (h' : Bared beginning text other) : rest = other := by
  rcases h with hfront | ⟨hnot, rfl⟩ <;> rcases h' with hfront' | ⟨hnot', rfl⟩
  · exact List.append_cancel_left (hfront.symm.trans hfront')
  · exact absurd ⟨rest, hfront.symm⟩ hnot'
  · exact absurd ⟨other, hfront'.symm⟩ hnot
  · rfl

/-- The marker stands in the text between `front` and `rest`, and nowhere further behind. -/
structure CutsLast (marker text front rest : Text) : Prop where
  eq : text = front ++ marker ++ rest
  last : ∀ front' rest', text = front' ++ marker ++ rest' → front'.length ≤ front.length

theorem CutsLast.unique {front front' rest' : Text} (h : CutsLast marker text front rest)
    (h' : CutsLast marker text front' rest') : front = front' ∧ rest = rest' := by
  have hlength := Nat.le_antisymm (h'.last _ _ h.eq) (h.last _ _ h'.eq)
  have heq := h.eq.symm.trans h'.eq
  rw [List.append_assoc, List.append_assoc] at heq
  obtain ⟨hfront, hrest⟩ := List.append_inj heq hlength
  exact ⟨hfront, List.append_cancel_left hrest⟩

theorem afterLast?_eq_none_iff : afterLast? marker text = none ↔ ¬ marker <:+: text := by
  induction text with
  | nil => rw [afterLast?, strip?_eq_none_iff, List.infix_nil, List.prefix_nil]
  | cons c text ih =>
    rw [afterLast?, Option.or_eq_none_iff, ih, strip?_eq_none_iff, List.infix_cons_iff, not_or,
      and_comm]

theorem cutsLast_of_afterLast? (h : afterLast? marker text = some rest) :
    ∃ front, CutsLast marker text front rest := by
  induction text with
  | nil =>
    refine ⟨[], strip?_eq_some_iff.mp h, fun front' rest' heq => ?_⟩
    have hlength := congrArg List.length heq
    simp only [List.length_append, List.length_nil] at hlength ⊢
    omega
  | cons c text ih =>
    rw [afterLast?, Option.or_eq_some_iff] at h
    rcases h with hlater | ⟨hnone, hstrip⟩
    · obtain ⟨front, heq, hlast⟩ := ih hlater
      refine ⟨c :: front, congrArg (c :: ·) heq, fun front' rest' heq' => ?_⟩
      cases front' with
      | nil => exact Nat.zero_le _
      | cons d front' => exact Nat.succ_le_succ (hlast front' rest' (List.cons.inj heq').2)
    · refine ⟨[], strip?_eq_some_iff.mp hstrip, fun front' rest' heq => ?_⟩
      cases front' with
      | nil => exact le_rfl
      | cons d front' =>
        -- the marker would stand in what is behind the first character
        exact absurd ⟨front', rest', (List.cons.inj heq).2.symm⟩ (afterLast?_eq_none_iff.mp hnone)

theorem afterLast?_eq_some_iff :
    afterLast? marker text = some rest ↔ ∃ front, CutsLast marker text front rest := by
  refine ⟨cutsLast_of_afterLast?, ?_⟩
  rintro ⟨front, hcuts⟩
  cases h : afterLast? marker text with
  | none => exact absurd ⟨front, rest, hcuts.eq.symm⟩ (afterLast?_eq_none_iff.mp h)
  | some found =>
    obtain ⟨front', hcuts'⟩ := cutsLast_of_afterLast? h
    rw [(hcuts.unique hcuts').2]

/-- A text ends in its last marker and more if the marker does not occur again in what is behind the
first character of these. -/
theorem CutsLast.of_free (front : Text) (h : ¬ marker <:+: (marker ++ rest).tail) :
    CutsLast marker (front ++ marker ++ rest) front rest := by
  refine ⟨rfl, ?_⟩
  intro front' rest' heq
  by_contra hlength
  rw [List.append_assoc, List.append_assoc, List.append_eq_append_iff] at heq
  rcases heq with ⟨between, hfront, hrest⟩ | ⟨between, hfront, _⟩
  · cases between with
    | nil =>
      rw [hfront, List.append_nil] at hlength
      exact hlength le_rfl
    | cons c between =>
      apply h
      rw [hrest, List.cons_append, List.tail_cons, ← List.append_assoc]
      exact ⟨between, rest', rfl⟩
  · have hle := congrArg List.length hfront
    rw [List.length_append] at hle
    omega

/-- A text is cut at the character behind which the character does not occur. -/
theorem CutsLast.of_notMem {c : Char} (front : Text) (h : c ∉ rest) :
    CutsLast [c] (front ++ c :: rest) front rest := by
  have hfree : ¬ [c] <:+: ([c] ++ rest).tail := by
    rintro ⟨before, behind, heq⟩
    rw [List.singleton_append, List.tail_cons] at heq
    apply h
    rw [← heq]
    simp
  have hcuts := CutsLast.of_free front hfree
  rw [List.append_assoc] at hcuts
  exact hcuts

end WorkDepot.Text
