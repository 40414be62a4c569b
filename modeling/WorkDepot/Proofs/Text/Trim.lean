import WorkDepot.Proofs.Text.Cut

/-! # What trimming leaves

Trimming cuts a text in three: blanks, a middle that neither begins nor ends in a blank, and blanks
again. There is one such cut only, so blanks that are put around a text make no difference to what
trimming leaves of it. As a line feed is a blank, what is left has one line more than it has line
feeds, whatever other characters that end lines elsewhere stand in it.
-/
namespace WorkDepot.Text
variable {text inner before behind : Text}

/-- The middle of the text, with blanks only around it and no blank at either end. -/
structure Trimmed (text inner : Text) : Prop where
  surrounded : ∃ before behind, isBlank before ∧ isBlank behind ∧ text = before ++ inner ++ behind
  opens : ∀ c, inner.head? = some c → isBlankChar c = false
  closes : ∀ c, inner.getLast? = some c → isBlankChar c = false

theorem trimStart_append (h : isBlank before) (rest : Text) :
    trimStart (before ++ rest) = trimStart rest := by
  unfold trimStart
  apply List.dropWhile_append_of_pos
  intro c hc
  exact List.all_eq_true.mp h c hc

theorem trimEnd_append (h : isBlank behind) (rest : Text) :
    trimEnd (rest ++ behind) = trimEnd rest := by
  have hr : isBlank behind.reverse := by
    unfold isBlank
    rw [List.all_reverse]
    exact h
  have hstart := trimStart_append hr rest.reverse
  unfold trimStart at hstart
  unfold trimEnd
  rw [List.reverse_append, hstart]

theorem trimStart_of_opens (h : ∀ c, text.head? = some c → isBlankChar c = false) :
    trimStart text = text := by
  cases text with
  | nil => rfl
  | cons c rest =>
    have hc := h c rfl
    simp [trimStart, hc]

theorem trimEnd_of_closes (h : ∀ c, text.getLast? = some c → isBlankChar c = false) :
    trimEnd text = text := by
  have hr : trimStart text.reverse = text.reverse := by
    apply trimStart_of_opens
    intro c hc
    rw [List.head?_reverse] at hc
    exact h c hc
  unfold trimStart at hr
  unfold trimEnd
  rw [hr, List.reverse_reverse]

theorem head?_trimStart (text : Text) :
    ∀ c, (trimStart text).head? = some c → isBlankChar c = false := by
  intro c hc
  have hhead := List.head?_dropWhile_not isBlankChar text
  unfold trimStart at hc
  rw [hc] at hhead
  exact hhead

theorem Trimmed.trim_eq (h : Trimmed text inner) : trim text = inner := by
  obtain ⟨⟨before, behind, hbefore, hbehind, rfl⟩, hopens, hcloses⟩ := h
  unfold trim
  cases inner with
  | nil =>
    have hstart : trimStart (before ++ [] ++ behind) = [] := by
      rw [List.append_nil, trimStart_append hbefore, ← List.append_nil behind,
        trimStart_append hbehind]
      rfl
    rw [hstart]
    rfl
  | cons c rest =>
    have hstart : trimStart (before ++ (c :: rest) ++ behind) = c :: rest ++ behind := by
      rw [List.append_assoc, trimStart_append hbefore]
      apply trimStart_of_opens
      intro d hd
      exact hopens d hd
    rw [hstart, trimEnd_append hbehind, trimEnd_of_closes hcloses]

theorem trimmed_trim (text : Text) : Trimmed text (trim text) := by
  have hfront : text = text.takeWhile isBlankChar ++ trimStart text :=
    List.takeWhile_append_dropWhile.symm
  have hback : trimStart text =
      trim text ++ ((trimStart text).reverse.takeWhile isBlankChar).reverse := by
    unfold trim trimEnd
    rw [← List.reverse_append, List.takeWhile_append_dropWhile, List.reverse_reverse]
  constructor
  · refine ⟨text.takeWhile isBlankChar, ((trimStart text).reverse.takeWhile isBlankChar).reverse,
      ?_, ?_, ?_⟩
    · apply List.all_eq_true.mpr
      intro c hc
      exact List.mem_takeWhile_imp hc
    · apply List.all_eq_true.mpr
      intro c hc
      exact List.mem_takeWhile_imp (List.mem_reverse.mp hc)
    · rw [List.append_assoc, ← hback]
      exact hfront
  · intro c hc
    apply head?_trimStart text c
    rw [hback, List.head?_append, hc]
    rfl
  · intro c hc
    have hlast := head?_trimStart (trimStart text).reverse c
    unfold trim trimEnd at hc
    rw [List.getLast?_reverse] at hc
    exact hlast hc

/-- Blanks around a text that has none at its ends are all that trimming takes away. -/
theorem Trimmed.again (h : Trimmed text inner) (hbefore : isBlank before)
    (hbehind : isBlank behind) : Trimmed (before ++ inner ++ behind) inner :=
  ⟨⟨before, behind, hbefore, hbehind, rfl⟩, h.opens, h.closes⟩

/-! ## Lines -/

/-- How many lines a text has, where a line ends at a line feed or with the text. -/
def lineCount : Text → Nat
  | [] => 0
  | c :: rest => if c = '\n' ∨ rest = [] then lineCount rest + 1 else lineCount rest

theorem lineCount_eq (hne : text ≠ []) (h : text.getLast? ≠ some '\n') :
    lineCount text = text.count '\n' + 1 := by
  induction text with
  | nil => exact absurd rfl hne
  | cons c rest ih =>
    cases rest with
    | nil =>
      have hc : c ≠ '\n' := by
        intro he
        exact h (by rw [he]; rfl)
      simp [lineCount, hc]
    | cons d more =>
      have hrest := ih (List.cons_ne_nil d more) (by rwa [List.getLast?_cons_cons] at h)
      rw [lineCount, hrest]
      by_cases hc : c = '\n'
      · rw [if_pos (Or.inl hc), hc, List.count_cons_self]
      · rw [if_neg (by simp [hc]), List.count_cons_of_ne hc]

/-- What trimming leaves is one line exactly if it has no line feed. -/
theorem Trimmed.lineCount_eq_one_iff (h : Trimmed text inner) (hne : inner ≠ []) :
    lineCount inner = 1 ↔ '\n' ∉ inner := by
  have hlast : inner.getLast? ≠ some '\n' := by
    intro he
    have hblank : isBlankChar '\n' = true := by decide
    rw [h.closes _ he] at hblank
    cases hblank
  rw [lineCount_eq hne hlast, ← List.count_eq_zero]
  omega

end WorkDepot.Text
