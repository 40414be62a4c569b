import Mathlib
import WorkDepot.Submission.IdLine

/-! # Reports of work units

A report cuts a line into the opening, a text, the mark, digits and the rest. A line may be cut in
several ways, since the text may hold marks and the rest may hold digits. Among all of them there is
one with the longest text and, with that text, the most digits, and that is the one which is read.
-/
namespace WorkDepot.Submission.IdLine

/-- What a line that reports a work unit has behind the opening and behind the mark. -/
structure Report where
  text : Bytes
  digits : Bytes
  rest : Bytes
  nonempty : digits ≠ []
  decimal : ∀ byte ∈ digits, 0x30 ≤ byte ∧ byte ≤ 0x39

namespace Report

def afterOpening (report : Report) : Bytes :=
  report.text ++ (Bytes.ofAscii ", ID " ++ (report.digits ++ report.rest))

def line (report : Report) : Bytes := Bytes.ofAscii "created workunit; " ++ report.afterOpening

/-- The number that the digits spell. -/
def id (report : Report) : Nat :=
  Nat.ofDigits 10 (report.digits.reverse.map fun byte => byte.toNat - 0x30)

/-- The other report has a longer text or, with a text as long, at least as many digits. -/
def AtMost (report other : Report) : Prop :=
  report.text.length < other.text.length ∨
    report.text.length = other.text.length ∧ report.digits.length ≤ other.digits.length

/-- No other way to cut the line has a longer text, nor more digits behind a text as long. -/
structure Longest (report : Report) (line : Bytes) : Prop where
  line_eq : report.line = line
  longest : ∀ other : Report, other.line = line → other.AtMost report

theorem Longest.unique {report other : Report} {line : Bytes} (h : report.Longest line)
    (h' : other.Longest line) : report = other := by
  have hlengths : report.text.length = other.text.length ∧
      report.digits.length = other.digits.length := by
    have hle := h.longest other h'.line_eq
    have hge := h'.longest report h.line_eq
    rw [AtMost] at hle hge
    omega
  have hline := h.line_eq.trans h'.line_eq.symm
  have hafter := List.append_cancel_left hline
  obtain ⟨htext, hmarked⟩ := List.append_inj hafter hlengths.1
  obtain ⟨hdigits, hrest⟩ := List.append_inj (List.append_cancel_left hmarked) hlengths.2
  cases report
  cases other
  simp_all

end Report

/-- The line can be cut into the parts of a report. -/
def IsIdLine (line : Bytes) : Prop := ∃ report : Report, report.line = line

/-! ## Lines and beginnings -/

theorem lines_eq_splitOnP (output : Bytes) : lines output = output.splitOnP isLineEnd := by
  induction output with
  | nil => rfl
  | cons byte rest ih =>
    rw [lines, ih, List.splitOnP_cons_eq_if_modifyHead]
    have hne := List.splitOnP_ne_nil isLineEnd rest
    split
    · rfl
    · cases hs : rest.splitOnP isLineEnd with
      | nil => exact absurd hs hne
      | cons line more => rfl

theorem strip?_eq_some_iff {beginning bytes rest : Bytes} :
    strip? beginning bytes = some rest ↔ bytes = beginning ++ rest := by
  induction beginning generalizing bytes with
  | nil => simp [strip?]
  | cons b beginning ih =>
    cases bytes with
    | nil => simp [strip?]
    | cons byte bytes =>
      rw [strip?, List.cons_append, List.cons.injEq]
      split
      · next hb => simp [hb, ih]
      · next hb => simp [Ne.symm hb]

theorem isDigit_iff {byte : UInt8} : isDigit byte ↔ 0x30 ≤ byte ∧ byte ≤ 0x39 := by
  simp [isDigit]

/-- The first so many digits of a list are no more than the digits at its front. -/
theorem length_le_takeWhile {digits : Bytes} (h : ∀ byte ∈ digits, isDigit byte) (rest : Bytes) :
    digits.length ≤ ((digits ++ rest).takeWhile isDigit).length := by
  rw [List.takeWhile_append_of_pos h, List.length_append]
  exact Nat.le_add_right _ _

/-! ## The last mark with digits -/

theorem digitsAfterMark?_eq_some_iff {bytes digits : Bytes} :
    digitsAfterMark? bytes = some digits ↔
      ∃ rest, bytes = mark ++ rest ∧ rest.takeWhile isDigit = digits ∧ digits ≠ [] := by
  simp only [digitsAfterMark?, bind, Option.bind_eq_some_iff, strip?_eq_some_iff]
  constructor
  · rintro ⟨rest, hb, hd⟩
    split at hd
    · cases hd
    · next hne =>
      cases hd
      exact ⟨rest, hb, rfl, by simpa using hne⟩
  · rintro ⟨rest, hb, rfl, hne⟩
    exact ⟨rest, hb, by simp [hne]⟩

/-- Where a mark stands at the front, a report without text has the digits behind the mark. -/
theorem exists_report_of_digitsAfterMark? {bytes digits : Bytes}
    (h : digitsAfterMark? bytes = some digits) :
    ∃ report : Report, report.afterOpening = bytes ∧ report.text = [] ∧ report.digits = digits := by
  obtain ⟨rest, rfl, rfl, hne⟩ := digitsAfterMark?_eq_some_iff.mp h
  have hdecimal : ∀ byte ∈ rest.takeWhile isDigit, 0x30 ≤ byte ∧ byte ≤ 0x39 :=
    fun byte hb => isDigit_iff.mp (List.mem_takeWhile_imp hb)
  refine ⟨⟨[], rest.takeWhile isDigit, rest.dropWhile isDigit, hne, hdecimal⟩, ?_, rfl, rfl⟩
  simp [Report.afterOpening, mark]

/-- A report without text has some of the digits behind the mark at the front. -/
theorem digitsAfterMark?_of_report {report : Report} (ht : report.text = []) :
    ∃ digits, digitsAfterMark? report.afterOpening = some digits ∧
      report.digits.length ≤ digits.length := by
  have hdecimal : ∀ byte ∈ report.digits, isDigit byte :=
    fun byte hb => isDigit_iff.mpr (report.decimal byte hb)
  have hle := length_le_takeWhile hdecimal report.rest
  have hpos := List.length_pos_iff.mpr report.nonempty
  refine ⟨_, digitsAfterMark?_eq_some_iff.mpr ⟨_, ?_, rfl, ?_⟩, hle⟩
  · simp [Report.afterOpening, ht, mark]
  · exact List.length_pos_iff.mp (hpos.trans_le hle)

/-- Every report of some bytes either has no text, or is a report of what follows the first byte
with that byte put before its text. -/
theorem Report.afterOpening_eq_cons {report : Report} {byte : UInt8} {rest : Bytes}
    (h : report.afterOpening = byte :: rest) :
    report.text = [] ∨ ∃ shorter : Report, shorter.afterOpening = rest ∧
      shorter.digits = report.digits ∧ report.text = byte :: shorter.text := by
  cases ht : report.text with
  | nil => exact .inl rfl
  | cons first text =>
    right
    simp only [afterOpening, ht, List.cons_append, List.cons.injEq] at h
    exact ⟨{ report with text }, h.2, rfl, by rw [h.1]⟩

/-- The digits that are found are those of a report that is at least as long as all others. -/
theorem lastDigits?_report (bytes : Bytes) :
    match lastDigits? bytes with
    | none => ∀ report : Report, report.afterOpening ≠ bytes
    | some digits => ∃ report : Report, report.afterOpening = bytes ∧ report.digits = digits ∧
        ∀ other : Report, other.afterOpening = bytes → other.AtMost report := by
  induction bytes with
  | nil =>
    intro report h
    simp [Report.afterOpening, Bytes.ofAscii] at h
  | cons byte rest ih =>
    rw [lastDigits?]
    cases hrest : lastDigits? rest with
    | some digits =>
      -- a mark with digits further on: the first byte belongs to the text
      rw [hrest] at ih
      obtain ⟨report, hreport, hdigits, hlongest⟩ := ih
      refine ⟨{ report with text := byte :: report.text }, by simp [← hreport, Report.afterOpening],
        hdigits, ?_⟩
      intro other hother
      rcases Report.afterOpening_eq_cons hother with hempty | ⟨shorter, hs, hd, ht⟩
      · left
        simp [hempty]
      · have hle := hlongest shorter hs
        simp only [Report.AtMost, ht, hd, List.length_cons] at hle ⊢
        omega
    | none =>
      -- no such mark further on: every report of the whole is without text
      rw [hrest] at ih
      have hempty : ∀ other : Report, other.afterOpening = byte :: rest → other.text = [] := by
        intro other hother
        rcases Report.afterOpening_eq_cons hother with hempty | ⟨shorter, hs, _, _⟩
        · exact hempty
        · exact absurd hs (ih shorter)
      rw [Option.none_or]
      cases hfront : digitsAfterMark? (byte :: rest) with
      | none =>
        intro report hreport
        obtain ⟨digits, hsome, _⟩ := digitsAfterMark?_of_report (hempty report hreport)
        rw [hreport, hfront] at hsome
        cases hsome
      | some digits =>
        obtain ⟨report, hreport, ht, hdigits⟩ := exists_report_of_digitsAfterMark? hfront
        refine ⟨report, hreport, hdigits, ?_⟩
        intro other hother
        obtain ⟨all, hall, hle⟩ := digitsAfterMark?_of_report (hempty other hother)
        rw [hother, hfront] at hall
        cases hall
        right
        exact ⟨by rw [hempty other hother, ht], hdigits ▸ hle⟩

/-! ## The line that counts -/

theorem line_eq_opening_append (report : Report) : report.line = opening ++ report.afterOpening :=
  rfl

theorem digits?_eq_none_iff {line : Bytes} : digits? line = none ↔ ¬ IsIdLine line := by
  rw [digits?, Option.bind_eq_none_iff]
  constructor
  · rintro h ⟨report, rfl⟩
    have hnone := h report.afterOpening (strip?_eq_some_iff.mpr rfl)
    have hreport := lastDigits?_report report.afterOpening
    rw [hnone] at hreport
    exact hreport report rfl
  · intro h rest hrest
    have hline := strip?_eq_some_iff.mp hrest
    have hreport := lastDigits?_report rest
    cases hdigits : lastDigits? rest with
    | none => rfl
    | some digits =>
      rw [hdigits] at hreport
      obtain ⟨report, hr, _⟩ := hreport
      exact absurd ⟨report, by rw [line_eq_opening_append, hr, hline]⟩ h

theorem longest_of_digits? {line digits : Bytes} (h : digits? line = some digits) :
    ∃ report : Report, report.Longest line ∧ report.digits = digits := by
  obtain ⟨rest, hrest, hdigits⟩ := Option.bind_eq_some_iff.mp h
  have hline := strip?_eq_some_iff.mp hrest
  have hreport := lastDigits?_report rest
  rw [hdigits] at hreport
  obtain ⟨report, hr, hd, hlongest⟩ := hreport
  refine ⟨report, ⟨by rw [line_eq_opening_append, hr, hline], ?_⟩, hd⟩
  intro other hother
  rw [line_eq_opening_append, hline] at hother
  exact hlongest other (List.append_cancel_left hother)

theorem value_append (digits : Bytes) (byte : UInt8) :
    value (digits ++ [byte]) = value digits * 10 + (byte.toNat - 0x30) := by
  simp [value]

theorem value_eq_ofDigits (digits : Bytes) :
    value digits = Nat.ofDigits 10 (digits.reverse.map fun byte => byte.toNat - 0x30) := by
  induction digits using List.reverseRecOn with
  | nil => rfl
  | append_singleton digits byte ih =>
    rw [value_append, ih, List.reverse_append, List.reverse_singleton, List.singleton_append,
      List.map_cons, Nat.ofDigits_cons]
    omega

/-- Without an id line there is no number. Otherwise the first id line gives it, whatever follows:
in that line there is one longest report, and its number is the answer if it has 64 bits. -/
theorem read_first_report (output : Bytes) :
    let lines := output.splitOnP fun byte => byte = 0x0A || byte = 0x0D
    (read output = .error .missingIdLine ↔ ∀ line ∈ lines, ¬ IsIdLine line) ∧
      ∀ before line after, lines = before ++ line :: after →
        (∀ earlier ∈ before, ¬ IsIdLine earlier) → IsIdLine line →
        (∃ report : Report, report.Longest line) ∧ ∀ report : Report, report.Longest line →
          read output = if report.id < 2 ^ 64 then .ok report.id else .error .idOutOfRange := by
  intro lines
  have hlines : IdLine.lines output = lines := lines_eq_splitOnP output
  constructor
  · have hnone : lines.findSome? digits? = none ↔ ∀ line ∈ lines, ¬ IsIdLine line := by
      rw [List.findSome?_eq_none_iff]
      exact forall₂_congr fun line _ => digits?_eq_none_iff
    rw [← hnone, read, hlines]
    cases lines.findSome? digits? with
    | none => simp
    | some digits =>
      simp only [reduceCtorEq, iff_false]
      split <;> simp
  · intro before line after hcut hbefore hline
    cases hdigits : digits? line with
    | none => exact absurd hline (digits?_eq_none_iff.mp hdigits)
    | some digits =>
      obtain ⟨longest, hlongest, hd⟩ := longest_of_digits? hdigits
      refine ⟨⟨longest, hlongest⟩, ?_⟩
      intro report hreport
      have hnone : before.findSome? digits? = none := by
        apply List.findSome?_eq_none_iff.mpr
        intro earlier he
        exact digits?_eq_none_iff.mpr (hbefore earlier he)
      have hfirst : lines.findSome? digits? = some digits := by
        rw [hcut, List.findSome?_append, hnone, Option.none_or, List.findSome?_cons, hdigits]
      have hid : value digits = report.id := by
        rw [hreport.unique hlongest, Report.id, hd, value_eq_ofDigits]
      simp only [read, hlines, hfirst, hid]
      rfl

/-- A mark without digits is passed over, zeros count for nothing, and no later line is read. -/
theorem read_first_report_marks :
    let line := Bytes.ofAscii "created workunit; " ++ 0xFF :: Bytes.ofAscii ", ID 5, ID 007, ID x"
    let later := Bytes.ofAscii "created workunit; b, ID 8"
    IsIdLine line ∧ read (0xFE :: 0x0D :: line ++ 0x0A :: later) = .ok 7 := by
  intro line later
  have hdigits : digits? line = some (Bytes.ofAscii "007") := by decide
  obtain ⟨report, hlongest, hd⟩ := longest_of_digits? hdigits
  have hline : IsIdLine line := ⟨report, hlongest.line_eq⟩
  have hcut : (0xFE :: 0x0D :: line ++ 0x0A :: later).splitOnP
      (fun byte => byte = 0x0A || byte = 0x0D) = [[0xFE]] ++ line :: [later] := by decide
  have hbefore : ∀ earlier ∈ [[(0xFE : UInt8)]], ¬ IsIdLine earlier := by
    intro earlier he
    rw [List.mem_singleton.mp he, ← digits?_eq_none_iff]
    decide
  have hread := ((read_first_report _).2 _ line _ hcut hbefore hline).2 report hlongest
  have hid : report.id = 7 := by
    rw [Report.id, hd]
    decide
  rw [hid] at hread
  exact ⟨hline, hread⟩

end WorkDepot.Submission.IdLine
