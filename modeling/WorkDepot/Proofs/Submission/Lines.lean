import WorkDepot.Proofs.Submission.IdLine

/-! # Output line by line

A reader takes from output the digits of its first id line. Where output is cut between two lines,
the first part is searched and then the second, so that what comes later counts only if no line
before it is an id line. An empty line is none. So it does not matter how lines end, nor how many of
them are empty.
-/
namespace WorkDepot.Submission.IdLine
variable {first second front rest output other ending : Bytes} {terminator : UInt8}

/-! ## What is found in parts -/

/-- The digits of the first id line. -/
def found (output : Bytes) : Option Bytes := (lines output).findSome? digits?

theorem read_congr (h : found output = found other) : read output = read other := by
  rw [found, found] at h
  rw [read, read, h]

theorem read_eq_missing_iff : read output = .error .missingIdLine ↔ found output = none := by
  rw [read, ← found]
  cases found output with
  | none => simp
  | some digits =>
    simp only [reduceCtorEq, iff_false]
    split <;> simp

theorem found_eq_none_iff :
    found output = none ↔ ∀ line ∈ output.splitOnP isLineEnd, ¬ IsIdLine line := by
  rw [found, lines_eq_splitOnP, List.findSome?_eq_none_iff]
  exact forall₂_congr fun line _ => digits?_eq_none_iff

theorem found_terminated (h : isLineEnd terminator) :
    found (first ++ terminator :: second) = (found first).or (found second) := by
  simp only [found, lines_eq_splitOnP, List.splitOnP_append_cons _ _ h, List.findSome?_append]

/-- The two parts do not share a line: there is a line end on either side, or nothing. -/
def Apart (first second : Bytes) : Prop :=
  (∀ byte ∈ first.getLast?, isLineEnd byte) ∨ ∀ byte ∈ second.head?, isLineEnd byte

instance (first second : Bytes) : Decidable (Apart first second) :=
  inferInstanceAs (Decidable (_ ∨ _))

theorem found_append (h : Apart first second) :
    found (first ++ second) = (found first).or (found second) := by
  have hnone : found [] = none := by decide
  rcases h with hlast | hhead
  · rcases List.eq_nil_or_concat first with rfl | ⟨before, byte, rfl⟩
    · rw [hnone, Option.none_or, List.nil_append]
    · have hend : isLineEnd byte := hlast byte (by simp)
      rw [List.concat_eq_append, List.append_assoc, List.singleton_append, found_terminated hend,
        found_terminated hend, hnone, Option.or_none]
  · cases second with
    | nil => rw [hnone, Option.or_none, List.append_nil]
    | cons byte after =>
      have hend : isLineEnd byte := hhead byte rfl
      have hafter : found ([] ++ byte :: after) = found after := by
        rw [found_terminated hend, hnone, Option.none_or]
      rw [List.nil_append] at hafter
      rw [found_terminated hend, hafter]

/-! ## Line ends and empty lines -/

/-- A line ends with a line feed, a carriage return, or the one behind the other. -/
def endings : List Bytes := [[0x0A], [0x0D], [0x0D, 0x0A]]

theorem found_ending (h : ending ∈ endings) (front rest : Bytes) :
    found (front ++ ending ++ rest) = (found front).or (found rest) := by
  have hall : ∀ ending ∈ endings, found ending = none ∧ (∀ byte ∈ ending.head?, isLineEnd byte) ∧
      ∀ byte ∈ ending.getLast?, isLineEnd byte := by decide +kernel
  obtain ⟨hnone, hhead, hlast⟩ := hall ending h
  have hne : ending ≠ [] := by
    rintro rfl
    exact absurd h (by decide)
  have hapart : Apart (front ++ ending) rest := by
    left
    rwa [List.getLast?_append_of_ne_nil _ hne]
  rw [found_append hapart, found_append (.inr hhead), hnone, Option.or_none]

/-- One line ends in another way, or an empty line is put between two lines. -/
inductive Respaced : Bytes → Bytes → Prop
  | replaced (front rest : Bytes) {old new : Bytes} : old ∈ endings → new ∈ endings →
      Respaced (front ++ old ++ rest) (front ++ new ++ rest)
  | emptyLine (front rest : Bytes) {ending : Bytes} : Apart front rest → ending ∈ endings →
      Respaced (front ++ rest) (front ++ ending ++ rest)

theorem Respaced.found_eq (h : Respaced output other) : found output = found other := by
  cases h with
  | replaced front rest hold hnew => rw [found_ending hold, found_ending hnew]
  | emptyLine front rest hapart hending => rw [found_append hapart, found_ending hending]

theorem found_eq_of_respaced (h : Relation.EqvGen Respaced output other) :
    found output = found other := by
  induction h with
  | rel output other h => exact h.found_eq
  | refl output => rfl
  | symm output other _ ih => exact ih.symm
  | trans output middle other _ _ ih ih' => exact ih.trans ih'

/-- What follows a line end is read if there is no id line before it. Otherwise the first part
decides, also where its number is out of range. Any number of changes of line ends, and of empty
lines put in or taken out, leave what is read as it is. -/
theorem read_lineByLine (first second : Bytes) :
    (∀ terminator : UInt8, terminator = 0x0A ∨ terminator = 0x0D →
      read (first ++ [terminator] ++ second) =
        if read first = .error .missingIdLine then read second else read first) ∧
      ∀ output other, Relation.EqvGen Respaced output other → read output = read other := by
  refine ⟨fun terminator hterminator => ?_, fun _ _ h => read_congr (found_eq_of_respaced h)⟩
  have hend : isLineEnd terminator := by simpa [isLineEnd] using hterminator
  have hparts : found (first ++ terminator :: second) = _ := found_terminated hend
  rw [List.append_assoc, List.singleton_append]
  split
  · next hmissing =>
    rw [read_eq_missing_iff.mp hmissing, Option.none_or] at hparts
    exact read_congr hparts
  · next hpresent =>
    obtain ⟨digits, hdigits⟩ := Option.ne_none_iff_exists'.mp (mt read_eq_missing_iff.mpr hpresent)
    rw [hdigits, Option.some_or, ← hdigits] at hparts
    exact read_congr hparts

/-- A number that is out of range hides the next one, with other line ends and an empty line before
it as well. -/
theorem read_lineByLine_tooLarge :
    let large := Bytes.ofAscii "created workunit; x, ID 18446744073709551616"
    let next := Bytes.ofAscii "created workunit; y, ID 7"
    let progress := Bytes.ofAscii "50%"
    read (large ++ [0x0D] ++ next) = .error .idOutOfRange ∧
      read (progress ++ [0x0D] ++ next) = .ok 7 ∧
      read (progress ++ [0x0D, 0x0A] ++ [0x0A] ++ (large ++ [0x0D] ++ next)) =
        .error .idOutOfRange := by
  intro large next progress
  have hlarge := (read_lineByLine large next).1 0x0D (.inr rfl)
  have hnext := (read_lineByLine progress next).1 0x0D (.inr rfl)
  have hread := (read_lineByLine progress (large ++ [0x0D] ++ next)).1 0x0A (.inl rfl)
  have hrespaced : Relation.EqvGen Respaced (progress ++ [0x0A] ++ (large ++ [0x0D] ++ next))
      (progress ++ [0x0D, 0x0A] ++ [0x0A] ++ (large ++ [0x0D] ++ next)) := by
    have hreplaced := Respaced.replaced progress (large ++ [0x0D] ++ next)
      (show [0x0A] ∈ endings by decide) (show [0x0D, 0x0A] ∈ endings by decide)
    have hempty := Respaced.emptyLine (progress ++ [0x0D, 0x0A]) (large ++ [0x0D] ++ next)
      (by decide +kernel) (show [0x0A] ∈ endings by decide)
    exact .trans _ _ _ (.rel _ _ hreplaced) (.rel _ _ hempty)
  have hsame := (read_lineByLine progress next).2 _ _ hrespaced
  refine ⟨hlarge.trans (by decide +kernel), hnext.trans (by decide +kernel), ?_⟩
  rw [← hsame, hread]
  decide +kernel

end WorkDepot.Submission.IdLine
