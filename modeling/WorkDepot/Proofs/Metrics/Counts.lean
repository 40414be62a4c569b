import Mathlib
import WorkDepot.Metrics.Counters

/-! # Counts

Recording an outcome adds one to its own count and leaves every other count as it is, since no two
outcomes share a family and a label. What a list of outcomes adds to a count is the number of times
that the list has the outcome.
-/
namespace WorkDepot

theorem Submission.Kind.mem_all (kind : Submission.Kind) : kind ∈ all := by
  cases kind <;> decide

namespace Metrics

theorem Family.count_increment (family : Family) (label other : Text) :
    (family.increment label).count other = family.count other + if label = other then 1 else 0 := by
  simp only [count, increment, Std.ExtTreeMap.getD_insert, Std.LawfulEqCmp.compare_eq_iff_eq]
  split
  · next h => rw [h]
  · rfl

namespace Outcome

def all : List Outcome :=
  [.lookupSucceeded, .lookupFailed, .fileCreated, .fileReused, .stagingFailed,
    .submissionSucceeded] ++ Submission.Kind.all.map .submissionFailed

theorem mem_all (outcome : Outcome) : outcome ∈ all := by
  cases outcome with
  | submissionFailed kind =>
    exact List.mem_append_right _ (List.mem_map_of_mem (Submission.Kind.mem_all kind))
  | _ => decide

/-- The labels of one family tell its outcomes apart. -/
theorem eq_of_label {outcome other : Outcome} (hs : outcome.subject = other.subject)
    (hl : outcome.label = other.label) : outcome = other := by
  have hall : ∀ outcome ∈ all, ∀ other ∈ all, outcome.subject = other.subject →
      outcome.label = other.label → outcome = other := by decide +kernel
  exact hall outcome (mem_all outcome) other (mem_all other) hs hl

end Outcome

namespace Counters
variable (counters : Counters)

theorem family_increment (subject other : Subject) (label : Text) :
    (counters.increment subject label).family other =
      if subject = other then (counters.family other).increment label
      else counters.family other := by
  cases subject <;> cases other <;> rfl

theorem family_record (outcome : Outcome) (subject : Subject) :
    (counters.record outcome).family subject =
      if outcome.subject = subject then (counters.family subject).increment outcome.label
      else counters.family subject :=
  counters.family_increment outcome.subject subject outcome.label

theorem count_record (outcome other : Outcome) : (counters.record outcome).count other =
    counters.count other + if outcome = other then 1 else 0 := by
  rw [count, family_record, count]
  by_cases hs : outcome.subject = other.subject
  · rw [if_pos hs, Family.count_increment]
    have hl : outcome.label = other.label ↔ outcome = other :=
      ⟨Outcome.eq_of_label hs, congrArg Outcome.label⟩
    simp only [hl]
  · have hne : outcome ≠ other := fun he => hs (congrArg Outcome.subject he)
    rw [if_neg hs, if_neg hne, Nat.add_zero]

/-- The counters when all of the outcomes have been recorded, one after the other. -/
def recordAll (outcomes : List Outcome) : Counters := outcomes.foldl record counters

theorem recordAll_append (first second : List Outcome) :
    counters.recordAll (first ++ second) = (counters.recordAll first).recordAll second :=
  List.foldl_append

theorem count_recordAll (outcomes : List Outcome) (other : Outcome) :
    (counters.recordAll outcomes).count other = counters.count other + outcomes.count other := by
  induction outcomes generalizing counters with
  | nil => rfl
  | cons outcome outcomes ih =>
    have hrest := ih (counters.record outcome)
    rw [count_record] at hrest
    rw [recordAll, List.foldl_cons, List.count_cons, ← recordAll, hrest]
    simp only [beq_iff_eq]
    omega

/-- Outcomes of other families leave a family as it is. -/
theorem family_recordAll {outcomes : List Outcome} {subject : Subject}
    (h : ∀ outcome ∈ outcomes, outcome.subject ≠ subject) :
    (counters.recordAll outcomes).family subject = counters.family subject := by
  induction outcomes generalizing counters with
  | nil => rfl
  | cons outcome outcomes ih =>
    have hrest := ih (counters.record outcome) fun other ho => h other (List.mem_cons_of_mem _ ho)
    rw [recordAll, List.foldl_cons, ← recordAll, hrest, family_record,
      if_neg (h outcome List.mem_cons_self)]

theorem countP_mem_cons {outcome : Outcome} {outcomes : List Outcome} (h : outcome ∉ outcomes)
    (others : List Outcome) : others.countP (· ∈ outcome :: outcomes) =
      others.count outcome + others.countP (· ∈ outcomes) := by
  induction others with
  | nil => rfl
  | cons other others ih =>
    rw [List.countP_cons, List.count_cons, List.countP_cons, ih]
    by_cases he : other = outcome
    · simp [he, h]
      omega
    · simp [he, Nat.add_assoc]

/-- Outcomes that differ from each other are counted apart. -/
theorem sum_count {outcomes : List Outcome} (hn : outcomes.Nodup) (others : List Outcome) :
    (outcomes.map others.count).sum = others.countP (· ∈ outcomes) := by
  induction outcomes with
  | nil => simp
  | cons outcome outcomes ih =>
    obtain ⟨hnot, hn⟩ := List.nodup_cons.mp hn
    rw [List.map_cons, List.sum_cons, ih hn, countP_mem_cons hnot]

theorem snapshot_submissionsFailed : counters.snapshot.submissionsFailed =
    (Submission.Kind.all.map fun kind => counters.count (.submissionFailed kind)).sum := by
  rw [snapshot, List.sum_eq_foldl, List.foldl_map]

end Counters
end Metrics
end WorkDepot
