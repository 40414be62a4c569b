import WorkDepot.Proofs.Metrics.Ledger
import WorkDepot.Proofs.Staging.Atomicity

/-! # Conservation

What the counters say after a session of any calls, each to a depot of its own, is what the session
has done. The stagings are counted by how they have ended, and so are the submissions; the files
that have been created are the files that staging has added; the lookups that are counted are the
questions to the oracle; and the tool has been called once for every submission whose end is either
a success or a failure of the tool or of its output.
-/
namespace WorkDepot
open Metrics Submission

/-! ## What is counted for one call -/

namespace Metrics

/-- How a staging is counted when it ends like this. -/
def ofEnding : Option Staging.Outcome → Outcome
  | some .created => .fileCreated
  | some .alreadyPresent => .fileReused
  | none => .stagingFailed

theorem ofEnding_injective : Function.Injective ofEnding := by
  intro ending other h
  rcases ending with _ | _ | _ <;> rcases other with _ | _ | _ <;> first | rfl | cases h

theorem ofEnding_subject (ending : Option Staging.Outcome) :
    (ofEnding ending).subject = .staged := by
  rcases ending with _ | _ | _ <;> rfl

end Metrics

theorem looked_subject (answer : Except Placement.Failure Text) :
    (looked answer).subject = .lookups := by
  cases answer <;> rfl

theorem concluded_subject (result : Except Error Nat) :
    (concluded result).subject = .submissions := by
  cases result <;> rfl

namespace Staging
open FileSystem

/-- What is settled adds a file when it is written, and adds none otherwise. -/
theorem encard_newFiles {before middle after : FileSystem} {path : Text} {content : Bytes}
    {mode : Mode} {placed : Except StorageFault Placed} (hm : MadeAbove path before middle)
    (hs : Settled middle path content mode placed after) :
    (newFiles before after).encard = if placed = .ok .written then 1 else 0 := by
  by_cases hp : placed = .ok .written
  · subst hp
    obtain ⟨location, hnew, _⟩ := created_of_settled hm hs
    rw [hnew, Set.encard_singleton, if_pos rfl]
  · rw [newFiles_of_settled hm hs hp, Set.encard_empty, if_neg hp]

theorem reported_created_iff {staged : Staged} {placed : Except StorageFault Placed} :
    (reported staged placed).toOption.map (·.outcome) = some .created ↔ placed = .ok .written := by
  cases placed with
  | error fault => simp [reported, Except.toOption]
  | ok placed => cases placed <;> simp [reported, Except.toOption]

end Staging

namespace StageCall
variable (call : StageCall)

theorem counted_result : Staging.counted call.result = ofEnding call.outcome? := by
  rw [outcome?]
  cases call.result with
  | error error => rfl
  | ok staged =>
    obtain ⟨_, _, _, outcome⟩ := staged
    cases outcome <;> rfl

/-- A staging that creates a file adds one file, and no other adds any. -/
theorem encard_added :
    call.added.encard = if call.outcome? = some .created then 1 else 0 := by
  rw [added, after, outcome?, result]
  cases hask : (call.depot.ask call.filename call.world).1 with
  | error failure =>
    obtain ⟨hr, hf⟩ := call.depot.stage_of_failure call.label call.content call.world hask
    rw [hr, hf, filename, FileSystem.newFiles_self, Set.encard_empty]
    rfl
  | ok path =>
    obtain ⟨hr, hf⟩ := call.depot.stage_of_answer call.label call.content call.world hask
    obtain ⟨middle, hm, hs⟩ := Staging.placeContent_settled call.depot.disk
      (call.depot.filesAsked call.world call.filename) path call.content call.depot.fileMode
    rw [hr, hf]
    simp only [Staging.reported_created_iff]
    exact Staging.encard_newFiles hm hs

theorem countP_flatMap_outcomes (calls : List StageCall) (p : Metrics.Outcome → Bool) :
    (calls.flatMap outcomes).countP p = ((calls.map answer).map looked).countP p +
      (calls.map fun call => ofEnding call.outcome?).countP p := by
  induction calls with
  | nil => rfl
  | cons call calls ih =>
    simp only [List.flatMap_cons, List.map_cons, List.countP_append, List.countP_cons, ih,
      outcomes, counted_result, List.countP_nil]
    omega

theorem sum_encard_added (calls : List StageCall) :
    (calls.map fun call => call.added.encard).sum =
      (calls.countP (·.outcome? = some .created) : ℕ) := by
  induction calls with
  | nil => rfl
  | cons call calls ih =>
    rw [List.map_cons, List.sum_cons, ih, call.encard_added, List.countP_cons]
    by_cases h : call.outcome? = some .created
    · rw [if_pos h, if_pos (decide_eq_true h), Nat.cast_add, Nat.cast_one, add_comm]
    · rw [if_neg h, if_neg (by simpa using h), Nat.add_zero, zero_add]

end StageCall

/-! ## What is counted for one turn -/

namespace Turn
variable (turn : Turn) (world : World)

/-- What the oracle has answered, one answer for every staging and every bare lookup. -/
def answers : List (Except Placement.Failure Text) :=
  (turn.stagings world).map StageCall.answer ++ turn.bareLookups world

/-- What is counted for a turn, family by family. -/
theorem countP_outcomes (p : Metrics.Outcome → Bool) : (turn.outcomes world).countP p =
    ((turn.answers world).map looked).countP p +
      ((turn.stagings world).map fun call => ofEnding call.outcome?).countP p +
      ((turn.submissions world).map concluded).countP p := by
  rw [outcomes, answers, List.map_append]
  simp only [List.countP_append, StageCall.countP_flatMap_outcomes]
  omega

theorem length_bareLookups :
    (turn.bareLookups world).length = if turn.call.looksUp then 1 else 0 := by
  obtain ⟨depot, call⟩ := turn
  cases call <;> rfl

/-- Only calls that submit something have a submission, and they have one. -/
theorem submissions_cases :
    turn.call.submits = false ∧ turn.submissions world = [] ∨
      turn.call.submits = true ∧ ∃ result, turn.submissions world = [result] := by
  obtain ⟨depot, call⟩ := turn
  cases call with
  | submit request => exact .inr ⟨rfl, _, rfl⟩
  | submitParts appName cmdline content path => exact .inr ⟨rfl, _, rfl⟩
  | stage | locate | resolve | downloadPath => exact .inl ⟨rfl, rfl⟩

end Turn

/-! ## Sessions -/

/-- Between the worlds these outcomes have been counted, and so many names have been looked up and
so many calls of the tool made. -/
structure Tallied (before after : World) (outcomes : List Metrics.Outcome) (lookups calls : Nat) :
    Prop where
  counters : after.counters = before.counters.recordAll outcomes
  lookups : after.lookups.length = before.lookups.length + lookups
  calls : after.invocations.length = before.invocations.length + calls

theorem Tallied.trans {before middle after : World} {outcomes outcomes' : List Metrics.Outcome}
    {lookups lookups' calls calls' : Nat} (h : Tallied before middle outcomes lookups calls)
    (h' : Tallied middle after outcomes' lookups' calls') :
    Tallied before after (outcomes ++ outcomes') (lookups + lookups') (calls + calls') where
  counters := by rw [h'.counters, h.counters, Counters.recordAll_append]
  lookups := by rw [h'.lookups, h.lookups, Nat.add_assoc]
  calls := by rw [h'.calls, h.calls, Nat.add_assoc]

theorem Turn.take_tallied {turn : Turn} (hm : turn.depot.metered) (world : World) :
    Tallied world (turn.take world) (turn.outcomes world) (turn.answers world).length
      ((turn.submissions world).countP Depot.reachesTool) where
  counters := turn.take_counters world hm
  lookups := by
    rw [turn.take_lookups world hm, answers, List.length_append, List.length_map, Nat.add_assoc]
  calls := turn.take_calls world

theorem session_tallied {turns : List Turn} (hm : ∀ turn ∈ turns, turn.depot.metered)
    (start : World) : Tallied start (session turns start) (gather Turn.outcomes turns start)
      (gather Turn.answers turns start).length
      ((gather Turn.submissions turns start).countP Depot.reachesTool) := by
  induction turns generalizing start with
  | nil => exact ⟨rfl, rfl, rfl⟩
  | cons turn turns ih =>
    have hturn := Turn.take_tallied (hm turn List.mem_cons_self) start
    have hrest := ih (fun later hl => hm later (List.mem_cons_of_mem turn hl)) (turn.take start)
    simp only [gather, List.length_append, List.countP_append]
    exact hturn.trans hrest

/-- What a session has done that one family counts. -/
def outcomesOf (turns : List Turn) (start : World) : Subject → List Metrics.Outcome
  | .lookups => (gather Turn.answers turns start).map looked
  | .staged => (gather Turn.stagings turns start).map fun call => ofEnding call.outcome?
  | .submissions => (gather Turn.submissions turns start).map concluded

theorem subject_of_mem {turns : List Turn} {start : World} {subject : Subject}
    {outcome : Metrics.Outcome} (h : outcome ∈ outcomesOf turns start subject) :
    outcome.subject = subject := by
  cases subject with
  | lookups =>
    obtain ⟨answer, _, rfl⟩ := List.mem_map.mp h
    exact looked_subject answer
  | staged =>
    obtain ⟨call, _, rfl⟩ := List.mem_map.mp h
    exact ofEnding_subject call.outcome?
  | submissions =>
    obtain ⟨result, _, rfl⟩ := List.mem_map.mp h
    exact concluded_subject result

theorem countP_gather_outcomes (turns : List Turn) (start : World) (p : Metrics.Outcome → Bool) :
    (gather Turn.outcomes turns start).countP p =
      (outcomesOf turns start .lookups).countP p + (outcomesOf turns start .staged).countP p +
        (outcomesOf turns start .submissions).countP p := by
  induction turns generalizing start with
  | nil => rfl
  | cons turn turns ih =>
    have hrest := ih (turn.take start)
    simp only [outcomesOf, gather, List.map_append, List.countP_append,
      turn.countP_outcomes] at hrest ⊢
    omega

/-- Outcomes of one family have been had as often as the session has done what they stand for. -/
theorem countP_of_subject (turns : List Turn) (start : World) {p : Metrics.Outcome → Bool}
    {subject : Subject} (hs : ∀ outcome, p outcome → outcome.subject = subject) :
    (gather Turn.outcomes turns start).countP p = (outcomesOf turns start subject).countP p := by
  -- What other families count has another subject, so that `p` does not hold of it.
  have hzero (other : Subject) (hne : other ≠ subject) :
      (outcomesOf turns start other).countP p = 0 := by
    apply List.countP_eq_zero.mpr
    intro outcome hmem hp
    exact hne ((subject_of_mem hmem).symm.trans (hs outcome hp))
  rw [countP_gather_outcomes]
  cases subject with
  | lookups =>
    rw [hzero .staged (by decide), hzero .submissions (by decide)]
    rfl
  | staged =>
    rw [hzero .lookups (by decide), hzero .submissions (by decide), Nat.zero_add]
    rfl
  | submissions => rw [hzero .lookups (by decide), hzero .staged (by decide), Nat.zero_add]

/-- The counts of different outcomes of one family, when all counts have been zero, add up to what
the session has done that they stand for. -/
theorem sum_counts {turns : List Turn} {start : World} {subject : Subject}
    (hm : ∀ turn ∈ turns, turn.depot.metered) (hz : ∀ outcome, start.counters.count outcome = 0)
    {outcomes : List Metrics.Outcome} (hn : outcomes.Nodup)
    (hs : ∀ outcome ∈ outcomes, outcome.subject = subject) :
    (outcomes.map (session turns start).counters.count).sum =
      (outcomesOf turns start subject).countP (· ∈ outcomes) := by
  have hcount (outcome : Metrics.Outcome) : (session turns start).counters.count outcome =
      (gather Turn.outcomes turns start).count outcome := by
    rw [(session_tallied hm start).counters, Counters.count_recordAll, hz, Nat.zero_add]
  have hmem (outcome : Metrics.Outcome) (h : decide (outcome ∈ outcomes)) :
      outcome.subject = subject := hs outcome (of_decide_eq_true h)
  rw [← countP_of_subject turns start hmem, ← Counters.sum_count hn]
  exact congrArg List.sum (List.map_congr_left fun outcome _ => hcount outcome)

/-- Every staging and every bare lookup has one answer of the oracle. -/
theorem length_gather_answers (turns : List Turn) (start : World) :
    (gather Turn.answers turns start).length =
      (gather Turn.stagings turns start).length + turns.countP (·.call.looksUp) := by
  induction turns generalizing start with
  | nil => rfl
  | cons turn turns ih =>
    simp only [gather, List.length_append, List.countP_cons, ih, Turn.answers, List.length_map,
      turn.length_bareLookups]
    omega

theorem Turn.subject_ne_submissions (turn : Turn) (world : World) {outcome : Metrics.Outcome}
    (h : outcome ∈ (turn.stagings world).flatMap StageCall.outcomes ++
      (turn.bareLookups world).map looked) : outcome.subject ≠ .submissions := by
  rcases List.mem_append.mp h with h | h
  · obtain ⟨call, _, h⟩ := List.mem_flatMap.mp h
    rw [StageCall.outcomes, call.counted_result] at h
    rcases List.mem_pair.mp h with rfl | rfl
    · rw [looked_subject]
      decide
    · rw [ofEnding_subject]
      decide
  · obtain ⟨answer, _, rfl⟩ := List.mem_map.mp h
    rw [looked_subject]
    decide

/-- A turn that submits something adds one to the count of one label, and other turns add nothing
to the counts of submissions. -/
theorem Turn.take_submissions {turn : Turn} (hm : turn.depot.metered) (world : World) :
    if turn.call.submits then
      ∃ label, ∀ other, (turn.take world).counters.submissions.count other =
        world.counters.submissions.count other + if other = label then 1 else 0
    else (turn.take world).counters.submissions = world.counters.submissions := by
  have hcounters := turn.take_counters world hm
  -- What comes before the submission is concluded is counted in other families.
  have hfamily : Counters.family _ .submissions = world.counters.submissions :=
    Counters.family_recordAll world.counters fun _ => turn.subject_ne_submissions world
  rw [outcomes, Counters.recordAll_append] at hcounters
  rcases turn.submissions_cases world with ⟨hsubmits, hnone⟩ | ⟨hsubmits, result, hone⟩
  · rw [hnone] at hcounters
    rw [hsubmits, hcounters]
    exact hfamily
  · have hlast : (turn.take world).counters.submissions =
        world.counters.submissions.increment (concluded result).label := by
      rw [hone] at hcounters
      rw [hcounters, ← hfamily]
      exact (Counters.family_record _ _ .submissions).trans (if_pos (concluded_subject result))
    rw [if_pos hsubmits]
    refine ⟨(concluded result).label, fun other => ?_⟩
    rw [hlast, Family.count_increment]
    simp only [eq_comm]

section
variable {turns : List Turn} {start : World} (hm : ∀ turn ∈ turns, turn.depot.metered)
variable (hz : ∀ outcome, start.counters.count outcome = 0)
include hm hz

theorem count_ofEnding (ending : Option Staging.Outcome) :
    (session turns start).counters.count (ofEnding ending) =
      (gather Turn.stagings turns start).countP (·.outcome? = ending) := by
  have hs : ∀ outcome ∈ [ofEnding ending], outcome.subject = .staged := by
    intro outcome hmem
    rw [List.mem_singleton.mp hmem]
    exact ofEnding_subject ending
  have hsum := sum_counts hm hz (List.nodup_singleton _) hs
  simpa [outcomesOf, Function.comp_def, ofEnding_injective.eq_iff] using hsum

theorem count_lookups : (session turns start).counters.count .lookupSucceeded +
    (session turns start).counters.count .lookupFailed =
      (gather Turn.answers turns start).length := by
  have hs : ∀ outcome ∈ [Outcome.lookupSucceeded, .lookupFailed], outcome.subject = .lookups := by
    decide
  have hall : ∀ outcome ∈ outcomesOf turns start .lookups,
      decide (outcome ∈ [Outcome.lookupSucceeded, .lookupFailed]) := by
    intro outcome hmem
    obtain ⟨answer, _, rfl⟩ := List.mem_map.mp hmem
    cases answer <;> rfl
  have hsum := sum_counts hm hz (by decide) hs
  rw [List.countP_eq_length.mpr hall, outcomesOf, List.length_map] at hsum
  exact hsum

/-- Submissions are counted by what their results are. -/
theorem sum_submissions {outcomes : List Metrics.Outcome} (hn : outcomes.Nodup)
    (hs : ∀ outcome ∈ outcomes, outcome.subject = .submissions) {p : Except Error Nat → Bool}
    (hp : ∀ result, concluded result ∈ outcomes ↔ p result) :
    (outcomes.map (session turns start).counters.count).sum =
      (gather Turn.submissions turns start).countP p := by
  rw [sum_counts hm hz hn hs, outcomesOf, List.countP_map]
  exact List.countP_congr fun result _ => by simp [hp]

theorem count_succeeded : (session turns start).counters.count .submissionSucceeded =
    (gather Turn.submissions turns start).countP (·.isOk) := by
  have hp (result : Except Error Nat) :
      concluded result ∈ [Outcome.submissionSucceeded] ↔ result.isOk := by
    cases result <;> simp [concluded, Except.isOk, Except.toBool]
  exact sum_submissions hm hz (by decide) (by decide) hp

theorem sum_failed : (session turns start).counters.snapshot.submissionsFailed =
    (gather Turn.submissions turns start).countP (!·.isOk) := by
  have hp (result : Except Error Nat) :
      concluded result ∈ Kind.all.map .submissionFailed ↔ !result.isOk := by
    cases result with
    | ok id => simp [concluded, Except.isOk, Except.toBool]
    | error error => simp [concluded, Except.isOk, Except.toBool, Kind.mem_all]
  rw [Counters.snapshot_submissionsFailed, ← sum_submissions hm hz (by decide) (by decide) hp,
    List.map_map]
  rfl

/-- The outcomes of submissions that have called the tool. -/
def calledOutcomes : List Metrics.Outcome :=
  [.submissionSucceeded, .submissionFailed .toolInvocation, .submissionFailed .toolProtocol]

theorem sum_called : (calledOutcomes.map (session turns start).counters.count).sum =
    (gather Turn.submissions turns start).countP Depot.reachesTool := by
  have hp (result : Except Error Nat) :
      concluded result ∈ calledOutcomes ↔ Depot.reachesTool result := by
    cases result with
    | ok id => simp [concluded, calledOutcomes, Depot.reachesTool]
    | error error =>
      rcases error with _ | ⟨_, _ | _ | _⟩ | _ | _ <;>
        simp [concluded, calledOutcomes, Depot.reachesTool, Error.kind]
  exact sum_submissions hm hz (by decide) (by decide) hp

end

/-- How the counters after a session agree with what the session has done. The stagings are those
that have been called for and those that submissions have made. -/
structure Conserved (turns : List Turn) (start after : World) : Prop where
  created : after.counters.staged.count "created".toList =
    (gather Turn.stagings turns start).countP (·.outcome? = some .created)
  reused : after.counters.staged.count "reused".toList =
    (gather Turn.stagings turns start).countP (·.outcome? = some .alreadyPresent)
  failed : after.counters.staged.count "failed".toList =
    (gather Turn.stagings turns start).countP (·.outcome? = none)
  added : (after.counters.staged.count "created".toList : ℕ∞) =
    ((gather Turn.stagings turns start).map fun call => call.added.encard).sum
  lookups : after.counters.lookups.count "success".toList +
      after.counters.lookups.count "failed".toList =
    (gather Turn.stagings turns start).length + turns.countP (·.call.looksUp)
  asked : after.lookups.length = start.lookups.length +
    (after.counters.lookups.count "success".toList + after.counters.lookups.count "failed".toList)
  once : ∀ earlier turn later, turns = earlier ++ turn :: later →
    let before := session earlier start
    if turn.call.submits then
      ∃ label, ∀ other, (turn.take before).counters.submissions.count other =
        before.counters.submissions.count other + if other = label then 1 else 0
    else (turn.take before).counters.submissions = before.counters.submissions
  succeeded : after.counters.snapshot.submissionsSucceeded =
    (gather Turn.submissions turns start).countP (·.isOk)
  unsuccessful : after.counters.snapshot.submissionsFailed =
    (gather Turn.submissions turns start).countP (!·.isOk)
  called : after.invocations.length = start.invocations.length +
    (after.counters.submissions.count "success".toList +
      after.counters.submissions.count "tool_invocation".toList +
      after.counters.submissions.count "tool_protocol".toList)

/-- The counters of any session are what the session has done. -/
theorem session_conserved {turns : List Turn} {start : World}
    (hm : ∀ turn ∈ turns, turn.depot.metered)
    (hz : ∀ outcome, start.counters.count outcome = 0) :
    Conserved turns start (session turns start) where
  created := count_ofEnding hm hz (some .created)
  reused := count_ofEnding hm hz (some .alreadyPresent)
  failed := count_ofEnding hm hz none
  added := by
    rw [StageCall.sum_encard_added, ← count_ofEnding hm hz (some .created)]
    rfl
  lookups := (count_lookups hm hz).trans (length_gather_answers turns start)
  asked := by
    rw [(session_tallied hm start).lookups, ← count_lookups hm hz]
    rfl
  once := by
    rintro earlier turn later rfl
    exact Turn.take_submissions (hm turn (by simp)) (session earlier start)
  succeeded := count_succeeded hm hz
  unsuccessful := sum_failed hm hz
  called := by
    rw [(session_tallied hm start).calls, ← sum_called hm hz]
    exact congrArg (start.invocations.length + ·) (Nat.add_assoc _ _ _).symm

/-- A file is created and reused, other content is refused. -/
theorem session_conserved_mixed :
    let depot : Depot :=
      { oracle := .fixed "/d/a".toList, fingerprinter := .constant [], tool := .created 7 }
    let request : Submission.Request :=
      ⟨"app".toList, "run".toList, .inline (Text.encode "run".toList)⟩
    let calls : List Call :=
      [.stage "a".toList (Text.encode "run".toList), .submit request, .stage "a".toList [0],
        .locate "a".toList [], .submitParts "app".toList "run".toList none none]
    let start : World := { files := .empty }
    let turns := calls.map (Turn.mk depot)
    (∀ turn ∈ turns, turn.depot.metered) ∧ (∀ outcome, start.counters.count outcome = 0) ∧
      (session turns start).counters.snapshot = ⟨1, 2, 1, 1⟩ ∧
      Conserved turns start (session turns start) := by
  intro depot request calls start turns
  have hm : ∀ turn ∈ turns, turn.depot.metered := by
    intro turn ht
    obtain ⟨call, _, rfl⟩ := List.mem_map.mp ht
    rfl
  have hz : ∀ outcome, start.counters.count outcome = 0 := by
    intro outcome
    cases outcome <;> rfl
  exact ⟨hm, hz, by decide +kernel, session_conserved hm hz⟩

end WorkDepot
