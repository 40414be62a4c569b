import WorkDepot.Proofs.Metrics.Counts
import WorkDepot.Proofs.Metrics.Exposition
import WorkDepot.Proofs.Metrics.Histories

/-! # What registries tell of their histories

A registry has of every counter and label the number of increments that came through its handles,
and shows exactly the labels that these have incremented or that a snapshot through one of them has
looked at. One request keeps this, for the registry that it goes to and for all others.
-/
namespace WorkDepot.Metrics

/-- The registries after some requests. -/
def after (requests : List Request) : Registries :=
  requests.foldl (fun registries request => (registries.serve request).2) {}

/-- What a request answers after some others. -/
def answer (requests : List Request) (request : Request) : Reply :=
  ((after requests).serve request).1

/-! ## Families -/

namespace Family
variable (family : Family)

theorem mem_increment (label other : Text) :
    other ∈ family.increment label ↔ label = other ∨ other ∈ family := by
  rw [increment, Std.ExtTreeMap.mem_insert, Std.LawfulEqCmp.compare_eq_iff_eq]

theorem touchAll_cons (label : Text) (labels : List Text) :
    family.touchAll (label :: labels) = (family.touch label).touchAll labels := rfl

theorem mem_touch (label other : Text) :
    other ∈ family.touch label ↔ label = other ∨ other ∈ family := by
  rw [touch, Std.ExtTreeMap.mem_insertIfNew, Std.LawfulEqCmp.compare_eq_iff_eq]

theorem mem_touchAll (labels : List Text) (other : Text) :
    other ∈ family.touchAll labels ↔ other ∈ labels ∨ other ∈ family := by
  induction labels generalizing family with
  | nil => simp [touchAll]
  | cons label labels ih =>
    rw [touchAll_cons, ih, mem_touch, List.mem_cons, eq_comm (a := other), or_left_comm, or_assoc]

theorem count_touch (label other : Text) :
    (family.touch label).count other = family.count other := by
  rw [count, touch, Std.ExtTreeMap.getD_insertIfNew]
  split
  · next h =>
    obtain ⟨heq, hnot⟩ := h
    rw [Std.LawfulEqCmp.compare_eq_iff_eq] at heq
    subst heq
    exact (Std.ExtTreeMap.getD_eq_fallback hnot).symm
  · rfl

theorem count_touchAll (labels : List Text) (other : Text) :
    (family.touchAll labels).count other = family.count other := by
  induction labels generalizing family with
  | nil => rfl
  | cons label labels ih =>
    rw [touchAll_cons, ih, count_touch]

end Family

namespace Counters
variable (counters : Counters)

theorem family_watch (subject : Subject) :
    counters.watch.family subject = (counters.family subject).touchAll (lookedAt subject) := by
  have hlabels : (watched.filter fun outcome => outcome.subject = subject).map Outcome.label =
      lookedAt subject := by
    cases subject <;> decide
  rw [← hlabels]
  cases subject <;> rfl

end Counters

/-- What a request does to the counters of the registry that it goes to. -/
def Request.change : Request → Counters → Counters
  | increment _ subject label => (·.increment subject label)
  | snapshot _ => Counters.watch
  | _ => id

theorem Request.count_change (request : Request) (counters : Counters) (subject : Subject)
    (label : Text) : ((request.change counters).family subject).count label =
      (counters.family subject).count label + if request.adds subject label then 1 else 0 := by
  cases request with
  | increment handle other name =>
    rw [change, Counters.family_increment]
    by_cases hs : other = subject
    · simp [adds, hs, Family.count_increment]
    · simp [adds, hs]
  | snapshot handle =>
    rw [change, Counters.family_watch, Family.count_touchAll]
    rfl
  | _ => rfl

theorem Request.mem_change (request : Request) (counters : Counters) (subject : Subject)
    (label : Text) : label ∈ (request.change counters).family subject ↔
      request.shows subject label ∨ label ∈ counters.family subject := by
  cases request with
  | increment handle other name =>
    rw [change, Counters.family_increment]
    by_cases hs : other = subject
    · simp [shows, hs, Family.mem_increment]
    · simp [shows, hs]
  | snapshot handle =>
    rw [change, Counters.family_watch, Family.mem_touchAll]
    simp [shows]
  | _ => simp [change, shows]

/-! ## What one more request does -/

namespace Registries
variable (registries : Registries) (request : Request)

theorem reached_serve {handle : Nat} (h : handle < registries.handles.length) :
    (registries.serve request).2.reached handle = registries.reached handle := by
  cases request <;> first | rfl | exact List.getD_append _ _ _ _ h

/-- A request changes the registry that it goes to and no other. -/
theorem getD_serve {index : Nat} (h : index < registries.counters.length) :
    (registries.serve request).2.counters.getD index {} =
      if request.handle?.any fun through => registries.reached through = index then
        request.change (registries.counters.getD index {})
      else registries.counters.getD index {} := by
  have hupdate : ∀ handle change, (registries.update handle change).counters.getD index {} =
      if registries.reached handle = index then change (registries.counters.getD index {})
      else registries.counters.getD index {} := by
    intro handle change
    rw [update, List.getD_eq_getElem?_getD, List.getElem?_modify, List.getD_eq_getElem?_getD,
      List.getElem?_eq_getElem h]
    split <;> rfl
  cases request with
  | newRegistry => exact List.getD_append _ _ _ _ h
  | increment handle subject label =>
    simpa [serve, Request.handle?, Request.change] using hupdate handle (·.increment subject label)
  | snapshot handle =>
    simpa [serve, Request.handle?, Request.change] using hupdate handle Counters.watch
  | cloneHandle handle => simp [serve, Request.change]
  | render handle => simp [serve, Request.change]

theorem length_counters_serve :
    registries.counters.length ≤ (registries.serve request).2.counters.length := by
  cases request <;> simp [serve, update]

end Registries

/-! ## Runs -/

/-- The counters that a handle reaches are those of its history. -/
structure Faithful (requests : List Request) (registries : Registries) (handle : Nat) : Prop where
  lt : registries.reached handle < registries.counters.length
  count_eq : ∀ subject label, ((registries.countersOf handle).family subject).count label =
    incremented requests handle subject label
  mem_iff : ∀ subject label, label ∈ (registries.countersOf handle).family subject ↔
    shown requests handle subject label

/-- The registries are as the requests have left them. -/
structure Recorded (requests : List Request) (registries : Registries) : Prop where
  length_eq : registries.handles.length = (openers requests).length
  faithful : ∀ handle < (openers requests).length, Faithful requests registries handle
  reached_eq_iff : ∀ handle < (openers requests).length, ∀ other < (openers requests).length,
    registries.reached handle = registries.reached other ↔
      opener requests handle = opener requests other

section Step
variable {requests : List Request} {registries : Registries} {request : Request} {handle : Nat}

/-- A handle reaches what one before the request reached, or it is that of a new registry. -/
theorem Recorded.origin (recorded : Recorded requests registries)
    (held : Held (requests ++ [request]))
    (h : handle < (openers (requests ++ [request])).length) :
    (∃ old < (openers requests).length,
      (registries.serve request).2.reached handle = registries.reached old ∧
        opener (requests ++ [request]) handle = opener requests old) ∨
    (request = .newRegistry ∧ handle = (openers requests).length ∧
      (registries.serve request).2.reached handle = registries.counters.length) := by
  rcases lt_length_openers_snoc h with hold | ⟨rfl, rfl | ⟨old, rfl⟩⟩
  · have hreached := registries.reached_serve request (recorded.length_eq ▸ hold)
    exact .inl ⟨handle, hold, hreached, opener_snoc hold⟩
  · refine .inr ⟨rfl, rfl, ?_⟩
    rw [← recorded.length_eq]
    simp [Registries.serve, Registries.reached]
  · refine .inl ⟨old, (held_snoc_iff.mp held).2 old rfl, ?_, opener_cloneHandle⟩
    rw [← recorded.length_eq]
    simp [Registries.serve, Registries.reached]

/-- The counters of a handle after a request, from those of one that reached the same registry. -/
theorem Recorded.countersOf_serve (recorded : Recorded requests registries)
    (held : Held (requests ++ [request])) {old : Nat} (hold : old < (openers requests).length)
    (hreached : (registries.serve request).2.reached handle = registries.reached old) :
    (registries.serve request).2.countersOf handle =
      if goesTo requests old request then request.change (registries.countersOf old)
      else registries.countersOf old := by
  have hgoes : (request.handle?.any fun through =>
      registries.reached through = registries.reached old) = goesTo requests old request := by
    unfold goesTo
    cases hhandle : request.handle? with
    | none => rfl
    | some through =>
      have hthrough := (held_snoc_iff.mp held).2 through hhandle
      have hiff := recorded.reached_eq_iff through hthrough old hold
      simp only [Option.any_some, hiff]
  rw [Registries.countersOf, hreached,
    registries.getD_serve request (recorded.faithful old hold).lt, hgoes]
  rfl

theorem Recorded.faithful_serve (recorded : Recorded requests registries)
    (held : Held (requests ++ [request]))
    (h : handle < (openers (requests ++ [request])).length) :
    Faithful (requests ++ [request]) (registries.serve request).2 handle := by
  rcases recorded.origin held h with ⟨old, hold, hreached, hopener⟩ | ⟨rfl, rfl, hreached⟩
  · have hfaithful := recorded.faithful old hold
    have hcounters := recorded.countersOf_serve held hold hreached
    constructor
    · rw [hreached]
      exact hfaithful.lt.trans_le (registries.length_counters_serve request)
    · intro subject label
      rw [hcounters, incremented_snoc held hopener, ← hfaithful.count_eq]
      cases goesTo requests old request
      · rfl
      · simp only [if_true, true_and]
        exact request.count_change _ subject label
    · intro subject label
      rw [hcounters, shown_snoc held hopener, ← hfaithful.mem_iff]
      cases goesTo requests old request
      · simp
      · simp only [if_true, true_and]
        exact (request.mem_change _ subject label).trans or_comm
  · have hcounters :
        (registries.serve .newRegistry).2.countersOf (openers requests).length = {} := by
      rw [Registries.countersOf, hreached]
      simp [Registries.serve]
    constructor
    · rw [hreached]
      simp [Registries.serve]
    · intro subject label
      rw [hcounters, incremented, received_newRegistry held]
      cases subject <;> rfl
    · intro subject label
      rw [hcounters, shown, received_newRegistry held]
      cases subject <;> simp [Counters.family]

/-- A request keeps the registries as the requests have left them. -/
theorem Recorded.serve (recorded : Recorded requests registries)
    (held : Held (requests ++ [request])) :
    Recorded (requests ++ [request]) (registries.serve request).2 := by
  refine ⟨?_, fun handle h => recorded.faithful_serve held h, ?_⟩
  · rw [openers_snoc]
    cases request <;> simp [Registries.serve, Registries.update, opened, recorded.length_eq]
  · intro handle h other ho
    have hfresh : ∀ old < (openers requests).length,
        registries.reached old ≠ registries.counters.length ∧
          opener requests old ≠ (openers requests).length := by
      intro old hold
      exact ⟨(recorded.faithful old hold).lt.ne, ((held_snoc_iff.mp held).1.opener_lt hold).ne⟩
    -- both were there before, or one of them or both are that of the new registry
    rcases recorded.origin held h with ⟨old, hold, hreached, hopener⟩ | ⟨rfl, rfl, hreached⟩ <;>
      rcases recorded.origin held ho with
        ⟨old', hold', hreached', hopener'⟩ | ⟨hnew, rfl, hreached'⟩
    · rw [hreached, hreached', hopener, hopener']
      exact recorded.reached_eq_iff old hold old' hold'
    · subst hnew
      rw [hreached, hreached', hopener, opener_newRegistry]
      exact iff_of_false (hfresh old hold).1 (hfresh old hold).2
    · rw [hreached, hreached', hopener', opener_newRegistry]
      exact iff_of_false (hfresh old' hold').1.symm (hfresh old' hold').2.symm
    · exact iff_of_true rfl rfl

end Step

theorem after_snoc (requests : List Request) (request : Request) :
    after (requests ++ [request]) = ((after requests).serve request).2 := by
  rw [after, List.foldl_append]
  rfl

theorem recorded_nil : Recorded [] {} := by
  have hzero : ∀ handle < (openers []).length, handle = 0 := by simp [openers]
  refine ⟨rfl, ?_, ?_⟩
  · intro handle h
    rw [hzero handle h]
    refine ⟨by decide, fun subject label => ?_, fun subject label => ?_⟩
    · cases subject <;> rfl
    · cases subject <;> simp [Registries.countersOf, Registries.reached, Counters.family, shown,
        received]
  · intro handle h other ho
    rw [hzero handle h, hzero other ho]
    exact iff_of_true rfl rfl

theorem Held.recorded {requests : List Request} (held : Held requests) :
    Recorded requests (after requests) := by
  induction held with
  | nil => exact recorded_nil
  | @snoc requests request before has ih =>
    rw [after_snoc]
    exact ih.serve (.snoc before has)

/-! ## What is told through a handle -/

section Faithful
variable {requests : List Request} {registries : Registries} {handle : Nat}
  (faithful : Faithful requests registries handle)
include faithful

theorem Faithful.snapshot_eq : (registries.countersOf handle).snapshot =
    { stagedCreated := incremented requests handle .staged "created".toList
      stagedReused := incremented requests handle .staged "reused".toList
      submissionsSucceeded := incremented requests handle .submissions "success".toList
      submissionsFailed :=
        (["configuration", "consistency", "oracle", "storage", "tool_invocation",
          "tool_protocol"].map fun label =>
            incremented requests handle .submissions label.toList).sum } := by
  have hcount : ∀ outcome, (registries.countersOf handle).count outcome =
      incremented requests handle outcome.subject outcome.label :=
    fun outcome => faithful.count_eq outcome.subject outcome.label
  have hfailed := (registries.countersOf handle).snapshot_submissionsFailed
  simp only [hcount] at hfailed
  rw [Snapshot.mk.injEq]
  exact ⟨hcount .fileCreated, hcount .fileReused, hcount .submissionSucceeded, hfailed⟩

theorem Faithful.readCounter_eq (subject : Subject) : ∃ labels : List Text,
    (labels.Pairwise fun first second => Text.encode first < Text.encode second) ∧
    (∀ label, label ∈ labels ↔ shown requests handle subject label) ∧
    readCounter subject (registries.countersOf handle).render =
      some (labels.map fun label => (label, incremented requests handle subject label)) := by
  let family := (registries.countersOf handle).family subject
  refine ⟨family.keys, family.pairwise_keys, fun label => ?_, ?_⟩
  · rw [Std.ExtTreeMap.mem_keys]
    exact faithful.mem_iff subject label
  · rw [readCounter_render, Family.toList_eq_keys]
    simp only [faithful.count_eq, family]

end Faithful

/-- After any requests, what is told through a handle is what the history of its registry has.
A snapshot has the numbers of increments, with the sum over the six labels of failures. What is
read of a counter in the text has the number of increments of every label that was incremented or
that a snapshot looked at, once, in the order of the bytes. Requests to other registries, and those
that make a handle, leave the counters as they are, and a snapshot leaves every count. -/
theorem Held.answers_exact {requests : List Request} (held : Held requests) {handle : Nat}
    (h : handle < (openers requests).length) :
    answer requests .newRegistry = .handle (openers requests).length ∧
    answer requests (.cloneHandle handle) = .handle (openers requests).length ∧
    answer requests (.snapshot handle) = .snapshot
      { stagedCreated := incremented requests handle .staged "created".toList
        stagedReused := incremented requests handle .staged "reused".toList
        submissionsSucceeded := incremented requests handle .submissions "success".toList
        submissionsFailed :=
          (["configuration", "consistency", "oracle", "storage", "tool_invocation",
            "tool_protocol"].map fun label =>
              incremented requests handle .submissions label.toList).sum } ∧
    (∃ rendered, answer requests (.render handle) = .text rendered ∧
      ∀ subject, ∃ labels : List Text,
        (labels.Pairwise fun first second => Text.encode first < Text.encode second) ∧
        (∀ label, label ∈ labels ↔ shown requests handle subject label) ∧
        readCounter subject rendered =
          some (labels.map fun label => (label, incremented requests handle subject label))) ∧
    (∀ request, (∀ through ∈ request.handle?, through < (openers requests).length) →
      goesTo requests handle request = false →
        (after (requests ++ [request])).countersOf handle = (after requests).countersOf handle) ∧
    ∀ other < (openers requests).length, ∀ subject label,
      (((after (requests ++ [.snapshot handle])).countersOf other).family subject).count label =
        (((after requests).countersOf other).family subject).count label := by
  have recorded := held.recorded
  have hfaithful := recorded.faithful handle h
  have hserve : ∀ request, (∀ through ∈ request.handle?, through < (openers requests).length) →
      ∀ other < (openers requests).length, (after (requests ++ [request])).countersOf other =
        if goesTo requests other request then request.change ((after requests).countersOf other)
        else (after requests).countersOf other := by
    intro request has other ho
    rw [after_snoc]
    exact recorded.countersOf_serve (.snoc held has) ho
      (Registries.reached_serve _ request (recorded.length_eq ▸ ho))
  refine ⟨congrArg Reply.handle recorded.length_eq, congrArg Reply.handle recorded.length_eq,
    congrArg Reply.snapshot hfaithful.snapshot_eq, ⟨_, rfl, hfaithful.readCounter_eq⟩, ?_, ?_⟩
  · intro request has hgoes
    rw [hserve request has handle h, hgoes, if_neg Bool.false_ne_true]
  · intro other ho subject label
    have has : ∀ through ∈ (Request.snapshot handle).handle?,
        through < (openers requests).length := by
      rintro through ⟨rfl⟩
      exact h
    rw [hserve (.snapshot handle) has other ho]
    split
    · exact Request.count_change (.snapshot handle) _ subject label
    · rfl

/-- What a clone has counted is told through the handle that it comes from. The registry that was
there at the start has seen nothing of it. -/
theorem answers_of_clone :
    let requests := [] ++ [Request.newRegistry] ++ [Request.cloneHandle 1] ++
      [Request.increment 2 .staged "created".toList] ++
      [Request.increment 0 .staged "reused".toList]
    Held requests ∧ 1 < (openers requests).length ∧
      answer requests (.snapshot 1) = .snapshot
        { stagedCreated := 1, stagedReused := 0, submissionsSucceeded := 0,
          submissionsFailed := 0 } := by
  intro requests
  have held : Held requests :=
    .snoc (.snoc (.snoc (.snoc .nil (by decide)) (by decide)) (by decide)) (by decide)
  have hlt : 1 < (openers requests).length := by decide
  exact ⟨held, hlt, (held.answers_exact hlt).2.2.1.trans (congrArg Reply.snapshot (by decide))⟩

end WorkDepot.Metrics
