import Mathlib
import WorkDepot.Metrics.Registries

/-! # Histories of requests

Handles reach the same registry if they come, by cloning, from the same first handle. What has been
incremented in a registry, and what a snapshot of it has looked at, is told by the requests that
went through these handles. One more request adds to what its own registry has received, and a new
registry has received nothing.
-/
namespace WorkDepot.Metrics

namespace Request

/-- The handle that a request goes through. A new registry needs none. -/
def handle? : Request → Option Nat
  | newRegistry => none
  | cloneHandle handle | increment handle _ _ | snapshot handle | render handle => some handle

/-- Whether a request increments a label. -/
def adds (subject : Subject) (label : Text) : Request → Bool
  | increment _ other name => other = subject && name = label
  | _ => false

end Request

/-- The labels that a snapshot looks at. -/
def lookedAt : Subject → List Text
  | .lookups => []
  | .staged => ["created".toList, "reused".toList]
  | .submissions => ["success".toList, "configuration".toList, "consistency".toList,
      "oracle".toList, "storage".toList, "tool_invocation".toList, "tool_protocol".toList]

/-- Whether a label is there after a request. -/
def Request.shows (subject : Subject) (label : Text) : Request → Bool
  | increment _ other name => other = subject && name = label
  | snapshot _ => label ∈ lookedAt subject
  | _ => false

/-- The first handle of the registry that each handle reaches, with the handles that one more
request makes. -/
def opened (openers : List Nat) : Request → List Nat
  | .newRegistry => openers ++ [openers.length]
  | .cloneHandle handle => openers ++ [openers.getD handle 0]
  | _ => openers

/-- The first handle of the registry that each handle reaches. One handle is there at the start. -/
def openers (requests : List Request) : List Nat := requests.foldl opened [0]

def opener (requests : List Request) (handle : Nat) : Nat := (openers requests).getD handle 0

/-- Whether a request goes to the registry that a handle reaches. -/
def goesTo (requests : List Request) (handle : Nat) (request : Request) : Bool :=
  request.handle?.any fun through => opener requests through = opener requests handle

/-- The requests to the registry that a handle reaches. -/
def received (requests : List Request) (handle : Nat) : List Request :=
  requests.filter (goesTo requests handle)

/-- The number of increments of a label through the handles of a registry. -/
def incremented (requests : List Request) (handle : Nat) (subject : Subject) (label : Text) : Nat :=
  (received requests handle).countP (Request.adds subject label)

/-- Whether a label of a registry has been incremented or looked at. -/
def shown (requests : List Request) (handle : Nat) (subject : Subject) (label : Text) : Bool :=
  (received requests handle).any (Request.shows subject label)

/-- Every request goes through a handle that there is when it is made. -/
inductive Held : List Request → Prop
  | nil : Held []
  | snoc {requests : List Request} {request : Request} (before : Held requests)
      (has : ∀ handle ∈ request.handle?, handle < (openers requests).length) :
      Held (requests ++ [request])

/-! ## Handles -/

section Handles
variable {requests : List Request} {request : Request} {handle old : Nat}

theorem openers_snoc : openers (requests ++ [request]) = opened (openers requests) request := by
  rw [openers, List.foldl_append]
  rfl

theorem prefix_opened (openers : List Nat) (request : Request) :
    openers <+: opened openers request := by
  cases request <;> first | exact List.prefix_append _ _ | exact List.prefix_rfl

theorem length_openers_le :
    (openers requests).length ≤ (openers (requests ++ [request])).length := by
  rw [openers_snoc]
  exact (prefix_opened _ _).length_le

theorem opener_snoc (h : handle < (openers requests).length) :
    opener (requests ++ [request]) handle = opener requests handle := by
  obtain ⟨rest, hrest⟩ := prefix_opened (openers requests) request
  rw [opener, openers_snoc, ← hrest, List.getD_append _ _ _ _ h]
  rfl

theorem opener_newRegistry :
    opener (requests ++ [.newRegistry]) (openers requests).length = (openers requests).length := by
  rw [opener, openers_snoc]
  simp [opened]

theorem opener_cloneHandle :
    opener (requests ++ [.cloneHandle old]) (openers requests).length = opener requests old := by
  rw [opener, openers_snoc]
  simp [opened, opener]

/-- A handle is there, or it is the next one that the request makes. -/
theorem lt_length_openers_snoc (h : handle < (openers (requests ++ [request])).length) :
    handle < (openers requests).length ∨ (handle = (openers requests).length ∧
      (request = .newRegistry ∨ ∃ old, request = .cloneHandle old)) := by
  rw [openers_snoc] at h
  cases request with
  | newRegistry =>
    simp only [opened, List.length_append, List.length_singleton] at h
    simp only [true_or, and_true]
    omega
  | cloneHandle old =>
    simp only [opened, List.length_append, List.length_singleton] at h
    simp only [Request.cloneHandle.injEq, exists_eq', or_true, and_true]
    omega
  | _ => exact .inl h

theorem held_snoc_iff : Held (requests ++ [request]) ↔
    Held requests ∧ ∀ through ∈ request.handle?, through < (openers requests).length := by
  constructor
  · intro held
    generalize hall : requests ++ [request] = all at held
    cases held with
    | nil => simp at hall
    | snoc before has =>
      obtain ⟨rfl, hlast⟩ := List.append_inj' hall rfl
      obtain rfl := List.singleton_inj.mp hlast
      exact ⟨before, has⟩
  · rintro ⟨before, has⟩
    exact .snoc before has

theorem Held.through_lt (held : Held requests) (hm : request ∈ requests) :
    ∀ through ∈ request.handle?, through < (openers requests).length := by
  induction held with
  | nil => cases hm
  | snoc _ has ih =>
    intro through hthrough
    apply lt_of_lt_of_le _ length_openers_le
    rcases List.mem_append.mp hm with hm | hm
    · exact ih hm through hthrough
    · rw [List.mem_singleton.mp hm] at hthrough
      exact has through hthrough

/-- First handles are handles themselves. -/
theorem Held.opener_lt (held : Held requests) (h : handle < (openers requests).length) :
    opener requests handle < (openers requests).length := by
  induction held generalizing handle with
  | nil =>
    obtain rfl : handle = 0 := by simpa [openers] using h
    decide
  | @snoc requests request _ has ih =>
    rcases lt_length_openers_snoc h with hold | ⟨rfl, rfl | ⟨old, rfl⟩⟩
    · rw [opener_snoc hold]
      exact (ih hold).trans_le length_openers_le
    · rw [opener_newRegistry]
      exact h
    · rw [opener_cloneHandle]
      exact (ih (has old rfl)).trans h

/-! ## One more request -/

/-- A request goes where it went when there were fewer handles. -/
theorem goesTo_snoc {last : Request} (has : ∀ through ∈ request.handle?,
    through < (openers requests).length)
    (hopener : opener (requests ++ [last]) handle = opener requests old) :
    goesTo (requests ++ [last]) handle request = goesTo requests old request := by
  unfold goesTo
  cases hhandle : request.handle? with
  | none => rfl
  | some through =>
    have hthrough : opener (requests ++ [last]) through = opener requests through :=
      opener_snoc (has through hhandle)
    rw [Option.any_some, Option.any_some, hopener, hthrough]

/-- A new registry has received nothing. -/
theorem received_newRegistry (held : Held (requests ++ [.newRegistry])) :
    received (requests ++ [.newRegistry]) (openers requests).length = [] := by
  obtain ⟨before, -⟩ := held_snoc_iff.mp held
  rw [received, List.filter_eq_nil_iff]
  intro other hother
  unfold goesTo
  rw [opener_newRegistry]
  cases hhandle : other.handle? with
  | none => simp
  | some through =>
    rcases List.mem_append.mp hother with ho | ho
    · have hlt := before.through_lt ho through hhandle
      have hopener := before.opener_lt hlt
      simp [opener_snoc hlt, hopener.ne]
    · rw [List.mem_singleton.mp ho] at hhandle
      cases hhandle

variable (held : Held (requests ++ [request]))
include held

/-- A registry has received what it had received before, and the request if it goes there. -/
theorem received_snoc (hopener : opener (requests ++ [request]) handle = opener requests old) :
    received (requests ++ [request]) handle =
      received requests old ++ if goesTo requests old request then [request] else [] := by
  obtain ⟨before, has⟩ := held_snoc_iff.mp held
  have hbefore : ∀ other ∈ requests, goesTo (requests ++ [request]) handle other =
      goesTo requests old other :=
    fun other ho => goesTo_snoc (before.through_lt ho) hopener
  rw [received, List.filter_append, List.filter_congr hbefore, List.filter_singleton,
    goesTo_snoc has hopener, received]
  cases goesTo requests old request <;> rfl

theorem incremented_snoc (hopener : opener (requests ++ [request]) handle = opener requests old)
    (subject : Subject) (label : Text) :
    incremented (requests ++ [request]) handle subject label =
      incremented requests old subject label +
        if goesTo requests old request ∧ request.adds subject label then 1 else 0 := by
  rw [incremented, received_snoc held hopener, List.countP_append, incremented]
  cases goesTo requests old request <;> simp

theorem shown_snoc (hopener : opener (requests ++ [request]) handle = opener requests old)
    (subject : Subject) (label : Text) :
    shown (requests ++ [request]) handle subject label ↔ shown requests old subject label ∨
      (goesTo requests old request ∧ request.shows subject label) := by
  rw [shown, received_snoc held hopener, List.any_append, shown]
  cases goesTo requests old request <;> simp

end Handles

end WorkDepot.Metrics
