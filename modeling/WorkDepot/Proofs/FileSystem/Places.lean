import WorkDepot.Helper
import WorkDepot.Proofs.FileSystem.Walk

/-! # Places

A place is where the steps of a path lead when no link is met, and in a file system without links
that is where the path leads. The path of a location, written with the names of it and nothing else,
goes through the locations above it one by one.
-/
namespace WorkDepot.FileSystem
variable {fs : FileSystem} {links left : Nat} {start finish location target : Location}
variable {steps : List Path.Step} {path : Text}

/-- The names that a step adds or takes away when no link is met. -/
def placeAfter (location : Location) : Path.Step → Location
  | .stay => location
  | .up => location.tail
  | .into name => name :: location

/-- Where a path leads when no link is met. -/
def place (path : Text) : Location := (Path.steps path).foldl placeAfter []

/-- The path goes through the location, or ends there, when no link is met. -/
def Visits (path : Text) (location : Location) : Prop :=
  ∃ taken rest, Path.steps path = taken ++ rest ∧ taken.foldl placeAfter [] = location

/-- There are no symbolic links. -/
def LinkFree (fs : FileSystem) : Prop := ∀ location target, fs.node? location ≠ some (.link target)

theorem linkFree_empty : empty.LinkFree := by
  intro location target h
  cases location with
  | nil => cases h
  | cons name directory => simp [node?_cons, empty] at h

theorem LinkFree.insert (hf : fs.LinkFree) (hne : location ≠ []) {node : Node}
    (hnode : ∀ target, node ≠ .link target) : (fs.insert location node).LinkFree := by
  intro other target h
  rw [node?_insert hne] at h
  split at h
  · exact hnode target (Option.some.inj h)
  · exact hf other target h

theorem visits_place (path : Text) : Visits path (place path) :=
  ⟨Path.steps path, [], (List.append_nil _).symm, rfl⟩

theorem Visits.of_above {above : Text} {location : Location} (h : Visits above location)
    (ha : Path.Above above path) : Visits path location := by
  obtain ⟨taken, rest, hs, hl⟩ := h
  obtain ⟨more, hm⟩ := ha.steps
  exact ⟨taken, rest ++ more, by rw [hm, hs, List.append_assoc], hl⟩

theorem Walks.finish_eq (hf : fs.LinkFree) (h : fs.Walks links start steps finish left) :
    finish = steps.foldl placeAfter start := by
  induction h with
  | arrive => rfl
  | stay _ _ ih => exact ih
  | up _ _ ih => exact ih
  | enter _ _ _ _ _ ih => exact ih
  | follow _ _ hn _ _ => exact absurd hn (hf _ _)

theorem locate_eq_place (hf : fs.LinkFree) (h : fs.locate path = .ok finish) :
    finish = place path := by
  obtain ⟨_, left, hw⟩ := locate_eq_ok_iff.mp h
  exact hw.finish_eq hf

theorem foldl_stays (location : Location) (count : Nat) :
    (List.replicate count Path.Step.stay).foldl placeAfter location = location := by
  induction count with
  | zero => rfl
  | succ count ih => exact ih

theorem slot_location_eq_place {slot : Slot} (hf : fs.LinkFree)
    (h : fs.slot path = .ok (some slot)) : slot.location = place path := by
  obtain ⟨_, ⟨left, hw⟩, _, hname, _, _⟩ := slot_eq_some_iff.mp h
  obtain ⟨count, hsteps, _⟩ := Path.ending_steps hname
  rw [place, hsteps, List.foldl_append, ← hw.finish_eq hf, List.foldl_cons, foldl_stays]
  rfl

/-! ## The path of a location -/

theorem foldl_into (names : List Name) (location : Location) :
    (names.map Path.Step.into).foldl placeAfter location = names.reverse ++ location := by
  induction names generalizing location with
  | nil => rfl
  | cons name names ih =>
    rw [List.map_cons, List.foldl_cons, ih, List.reverse_cons, List.append_assoc]
    rfl

theorem steps_pathOf (hne : location ≠ []) (hp : ∀ name ∈ location, Path.Plain name) :
    Path.steps (Helper.pathOf location) = .stay :: location.reverse.map .into := by
  have hspelled : Helper.pathOf location = location.reverse.flatMap ('/' :: ·) := by
    simp [Helper.pathOf, hne]
  rw [hspelled]
  clear hspelled hne
  induction location with
  | nil => rfl
  | cons name directory ih =>
    have hname := (hp name List.mem_cons_self).steps
    have hrest := ih fun other hm => hp other (List.mem_cons_of_mem name hm)
    simp only [List.reverse_cons, List.flatMap_append, List.flatMap_singleton, List.map_append]
    rw [Path.steps_append, hrest, hname]
    rfl

/-- Cutting the path of a location cuts the location. -/
theorem split_pathOf (hne : location ≠ []) (hp : ∀ name ∈ location, Path.Plain name)
    {taken rest : List Path.Step} (ht : taken ≠ [])
    (h : Path.steps (Helper.pathOf location) = taken ++ rest) :
    ∃ below, location = below ++ taken.foldl placeAfter [] ∧ rest = below.reverse.map .into := by
  rw [steps_pathOf hne hp] at h
  cases taken with
  | nil => exact absurd rfl ht
  | cons step taken =>
    rw [List.cons_append, List.cons.injEq] at h
    obtain ⟨rfl, hnames⟩ := h
    obtain ⟨first, second, hl, rfl, rfl⟩ := List.map_eq_append_iff.mp hnames
    refine ⟨second.reverse, ?_, by rw [List.reverse_reverse]⟩
    rw [List.foldl_cons, foldl_into]
    have hrev := congrArg List.reverse hl
    rw [List.reverse_reverse, List.reverse_append] at hrev
    rw [hrev]
    simp [placeAfter]

theorem place_pathOf (hne : location ≠ []) (hp : ∀ name ∈ location, Path.Plain name) :
    place (Helper.pathOf location) = location := by
  rw [place, steps_pathOf hne hp, List.foldl_cons, foldl_into]
  simp [placeAfter]

/-- The path of a location goes through the locations above it only. -/
theorem suffix_of_visits (hne : location ≠ []) (hp : ∀ name ∈ location, Path.Plain name)
    (h : Visits (Helper.pathOf location) target) : target <:+ location := by
  obtain ⟨taken, rest, hs, rfl⟩ := h
  by_cases ht : taken = []
  · rw [ht]
    exact List.nil_suffix
  · obtain ⟨below, hl, _⟩ := split_pathOf hne hp ht hs
    exact ⟨below, hl.symm⟩

/-- No path above the path of a location leads to the location. -/
theorem place_ne_of_above (hne : location ≠ []) (hp : ∀ name ∈ location, Path.Plain name)
    {above : Text} (ha : Path.Above above (Helper.pathOf location)) : place above ≠ location := by
  obtain ⟨_, rest, he⟩ := ha
  have hs := Path.steps_append above rest
  rw [← he] at hs
  have habove : Path.steps above ≠ [] := Path.steps_ne_nil above
  obtain ⟨below, hl, hrest⟩ := split_pathOf hne hp habove hs
  intro hplace
  rw [place] at hplace
  rw [hplace] at hl
  have hbelow : below = [] := by simpa using hl
  rw [hbelow] at hrest
  exact Path.steps_ne_nil rest hrest

end WorkDepot.FileSystem
