import WorkDepot.Proofs.FileSystem.Walk

/-! # What is read has a name

A walk takes a step from directories only, so that all locations above the one it arrives at are
directories. A path whose last step is no name goes up at its end, or stays at the root, and leads
to a directory in either case. Hence a path that can be read ends in a file name. A path without a
parent takes no step that does not stay.
-/
namespace WorkDepot

namespace Path

theorem dropStays_cons (segment : Text) (earlier : List Text) : dropStays (segment :: earlier) =
    if Step.ofSegment segment = .stay then dropStays earlier else segment :: earlier := by
  simp [dropStays, List.dropWhile_cons]

/-- The segments that are dropped all say to stay. -/
theorem steps_dropStays (reversed : List Text) : ∃ count, reversed.map Step.ofSegment =
    List.replicate count .stay ++ (dropStays reversed).map Step.ofSegment := by
  induction reversed with
  | nil => exact ⟨0, rfl⟩
  | cons segment earlier ih =>
    rw [dropStays_cons]
    split
    · next hstay =>
      obtain ⟨count, hcount⟩ := ih
      exact ⟨count + 1, by rw [List.map_cons, hstay, hcount, List.replicate_succ, List.cons_append]⟩
    · exact ⟨0, rfl⟩

theorem ofSegment_ne_stay {reversed earlier : List Text} {segment : Text}
    (h : dropStays reversed = segment :: earlier) : Step.ofSegment segment ≠ .stay := by
  induction reversed with
  | nil => cases h
  | cons first more ih =>
    rw [dropStays_cons] at h
    split at h
    · exact ih h
    · next hne =>
      cases h
      exact hne

/-- The steps of an absolute path, as far as its last segment that does not say to stay, and no step
beyond. -/
theorem steps_eq_dropStays {path : Text} (ha : isAbsolute path) : ∃ count, steps path =
    .stay :: ((dropStays (Text.splitAt '/' (body path)).reverse).map Step.ofSegment).reverse ++
      List.replicate count .stay := by
  obtain ⟨rest, rfl⟩ := isAbsolute_iff.mp ha
  have hbody : body ('/' :: rest) = rest := by simp [body, isAbsolute]
  have hsteps : steps ('/' :: rest) = .stay :: (Text.splitAt '/' rest).map Step.ofSegment := rfl
  obtain ⟨count, hcount⟩ := steps_dropStays (Text.splitAt '/' rest).reverse
  have hcut := congrArg List.reverse hcount
  rw [List.map_reverse, List.reverse_reverse, List.reverse_append, List.reverse_replicate] at hcut
  refine ⟨count, ?_⟩
  rw [hsteps, hcut, hbody, List.cons_append]

/-- A path without a parent stays. -/
theorem steps_of_parent?_eq_none {path : Text} (ha : isAbsolute path) (h : parent? path = none) :
    ∃ count, steps path = List.replicate count .stay := by
  obtain ⟨count, hsteps⟩ := steps_eq_dropStays ha
  unfold parent? at h
  split at h
  · next hnothing =>
    rw [hnothing] at hsteps
    exact ⟨count + 1, hsteps⟩
  · cases h

/-- A path without a file name stays, or goes up and stays. -/
theorem steps_of_fileName?_eq_none {path : Text} (ha : isAbsolute path)
    (h : fileName? path = none) :
    ∃ before count, steps path = before ++ List.replicate count .stay ∧
      (before = [] ∨ ∃ earlier, before = earlier ++ [.up]) := by
  obtain ⟨count, hsteps⟩ := steps_eq_dropStays ha
  unfold fileName? at h
  cases hlast : dropStays (Text.splitAt '/' (body path)).reverse with
  | nil =>
    rw [hlast] at hsteps
    exact ⟨[], count + 1, hsteps, .inl rfl⟩
  | cons segment earlier =>
    have hstay := ofSegment_ne_stay hlast
    rw [hlast] at h hsteps
    have hup : Step.ofSegment segment = .up := by
      cases hstep : Step.ofSegment segment with
      | stay => exact absurd hstep hstay
      | up => rfl
      | into name => simp [hstep] at h
    rw [List.map_cons, List.reverse_cons, hup] at hsteps
    exact ⟨_, count, hsteps, .inr ⟨.stay :: (earlier.map Step.ofSegment).reverse, rfl⟩⟩

end Path

namespace FileSystem
variable {fs : FileSystem} {links left : Nat} {start finish location : Location}
variable {steps : List Path.Step} {path : Text}

/-- All locations above are directories. -/
def Rooted (fs : FileSystem) (location : Location) : Prop :=
  ∀ above, above <:+ location.tail → fs.node? above = some .directory

theorem rooted_root : fs.Rooted [] := by
  intro above ha
  rw [List.suffix_nil.mp ha]
  exact node?_root

theorem Rooted.up (h : fs.Rooted location) : fs.Rooted location.tail :=
  fun above ha => h above (ha.trans (List.tail_suffix _))

theorem Rooted.enter (h : fs.Rooted location) (hd : fs.node? location = some .directory)
    (name : Name) : fs.Rooted (name :: location) := by
  intro above ha
  cases location with
  | nil => exact rooted_root above ha
  | cons inner outer =>
    rcases List.suffix_cons_iff.mp ha with rfl | ha
    · exact hd
    · exact h above ha

theorem Walks.rooted (hw : fs.Walks links start steps finish left) (h : fs.Rooted start) :
    fs.Rooted finish := by
  induction hw with
  | arrive => exact h
  | stay _ _ ih => exact ih h
  | up _ _ ih => exact ih h.up
  | enter hd _ _ _ _ ih => exact ih (h.enter hd _)
  | follow _ _ _ _ ih =>
    apply ih
    rw [linkBase]
    split
    · exact rooted_root
    · exact h

theorem Walks.up_directory (h : fs.Walks links [] (steps ++ [.up]) finish left) :
    fs.node? finish = some .directory := by
  obtain ⟨middle, between, hmiddle, hup⟩ := h.split rfl
  cases hup with
  | up _ harrive =>
    cases harrive with
    | arrive => exact hmiddle.rooted rooted_root _ List.suffix_rfl

/-- A path without a file name leads to a directory. -/
theorem directory_of_fileName?_eq_none (ha : Path.isAbsolute path)
    (h : Path.fileName? path = none) (hl : fs.locate path = .ok finish) :
    fs.node? finish = some .directory := by
  obtain ⟨_, left, hw⟩ := locate_eq_ok_iff.mp hl
  obtain ⟨before, count, hsteps, hbefore⟩ := Path.steps_of_fileName?_eq_none ha h
  obtain ⟨middle, between, hmiddle, hstays⟩ := hw.split hsteps
  have hdirectory : fs.node? middle = some .directory := by
    rcases hbefore with rfl | ⟨earlier, rfl⟩
    · cases hmiddle with
      | arrive => exact node?_root
    · exact hmiddle.up_directory
  obtain ⟨rfl, _⟩ := hstays.unique (Walks.stays hdirectory count)
  exact hdirectory

theorem fileName?_of_read {content : Bytes} (ha : Path.isAbsolute path)
    (hr : fs.read path = .ok content) : ∃ name, Path.fileName? path = some name := by
  obtain ⟨location, mode, hl, hn⟩ := read_eq_ok_iff.mp hr
  cases hname : Path.fileName? path with
  | some name => exact ⟨name, rfl⟩
  | none =>
    rw [directory_of_fileName?_eq_none ha hname hl] at hn
    cases hn

end FileSystem
end WorkDepot
