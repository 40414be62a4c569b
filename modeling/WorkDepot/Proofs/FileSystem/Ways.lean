import WorkDepot.Proofs.FileSystem.Directories
import WorkDepot.Proofs.FileSystem.Named

/-! # Ways to directories

The way of a path has the steps of the path that do not say to stay, the last one first, as the
names of a location. It tells where the path leads when that is a directory, whatever slashes and
dots are spelled between the steps. An entry goes one step further, and a parent has come from the
same way.
-/
namespace WorkDepot

namespace Path

/-- The steps that do not say to stay, the last one first. -/
def moving (steps : List Step) : List Step := (steps.filter (· ≠ .stay)).reverse

def way (path : Text) : List Step := moving (steps path)

theorem moving_append (first second : List Step) :
    moving (first ++ second) = moving second ++ moving first := by
  simp [moving]

theorem way_append (first second : Text) :
    way (first ++ '/' :: second) = way second ++ way first := by
  rw [way, steps_append, moving_append]
  rfl

theorem way_slash (path : Text) : way (path ++ ['/']) = way path := way_append path []

theorem way_cons_slash (path : Text) : way ('/' :: path) = way path := by
  have happend := way_append [] path
  rw [List.nil_append] at happend
  rw [happend]
  exact List.append_nil _

theorem way_entry (directory : Text) {name : Name} (hp : Plain name) :
    way (directory ++ '/' :: name) = .into name :: way directory := by
  rw [way_append, way, hp.steps]
  rfl

/-- Joining a name goes one step further, whether or not the base is absolute, ends in a slash or is
empty. -/
theorem way_join (base : Text) {name : Name} (hp : Plain name) :
    way (join base name) = .into name :: way base := by
  have hrelative := not_isAbsolute_of_notMem hp.unslashed
  by_cases hempty : base = []
  · have hroot := way_entry [] hp
    rw [List.nil_append, way_cons_slash] at hroot
    rw [join, if_pos (by simp [hempty]), hempty]
    exact hroot
  · rw [join, if_neg (by simp [hrelative, hempty])]
    split
    · next hlast =>
      obtain ⟨front, rfl⟩ := List.getLast?_eq_some_iff.mp hlast
      rw [List.append_assoc, List.singleton_append, way_entry front hp, way_slash]
    · exact way_entry base hp

/-- A way that does not go up has names only. -/
theorem into_of_mem_way {path : Text} (hu : .up ∉ steps path) :
    ∀ step ∈ way path, ∃ name, step = .into name := by
  intro step hm
  obtain ⟨hm, hstay⟩ := List.mem_filter.mp (List.mem_reverse.mp hm)
  cases step with
  | stay => cases hstay
  | up => exact absurd hm hu
  | into name => exact ⟨name, rfl⟩

theorem moving_map_reverse (reversed : List Text) :
    moving ((reversed.map Step.ofSegment).reverse) =
      (reversed.map Step.ofSegment).filter (· ≠ .stay) := by
  rw [moving, List.filter_reverse, List.reverse_reverse]

/-- The path with these segments, the last one first, from the root if it is absolute. -/
def spelled (absolute : Bool) (reversed : List Text) : Text :=
  (if absolute then ['/'] else []) ++ ['/'].intercalate reversed.reverse

section
variable {reversed earlier : List Text} {segment : Text} {absolute : Bool}

theorem ofReversed_eq_spelled (path : Text) (reversed : List Text) :
    ofReversed path reversed = spelled (isAbsolute path) reversed := rfl

/-- A path that is not absolute does not begin with an empty segment, unless it is empty. -/
def Spellable (absolute : Bool) (reversed : List Text) : Prop :=
  absolute = false → reversed.getLast? ≠ some []

theorem Spellable.dropStays (h : Spellable absolute (segment :: earlier)) :
    Spellable absolute (dropStays earlier) := by
  intro hrelative hlast
  obtain ⟨stays, hstays⟩ := dropStays_suffix earlier
  apply h hrelative
  rw [← hstays, ← List.cons_append]
  have hne : Path.dropStays earlier ≠ [] := by
    intro hnil
    rw [hnil] at hlast
    cases hlast
  rw [List.getLast?_append_of_ne_nil _ hne, hlast]

theorem spellable_segments {path : Text} (hne : path ≠ []) :
    Spellable (isAbsolute path) (Text.splitAt '/' (body path)).reverse := by
  intro hrelative hlast
  rw [List.getLast?_reverse, body, hrelative] at hlast
  obtain ⟨c, rest, rfl⟩ := List.exists_cons_of_ne_nil hne
  have hc : c ≠ '/' := by simpa [isAbsolute] using hrelative
  rw [if_neg Bool.false_ne_true, Text.splitAt, if_neg hc] at hlast
  split at hlast <;> simp at hlast

theorem isAbsolute_spelled (hs : ∀ piece ∈ reversed, '/' ∉ piece)
    (h : Spellable absolute reversed) : isAbsolute (spelled absolute reversed) = absolute := by
  cases absolute with
  | true => rfl
  | false =>
    cases hfirst : reversed.reverse with
    | nil => simp [spelled, hfirst, isAbsolute]
    | cons first more =>
      have hne : first ≠ [] := by
        rintro rfl
        exact h rfl (by rw [List.getLast?_eq_head?_reverse, hfirst]; rfl)
      obtain ⟨c, rest, rfl⟩ := List.exists_cons_of_ne_nil hne
      have hslash : '/' ∉ c :: rest := hs _ (List.mem_reverse.mp (by simp [hfirst]))
      have hc : c ≠ '/' := fun he => hslash (by simp [he])
      cases more <;> simp [spelled, hfirst, isAbsolute, List.intercalate, hc]

theorem splitAt_intercalate (hs : ∀ piece ∈ reversed, '/' ∉ piece) (hne : reversed ≠ []) :
    Text.splitAt '/' (['/'].intercalate reversed.reverse) = reversed.reverse := by
  rw [Text.splitAt_eq_splitOn]
  exact List.splitOn_intercalate '/' (fun piece hm => hs piece (List.mem_reverse.mp hm))
    (List.reverse_ne_nil_iff.mpr hne)

/-- A slash at the beginning stands behind an empty segment. -/
theorem splitAt_spelled (hs : ∀ piece ∈ reversed, '/' ∉ piece) (hne : reversed ≠ []) :
    Text.splitAt '/' (spelled absolute reversed) =
      (if absolute then [[]] else []) ++ reversed.reverse := by
  have hsplit := splitAt_intercalate hs hne
  cases absolute with
  | true => exact congrArg ([] :: ·) hsplit
  | false => exact hsplit

theorem spelled_ne_nil (hs : ∀ piece ∈ segment :: earlier, '/' ∉ piece)
    (hstay : Step.ofSegment segment ≠ .stay) (absolute : Bool) :
    spelled absolute (segment :: earlier) ≠ [] := by
  intro he
  have hsplit : Text.splitAt '/' (spelled absolute (segment :: earlier)) = _ :=
    splitAt_spelled hs (List.cons_ne_nil _ _)
  rw [he] at hsplit
  have hmem : segment ∈ Text.splitAt '/' [] := by
    rw [hsplit]
    simp
  obtain rfl := List.mem_singleton.mp hmem
  exact hstay rfl

theorem splitAt_body_spelled (hs : ∀ piece ∈ reversed, '/' ∉ piece)
    (h : Spellable absolute reversed) (hne : reversed ≠ []) :
    Text.splitAt '/' (body (spelled absolute reversed)) = reversed.reverse := by
  rw [body, isAbsolute_spelled hs h]
  cases absolute with
  | true => exact splitAt_intercalate hs hne
  | false => exact splitAt_intercalate hs hne

theorem way_spelled (hs : ∀ piece ∈ reversed, '/' ∉ piece) :
    way (spelled absolute reversed) = (reversed.map Step.ofSegment).filter (· ≠ .stay) := by
  cases reversed with
  | nil => cases absolute <;> decide
  | cons segment earlier =>
    rw [way, steps, splitAt_spelled hs (List.cons_ne_nil _ _), List.map_append, moving_append,
      List.map_reverse, moving_map_reverse]
    cases absolute <;> simp [moving, Step.ofSegment]

theorem way_dropStays (hs : ∀ piece ∈ reversed, '/' ∉ piece) :
    way (spelled absolute (dropStays reversed)) =
      (reversed.map Step.ofSegment).filter (· ≠ .stay) := by
  obtain ⟨count, hcount⟩ := steps_dropStays reversed
  rw [way_spelled fun piece hm => hs piece ((dropStays_suffix reversed).subset hm), hcount]
  simp

/-- The parent of a path drops the last step of its way. -/
theorem way_spelled_cons (hs : ∀ piece ∈ segment :: earlier, '/' ∉ piece)
    (hstay : Step.ofSegment segment ≠ .stay) :
    way (spelled absolute (segment :: earlier)) =
      Step.ofSegment segment :: way (spelled absolute (dropStays earlier)) := by
  rw [way_spelled hs, way_dropStays fun piece hm => hs piece (List.mem_cons_of_mem _ hm),
    List.map_cons, List.filter_cons_of_pos (by simpa using hstay)]

theorem parent?_spelled (hs : ∀ piece ∈ segment :: earlier, '/' ∉ piece)
    (h : Spellable absolute (segment :: earlier))
    (hd : dropStays (segment :: earlier) = segment :: earlier) :
    parent? (spelled absolute (segment :: earlier)) =
      some (spelled absolute (dropStays earlier)) := by
  have hsplit := splitAt_body_spelled hs h (List.cons_ne_nil _ _)
  rw [parent?, hsplit, List.reverse_reverse, hd]
  simp only [ofReversed_eq_spelled, isAbsolute_spelled hs h]

/-- The end of a path is its last segment, and the steps before it go the way of its parent. -/
theorem ending_spelled (hs : ∀ piece ∈ segment :: earlier, '/' ∉ piece)
    (hstay : Step.ofSegment segment ≠ .stay) :
    ∃ before name?, ending (spelled absolute (segment :: earlier)) = ⟨before, name?, false⟩ ∧
      moving before = (earlier.map Step.ofSegment).filter (· ≠ .stay) ∧
      (name?.map Step.into).getD .up = Step.ofSegment segment := by
  have hreversed : (Text.splitAt '/' (spelled absolute (segment :: earlier))).reverse =
      segment :: (earlier ++ if absolute then [[]] else []) := by
    rw [splitAt_spelled hs (List.cons_ne_nil _ _), List.reverse_append, List.reverse_reverse]
    cases absolute <;> rfl
  rw [ending, hreversed]
  cases segment with
  | nil => exact absurd rfl hstay
  | cons c rest =>
    refine ⟨_, _, rfl, ?_, ?_⟩
    · rw [moving_map_reverse]
      cases absolute <;> simp [Step.ofSegment]
    · cases hstep : Step.ofSegment (c :: rest) with
      | stay => exact absurd hstep hstay
      | up => rfl
      | into name => rfl

end

/-! ## Ways to parents -/

section
variable {path above : Text}

theorem notMem_of_mem_segments {path piece : Text}
    (h : piece ∈ (Text.splitAt '/' (body path)).reverse) : '/' ∉ piece :=
  Text.notMem_of_mem_splitAt (List.mem_reverse.mp h)

theorem way_eq_segments (path : Text) : way path =
    ((Text.splitAt '/' (body path)).reverse.map Step.ofSegment).filter (· ≠ .stay) := by
  have hway := congrArg way (ofReversed_splitAt path)
  rw [ofReversed_eq_spelled, way_spelled fun piece => notMem_of_mem_segments] at hway
  exact hway.symm

theorem way_suffix_of_parent? (h : parent? path = some above) : way above <:+ way path := by
  obtain ⟨kept, dropped, hsplit, -, rfl⟩ := parent?_segments h
  have hpieces : ∀ piece ∈ (kept ++ dropped).reverse, '/' ∉ piece := by
    intro piece hm
    rw [← hsplit] at hm
    exact notMem_of_mem_segments hm
  have hkept : ∀ piece ∈ kept.reverse, '/' ∉ piece := by
    intro piece hm
    apply hpieces
    rw [List.reverse_append]
    exact List.mem_append_right _ hm
  rw [ofReversed_eq_spelled, way_spelled hkept, way_eq_segments path, hsplit, List.reverse_append,
    List.map_append, List.filter_append]
  exact List.suffix_append _ _

/-- Whatever is in the lineage of a path is on its way. -/
theorem way_suffix_of_mem_ancestors {count : Nat} (h : above ∈ ancestors count path) :
    way above <:+ way path := by
  induction count generalizing path with
  | zero => cases h
  | succ count ih =>
    rw [ancestors, List.mem_cons] at h
    rcases h with rfl | h
    · exact List.suffix_rfl
    · cases hp : parent? path with
      | none => simp [hp] at h
      | some parent =>
        rw [hp] at h
        exact (ih h).trans (way_suffix_of_parent? hp)

end

end Path

namespace FileSystem
variable {fs before after : FileSystem} {links left : Nat} {start finish location : Location}
variable {steps rest : List Path.Step} {step : Path.Step} {way : List Path.Step} {path : Text}
variable {fault : IoFault}

/-! ## Walks to directories -/

private theorem walk_error_of_follow
    (hfollow : ∀ directory target more, fs.followLink links directory target more = .error fault →
      fs.followLink links directory target (more ++ rest) = .error fault)
    (h : fs.walk links start steps = .error fault) :
    fs.walk links start (steps ++ rest) = .error fault := by
  induction steps generalizing start with
  | nil =>
    rw [walk_nil] at h
    cases h
  | cons step steps ih =>
    rw [List.cons_append, walk_cons]
    rw [walk_cons] at h
    split at h
    · cases step with
      | stay => exact ih h
      | up => exact ih h
      | into name =>
        dsimp only at h ⊢
        split at h
        · next hl =>
          rw [if_pos hl]
          exact h
        · next hl =>
          rw [if_neg hl]
          split at h
          · exact h
          · exact hfollow _ _ _ h
          · exact ih h
    · exact h

/-- A walk that fails has failed before any further step. -/
theorem walk_append_of_error (h : fs.walk links start steps = .error fault)
    (rest : List Path.Step) : fs.walk links start (steps ++ rest) = .error fault := by
  induction links generalizing start steps with
  | zero => exact walk_error_of_follow (fun _ _ _ h => h) h
  | succ links ih =>
    refine walk_error_of_follow (fun directory target more h => ?_) h
    rw [followLink, ← List.append_assoc]
    exact ih h

private theorem walk_congr_of_follow {first second : List Path.Step}
    (h : ∀ start, fs.walk links start first = fs.walk links start second)
    (hfollow : ∀ directory target more, fs.followLink links directory target (more ++ first) =
      fs.followLink links directory target (more ++ second)) :
    fs.walk links start (steps ++ first) = fs.walk links start (steps ++ second) := by
  induction steps generalizing start with
  | nil => exact h start
  | cons step steps ih => simp only [List.cons_append, walk_cons, ih, hfollow]

/-- Steps that do the same everywhere do the same after any steps. -/
theorem walk_congr {first second : List Path.Step}
    (h : ∀ links start, fs.walk links start first = fs.walk links start second) (links : Nat)
    (start : Location) (steps : List Path.Step) :
    fs.walk links start (steps ++ first) = fs.walk links start (steps ++ second) := by
  induction links generalizing start steps with
  | zero => exact walk_congr_of_follow (h 0) fun _ _ _ => rfl
  | succ links ih =>
    refine walk_congr_of_follow (h (links + 1)) fun directory target more => ?_
    simp only [followLink, ← List.append_assoc]
    exact ih _ _

theorem walk_stay_cons : fs.walk links start (.stay :: step :: rest) =
    fs.walk links start (step :: rest) := by
  rw [walk_cons]
  split
  · rfl
  · next hd =>
    rw [walk_cons]
    split
    · next hd' => exact absurd hd' hd
    · rfl

/-- Steps that say to stay matter at the end only. -/
theorem walk_moving (fs : FileSystem) (links : Nat) (start : Location) (steps : List Path.Step)
    (last : Path.Step) (rest : List Path.Step) : fs.walk links start (steps ++ last :: rest) =
      fs.walk links start ((Path.moving steps).reverse ++ last :: rest) := by
  rw [Path.moving, List.reverse_reverse]
  induction steps generalizing links start with
  | nil => rfl
  | cons step steps ih =>
    by_cases hstay : step = .stay
    · obtain ⟨next, more, hmore⟩ :=
        List.exists_cons_of_ne_nil (List.append_ne_nil_of_right_ne_nil steps (List.cons_ne_nil _ _))
      rw [List.filter_cons_of_neg (by simp [hstay]), ← ih, hstay, List.cons_append, hmore,
        walk_stay_cons]
    · rw [List.filter_cons_of_pos (by simp [hstay])]
      exact walk_congr ih links start [step]

/-- Whether a walk has come to a directory. -/
def arrived (fs : FileSystem) : Except IoFault (Location × Nat) → Except IoFault Location
  | .error fault => .error fault
  | .ok (location, _) =>
    if fs.node? location = some .directory then .ok location else .error .notDirectory

/-- The directory to which a way leads. -/
def reach (fs : FileSystem) (way : List Path.Step) : Except IoFault Location :=
  fs.arrived (fs.walk linkLimit [] way.reverse)

theorem walk_stay : (fs.walk links start (steps ++ [.stay])).map Prod.fst =
    fs.arrived (fs.walk links start steps) := by
  cases hw : fs.walk links start steps with
  | error fault =>
    rw [walk_append_of_error hw]
    rfl
  | ok found =>
    obtain ⟨location, left⟩ := found
    rw [walk_append (walks_of_walk hw), walk_cons, arrived]
    split
    · next hd =>
      rw [if_pos hd, walk_nil]
      rfl
    · next hd =>
      rw [if_neg hd]
      rfl

theorem reach_moving (fs : FileSystem) (steps : List Path.Step) :
    fs.reach (Path.moving steps) = fs.arrived (fs.walk linkLimit [] steps) := by
  rw [reach, ← walk_stay, ← walk_moving, walk_stay]

theorem reach_eq_ok_iff : fs.reach way = .ok location ↔
    ∃ left, fs.Walks linkLimit [] way.reverse location left ∧
      fs.node? location = some .directory := by
  rw [reach]
  cases hw : fs.walk linkLimit [] way.reverse with
  | error fault =>
    simp only [arrived, reduceCtorEq, false_iff, not_exists, not_and]
    intro left hw'
    rw [walk_of_walks hw'] at hw
    cases hw
  | ok found =>
    obtain ⟨finish, left⟩ := found
    have hw' := walks_of_walk hw
    simp only [arrived]
    constructor
    · intro h
      split at h
      · next hd =>
        cases h
        exact ⟨left, hw', hd⟩
      · cases h
    · rintro ⟨left', hw'', hd⟩
      obtain ⟨rfl, _⟩ := hw'.unique hw''
      rw [if_pos hd]

theorem reach_nil : fs.reach [] = .ok [] := by
  rw [reach, List.reverse_nil, walk_nil]
  rfl

theorem reach_mono (hle : before ≤ after) (h : before.reach way = .ok location) :
    after.reach way = .ok location := by
  obtain ⟨left, hw, hd⟩ := reach_eq_ok_iff.mp h
  exact reach_eq_ok_iff.mpr ⟨left, hw.mono hle, hle _ _ hd⟩

/-- What cannot be reached cannot be gone through. -/
theorem reach_cons_of_error (h : fs.reach way = .error fault) (step : Path.Step) :
    fs.reach (step :: way) = .error fault := by
  rw [reach] at h
  rw [reach, List.reverse_cons]
  cases hw : fs.walk linkLimit [] way.reverse with
  | error fault' =>
    rw [hw] at h
    cases h
    rw [walk_append_of_error hw]
    rfl
  | ok found =>
    obtain ⟨middle, left⟩ := found
    rw [hw, arrived] at h
    split at h
    · cases h
    · next hd =>
      cases h
      rw [walk_append (walks_of_walk hw), walk_cons]
      split
      · next hd' => exact absurd hd' hd
      · rfl

theorem reach_cons_of_ok (h : fs.reach (step :: way) = .ok location) :
    ∃ middle, fs.reach way = .ok middle := by
  cases hr : fs.reach way with
  | ok middle => exact ⟨middle, rfl⟩
  | error fault =>
    rw [reach_cons_of_error hr] at h
    cases h

/-- Going into an entry of the directory that has been reached. -/
theorem reach_into {name : Name} (h : fs.reach way = .ok location) :
    (nameLimit < Text.byteLength name → fs.reach (.into name :: way) = .error .nameTooLong) ∧
      (Text.byteLength name ≤ nameLimit →
        (fs.node? (name :: location) = none → fs.reach (.into name :: way) = .error .notFound) ∧
          (fs.node? (name :: location) = some .directory →
            fs.reach (.into name :: way) = .ok (name :: location)) ∧
          ∀ content mode, fs.node? (name :: location) = some (.file content mode) →
            fs.reach (.into name :: way) = .error .notDirectory) := by
  obtain ⟨left, hw, hd⟩ := reach_eq_ok_iff.mp h
  rw [reach, List.reverse_cons, walk_append hw, walk_cons, hd]
  dsimp only
  refine ⟨fun hl => by rw [if_pos hl]; rfl, fun hl => ?_⟩
  rw [if_neg (Nat.not_lt.mpr hl)]
  refine ⟨fun hn => by rw [hn]; rfl, fun hn => ?_, fun content mode hn => ?_⟩
  · rw [hn]
    simp [walk_nil, arrived, hn]
  · rw [hn]
    simp [walk_nil, arrived, hn]

/-! ## Paths to directories -/

theorem reach_way_eq_ok_iff (hc : checkPath path = .ok ()) :
    fs.reach (Path.way path) = .ok location ↔
      fs.locate path = .ok location ∧ fs.node? location = some .directory := by
  rw [Path.way, reach_moving]
  cases hw : fs.walk linkLimit [] (Path.steps path) with
  | error fault => simp [locate, hc, hw, arrived, bind, Except.bind]
  | ok found =>
    obtain ⟨finish, left⟩ := found
    simp only [locate, hc, hw, arrived, bind, Except.bind, pure, Except.pure, Except.ok.injEq]
    constructor
    · intro h
      split at h
      · next hd =>
        cases h
        exact ⟨rfl, hd⟩
      · cases h
    · rintro ⟨rfl, hd⟩
      rw [if_pos hd]

theorem isDirectory_iff_reach (hc : checkPath path = .ok ()) :
    fs.isDirectory path ↔ ∃ location, fs.reach (Path.way path) = .ok location := by
  rw [isDirectory_iff]
  exact exists_congr fun location => (reach_way_eq_ok_iff hc).symm

theorem slot_eq (hc : checkPath path = .ok ()) : fs.slot path =
    match fs.reach (Path.moving (Path.ending path).before) with
    | .error fault => .error fault
    | .ok directory =>
      match (Path.ending path).name? with
      | none => .ok none
      | some name =>
        if nameLimit < Text.byteLength name then .error .nameTooLong
        else .ok (some ⟨directory, name, (Path.ending path).slashed⟩) := by
  rw [reach_moving]
  cases hw : fs.walk linkLimit [] (Path.ending path).before with
  | error fault => simp [FileSystem.slot, hc, hw, arrived, bind, Except.bind]
  | ok found =>
    obtain ⟨directory, left⟩ := found
    by_cases hd : fs.node? directory = some .directory
    · cases hname : (Path.ending path).name? with
      | none =>
        simp [FileSystem.slot, hc, hw, hname, arrived, hd, bind, Except.bind, pure, Except.pure]
      | some name =>
        by_cases hl : nameLimit < Text.byteLength name
        · simp [FileSystem.slot, hc, hw, hname, arrived, hd, hl, bind, Except.bind, throw,
            throwThe, MonadExceptOf.throw]
        · simp [FileSystem.slot, hc, hw, hname, arrived, hd, hl, bind, Except.bind, pure,
            Except.pure]
    · simp [FileSystem.slot, hc, hw, arrived, hd, bind, Except.bind, throw, throwThe,
        MonadExceptOf.throw]

section
variable {name : Name} {base : Text}
variable (hp : Path.Plain name) (hc : checkPath (base ++ '/' :: name) = .ok ())
variable (hr : fs.reach (Path.way base) = .ok location)
include hp hc hr

theorem slot_of_reach (hl : Text.byteLength name ≤ nameLimit) :
    fs.slot (base ++ '/' :: name) = .ok (some ⟨location, name, false⟩) := by
  rw [slot_eq hc, Path.ending_entry base hp]
  dsimp only
  rw [← Path.way, hr]
  exact if_neg (Nat.not_lt.mpr hl)

theorem locate_of_long (hl : nameLimit < Text.byteLength name) :
    fs.locate (base ++ '/' :: name) = .error .nameTooLong := by
  obtain ⟨left, hw, hd⟩ := reach_eq_ok_iff.mp hr
  have hwalk : fs.walk linkLimit [] (Path.steps (base ++ '/' :: name)) = .error .nameTooLong := by
    rw [Path.steps_append, hp.steps, walk_moving, ← Path.way, walk_append hw, walk_cons, hd]
    exact if_pos hl
  simp [locate, hc, hwalk, bind, Except.bind]

end

end FileSystem
end WorkDepot
