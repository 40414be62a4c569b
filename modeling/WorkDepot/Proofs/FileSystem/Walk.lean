import WorkDepot.Proofs.FileSystem.Nodes
import WorkDepot.Proofs.Path

/-! # Walks through file systems

A walk that arrives has a derivation, one rule for each kind of step. Walks can be put together and
cut in two. What a walk meets on its way are directories and links only, so that it takes the same
way in every file system that has those and the node at its end.
-/
namespace WorkDepot

theorem bind_eq_ok {ε α β : Type} {first : Except ε α} {next : α → Except ε β} {result : β} :
    first >>= next = .ok result ↔ ∃ value, first = .ok value ∧ next value = .ok result := by
  cases first with
  | error fault => simp [bind, Except.bind]
  | ok value => simp [bind, Except.bind]

theorem mapError_eq_ok {ε ε' α : Type} {result : Except ε α} {f : ε → ε'} {value : α} :
    result.mapError f = .ok value ↔ result = .ok value := by
  cases result <;> simp [Except.mapError]

namespace FileSystem
variable {fs before after : FileSystem} {links left : Nat} {start finish : Location}
variable {steps : List Path.Step} {path : Text}

/-- The walk from `start` arrives at `finish` and may follow `left` of its links still. -/
inductive Walks (fs : FileSystem) : (links : Nat) → (start : Location) → List Path.Step →
    (finish : Location) → (left : Nat) → Prop
  | arrive {links location} : Walks fs links location [] location links
  | stay {links location steps finish left} : fs.node? location = some .directory →
      Walks fs links location steps finish left →
      Walks fs links location (.stay :: steps) finish left
  | up {links location steps finish left} : fs.node? location = some .directory →
      Walks fs links location.tail steps finish left →
      Walks fs links location (.up :: steps) finish left
  | enter {links location name node steps finish left} : fs.node? location = some .directory →
      Text.byteLength name ≤ nameLimit → fs.node? (name :: location) = some node →
      (∀ target, node ≠ .link target) → Walks fs links (name :: location) steps finish left →
      Walks fs links location (.into name :: steps) finish left
  | follow {links location name target steps finish left} : fs.node? location = some .directory →
      Text.byteLength name ≤ nameLimit → fs.node? (name :: location) = some (.link target) →
      Walks fs links (linkBase location target) (Path.steps target ++ steps) finish left →
      Walks fs (links + 1) location (.into name :: steps) finish left

/-- What becomes of a walk at a link. -/
def followLink (fs : FileSystem) : (links : Nat) → Location → Text → List Path.Step →
    Except IoFault (Location × Nat)
  | 0, _, _, _ => .error .tooManyLinks
  | links + 1, directory, target, steps =>
    fs.walk links (linkBase directory target) (Path.steps target ++ steps)

theorem walk_nil : fs.walk links start [] = .ok (start, links) := by
  cases links <;> rfl

theorem walk_cons (step : Path.Step) : fs.walk links start (step :: steps) =
    match fs.node? start with
    | some .directory =>
      match step with
      | .stay => fs.walk links start steps
      | .up => fs.walk links start.tail steps
      | .into name =>
        if nameLimit < Text.byteLength name then .error .nameTooLong
        else
          match fs.node? (name :: start) with
          | none => .error .notFound
          | some (.link target) => fs.followLink links start target steps
          | some _ => fs.walk links (name :: start) steps
    | _ => .error .notDirectory := by
  cases links <;> rfl

theorem walk_of_walks (h : fs.Walks links start steps finish left) :
    fs.walk links start steps = .ok (finish, left) := by
  induction h with
  | arrive => exact walk_nil
  | stay hd _ ih => simpa only [walk_cons, hd] using ih
  | up hd _ ih => simpa only [walk_cons, hd] using ih
  | enter hd hl hn hlink _ ih =>
    simp only [walk_cons, hd, if_neg (Nat.not_lt.mpr hl), hn]
    exact ih
  | follow hd hl hn _ ih =>
    simpa only [walk_cons, hd, if_neg (Nat.not_lt.mpr hl), hn, followLink] using ih

private theorem walks_of_walk_of_follow
    (hfollow : ∀ directory target rest,
      fs.followLink links directory target rest = .ok (finish, left) →
      ∃ fewer, links = fewer + 1 ∧
        fs.Walks fewer (linkBase directory target) (Path.steps target ++ rest) finish left)
    (h : fs.walk links start steps = .ok (finish, left)) :
    fs.Walks links start steps finish left := by
  induction steps generalizing start with
  | nil =>
    rw [walk_nil] at h
    cases h
    exact .arrive
  | cons step steps ih =>
    rw [walk_cons] at h
    split at h
    · next hd =>
      cases step with
      | stay => exact .stay hd (ih h)
      | up => exact .up hd (ih h)
      | into name =>
        dsimp only at h
        split at h
        · cases h
        · next hl =>
          have hle := Nat.le_of_not_lt hl
          split at h
          · cases h
          · next target hn =>
            obtain ⟨fewer, rfl, hw⟩ := hfollow _ _ _ h
            exact .follow hd hle hn hw
          · next node hlink hn => exact .enter hd hle hn hlink (ih h)
    · cases h

theorem walks_of_walk (h : fs.walk links start steps = .ok (finish, left)) :
    fs.Walks links start steps finish left := by
  induction links generalizing start steps with
  | zero => exact walks_of_walk_of_follow (fun _ _ _ h => by simp [followLink] at h) h
  | succ links ih => exact walks_of_walk_of_follow (fun _ _ _ h => ⟨links, rfl, ih h⟩) h

/-- A walk arrives where a derivation says that it does, and nowhere else. -/
theorem walk_eq_ok_iff : fs.walk links start steps = .ok (finish, left) ↔
    fs.Walks links start steps finish left := ⟨walks_of_walk, walk_of_walks⟩

theorem Walks.unique {finish' : Location} {left' : Nat} (h : fs.Walks links start steps finish left)
    (h' : fs.Walks links start steps finish' left') : finish = finish' ∧ left = left' := by
  have he := (walk_of_walks h).symm.trans (walk_of_walks h')
  simpa using he

/-! ## Walks one after the other -/

theorem Walks.append {middle : Location} {rest : List Path.Step} {between : Nat}
    (h : fs.Walks links start steps middle between)
    (h' : fs.Walks between middle rest finish left) :
    fs.Walks links start (steps ++ rest) finish left := by
  induction h with
  | arrive => exact h'
  | stay hd _ ih => exact .stay hd (ih h')
  | up hd _ ih => exact .up hd (ih h')
  | enter hd hl hn hlink _ ih => exact .enter hd hl hn hlink (ih h')
  | follow hd hl hn _ ih =>
    rw [List.append_assoc] at ih
    exact .follow hd hl hn (ih h')

/-- What a walk does after its first steps does not depend on how it has got there. -/
theorem walk_append {middle : Location} {between : Nat}
    (h : fs.Walks links start steps middle between) (rest : List Path.Step) :
    fs.walk links start (steps ++ rest) = fs.walk between middle rest := by
  induction h with
  | arrive => rfl
  | stay hd _ ih => simpa only [List.cons_append, walk_cons, hd] using ih
  | up hd _ ih => simpa only [List.cons_append, walk_cons, hd] using ih
  | enter hd hl hn hlink _ ih =>
    simp only [List.cons_append, walk_cons, hd, if_neg (Nat.not_lt.mpr hl), hn]
    exact ih
  | follow hd hl hn _ ih =>
    rw [List.append_assoc] at ih
    simpa only [List.cons_append, walk_cons, hd, if_neg (Nat.not_lt.mpr hl), hn, followLink]
      using ih

theorem Walks.split {rest whole : List Path.Step} (h : fs.Walks links start whole finish left)
    (he : whole = steps ++ rest) : ∃ middle between,
      fs.Walks links start steps middle between ∧ fs.Walks between middle rest finish left := by
  induction h generalizing steps with
  | arrive =>
    obtain ⟨rfl, rfl⟩ := List.nil_eq_append_iff.mp he
    exact ⟨_, _, .arrive, .arrive⟩
  | stay hd hw ih =>
    rcases List.cons_eq_append_iff.mp he with ⟨rfl, rfl⟩ | ⟨more, rfl, rfl⟩
    · exact ⟨_, _, .arrive, .stay hd hw⟩
    · obtain ⟨middle, between, h1, h2⟩ := ih rfl
      exact ⟨middle, between, .stay hd h1, h2⟩
  | up hd hw ih =>
    rcases List.cons_eq_append_iff.mp he with ⟨rfl, rfl⟩ | ⟨more, rfl, rfl⟩
    · exact ⟨_, _, .arrive, .up hd hw⟩
    · obtain ⟨middle, between, h1, h2⟩ := ih rfl
      exact ⟨middle, between, .up hd h1, h2⟩
  | enter hd hl hn hlink hw ih =>
    rcases List.cons_eq_append_iff.mp he with ⟨rfl, rfl⟩ | ⟨more, rfl, rfl⟩
    · exact ⟨_, _, .arrive, .enter hd hl hn hlink hw⟩
    · obtain ⟨middle, between, h1, h2⟩ := ih rfl
      exact ⟨middle, between, .enter hd hl hn hlink h1, h2⟩
  | follow hd hl hn hw ih =>
    rcases List.cons_eq_append_iff.mp he with ⟨rfl, rfl⟩ | ⟨more, rfl, rfl⟩
    · exact ⟨_, _, .arrive, .follow hd hl hn hw⟩
    · obtain ⟨middle, between, h1, h2⟩ := ih (List.append_assoc ..).symm
      exact ⟨middle, between, .follow hd hl hn h1, h2⟩

theorem Walks.stays (hd : fs.node? start = some .directory) (count : Nat) :
    fs.Walks links start (List.replicate count .stay) start links := by
  induction count with
  | zero => exact .arrive
  | succ count ih => exact .stay hd ih

/-- A walk that does not go up stays below a location below which there are no links. -/
theorem Walks.ends_below {top : Location} (h : fs.Walks links start steps finish left)
    (hu : .up ∉ steps) (hs : top <:+ start)
    (hf : ∀ location target, top <:+ location → fs.node? location ≠ some (.link target)) :
    top <:+ finish := by
  induction h with
  | arrive => exact hs
  | stay _ _ ih => exact ih (List.not_mem_of_not_mem_cons hu) hs
  | up _ _ _ => exact absurd List.mem_cons_self hu
  | enter _ _ _ _ _ ih =>
    exact ih (List.not_mem_of_not_mem_cons hu) (hs.trans (List.suffix_cons _ _))
  | follow _ _ hn _ _ => exact absurd hn (hf _ _ (hs.trans (List.suffix_cons _ _)))

/-! ## Walks in a file system that has grown -/

/-- The later file system has the directories and links of the earlier one. -/
structure KeepsWays (before after : FileSystem) : Prop where
  directories : ∀ location, before.node? location = some .directory →
    after.node? location = some .directory
  links : ∀ location target, before.node? location = some (.link target) →
    after.node? location = some (.link target)

theorem keepsWays_of_le (h : before ≤ after) : KeepsWays before after :=
  ⟨fun _ hd => h _ _ hd, fun _ _ hl => h _ _ hl⟩

/-- The only file that a walk can meet is at its end. -/
theorem Walks.transfer (h : before.Walks links start steps finish left)
    (hk : KeepsWays before after)
    (hf : ∀ node, before.node? finish = some node → after.node? finish = some node) :
    after.Walks links start steps finish left := by
  induction h with
  | arrive => exact .arrive
  | stay hd _ ih => exact .stay (hk.directories _ hd) (ih hf)
  | up hd _ ih => exact .up (hk.directories _ hd) (ih hf)
  | follow hd hl hn _ ih => exact .follow (hk.directories _ hd) hl (hk.links _ _ hn) (ih hf)
  | @enter links location name node steps finish left hd hl hn hlink hw ih =>
    refine .enter (hk.directories _ hd) hl ?_ hlink (ih hf)
    cases node with
    | directory => exact hk.directories _ hn
    | link target => exact absurd rfl (hlink target)
    | file content mode =>
      cases hw with
      | arrive => exact hf _ hn
      | stay hd' _ | up hd' _ | enter hd' _ _ _ _ | follow hd' _ _ _ =>
        rw [hn] at hd'
        cases hd'

theorem Walks.mono (h : before ≤ after) (hw : before.Walks links start steps finish left) :
    after.Walks links start steps finish left :=
  hw.transfer (keepsWays_of_le h) (fun _ hn => h _ _ hn)

theorem checkPath_eq_ok {path : Text} : checkPath path = .ok () ↔
    '\x00' ∉ path ∧ path ≠ [] ∧ Text.byteLength path < pathLimit := by
  rw [checkPath]
  split
  · next h => simp [h]
  · next h =>
    split
    · next h' => simp [h']
    · next h' =>
      split
      · next h'' => simp [Nat.not_lt.mpr h'']
      · next h'' => simp [h, h', Nat.lt_of_not_le h'']

theorem locate_eq_ok_iff : fs.locate path = .ok finish ↔ checkPath path = .ok () ∧
    ∃ left, fs.Walks linkLimit [] (Path.steps path) finish left := by
  simp only [locate, bind_eq_ok, pure, Except.pure, Except.ok.injEq, Prod.exists]
  constructor
  · rintro ⟨_, hc, place, left, hw, rfl⟩
    exact ⟨hc, left, walk_eq_ok_iff.mp hw⟩
  · rintro ⟨hc, left, hw⟩
    exact ⟨(), hc, finish, left, walk_eq_ok_iff.mpr hw, rfl⟩

theorem locate_mono (h : before ≤ after) (hl : before.locate path = .ok finish) :
    after.locate path = .ok finish := by
  obtain ⟨hc, left, hw⟩ := locate_eq_ok_iff.mp hl
  exact locate_eq_ok_iff.mpr ⟨hc, left, hw.mono h⟩

theorem read_eq_ok_iff {content : Bytes} : fs.read path = .ok content ↔
    ∃ location mode, fs.locate path = .ok location ∧
      fs.node? location = some (.file content mode) := by
  simp only [read, bind_eq_ok]
  constructor
  · rintro ⟨location, hl, hr⟩
    split at hr
    · next existing mode hn =>
      cases hr
      exact ⟨location, mode, hl, hn⟩
    · cases hr
    · cases hr
  · rintro ⟨location, mode, hl, hn⟩
    exact ⟨location, hl, by simp [hn, pure, Except.pure]⟩

theorem read_mono {content : Bytes} (h : before ≤ after) (hr : before.read path = .ok content) :
    after.read path = .ok content := by
  obtain ⟨location, mode, hl, hn⟩ := read_eq_ok_iff.mp hr
  exact read_eq_ok_iff.mpr ⟨location, mode, locate_mono h hl, h _ _ hn⟩

/-! ## Slots -/

theorem slot_eq_some_iff {slot : Slot} : fs.slot path = .ok (some slot) ↔
    checkPath path = .ok () ∧
    (∃ left, fs.Walks linkLimit [] (Path.ending path).before slot.directory left) ∧
    fs.node? slot.directory = some .directory ∧ (Path.ending path).name? = some slot.name ∧
    Text.byteLength slot.name ≤ nameLimit ∧ (Path.ending path).slashed = slot.slashed := by
  constructor
  · intro h
    simp only [FileSystem.slot, bind_eq_ok, Prod.exists] at h
    obtain ⟨_, hc, directory, left, hw, h⟩ := h
    split at h
    · simp [bind, Except.bind, throw, throwThe, MonadExceptOf.throw] at h
    · next hd =>
      simp only [pure, Except.pure, bind, Except.bind] at h
      split at h
      · cases h
      · next name hname =>
        split at h
        · simp [throw, throwThe, MonadExceptOf.throw] at h
        · next hl =>
          cases h
          exact ⟨hc, ⟨left, walk_eq_ok_iff.mp hw⟩, not_not.mp hd, hname, Nat.le_of_not_lt hl, rfl⟩
  · rintro ⟨hc, ⟨left, hw⟩, hd, hname, hl, hs⟩
    simp only [FileSystem.slot, bind_eq_ok, Prod.exists]
    refine ⟨(), hc, slot.directory, left, walk_eq_ok_iff.mpr hw, ?_⟩
    simp [hd, hname, Nat.not_lt.mpr hl, hs, pure, Except.pure]

theorem slot_transfer {slot : Slot} (hk : KeepsWays before after)
    (h : before.slot path = .ok (some slot)) : after.slot path = .ok (some slot) := by
  obtain ⟨hc, ⟨left, hw⟩, hd, hrest⟩ := slot_eq_some_iff.mp h
  have hd' := hk.directories _ hd
  have hw' := hw.transfer hk fun node hn => by
    rw [hd] at hn
    cases hn
    exact hd'
  exact slot_eq_some_iff.mpr ⟨hc, ⟨left, hw'⟩, hd', hrest⟩

/-- A directory or, when no slash follows the name, a file in the slot of a path is what the path
leads to. -/
theorem locate_of_slot {slot : Slot} {node : Node} (h : fs.slot path = .ok (some slot))
    (hn : fs.node? slot.location = some node) (hlink : ∀ target, node ≠ .link target)
    (hs : slot.slashed = false ∨ node = .directory) : fs.locate path = .ok slot.location := by
  obtain ⟨hc, ⟨left, hw⟩, hd, hname, hl, hslashed⟩ := slot_eq_some_iff.mp h
  obtain ⟨count, hsteps, hcount⟩ := Path.ending_steps hname
  have hstays : fs.Walks left slot.location (List.replicate count .stay) slot.location left := by
    rcases hs with hs | rfl
    · rw [hcount (hslashed.trans hs)]
      exact .arrive
    · exact Walks.stays hn count
  refine locate_eq_ok_iff.mpr ⟨hc, left, ?_⟩
  rw [hsteps]
  exact hw.append (.enter hd hl hn hlink hstays)

/-- Nothing is found at a path with a free slot. -/
theorem exists?_of_free {slot : Slot} (h : fs.slot path = .ok (some slot))
    (hn : fs.node? slot.location = none) : fs.exists? path = .ok false := by
  obtain ⟨hc, ⟨left, hw⟩, hd, hname, hl, _⟩ := slot_eq_some_iff.mp h
  obtain ⟨count, hsteps, _⟩ := Path.ending_steps hname
  have hwalk : fs.walk linkLimit [] (Path.steps path) = .error .notFound := by
    rw [Slot.location] at hn
    rw [hsteps, walk_append hw, walk_cons, hd]
    simp [Nat.not_lt.mpr hl, hn]
  have hlocate : fs.locate path = .error .notFound := by
    simp [locate, hc, hwalk, bind, Except.bind]
  simp [exists?, hlocate]

theorem exists?_of_locate (h : fs.locate path = .ok finish) : fs.exists? path = .ok true := by
  simp [exists?, h]

theorem locateDirectory_eq_ok_iff : fs.locateDirectory path = .ok finish ↔
    fs.locate path = .ok finish ∧ fs.node? finish = some .directory := by
  simp only [locateDirectory, bind_eq_ok]
  constructor
  · rintro ⟨location, hl, hd⟩
    split at hd
    · next hn =>
      cases hd
      exact ⟨hl, hn⟩
    · cases hd
  · rintro ⟨hl, hn⟩
    exact ⟨finish, hl, by rw [if_pos hn]; rfl⟩

theorem locateDirectory_of_locate (h : fs.locate path = .ok finish)
    (hd : fs.node? finish = some .directory) : fs.locateDirectory path = .ok finish :=
  locateDirectory_eq_ok_iff.mpr ⟨h, hd⟩

theorem locateDirectory_mono (h : before ≤ after) (hl : before.locateDirectory path = .ok finish) :
    after.locateDirectory path = .ok finish := by
  obtain ⟨hlocate, hd⟩ := locateDirectory_eq_ok_iff.mp hl
  exact locateDirectory_of_locate (locate_mono h hlocate) (h _ _ hd)

theorem isDirectory_iff : fs.isDirectory path ↔
    ∃ location, fs.locate path = .ok location ∧ fs.node? location = some .directory := by
  rw [isDirectory]
  cases fs.locate path with
  | error fault => simp
  | ok location => simp

theorem isDirectory_mono (h : before ≤ after) (hd : before.isDirectory path) :
    after.isDirectory path := by
  obtain ⟨location, hl, hn⟩ := isDirectory_iff.mp hd
  exact isDirectory_iff.mpr ⟨location, locate_mono h hl, h _ _ hn⟩

theorem readText_eq_ok_iff {text : Text} : fs.readText path = .ok text ↔
    ∃ content, fs.read path = .ok content ∧ Text.decode? content = some text := by
  simp only [readText, bind_eq_ok]
  refine exists_congr fun content => and_congr_right fun _ => ?_
  cases Text.decode? content with
  | none => simp [throw, throwThe, MonadExceptOf.throw]
  | some found => simp [pure, Except.pure]

theorem readText_mono {text : Text} (h : before ≤ after) (hr : before.readText path = .ok text) :
    after.readText path = .ok text := by
  obtain ⟨content, hc, ht⟩ := readText_eq_ok_iff.mp hr
  exact readText_eq_ok_iff.mpr ⟨content, read_mono h hc, ht⟩

end FileSystem
end WorkDepot
