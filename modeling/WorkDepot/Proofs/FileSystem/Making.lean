import WorkDepot.Proofs.FileSystem.Ways
import WorkDepot.Proofs.Text.Hexadecimal

/-! # Making directories on ways

The parents of a path drop the steps of its way one by one, so that making directories is a
recursion on the way. What is made that way leads to a directory, and is not made again. Where a
way of names cannot be made, it fails the second time as it has failed the first.
-/
namespace WorkDepot
namespace FileSystem
variable {fs before after : FileSystem} {location : Location}
variable {step : Path.Step} {way : List Path.Step} {path : Text} {fault : IoFault}

/-- Makes the directory that a step from a way goes into. -/
def makeStep (fs : FileSystem) (way : List Path.Step) (step : Path.Step) :
    Except IoFault FileSystem :=
  match fs.reach way with
  | .error fault => .error fault
  | .ok directory =>
    match step with
    | .into name =>
      if nameLimit < Text.byteLength name then .error .nameTooLong
      else if (fs.node? (name :: directory)).isSome then .error .alreadyExists
      else .ok (fs.insert (name :: directory) .directory)
    | _ => .error .alreadyExists

/-- Makes the directories that are missing on a way. -/
def makeWay (fs : FileSystem) : List Path.Step → Except IoFault Unit × FileSystem
  | [] => (.ok (), fs)
  | step :: way =>
    match fs.makeStep way step with
    | .ok made => (.ok (), made)
    | .error .notFound =>
      match fs.makeWay way with
      | (.error fault, fs) => (.error fault, fs)
      | (.ok (), fs) =>
        match fs.makeStep way step with
        | .ok made => (.ok (), made)
        | .error fault =>
          if (fs.reach (step :: way)).isOk then (.ok (), fs) else (.error fault, fs)
    | .error fault => if (fs.reach (step :: way)).isOk then (.ok (), fs) else (.error fault, fs)

theorem makeDirectory_eq (hc : checkPath path = .ok ()) {before : List Path.Step}
    {slashed : Bool} {name? : Option Name} (he : Path.ending path = ⟨before, name?, slashed⟩) :
    fs.makeDirectory path =
      fs.makeStep (Path.moving before) ((name?.map Path.Step.into).getD .up) := by
  rw [makeDirectory, slot_eq hc, he]
  dsimp only
  cases name? with
  | none =>
    cases hr : fs.reach (Path.moving before) <;>
      simp [makeStep, hr, bind, Except.bind, throw, throwThe, MonadExceptOf.throw]
  | some name =>
    cases hr : fs.reach (Path.moving before) with
    | error fault => simp [makeStep, hr, bind, Except.bind]
    | ok directory =>
      simp only [makeStep, hr, Option.map_some, Option.getD_some]
      split
      · rfl
      · dsimp only [bind, Except.bind]
        split
        · next hn => exact (if_pos hn).symm
        · next hn => exact (if_neg hn).symm

section
variable {directory : Location} {made : FileSystem} {name : Name}

theorem makeStep_of_error (h : fs.reach way = .error fault) :
    fs.makeStep way step = .error fault := by
  rw [makeStep, h]

variable (step) in
theorem makeStep_cases (h : fs.reach way = .ok directory) :
    (∃ name, step = .into name ∧ Text.byteLength name ≤ nameLimit ∧
        fs.Vacant (name :: directory) ∧
        fs.makeStep way step = .ok (fs.insert (name :: directory) .directory)) ∨
      (∃ name, step = .into name ∧ nameLimit < Text.byteLength name ∧
        fs.makeStep way step = .error .nameTooLong) ∨
      (∀ name, step = .into name →
          Text.byteLength name ≤ nameLimit ∧ ∃ node, fs.node? (name :: directory) = some node) ∧
        fs.makeStep way step = .error .alreadyExists := by
  obtain ⟨_, _, hd⟩ := reach_eq_ok_iff.mp h
  rw [makeStep, h]
  cases step with
  | stay => exact .inr (.inr ⟨by rintro _ ⟨⟩, rfl⟩)
  | up => exact .inr (.inr ⟨by rintro _ ⟨⟩, rfl⟩)
  | into name =>
    dsimp only
    by_cases hl : nameLimit < Text.byteLength name
    · exact .inr (.inl ⟨name, rfl, hl, if_pos hl⟩)
    · rw [if_neg hl]
      have hle := Nat.le_of_not_lt hl
      cases hn : fs.node? (name :: directory) with
      | none => exact .inl ⟨name, rfl, hle, ⟨hn, hd⟩, rfl⟩
      | some node =>
        refine .inr (.inr ⟨?_, rfl⟩)
        rintro _ ⟨⟩
        exact ⟨hle, node, hn⟩

theorem makeStep_eq_ok (h : fs.makeStep way step = .ok made) :
    ∃ name directory, step = .into name ∧ fs.reach way = .ok directory ∧
      Text.byteLength name ≤ nameLimit ∧ fs.Vacant (name :: directory) ∧
      made = fs.insert (name :: directory) .directory := by
  cases hr : fs.reach way with
  | error fault =>
    rw [makeStep_of_error hr] at h
    cases h
  | ok directory =>
    rcases makeStep_cases step hr with ⟨name, hs, hl, hv, he⟩ | ⟨name, _, _, he⟩ | ⟨_, he⟩
    · rw [he] at h
      cases h
      exact ⟨name, directory, hs, rfl, hl, hv, rfl⟩
    · rw [he] at h
      cases h
    · rw [he] at h
      cases h

/-- A directory is missing only if its own directory is. -/
theorem reach_of_makeStep (h : fs.makeStep way step = .error .notFound) :
    fs.reach way = .error .notFound := by
  cases hr : fs.reach way with
  | error fault =>
    rw [makeStep_of_error hr] at h
    cases h
    rfl
  | ok directory =>
    rcases makeStep_cases step hr with ⟨name, _, _, _, he⟩ | ⟨name, _, _, he⟩ | ⟨_, he⟩ <;>
      · rw [he] at h
        cases h

/-- What is there is not made. -/
theorem makeStep_of_reach (h : fs.reach (step :: way) = .ok location) :
    fs.makeStep way step = .error .alreadyExists := by
  obtain ⟨directory, hr⟩ := reach_cons_of_ok h
  rcases makeStep_cases step hr with ⟨name, rfl, hl, hv, _⟩ | ⟨name, rfl, hl, _⟩ | ⟨_, he⟩
  · rw [((reach_into hr).2 hl).1 hv.free] at h
    cases h
  · rw [(reach_into hr).1 hl] at h
    cases h
  · exact he

theorem reach_of_made (h : fs.makeStep way step = .ok made) :
    ∃ location, made.reach (step :: way) = .ok location := by
  obtain ⟨name, directory, rfl, hr, hl, hv, rfl⟩ := makeStep_eq_ok h
  have hle : fs ≤ fs.insert (name :: directory) .directory := le_insert hv.free
  have hr' := reach_mono hle hr
  exact ⟨_, ((reach_into hr').2 hl).2.1 (node?_insert_self hv.ne_nil)⟩

/-! ## Ways that are there, and ways that are made -/

/-- How the making of a way can end. -/
inductive WayEnd (fs : FileSystem) (step : Path.Step) (way : List Path.Step) :
    Except IoFault Unit × FileSystem → Prop
  | made {made : FileSystem} : fs.makeStep way step = .ok made → WayEnd fs step way (.ok (), made)
  | there {location : Location} : fs.reach (step :: way) = .ok location →
      WayEnd fs step way (.ok (), fs)
  | barred {fault unreached : IoFault} : fs.makeStep way step = .error fault → fault ≠ .notFound →
      fs.reach (step :: way) = .error unreached → WayEnd fs step way (.error fault, fs)
  | failedBefore {fault : IoFault} {after : FileSystem} : fs.reach way = .error .notFound →
      fs.makeWay way = (.error fault, after) → WayEnd fs step way (.error fault, after)
  | madeAfter {middle made : FileSystem} : fs.reach way = .error .notFound →
      fs.makeWay way = (.ok (), middle) → middle.makeStep way step = .ok made →
      WayEnd fs step way (.ok (), made)
  | thereAfter {middle : FileSystem} {location : Location} : fs.reach way = .error .notFound →
      fs.makeWay way = (.ok (), middle) → middle.reach (step :: way) = .ok location →
      WayEnd fs step way (.ok (), middle)
  | barredAfter {middle : FileSystem} {fault unreached : IoFault} :
      fs.reach way = .error .notFound → fs.makeWay way = (.ok (), middle) →
      middle.makeStep way step = .error fault → middle.reach (step :: way) = .error unreached →
      WayEnd fs step way (.error fault, middle)

theorem wayEnd_makeWay (fs : FileSystem) (step : Path.Step) (way : List Path.Step) :
    WayEnd fs step way (fs.makeWay (step :: way)) := by
  rw [makeWay]
  split
  · next hm => exact .made hm
  · next hnone =>
    have hr := reach_of_makeStep hnone
    split
    · next he => exact .failedBefore hr he
    · next middle he =>
      split
      · next hm => exact .madeAfter hr he hm
      · next fault hm =>
        cases hreach : middle.reach (step :: way) with
        | ok location => exact .thereAfter hr he hreach
        | error unreached => exact .barredAfter hr he hm hreach
  · next fault hf hm =>
    cases hreach : fs.reach (step :: way) with
    | ok location => exact .there hreach
    | error unreached => exact .barred hm hf hreach

theorem wayEnd_of_makeWay {result : Except IoFault Unit}
    (h : fs.makeWay (step :: way) = (result, after)) : WayEnd fs step way (result, after) :=
  h ▸ wayEnd_makeWay fs step way

theorem makeWay_of_reach (h : fs.reach way = .ok location) : fs.makeWay way = (.ok (), fs) := by
  cases way with
  | nil => rfl
  | cons step way =>
    rw [makeWay, makeStep_of_reach h]
    simp [h, Except.isOk, Except.toBool]

theorem reach_of_makeWay (h : fs.makeWay way = (.ok (), made)) :
    ∃ location, made.reach way = .ok location := by
  cases way with
  | nil =>
    cases h
    exact ⟨[], reach_nil⟩
  | cons step way =>
    cases wayEnd_of_makeWay h with
    | made hm | madeAfter _ _ hm => exact reach_of_made hm
    | there hr | thereAfter _ _ hr => exact ⟨_, hr⟩

theorem IsTree.makeStep (ht : fs.IsTree) (h : fs.makeStep way step = .ok made) : made.IsTree := by
  obtain ⟨_, _, _, _, _, hv, rfl⟩ := makeStep_eq_ok h
  exact ht.insert hv _

theorem IsTree.makeWay (ht : fs.IsTree) (way : List Path.Step) : (fs.makeWay way).2.IsTree := by
  induction way with
  | nil => exact ht
  | cons step way ih =>
    have hend := wayEnd_makeWay fs step way
    generalize fs.makeWay (step :: way) = ending at hend ⊢
    cases hend with
    | made hm => exact ht.makeStep hm
    | there _ | barred _ _ _ => exact ht
    | failedBefore _ he | thereAfter _ he _ | barredAfter _ he _ _ =>
      rw [he] at ih
      exact ih
    | madeAfter _ he hm =>
      rw [he] at ih
      exact ih.makeStep hm

/-- A way that fails, but not for want of a directory, is not made. -/
theorem makeWay_of_error (h : fs.reach way = .error fault) (hf : fault ≠ .notFound) :
    ∃ fault', fs.makeWay way = (.error fault', fs) := by
  cases way with
  | nil =>
    rw [reach_nil] at h
    cases h
  | cons step way =>
    have hend := wayEnd_makeWay fs step way
    generalize fs.makeWay (step :: way) = ending at hend ⊢
    cases hend with
    | made hm =>
      obtain ⟨name, directory, rfl, hr, hl, hv, _⟩ := makeStep_eq_ok hm
      rw [((reach_into hr).2 hl).1 hv.free] at h
      cases h
      exact absurd rfl hf
    | there hr =>
      rw [h] at hr
      cases hr
    | barred _ _ _ => exact ⟨_, rfl⟩
    | failedBefore hr _ | madeAfter hr _ _ | thereAfter hr _ _ | barredAfter hr _ _ _ =>
      rw [reach_cons_of_error hr] at h
      cases h
      exact absurd rfl hf

/-- Where the way before can be made, a step further is made as it is once that has been done. -/
theorem makeWay_cons_of_ok (h : fs.makeWay way = (.ok (), made)) (step : Path.Step) :
    fs.makeWay (step :: way) = made.makeWay (step :: way) := by
  cases hr : fs.reach way with
  | ok directory =>
    rw [makeWay_of_reach hr] at h
    cases h
    rfl
  | error fault =>
    have hf : fault = .notFound := by
      by_contra hne
      obtain ⟨fault', he⟩ := makeWay_of_error hr hne
      rw [h] at he
      cases he
    subst hf
    obtain ⟨directory, hr'⟩ := reach_of_makeWay h
    rw [makeWay, makeStep_of_error hr, makeWay]
    simp only [h]
    rcases makeStep_cases step hr' with ⟨_, _, _, _, he⟩ | ⟨_, _, _, he⟩ | ⟨_, he⟩ <;>
      rw [he]

/-! ## Files with more directories -/

/-- What can be made can still be made when there are more directories, and what comes of it has
more directories again. -/
theorem Widened.makeStep (h : Widened before after) (hm : before.makeStep way step = .ok made) :
    ∃ made', after.makeWay (step :: way) = (.ok (), made') ∧ Widened made made' := by
  obtain ⟨name, directory, rfl, hr, hl, hv, rfl⟩ := makeStep_eq_ok hm
  have hr' := reach_mono h.kept hr
  have hwidened := h.supply (name :: directory)
  rw [supply_of_free hv.free] at hwidened
  refine ⟨after.supply (name :: directory, .directory), ?_, hwidened⟩
  rcases h.new _ hv.free with hnone | hdir
  · have hstep : after.makeStep way (.into name) =
        .ok (after.insert (name :: directory) .directory) := by
      simp only [FileSystem.makeStep, hr', if_neg (Nat.not_lt.mpr hl), hnone]
      rfl
    rw [makeWay, hstep, supply_of_free hnone]
  · rw [supply_of_node hdir]
    exact makeWay_of_reach (((reach_into hr').2 hl).2.1 hdir)

theorem Widened.makeWay (h : Widened before after) (hm : before.makeWay way = (.ok (), made)) :
    ∃ made', after.makeWay way = (.ok (), made') ∧ Widened made made' := by
  induction way generalizing made with
  | nil =>
    cases hm
    exact ⟨after, rfl, h⟩
  | cons step way ih =>
    cases wayEnd_of_makeWay hm with
    | made hstep => exact h.makeStep hstep
    | there hr => exact ⟨after, makeWay_of_reach (reach_mono h.kept hr), h⟩
    | madeAfter _ hbefore hstep =>
      obtain ⟨middle, hmiddle, hwidened⟩ := ih hbefore
      rw [makeWay_cons_of_ok hmiddle]
      exact hwidened.makeStep hstep
    | thereAfter _ hbefore hr =>
      obtain ⟨middle, hmiddle, hwidened⟩ := ih hbefore
      rw [makeWay_cons_of_ok hmiddle]
      exact ⟨middle, makeWay_of_reach (reach_mono hwidened.kept hr), hwidened⟩

/-! ## Ways of names -/

theorem node?_of_made (ht : fs.IsTree) (hv : fs.Vacant location) (name : Name) :
    (fs.insert location .directory).node? (name :: location) = none := by
  rw [node?_insert_of_ne (List.cons_ne_self name location)]
  exact ht.node?_append hv.free [name]

/-- In an empty directory a directory can be made, unless its name is too long. -/
theorem makeStep_of_empty (hr : fs.reach way = .ok directory)
    (hempty : ∀ name, fs.node? (name :: directory) = none) (name : Name) :
    (∃ made, fs.makeStep way (.into name) = .ok made) ∨
      fs.makeStep way (.into name) = .error .nameTooLong ∧
        fs.reach (.into name :: way) = .error .nameTooLong := by
  rcases makeStep_cases (.into name) hr with
    ⟨_, _, _, _, he⟩ | ⟨_, hs, hl, he⟩ | ⟨hexists, _⟩
  · exact .inl ⟨_, he⟩
  · cases hs
    exact .inr ⟨he, (reach_into hr).1 hl⟩
  · obtain ⟨_, node, hn⟩ := hexists name rfl
    rw [hempty name] at hn
    cases hn

/-- A way of names that has to be made leads to a directory where nothing is. -/
theorem new_of_makeWay (ht : fs.IsTree) (hw : ∀ step ∈ way, ∃ name, step = .into name)
    (hr : fs.reach way = .error fault) (h : fs.makeWay way = (.ok (), made)) :
    ∃ directory, made.reach way = .ok directory ∧
      ∀ name, made.node? (name :: directory) = none := by
  induction way generalizing fault made with
  | nil =>
    rw [reach_nil] at hr
    cases hr
  | cons step way ih =>
    obtain ⟨name, rfl⟩ := hw step List.mem_cons_self
    have hmade {files made : FileSystem} (ht : files.IsTree)
        (hm : files.makeStep way (.into name) = .ok made) :
        ∃ directory, made.reach (.into name :: way) = .ok directory ∧
          ∀ name, made.node? (name :: directory) = none := by
      obtain ⟨_, directory, hs, hr, hl, hv, rfl⟩ := makeStep_eq_ok hm
      cases hs
      have hle : files ≤ files.insert (name :: directory) .directory := le_insert hv.free
      have hr' := reach_mono hle hr
      exact ⟨_, ((reach_into hr').2 hl).2.1 (node?_insert_self hv.ne_nil), node?_of_made ht hv⟩
    have hnew {middle : FileSystem} (hr' : fs.reach way = .error .notFound)
        (he : fs.makeWay way = (.ok (), middle)) : middle.IsTree ∧
          ∃ directory, middle.reach way = .ok directory ∧
            ∀ name, middle.node? (name :: directory) = none := by
      have htree := ht.makeWay way
      rw [he] at htree
      exact ⟨htree, ih (fun step hm => hw step (List.mem_cons_of_mem _ hm)) hr' he⟩
    cases wayEnd_of_makeWay h with
    | made hm => exact hmade ht hm
    | there hreach =>
      rw [hr] at hreach
      cases hreach
    | madeAfter hr' he hm => exact hmade (hnew hr' he).1 hm
    | thereAfter hr' he hreach =>
      obtain ⟨_, directory, hdirectory, hempty⟩ := hnew hr' he
      rcases makeStep_of_empty hdirectory hempty name with ⟨_, hstep⟩ | ⟨_, hlong⟩
      · rw [makeStep_of_reach hreach] at hstep
        cases hstep
      · rw [hreach] at hlong
        cases hlong

/-- If a way of names cannot be made, then nothing is made, or all is made up to a fault that
stays. -/
theorem fault_of_makeWay (ht : fs.IsTree) (hw : ∀ step ∈ way, ∃ name, step = .into name)
    (h : fs.makeWay way = (.error fault, after)) :
    after = fs ∨ after.reach way = .error fault ∧ fault ≠ .notFound := by
  induction way generalizing fault after with
  | nil => cases h
  | cons step way ih =>
    obtain ⟨name, rfl⟩ := hw step List.mem_cons_self
    have hnames : ∀ step ∈ way, ∃ name, step = .into name :=
      fun step hm => hw step (List.mem_cons_of_mem _ hm)
    cases wayEnd_of_makeWay h with
    | barred _ _ _ => exact .inl rfl
    | failedBefore hr he =>
      exact (ih hnames he).imp_right fun ⟨hr, hf⟩ => ⟨reach_cons_of_error hr _, hf⟩
    | barredAfter hr he hm hreach =>
      obtain ⟨directory, hdirectory, hempty⟩ := new_of_makeWay ht hnames hr he
      rcases makeStep_of_empty hdirectory hempty name with ⟨_, hstep⟩ | ⟨hstep, hlong⟩
      · rw [hm] at hstep
        cases hstep
      · rw [hm] at hstep
        cases hstep
        exact .inr ⟨hlong, by simp⟩

/-- Where the way before cannot be made, an entry fails as it does once that has been tried. -/
theorem makeWay_cons_of_error (ht : fs.IsTree) (hw : ∀ step ∈ way, ∃ name, step = .into name)
    (h : fs.makeWay way = (.error fault, after)) :
    ∃ fault' fault'', after.reach way = .error fault'' ∧
      ∀ name, fs.makeWay (.into name :: way) = (.error fault', after) ∧
        after.makeWay (.into name :: way) = (.error fault', after) := by
  cases hr : fs.reach way with
  | ok directory =>
    rw [makeWay_of_reach hr] at h
    cases h
  | error fault' =>
    -- The way is wanting, or something stands in it; then nothing is made.
    have hstands {files : FileSystem} {fault : IoFault} (hr : files.reach way = .error fault)
        (hf : fault ≠ .notFound) (name : Name) :
        files.makeWay (.into name :: way) = (.error fault, files) := by
      rw [makeWay, makeStep_of_error hr, reach_cons_of_error hr]
      split <;> simp_all [Except.isOk, Except.toBool]
    by_cases hf : fault' = .notFound
    · subst hf
      have hfirst (name : Name) : fs.makeWay (.into name :: way) = (.error fault, after) := by
        rw [makeWay, makeStep_of_error hr]
        simp only [h]
      rcases fault_of_makeWay ht hw h with rfl | ⟨hr', hf'⟩
      · exact ⟨fault, _, hr, fun name => ⟨hfirst name, hfirst name⟩⟩
      · exact ⟨fault, _, hr', fun name => ⟨hfirst name, hstands hr' hf' name⟩⟩
    · obtain ⟨_, he⟩ := makeWay_of_error hr hf
      rw [h] at he
      cases he
      exact ⟨fault', _, hr, fun name => ⟨hstands hr hf name, hstands hr hf name⟩⟩

end

/-! ## Making directories above each other -/

theorem checkPath_of_above {above : Text} (hc : checkPath path = .ok ())
    (ha : Path.Above above path) : checkPath above = .ok () := by
  obtain ⟨hne, rest, rfl⟩ := ha
  obtain ⟨hnul, _, hlength⟩ := checkPath_eq_ok.mp hc
  rw [Text.byteLength_append] at hlength
  exact checkPath_eq_ok.mpr ⟨fun hm => hnul (List.mem_append_left _ hm), hne, by omega⟩

theorem checkPath_parent? {above : Text} (hc : checkPath path = .ok ())
    (hp : Path.parent? path = some above) : above = [] ∨ checkPath above = .ok () := by
  rcases Path.parent?_above hp with hempty | rfl | habove
  · exact .inl hempty
  · exact .inr (by decide)
  · exact .inr (checkPath_of_above hc habove)

theorem isDirectory_eq_isOk (hc : checkPath path = .ok ()) :
    fs.isDirectory path = (fs.reach (Path.way path)).isOk := by
  rw [Bool.eq_iff_iff, isDirectory_iff_reach hc]
  cases fs.reach (Path.way path) <;> simp [Except.isOk, Except.toBool]

/-- The root is there, and nothing is made for it. -/
theorem makeLineage_root (count : Nat) (fs : FileSystem) :
    fs.makeLineage (Path.ancestors (count + 1) ['/']) = (.ok (), fs) := by
  have hnone : Path.parent? ['/'] = none := by decide
  have hway : Path.way ['/'] = [] := by decide
  have hroot : fs.makeDirectory ['/'] = .error .alreadyExists := makeDirectory_root
  have hdir : fs.isDirectory ['/'] = true := by
    rw [isDirectory_eq_isOk (by decide), hway, reach_nil]
    rfl
  rw [Path.ancestors, hnone, makeLineage, if_neg (List.cons_ne_nil _ _), hroot]
  exact if_pos hdir

/-- With enough of its ancestors, a path is made as its way is. -/
theorem makeLineage_spelled {count : Nat} {absolute : Bool} {reversed : List Text}
    (hs : ∀ piece ∈ reversed, '/' ∉ piece) (hspell : Path.Spellable absolute reversed)
    (hd : Path.dropStays reversed = reversed)
    (hc : Path.spelled absolute reversed = [] ∨ checkPath (Path.spelled absolute reversed) = .ok ())
    (hcount : reversed.length < count) (fs : FileSystem) :
    fs.makeLineage (Path.ancestors count (Path.spelled absolute reversed)) =
      fs.makeWay (Path.way (Path.spelled absolute reversed)) := by
  induction count generalizing reversed fs with
  | zero => omega
  | succ count ih =>
    cases reversed with
    | nil =>
      cases absolute with
      | false => exact if_pos rfl
      | true => exact makeLineage_root count fs
    | cons segment earlier =>
      have hstay := Path.ofSegment_ne_stay hd
      have hne := Path.spelled_ne_nil hs hstay absolute
      have hc := hc.resolve_left hne
      have hparent := Path.parent?_spelled hs hspell hd
      have hearlier : ∀ piece ∈ Path.dropStays earlier, '/' ∉ piece := fun piece hm =>
        hs piece (List.mem_cons_of_mem _ ((Path.dropStays_suffix earlier).subset hm))
      have hlength := (Path.dropStays_suffix earlier).length_le
      have hrest := ih hearlier hspell.dropStays (List.dropWhile_idempotent _ earlier)
        (checkPath_parent? hc hparent) (by simp at hcount; omega)
      have hmake (files : FileSystem) :
          files.makeDirectory (Path.spelled absolute (segment :: earlier)) =
            files.makeStep (Path.way (Path.spelled absolute (Path.dropStays earlier)))
              (Path.Step.ofSegment segment) := by
        obtain ⟨before, name?, hending, hbefore, hname⟩ := Path.ending_spelled hs hstay
        rw [makeDirectory_eq hc hending, hname, hbefore,
          Path.way_dropStays fun piece hm => hs piece (List.mem_cons_of_mem _ hm)]
      rw [Path.ancestors, hparent, makeLineage, if_neg hne]
      simp only [Option.map_some, Option.getD_some, hrest, hmake, isDirectory_eq_isOk hc,
        Path.way_spelled_cons hs hstay]
      exact (makeWay.eq_2 fs _ _).symm

/-- Making the directories of a path makes its way, when the path ends in a name. -/
theorem makeDirectories_of_endsIn {name : Name} (he : Path.EndsIn path name) (hp : Path.Plain name)
    (hc : checkPath path = .ok ()) (fs : FileSystem) :
    fs.makeDirectories path = fs.makeWay (Path.way path) := by
  have hstays : Path.dropStays (Text.splitAt '/' (Path.body path)).reverse =
      (Text.splitAt '/' (Path.body path)).reverse := by
    obtain ⟨earlier, hsegments⟩ := he
    rw [hsegments, Path.dropStays_of_plain hp]
  have hpath := Path.ofReversed_splitAt path
  have hspell := Path.spellable_segments (he.ne_nil hp)
  have hlength := he.length_segments_le hp
  rw [Path.ofReversed_eq_spelled] at hpath
  rw [← List.length_reverse] at hlength
  have hmade := makeLineage_spelled (fun piece => Path.notMem_of_mem_segments) hspell
    hstays (.inr (hpath.symm ▸ hc)) (Nat.lt_succ_of_le hlength) fs
  rw [hpath] at hmade
  exact hmade

theorem checkPath_ne_notFound (hne : path ≠ []) : checkPath path ≠ .error .notFound := by
  rw [checkPath, if_neg hne]
  split
  · simp
  · split <;> simp

/-- Where a path is no good, its directories are not made. -/
theorem makeDirectories_of_checkPath (hne : path ≠ []) (hc : checkPath path = .error fault)
    (fs : FileSystem) : fs.makeDirectories path = (.error fault, fs) := by
  have hf : fault ≠ .notFound := by
    rintro rfl
    exact checkPath_ne_notFound hne hc
  have hm : fs.makeDirectory path = .error fault := by
    simp [makeDirectory, FileSystem.slot, hc, bind, Except.bind]
  have hd : fs.isDirectory path = false := by
    simp [isDirectory, locate, hc, bind, Except.bind]
  rw [makeDirectories, Path.lineage, Path.ancestors, makeLineage, if_neg hne, hm, hd]
  split <;> simp_all

end FileSystem
end WorkDepot
