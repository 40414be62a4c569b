import Mathlib
import WorkDepot.Path

/-! # Segments of paths

Joining two paths by a slash joins their segments, so a path above another one has the first of its
steps. The parents of a path are above it, but for the root or the empty path as the last of them.
The end of a path, where it is a name, is its last step but for the steps that say to stay. A path
that has been joined to a name ends in it, whatever it has been joined from: its parent is found
again, and what is joined to it comes behind a slash.
-/
namespace WorkDepot

namespace Text

theorem splitAt_eq_splitOn (separator : Char) (text : Text) :
    splitAt separator text = text.splitOn separator := by
  induction text with
  | nil => rfl
  | cons c rest ih =>
    rw [splitAt, ih, List.splitOn_cons_eq_if_modifyHead]
    by_cases hc : c = separator
    · simp [hc]
    · have hne := List.splitOn_ne_nil separator rest
      cases hs : rest.splitOn separator with
      | nil => exact absurd hs hne
      | cons piece pieces => simp [hc]

theorem splitAt_append (separator : Char) (first second : Text) :
    splitAt separator (first ++ separator :: second) =
      splitAt separator first ++ splitAt separator second := by
  simp only [splitAt_eq_splitOn, List.splitOn_append_cons_self]

theorem splitAt_of_notMem {separator : Char} {text : Text} (h : separator ∉ text) :
    splitAt separator text = [text] := by
  rw [splitAt_eq_splitOn, List.splitOn_eq_singleton h]

theorem splitAt_ne_nil (separator : Char) (text : Text) : splitAt separator text ≠ [] := by
  rw [splitAt_eq_splitOn]
  exact List.splitOn_ne_nil separator text

theorem notMem_of_mem_splitAt {separator : Char} {text piece : Text}
    (h : piece ∈ splitAt separator text) : separator ∉ piece := by
  induction text generalizing piece with
  | nil =>
    rw [splitAt, List.mem_singleton] at h
    simp [h]
  | cons c rest ih =>
    rw [splitAt] at h
    split at h
    · rcases List.mem_cons.mp h with rfl | hm
      · exact List.not_mem_nil
      · exact ih hm
    · next hc =>
      split at h
      · next hs => exact absurd hs (splitAt_ne_nil separator rest)
      · next first more hs =>
        rw [hs] at ih
        rcases List.mem_cons.mp h with rfl | hm
        · simp [ih List.mem_cons_self, Ne.symm hc]
        · exact ih (List.mem_cons_of_mem _ hm)

theorem length_splitAt (separator : Char) (text : Text) :
    (splitAt separator text).length = text.count separator + 1 := by
  induction text with
  | nil => rfl
  | cons c rest ih =>
    rw [splitAt, List.count_cons]
    split
    · next hc => simp [hc, ih]
    · next hc =>
      split
      · next hs => exact absurd hs (splitAt_ne_nil separator rest)
      · next hs =>
        rw [hs] at ih
        simpa [hc] using ih

theorem intercalate_splitAt (separator : Char) (text : Text) :
    [separator].intercalate (splitAt separator text) = text := by
  rw [splitAt_eq_splitOn, List.intercalate_splitOn]

theorem intercalate_append (separator : Char) {first second : List Text} (hf : first ≠ [])
    (hs : second ≠ []) : [separator].intercalate (first ++ second) =
      [separator].intercalate first ++ separator :: [separator].intercalate second := by
  induction first with
  | nil => exact absurd rfl hf
  | cons piece pieces ih =>
    cases pieces with
    | nil => simp [List.intercalate_cons_of_ne_nil hs]
    | cons next more => simpa using ih (by simp)

end Text

namespace Path

theorem steps_append (first second : Text) :
    steps (first ++ '/' :: second) = steps first ++ steps second := by
  simp only [steps, Text.splitAt_append, List.map_append]

theorem steps_ne_nil (path : Text) : steps path ≠ [] := by
  simpa [steps] using Text.splitAt_ne_nil '/' path

/-! ## Names -/

/-- A name that stands for an entry in every directory. -/
structure Plain (name : Name) : Prop where
  unslashed : '/' ∉ name
  nonempty : name ≠ []
  notDot : name ≠ ['.']
  notDots : name ≠ ['.', '.']

theorem plain_iff (name : Name) :
    Plain name ↔ '/' ∉ name ∧ name ≠ [] ∧ name ≠ ['.'] ∧ name ≠ ['.', '.'] :=
  ⟨fun h => ⟨h.1, h.2, h.3, h.4⟩, fun h => ⟨h.1, h.2.1, h.2.2.1, h.2.2.2⟩⟩

instance : DecidablePred Plain := fun name => decidable_of_iff' _ (plain_iff name)

theorem Plain.ofSegment {name : Name} (h : Plain name) : Step.ofSegment name = .into name := by
  simp [Step.ofSegment, h.nonempty, h.notDot, h.notDots]

/-- One character other than a dot tells a name from dots. -/
theorem Plain.of_mem {name : Name} {c : Char} (hs : '/' ∉ name) (hc : c ∈ name)
    (hdot : c ≠ '.') : Plain name where
  unslashed := hs
  nonempty := List.ne_nil_of_mem hc
  notDot := by
    rintro rfl
    exact hdot (by simpa using hc)
  notDots := by
    rintro rfl
    exact hdot (by simpa using hc)

theorem Plain.steps {name : Name} (h : Plain name) : steps name = [.into name] := by
  simp only [Path.steps, Text.splitAt_of_notMem h.unslashed, List.map_cons, List.map_nil,
    h.ofSegment]

/-! ## Paths above a path -/

/-- The other path goes on behind this one, after a slash. -/
structure Above (above path : Text) : Prop where
  nonempty : above ≠ []
  continued : ∃ rest, path = above ++ '/' :: rest

theorem Above.trans {first second third : Text} (h : Above first second)
    (h' : Above second third) : Above first third := by
  obtain ⟨hne, rest, rfl⟩ := h
  obtain ⟨_, more, rfl⟩ := h'
  exact ⟨hne, rest ++ '/' :: more, by simp⟩

theorem Above.steps {above path : Text} (h : Above above path) :
    ∃ rest, steps path = steps above ++ rest := by
  obtain ⟨_, rest, rfl⟩ := h
  exact ⟨Path.steps rest, steps_append above rest⟩

theorem not_above_nil (above : Text) : ¬ Above above [] := by
  rintro ⟨-, rest, hr⟩
  simp at hr

theorem not_above_root (above : Text) : ¬ Above above ['/'] := by
  rintro ⟨hne, rest, hr⟩
  cases above with
  | nil => exact hne rfl
  | cons c more => simp at hr

theorem isAbsolute_iff {path : Text} : isAbsolute path = true ↔ ∃ rest, path = '/' :: rest := by
  cases path with
  | nil => simp [isAbsolute]
  | cons c rest => simp [isAbsolute]

theorem not_isAbsolute_of_notMem {path : Text} (h : '/' ∉ path) : ¬ isAbsolute path := by
  intro ha
  obtain ⟨rest, rfl⟩ := isAbsolute_iff.mp ha
  exact h List.mem_cons_self

theorem ofReversed_isAbsolute {path : Text} (ha : isAbsolute path) (reversed : List Text) :
    ofReversed path reversed = '/' :: ['/'].intercalate reversed.reverse := by
  simp [ofReversed, ha]

theorem dropStays_suffix (reversed : List Text) : dropStays reversed <:+ reversed :=
  List.dropWhile_suffix _

theorem parent?_segments {path above : Text} (h : parent? path = some above) :
    ∃ kept dropped, Text.splitAt '/' (body path) = kept ++ dropped ∧ dropped ≠ [] ∧
      above = ofReversed path kept.reverse := by
  simp only [parent?] at h
  obtain ⟨stays, hs⟩ := dropStays_suffix (Text.splitAt '/' (body path)).reverse
  split at h
  · cases h
  · next last earlier he =>
    cases h
    obtain ⟨more, hm⟩ := dropStays_suffix earlier
    refine ⟨(dropStays earlier).reverse, more.reverse ++ last :: stays.reverse, ?_, by simp,
      by simp⟩
    have hr := congrArg List.reverse hs
    rw [he, List.reverse_reverse] at hr
    have he : earlier.reverse = (dropStays earlier).reverse ++ more.reverse := by
      rw [← List.reverse_append, hm]
    rw [← hr]
    simp [he]

/-- The parent of a path is above the path, unless it is the root or empty. -/
theorem parent?_above {path above : Text} (h : parent? path = some above) :
    above = [] ∨ above = ['/'] ∨ Above above path := by
  obtain ⟨kept, dropped, hs, hd, rfl⟩ := parent?_segments h
  by_cases hk : kept = []
  · by_cases ha : isAbsolute path <;> simp [hk, ofReversed, ha]
  have hbody := Text.intercalate_splitAt '/' (body path)
  rw [hs, Text.intercalate_append '/' hk hd] at hbody
  have hpath : path = ofReversed path kept.reverse ++ '/' :: ['/'].intercalate dropped := by
    by_cases ha : isAbsolute path
    · obtain ⟨rest, rfl⟩ := isAbsolute_iff.mp ha
      rw [body, if_pos ha, List.tail_cons] at hbody
      rw [ofReversed_isAbsolute ha, List.reverse_reverse, ← hbody]
      simp
    · rw [body, if_neg ha] at hbody
      rw [ofReversed, if_neg ha, List.reverse_reverse, ← hbody]
      simp
  by_cases hne : ofReversed path kept.reverse = []
  · exact .inl hne
  · exact .inr (.inr ⟨hne, _, hpath⟩)

/-- The lineage of a path has the path, paths above it and at most the root or the empty path. -/
theorem mem_ancestors {count : Nat} {path above : Text} (h : above ∈ ancestors count path) :
    above = path ∨ above = [] ∨ above = ['/'] ∨ Above above path := by
  induction count generalizing path with
  | zero => simp [ancestors] at h
  | succ count ih =>
    simp only [ancestors, List.mem_cons] at h
    rcases h with rfl | h
    · exact .inl rfl
    · right
      cases hp : parent? path with
      | none => simp [hp] at h
      | some parent =>
        simp only [hp, Option.map_some, Option.getD_some] at h
        have hup := parent?_above hp
        rcases ih h with rfl | rfl | rfl | habove
        · exact hup
        · exact .inl rfl
        · exact .inr (.inl rfl)
        · rcases hup with rfl | rfl | hup
          · exact absurd habove (not_above_nil above)
          · exact absurd habove (not_above_root above)
          · exact .inr (.inr (habove.trans hup))

/-- Every path whose making the parent of a path may ask for. -/
theorem mem_lineage_parent {path parent above : Text} (hp : parent? path = some parent)
    (h : above ∈ lineage parent) : above = [] ∨ above = ['/'] ∨ Above above path := by
  have hup := parent?_above hp
  rcases mem_ancestors h with rfl | hempty | hroot | habove
  · exact hup
  · exact .inl hempty
  · exact .inr (.inl hroot)
  · rcases hup with rfl | rfl | hup
    · exact absurd habove (not_above_nil above)
    · exact absurd habove (not_above_root above)
    · exact .inr (.inr (habove.trans hup))

/-! ## The end of a path -/

theorem End.ofReversed_steps {reversed : List Text} {slashed : Bool} {name : Name}
    (h : (End.ofReversed reversed slashed).name? = some name) :
    ∃ count, (reversed.map Step.ofSegment).reverse =
        (End.ofReversed reversed slashed).before ++ .into name :: List.replicate count .stay ∧
      ((End.ofReversed reversed slashed).slashed = false → slashed = false ∧ count = 0) := by
  induction reversed generalizing slashed with
  | nil => simp [End.ofReversed] at h
  | cons segment earlier ih =>
    cases segment with
    | nil =>
      simp only [End.ofReversed] at h ⊢
      obtain ⟨count, hs, hf⟩ := ih h
      refine ⟨count + 1, ?_, fun hsl => absurd (hf hsl).1 (by simp)⟩
      rw [List.map_cons, List.reverse_cons, hs, List.replicate_succ']
      simp [Step.ofSegment]
    | cons c rest =>
      simp only [End.ofReversed] at h ⊢
      refine ⟨0, ?_, fun hsl => ⟨hsl, rfl⟩⟩
      split at h
      · next into hstep =>
        cases h
        simp [hstep]
      · cases h

/-- Where a path ends in a name, that name is the last step that does not say to stay. -/
theorem ending_steps {path : Text} {name : Name} (h : (ending path).name? = some name) :
    ∃ count, steps path = (ending path).before ++ .into name :: List.replicate count .stay ∧
      ((ending path).slashed = false → count = 0) := by
  obtain ⟨count, hs, hf⟩ := End.ofReversed_steps h
  refine ⟨count, ?_, fun hsl => (hf hsl).2⟩
  rw [← List.map_reverse, List.reverse_reverse] at hs
  exact hs

/-! ## Entries of directories -/

section
variable {name : Name} {directory : Text}

theorem join_isAbsolute {directory name : Text} (ha : isAbsolute directory) :
    isAbsolute (join directory name) := by
  obtain ⟨rest, rfl⟩ := isAbsolute_iff.mp ha
  rw [join]
  split
  · next h =>
    simp only [List.isEmpty_cons, Bool.or_false] at h
    exact h
  · split <;> rfl

theorem head?_join (hne : directory ≠ []) {path : Text} (hr : ¬ isAbsolute path) :
    (join directory path).head? = directory.head? := by
  rw [join, if_neg (by simp [hr, hne])]
  split <;> exact List.head?_append_of_ne_nil _ hne

/-- A path that is not absolute is joined to a directory with one slash, perhaps the directory's
own. -/
theorem join_relative (ha : isAbsolute directory) {path : Text} (hr : ¬ isAbsolute path) :
    ∃ base, join directory path = base ++ '/' :: path ∧
      (directory = base ∨ directory = base ++ ['/']) := by
  have hne : directory ≠ [] := by
    rintro rfl
    cases ha
  by_cases hl : directory.getLast? = some '/'
  · obtain ⟨base, rfl⟩ := List.getLast?_eq_some_iff.mp hl
    exact ⟨base, by simp [join, hr], .inr rfl⟩
  · exact ⟨directory, by simp [join, hr, hne, hl], .inl rfl⟩

theorem join_entry (ha : isAbsolute directory) (hs : '/' ∉ name) :
    ∃ base, join directory name = base ++ '/' :: name ∧
      (directory = base ∨ directory = base ++ ['/']) :=
  join_relative ha (not_isAbsolute_of_notMem hs)

theorem reverse_splitAt_entry (hs : '/' ∉ name) :
    (Text.splitAt '/' (directory ++ '/' :: name)).reverse =
      name :: (Text.splitAt '/' directory).reverse := by
  rw [Text.splitAt_append, Text.splitAt_of_notMem hs, List.reverse_append, List.reverse_singleton,
    List.singleton_append]

variable (directory) in
theorem ending_entry (hp : Plain name) :
    ending (directory ++ '/' :: name) = ⟨steps directory, some name, false⟩ := by
  rw [ending, reverse_splitAt_entry hp.unslashed]
  cases name with
  | nil => exact absurd rfl hp.nonempty
  | cons c rest => simp [End.ofReversed, hp.ofSegment, steps]

theorem dropStays_of_plain (hp : Plain name) (earlier : List Text) :
    dropStays (name :: earlier) = name :: earlier := by
  simp [dropStays, hp.ofSegment]

/-- A path is put together again from its segments. -/
theorem ofReversed_splitAt (path : Text) :
    ofReversed path (Text.splitAt '/' (body path)).reverse = path := by
  by_cases ha : isAbsolute path
  · obtain ⟨rest, rfl⟩ := isAbsolute_iff.mp ha
    rw [ofReversed_isAbsolute ha, List.reverse_reverse, Text.intercalate_splitAt, body, if_pos ha,
      List.tail_cons]
  · rw [ofReversed, if_neg ha, List.reverse_reverse, Text.intercalate_splitAt, body, if_neg ha,
      List.nil_append]

/-- The name is the last segment of the path. -/
def EndsIn (path : Text) (name : Name) : Prop :=
  ∃ earlier, (Text.splitAt '/' (body path)).reverse = name :: earlier

variable (directory) in
theorem endsIn_entry (hs : '/' ∉ name) : EndsIn (directory ++ '/' :: name) name := by
  rw [EndsIn, body]
  split
  · cases directory with
    | nil => exact ⟨[], by rw [List.nil_append, List.tail_cons, Text.splitAt_of_notMem hs]; rfl⟩
    | cons c more => exact ⟨_, reverse_splitAt_entry hs⟩
  · exact ⟨_, reverse_splitAt_entry hs⟩

theorem endsIn_name (hs : '/' ∉ name) : EndsIn name name := by
  rw [EndsIn, body, if_neg (not_isAbsolute_of_notMem hs), Text.splitAt_of_notMem hs]
  exact ⟨[], rfl⟩

/-- Whatever a name is joined to, it comes last. -/
theorem endsIn_join (base : Text) (hs : '/' ∉ name) : EndsIn (join base name) name := by
  rw [join]
  split
  · exact endsIn_name hs
  · split
    · next hlast =>
      obtain ⟨front, rfl⟩ := List.getLast?_eq_some_iff.mp hlast
      rw [List.append_assoc, List.singleton_append]
      exact endsIn_entry front hs
    · exact endsIn_entry base hs

namespace EndsIn
variable {path : Text}

theorem eq_append (h : EndsIn path name) : ∃ front, path = front ++ name := by
  obtain ⟨earlier, hsegments⟩ := h
  have hpath := ofReversed_splitAt path
  rw [hsegments, ofReversed, List.reverse_cons] at hpath
  by_cases hnil : earlier = []
  · exact ⟨if isAbsolute path then ['/'] else [], by simpa [hnil] using hpath.symm⟩
  · rw [Text.intercalate_append '/' (by simpa using hnil) (List.cons_ne_nil _ _)] at hpath
    exact ⟨(if isAbsolute path then ['/'] else []) ++ (['/'].intercalate earlier.reverse ++ ['/']),
      by simpa using hpath.symm⟩

theorem ne_nil (h : EndsIn path name) (hp : Plain name) : path ≠ [] := by
  obtain ⟨front, rfl⟩ := h.eq_append
  exact List.append_ne_nil_of_right_ne_nil front hp.nonempty

theorem getLast?_ne (h : EndsIn path name) (hp : Plain name) : path.getLast? ≠ some '/' := by
  obtain ⟨front, rfl⟩ := h.eq_append
  rw [List.getLast?_append_of_ne_nil _ hp.nonempty]
  exact fun hlast => hp.unslashed (List.mem_of_getLast? hlast)

/-- A path has no more segments than characters. -/
theorem length_segments_le (h : EndsIn path name) (hp : Plain name) :
    (Text.splitAt '/' (body path)).length ≤ path.length := by
  obtain ⟨front, rfl⟩ := h.eq_append
  obtain ⟨c, rest, rfl⟩ := List.exists_cons_of_ne_nil hp.nonempty
  have hc : '/' ≠ c := fun he => hp.unslashed (he ▸ List.mem_cons_self)
  have hbody : body (front ++ c :: rest) <:+ front ++ c :: rest := by
    rw [body]
    split
    · exact List.tail_suffix _
    · exact List.suffix_rfl
  have hcount : (front ++ c :: rest).count '/' < (front ++ c :: rest).length :=
    List.count_le_length.lt_of_ne fun he => hc (List.count_eq_length.mp he c (by simp))
  rw [Text.length_splitAt]
  exact (hbody.sublist.count_le '/').trans_lt hcount

/-- A path that is not absolute goes on behind the entry that it is joined to. -/
theorem join_eq {base : Text} (h : EndsIn base name) (hp : Plain name) (hr : ¬ isAbsolute path) :
    join base path = base ++ '/' :: path := by
  rw [join, if_neg (by simp [hr, h.ne_nil hp]), if_neg (h.getLast?_ne hp)]

/-- The parent of an entry is its directory, when that ends in a name, too. -/
theorem parent?_eq {last : Name} (h : EndsIn directory last) (hl : Plain last) (hp : Plain name) :
    parent? (directory ++ '/' :: name) = some directory := by
  have hne := h.ne_nil hl
  obtain ⟨front, hfront⟩ := h
  have habsolute : isAbsolute (directory ++ '/' :: name) = isAbsolute directory := by
    simp [isAbsolute, List.head?_append_of_ne_nil _ hne]
  have hbody : body (directory ++ '/' :: name) = body directory ++ '/' :: name := by
    rw [body, body, habsolute]
    split
    · exact List.tail_append_of_ne_nil hne
    · rfl
  have hwhole := ofReversed_splitAt directory
  rw [hfront] at hwhole
  simp only [parent?, hbody, reverse_splitAt_entry hp.unslashed, dropStays_of_plain hp, hfront,
    dropStays_of_plain hl]
  rw [ofReversed, habsolute, ← ofReversed, hwhole]

end EndsIn

end

end Path
end WorkDepot
