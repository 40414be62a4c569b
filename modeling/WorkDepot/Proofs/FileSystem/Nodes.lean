import Mathlib
import WorkDepot.FileSystem.Operations

/-! # Nodes of file systems

File systems are ordered by growth: a later one has every node of an earlier one, as it was. In a
tree every entry stands in a directory. A vacant location is one where an entry can be made.
Supplies fill free locations only, so that their order does not matter.
-/
namespace WorkDepot.FileSystem
variable {fs before after : FileSystem} {location other : Location} {node : Node}

@[simp] theorem node?_root : fs.node? [] = some .directory := rfl

theorem node?_cons (name : Name) (directory : Location) :
    fs.node? (name :: directory) = fs.nodes[name :: directory]? := rfl

theorem node?_of_ne (h : location ≠ []) : fs.node? location = fs.nodes[location]? := by
  cases location with
  | nil => exact absurd rfl h
  | cons name directory => rfl

theorem ne_nil_of_node?_eq_none (h : fs.node? location = none) : location ≠ [] := by
  rintro rfl
  simp at h

theorem nodes_insert : (fs.insert location node).nodes[other]? =
    if other = location then some node else fs.nodes[other]? := by
  have h := Std.ExtTreeMap.getElem?_insert (t := fs.nodes) (k := location) (a := other) (v := node)
  simpa only [insert, Std.LawfulEqCmp.compare_eq_iff_eq, eq_comm (a := location)] using h

theorem nodes_erase : (fs.erase location).nodes[other]? =
    if other = location then none else fs.nodes[other]? := by
  have h := Std.ExtTreeMap.getElem?_erase (t := fs.nodes) (k := location) (a := other)
  simpa only [erase, Std.LawfulEqCmp.compare_eq_iff_eq, eq_comm (a := location)] using h

theorem ext_nodes (h : ∀ place : Location, before.nodes[place]? = after.nodes[place]?) :
    before = after := by
  have hn : before.nodes = after.nodes := Std.ExtTreeMap.ext_getElem? h
  cases before
  cases after
  simpa using hn

theorem node?_insert (h : location ≠ []) : (fs.insert location node).node? other =
    if other = location then some node else fs.node? other := by
  cases other with
  | nil => simp [h.symm]
  | cons name directory => simp only [node?_cons, nodes_insert]

theorem node?_erase (h : location ≠ []) : (fs.erase location).node? other =
    if other = location then none else fs.node? other := by
  cases other with
  | nil => simp [h.symm]
  | cons name directory => simp only [node?_cons, nodes_erase]

theorem node?_insert_self (h : location ≠ []) :
    (fs.insert location node).node? location = some node := by
  simp [node?_insert h]

theorem node?_insert_of_ne (h : other ≠ location) :
    (fs.insert location node).node? other = fs.node? other := by
  cases other with
  | nil => rfl
  | cons name directory => rw [node?_cons, nodes_insert, if_neg h, node?_cons]

theorem node?_erase_of_ne (h : other ≠ location) :
    (fs.erase location).node? other = fs.node? other := by
  cases other with
  | nil => rfl
  | cons name directory => rw [node?_cons, nodes_erase, if_neg h, node?_cons]

theorem node?_setContent_of_ne (content : Bytes) (h : other ≠ location) :
    (fs.setContent location content).node? other = fs.node? other := by
  rw [setContent]
  split
  · exact node?_insert_of_ne h
  · rfl

theorem node?_setMode_of_ne (mode : Mode) (h : other ≠ location) :
    (fs.setMode location mode).node? other = fs.node? other := by
  rw [setMode]
  split
  · exact node?_insert_of_ne h
  · rfl

@[simp] theorem insert_insert (first second : Node) :
    (fs.insert location first).insert location second = fs.insert location second := by
  apply ext_nodes
  intro place
  simp only [nodes_insert]
  split <;> rfl

theorem erase_insert (h : fs.node? location = none) :
    (fs.insert location node).erase location = fs := by
  apply ext_nodes
  intro place
  rw [nodes_erase, nodes_insert]
  split
  · next he =>
    rw [he, ← node?_of_ne (ne_nil_of_node?_eq_none h), h]
  · rfl

/-! ## Growth -/

instance : Preorder FileSystem where
  le before after := ∀ location node, before.node? location = some node →
    after.node? location = some node
  le_refl _ _ _ h := h
  le_trans _ _ _ hab hbc location node h := hbc location node (hab location node h)

/-- What is free later has been free before. -/
theorem node?_eq_none_of_le {before after : FileSystem} (hle : before ≤ after)
    (h : after.node? location = none) : before.node? location = none := by
  cases hn : before.node? location with
  | none => rfl
  | some node =>
    rw [hle _ _ hn] at h
    cases h

theorem le_insert (h : fs.node? location = none) : fs ≤ fs.insert location node := by
  intro place there hp
  have hne : place ≠ location := by
    rintro rfl
    rw [h] at hp
    cases hp
  rw [node?_insert (ne_nil_of_node?_eq_none h), if_neg hne]
  exact hp

/-! ## Supplies -/

/-- A node comes to its location, unless there is one already. -/
def supply (fs : FileSystem) (entry : Location × Node) : FileSystem :=
  if fs.node? entry.1 = none then fs.insert entry.1 entry.2 else fs

theorem supply_of_free (h : fs.node? location = none) :
    fs.supply (location, node) = fs.insert location node := if_pos h

theorem supply_of_node {there : Node} (h : fs.node? location = some there) :
    fs.supply (location, node) = fs := if_neg (by simp [h])

theorem node?_supply_self : (fs.supply (location, node)).node? location =
    some ((fs.node? location).getD node) := by
  cases hn : fs.node? location with
  | none =>
    rw [supply_of_free hn, node?_insert_self (ne_nil_of_node?_eq_none hn)]
    rfl
  | some there =>
    rw [supply_of_node hn, hn]
    rfl

section
variable {entry first second : Location × Node} {entries : List (Location × Node)}

variable (fs entry) in
theorem le_supply : fs ≤ fs.supply entry := by
  rw [supply]
  split
  · next hn => exact le_insert hn
  · exact le_rfl

theorem node?_supply_of_ne (h : other ≠ entry.1) :
    (fs.supply entry).node? other = fs.node? other := by
  rw [supply]
  split
  · exact node?_insert_of_ne h
  · rfl

/-- Two supplies can change places, unless they are rivals for one location. -/
theorem supply_comm (h : first.1 = second.1 → first = second) :
    (fs.supply first).supply second = (fs.supply second).supply first := by
  by_cases he : first.1 = second.1
  · rw [h he]
  · simp only [supply]
    by_cases hf : fs.node? first.1 = none <;> by_cases hs : fs.node? second.1 = none <;>
      simp only [hf, hs, if_true, if_false, node?_insert_of_ne he, node?_insert_of_ne (Ne.symm he)]
    apply ext_nodes
    intro place
    simp only [nodes_insert]
    split <;> split <;> simp_all

/-- What stands at a location is what has stood there, or one of the supplies. -/
theorem node?_supplies (fs : FileSystem) (entries : List (Location × Node)) (location : Location) :
    (entries.foldl supply fs).node? location = fs.node? location ∨
      fs.node? location = none ∧ ∃ entry ∈ entries, entry.1 = location ∧
        (entries.foldl supply fs).node? location = some entry.2 := by
  induction entries generalizing fs with
  | nil => exact .inl rfl
  | cons entry entries ih =>
    rw [List.foldl_cons]
    by_cases he : location = entry.1 ∧ fs.node? location = none
    · obtain ⟨rfl, hfree⟩ := he
      have hnode : (fs.supply entry).node? entry.1 = some entry.2 := by
        rw [node?_supply_self, hfree]
        rfl
      rcases ih (fs.supply entry) with hsame | ⟨hnone, _⟩
      · exact .inr ⟨hfree, entry, List.mem_cons_self, rfl, hsame.trans hnode⟩
      · rw [hnode] at hnone
        cases hnone
    · have hkept : (fs.supply entry).node? location = fs.node? location := by
        by_cases hl : location = entry.1
        · obtain ⟨node, hn⟩ := Option.ne_none_iff_exists'.mp fun hfree => he ⟨hl, hfree⟩
          rw [hn]
          exact le_supply fs entry _ _ hn
        · exact node?_supply_of_ne hl
      rw [← hkept]
      exact (ih (fs.supply entry)).imp_right fun ⟨hfree, other, hm, ho⟩ =>
        ⟨hfree, other, List.mem_cons_of_mem _ hm, ho⟩

theorem supplies_perm {others : List (Location × Node)} (hp : entries.Perm others)
    (h : ∀ first ∈ entries, ∀ second ∈ entries, first.1 = second.1 → first = second) :
    entries.foldl supply fs = others.foldl supply fs :=
  hp.foldl_eq' (fun first hf second hs _ => supply_comm (h first hf second hs)) fs

end

/-! ## More directories -/

/-- All that was there is there, and what is new is directories. -/
structure Widened (before after : FileSystem) : Prop where
  kept : before ≤ after
  new : ∀ location, before.node? location = none →
    after.node? location = none ∨ after.node? location = some .directory

theorem Widened.refl (fs : FileSystem) : Widened fs fs := ⟨le_rfl, fun _ h => .inl h⟩

theorem Widened.trans {middle : FileSystem} (h : Widened before middle)
    (h' : Widened middle after) : Widened before after := by
  refine ⟨h.kept.trans h'.kept, fun location hn => ?_⟩
  rcases h.new location hn with hnone | hdir
  · exact h'.new location hnone
  · exact .inr (h'.kept _ _ hdir)

theorem Widened.supply (h : Widened before after) (location : Location) :
    Widened (before.supply (location, .directory)) (after.supply (location, .directory)) := by
  constructor
  · intro place node hn
    by_cases he : place = location
    · subst he
      rw [node?_supply_self] at hn ⊢
      cases hb : before.node? place with
      | some there =>
        rw [hb] at hn
        rw [h.kept _ _ hb]
        exact hn
      | none =>
        rw [hb] at hn
        rcases h.new place hb with hnone | hdir
        · rw [hnone]
          exact hn
        · rw [hdir]
          exact hn
    · rw [node?_supply_of_ne he] at hn ⊢
      exact h.kept _ _ hn
  · intro place hn
    by_cases he : place = location
    · subst he
      rw [node?_supply_self] at hn
      cases hn
    · rw [node?_supply_of_ne he] at hn ⊢
      exact h.new place hn

/-! ## Trees -/

/-- Every entry stands in a directory. -/
def IsTree (fs : FileSystem) : Prop :=
  ∀ name directory node, fs.node? (name :: directory) = some node →
    fs.node? directory = some .directory

/-- Nothing is at the location yet, and there is a directory for it. -/
structure Vacant (fs : FileSystem) (location : Location) : Prop where
  free : fs.node? location = none
  housed : fs.node? location.tail = some .directory

theorem Vacant.ne_nil (h : fs.Vacant location) : location ≠ [] := ne_nil_of_node?_eq_none h.free

theorem isTree_empty : FileSystem.empty.IsTree := by
  intro name directory node h
  simp [node?, empty] at h

theorem IsTree.insert (ht : fs.IsTree) (hv : fs.Vacant location) (node : Node) :
    (fs.insert location node).IsTree := by
  intro name directory there h
  rw [node?_insert hv.ne_nil] at h ⊢
  split at h
  · next he =>
    subst he
    have hd : directory ≠ name :: directory := (List.cons_ne_self name directory).symm
    rw [if_neg hd]
    exact hv.housed
  · have hd := ht name directory there h
    split
    · next he =>
      rw [he, hv.free] at hd
      cases hd
    · exact hd

/-- Below a free location of a tree there is nothing. -/
theorem IsTree.node?_append (ht : fs.IsTree) (h : fs.node? location = none) (names : List Name) :
    fs.node? (names ++ location) = none := by
  induction names with
  | nil => exact h
  | cons name names ih =>
    cases hn : fs.node? (name :: names ++ location) with
    | none => rfl
    | some node =>
      have hd := ht name (names ++ location) node hn
      rw [ih] at hd
      cases hd

/-- Below an empty directory of a tree there is nothing. -/
theorem IsTree.below_empty (ht : fs.IsTree) (hempty : ∀ name, fs.node? (name :: location) = none)
    (hs : location <:+ other) : other = location ∨ fs.node? other = none := by
  obtain ⟨names, rfl⟩ := hs
  rcases List.eq_nil_or_concat names with rfl | ⟨more, name, rfl⟩
  · exact .inl rfl
  · right
    rw [List.concat_append]
    exact ht.node?_append (hempty name) more

/-! ## Files and directories that are new -/

def IsFile (fs : FileSystem) (location : Location) : Prop :=
  ∃ content mode, fs.node? location = some (.file content mode)

/-- The locations of files that were no files before. -/
def newFiles (before after : FileSystem) : Set Location :=
  {location | after.IsFile location ∧ ¬ before.IsFile location}

/-- The locations of directories that were no directories before. -/
def newDirectories (before after : FileSystem) : Set Location :=
  {location | after.node? location = some .directory ∧ before.node? location ≠ some .directory}

theorem newFiles_self : newFiles fs fs = ∅ := by
  ext place
  simp [newFiles]

theorem newFiles_eq_empty_iff :
    newFiles before after = ∅ ↔ ∀ location, after.IsFile location → before.IsFile location := by
  simp [newFiles, Set.eq_empty_iff_forall_notMem]

theorem newDirectories_self : newDirectories fs fs = ∅ := by
  ext place
  simp [newDirectories]

end WorkDepot.FileSystem
