import Mathlib.Data.List.Nodup
import AuditTrail.Files.Tree
import AuditTrail.Proofs.Lookup

/-!
# Proofs/Files/Tree — what an operation leaves at each location

    put     the node there                    erase   nothing there
    rename  the file, or all that was below   names   the names of what is there

Every equation is about the node at one location, so that no proof looks at the list of entries again.
They ask that no directory stands where the operation works, which leaves the two roots alone.
-/

namespace AuditTrail.FileTree

variable {α : Type} {tree moved : FileTree α} {place other source target : Location}

theorem isDirectory_iff : tree.isDirectory place = true ↔ tree.node? place = some .directory := by
  unfold isDirectory
  split
  case h_1 h => exact iff_of_true rfl h
  case h_2 h => exact iff_of_false nofun h

theorem content?_eq_some_iff {content : α} :
    tree.content? place = some content ↔ tree.node? place = some (.file content) := by
  unfold content?
  split
  case h_1 h => rw [h, Option.some.injEq, Option.some.injEq, FileNode.file.injEq]
  case h_2 h => exact iff_of_false nofun (h content)

theorem content?_congr (h : moved.node? place = tree.node? place) :
    moved.content? place = tree.content? place := by
  unfold content?
  rw [h]

theorem isDirectory_congr (h : moved.node? place = tree.node? place) :
    moved.isDirectory place = tree.isDirectory place := by
  unfold isDirectory
  rw [h]

/-- The roots are directories. -/
theorem node?_of_root (h : place = [] ∨ place = ["/"]) : tree.node? place = some .directory := if_pos h

theorem node?_of_not_root (h : ¬ (place = [] ∨ place = ["/"])) :
    tree.node? place = tree.entries.lookup place := if_neg h

/-! ## Putting, erasing, moving -/

/-- **Putting** a node where no directory stands. -/
theorem node?_put (h : tree.node? place ≠ some .directory) (node : FileNode α) :
    (tree.put place node).node? other = if other = place then some node else tree.node? other := by
  by_cases hroot : other = [] ∨ other = ["/"]
  · have hne : other ≠ place := fun heq => h (node?_of_root (heq ▸ hroot))
    rw [node?_of_root hroot, node?_of_root hroot, if_neg hne]
  · rw [node?_of_not_root hroot, node?_of_not_root hroot]
    exact lookup_cons_filter tree.entries place other node

/-- **Erasing** what stands where no directory is. -/
theorem node?_erase (h : tree.node? place ≠ some .directory) :
    (tree.erase place).node? other = if other = place then none else tree.node? other := by
  by_cases hroot : other = [] ∨ other = ["/"]
  · have hne : other ≠ place := fun heq => h (node?_of_root (heq ▸ hroot))
    rw [node?_of_root hroot, node?_of_root hroot, if_neg hne]
  · rw [node?_of_not_root hroot, node?_of_not_root hroot, erase,
      lookup_filter (fun key => decide (key ≠ place))]
    by_cases hsame : other = place
    · rw [if_pos hsame, if_neg (by rw [decide_eq_false (not_not_intro hsame)]; nofun)]
    · rw [if_neg hsame, if_pos (decide_eq_true hsame)]

theorem lookup_relocated (entries : List (Location × FileNode α)) (h : ¬ target <+: other) :
    ((entries.filter fun entry => !target.isPrefixOf entry.1).map
        fun (place, node) => (relocated source target place, node)).lookup other
      = if source <+: other then none else entries.lookup other := by
  induction entries with
  | nil => rw [List.filter_nil, List.map_nil, List.lookup_nil, ite_self]
  | cons entry rest ih =>
    obtain ⟨place, node⟩ := entry
    rw [List.filter_cons]
    by_cases hbelow : target <+: place
    · have hother : (other == place) = false := beq_eq_false_iff_ne.mpr fun heq => h (heq ▸ hbelow)
      have hgone : ¬ (!target.isPrefixOf place) = true := by
        rw [List.isPrefixOf_iff_prefix.mpr hbelow]
        nofun
      rw [if_neg hgone, ih, List.lookup_cons, hother]
    · have hkept : (!target.isPrefixOf place) = true := by
        rw [Bool.not_eq_true', ← Bool.not_eq_true, List.isPrefixOf_iff_prefix]
        exact hbelow
      rw [if_pos hkept, List.map_cons, List.lookup_cons, List.lookup_cons, ih]
      unfold relocated
      by_cases hmoved : source <+: place
      · -- what was below the source comes to be below the target
        have hto : (other == target ++ place.drop source.length) = false :=
          beq_eq_false_iff_ne.mpr fun heq => h (heq ▸ List.prefix_append _ _)
        rw [if_pos (List.isPrefixOf_iff_prefix.mpr hmoved), hto]
        by_cases hsame : other = place
        · rw [if_pos (hsame ▸ hmoved), if_pos (hsame ▸ hmoved)]
        · rw [beq_eq_false_iff_ne.mpr hsame]
      · rw [if_neg (mt List.isPrefixOf_iff_prefix.mp hmoved)]
        by_cases hsame : other = place
        · subst hsame
          rw [if_neg hmoved, if_neg hmoved, beq_self_eq_true]
        · rw [beq_eq_false_iff_ne.mpr hsame]

/-- **Moving** takes away what is below the old location and nothing else, apart from what it puts
below the new one. -/
theorem node?_move (h : ¬ target <+: other) (hroot : ¬ (other = [] ∨ other = ["/"])) :
    (tree.move source target).node? other = if source <+: other then none else tree.node? other := by
  rw [node?_of_not_root hroot, node?_of_not_root hroot]
  exact lookup_relocated tree.entries h

theorem lookup_relocated_self (entries : List (Location × FileNode α)) (h : ¬ target <+: source) :
    ((entries.filter fun entry => !target.isPrefixOf entry.1).map
        fun (place, node) => (relocated source target place, node)).lookup target
      = entries.lookup source := by
  induction entries with
  | nil => rfl
  | cons entry rest ih =>
    obtain ⟨place, node⟩ := entry
    rw [List.filter_cons, List.lookup_cons]
    by_cases hbelow : target <+: place
    · have hother : (source == place) = false := beq_eq_false_iff_ne.mpr fun heq => h (heq ▸ hbelow)
      have hgone : ¬ (!target.isPrefixOf place) = true := by
        rw [List.isPrefixOf_iff_prefix.mpr hbelow]
        nofun
      rw [if_neg hgone, ih, hother]
    · have hkept : (!target.isPrefixOf place) = true := by
        rw [Bool.not_eq_true', ← Bool.not_eq_true, List.isPrefixOf_iff_prefix]
        exact hbelow
      have hsame : (target == relocated source target place) = (source == place) := by
        rw [Bool.eq_iff_iff, beq_iff_eq, beq_iff_eq]
        unfold relocated
        split
        case isTrue hmoved =>
          rw [List.self_eq_append_right, List.drop_eq_nil_iff]
          have hprefix := List.isPrefixOf_iff_prefix.mp hmoved
          exact ⟨fun hlength => hprefix.eq_of_length_le hlength, fun heq => heq ▸ Nat.le_refl _⟩
        case isFalse hmoved =>
          refine iff_of_false (fun heq => hbelow (heq ▸ List.prefix_refl _)) fun heq => hmoved ?_
          exact List.isPrefixOf_iff_prefix.mpr (heq ▸ List.prefix_refl _)
      rw [if_pos hkept, List.map_cons, List.lookup_cons, hsame, ih]

/-- What stood at the old location stands at the new one. -/
theorem node?_move_self (h : ¬ target <+: source) (hsource : ¬ (source = [] ∨ source = ["/"]))
    (htarget : ¬ (target = [] ∨ target = ["/"])) :
    (tree.move source target).node? target = tree.node? source := by
  rw [node?_of_not_root hsource, node?_of_not_root htarget]
  exact lookup_relocated_self tree.entries h

/-! ## Renaming -/

/-- **A file that is renamed** stands at the new location, whatever file was there before. -/
theorem rename_file {content : α} (hfile : tree.node? source = some (.file content))
    (h : tree.rename source target = .ok moved) :
    tree.node? target ≠ some .directory ∧ ∀ other, moved.node? other =
      if other = target then some (.file content)
      else if other = source then none else tree.node? other := by
  have hsource : tree.node? source ≠ some .directory := by
    rw [hfile]
    nofun
  unfold rename at h
  split at h
  case isTrue hsame =>
    obtain rfl := Except.ok.inj h
    obtain rfl := hsame.1
    refine ⟨hsource, fun other => ?_⟩
    by_cases heq : other = source
    · rw [if_pos heq, heq, hfile]
    · rw [if_neg heq, if_neg heq]
  case isFalse =>
    have hput (htarget : tree.node? target ≠ some .directory) :
        (tree.erase source).node? target ≠ some .directory := by
      rw [node?_erase hsource]
      split
      · nofun
      · exact htarget
    rw [hfile] at h
    rcases htarget : tree.node? target with _ | ⟨_ | before⟩ <;> rw [htarget] at h
    case some.directory => cases h
    all_goals
      obtain rfl := Except.ok.inj h
      refine ⟨nofun, fun other => ?_⟩
      rw [node?_put (hput (by rw [htarget]; nofun)), node?_erase hsource]

/-- No directory comes or goes with it. -/
theorem isDirectory_rename_file {content : α} (hfile : tree.node? source = some (.file content))
    (h : tree.rename source target = .ok moved) : moved.isDirectory other = tree.isDirectory other := by
  obtain ⟨htarget, hmoved⟩ := rename_file hfile h
  have hnode := hmoved other
  rw [Bool.eq_iff_iff, isDirectory_iff, isDirectory_iff, hnode]
  split
  case isTrue hsame => exact iff_of_false nofun fun hdir => htarget (hsame ▸ hdir)
  case isFalse =>
    split
    case isTrue hsame =>
      rw [hsame, hfile]
      exact iff_of_false nofun nofun
    case isFalse => exact Iff.rfl

/-- **A directory that is renamed** comes to where no file is and nothing below. -/
theorem rename_directory (hsource : tree.node? source = some .directory) (hne : source ≠ target)
    (h : tree.rename source target = .ok moved) : (∀ content, tree.node? target ≠ some (.file content)) ∧
      tree.isBare target = true ∧ moved = tree.move source target := by
  unfold rename at h
  rw [if_neg (fun hsame => hne hsame.1), hsource] at h
  rcases htarget : tree.node? target with _ | ⟨_ | before⟩ <;> rw [htarget] at h <;> dsimp only at h
  case some.file => cases h
  all_goals
    split at h
    case isTrue hbare => exact ⟨nofun, hbare, (Except.ok.inj h).symm⟩
    case isFalse => cases h

/-- It takes the files below it along, and no other file. -/
theorem content?_rename_directory {content : α} (hsource : tree.node? source = some .directory)
    (hne : source ≠ target) (h : tree.rename source target = .ok moved)
    (hcontent : tree.content? other = some content) :
    moved.content? other = if source <+: other then none else some content := by
  have hother := content?_eq_some_iff.mp hcontent
  have hroot : ¬ (other = [] ∨ other = ["/"]) := by
    intro hroot
    rw [node?_of_root hroot] at hother
    cases hother
  obtain ⟨hfree, hbare, rfl⟩ := rename_directory hsource hne h
  have hbelow : ¬ target <+: other := by
    intro hbelow
    have hentry : other ∈ tree.entries.map (·.1) := by
      rw [← lookup_isSome_iff, ← node?_of_not_root hroot, hother]
      rfl
    obtain ⟨⟨_, node⟩, hmem, rfl⟩ := List.mem_map.mp hentry
    have hat := List.all_eq_true.mp hbare _ hmem
    simp only [List.isPrefixOf_iff_prefix.mpr hbelow, Bool.not_true, Bool.or_false,
      decide_eq_true_eq] at hat
    exact hfree content (hat ▸ hother)
  have hnode : (tree.move source target).node? other = _ := node?_move hbelow hroot
  split
  case isTrue hmoved =>
    rw [if_pos hmoved] at hnode
    unfold content?
    rw [hnode]
  case isFalse hmoved =>
    rw [if_neg hmoved] at hnode
    rw [content?_congr hnode, hcontent]

/-! ## Names -/

/-- The name of a location in a directory. -/
def nameIn? (place other : Location) : Option String :=
  match other.getLast? with
  | some name => if other.dropLast = place then some name else none
  | none => none

theorem nameIn?_eq_some_iff {name : String} : nameIn? place other = some name ↔ other = place ++ [name] := by
  unfold nameIn?
  constructor
  · intro h
    split at h
    case h_1 last hlast =>
      obtain ⟨init, rfl⟩ := List.getLast?_eq_some_iff.mp hlast
      rw [List.dropLast_concat] at h
      obtain ⟨rfl, hname⟩ := Option.ite_none_right_eq_some.mp h
      rw [Option.some.inj hname]
    case h_2 => cases h
  · rintro rfl
    rw [List.getLast?_concat, List.dropLast_concat]
    exact if_pos rfl

theorem names_eq : tree.names place = (tree.entries.map (·.1)).filterMap (nameIn? place) := by
  rw [List.filterMap_map]
  rfl

/-- A name stands once in a directory. -/
theorem nodup_names : (tree.names place).Nodup := by
  rw [names_eq]
  refine tree.nodup.filterMap fun p q name hp hq => ?_
  rw [nameIn?_eq_some_iff.mp hp, nameIn?_eq_some_iff.mp hq]

/-- **The names in a directory** are those of what is there. -/
theorem mem_names {name : String} (h : place ++ [name] ≠ ["/"]) :
    name ∈ tree.names place ↔ (tree.node? (place ++ [name])).isSome := by
  have hroot : ¬ (place ++ [name] = [] ∨ place ++ [name] = ["/"]) :=
    not_or.mpr ⟨List.append_ne_nil_of_right_ne_nil place (List.cons_ne_nil name []), h⟩
  rw [node?_of_not_root hroot, lookup_isSome_iff, names_eq, List.mem_filterMap]
  constructor
  · rintro ⟨other, hother, hname⟩
    exact nameIn?_eq_some_iff.mp hname ▸ hother
  · exact fun hmem => ⟨_, hmem, nameIn?_eq_some_iff.mpr rfl⟩

end AuditTrail.FileTree
