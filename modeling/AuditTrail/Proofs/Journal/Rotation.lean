import AuditTrail.Proofs.Journal.Names
import AuditTrail.Proofs.Journal.Run

/-!
# Proofs/Journal/Rotation — which files putting the active file away takes

    active file  ──rename──▶  STEM_stampSUFFIX          STEM_*SUFFIX, oldest first  ──unlink──▶  nothing

Removing files makes no directory come or go, so all the names that pruning found lead where they led
when it looked (`node?_swept`).
-/

namespace AuditTrail.Journal

open FileTree

variable {clock : Nat → Moment} {settings : JournalSettings} {tree moved : Files} {path : Path}
  {place source target : Location} {moment : Moment}

/-! ## Renaming -/

/-- **What a renaming needs and does**: both paths lead to their places, the old one ends in a name, and
something is there. -/
structure Renaming (path path' : Path) (tree moved : Files) : Prop where
  locates : tree.locate path = .ok path.place
  locates' : tree.locate path' = .ok path'.place
  parts_ne : path.parts ≠ []
  name_ne : path.name ≠ ".."
  there : tree.node? path.place ≠ none
  rename : tree.rename path.place path'.place = .ok moved

theorem renamed_eq_ok {path' : Path} (h : renamed tree path path' = .ok (source, target, moved)) :
    source = path.place ∧ target = path'.place ∧ Renaming path path' tree moved := by
  unfold renamed at h
  obtain ⟨a, ha, h⟩ := bind_eq_ok_iff.mp h
  obtain rfl := eq_place_of_locate ha
  rcases hown : hasOwnName path with _ | _ <;> rw [hown] at h
  case false => cases h
  rcases hnode : tree.node? path.place with _ | node <;> rw [hnode] at h
  case none => cases h
  obtain ⟨b, hb, h⟩ := bind_eq_ok_iff.mp h
  obtain rfl := eq_place_of_locate hb
  obtain ⟨moved', hrename, h⟩ := bind_eq_ok_iff.mp h
  cases h
  unfold hasOwnName at hown
  obtain ⟨hparts, hlast⟩ := Bool.and_eq_true_iff.mp hown
  have hparts : path.parts ≠ [] := of_decide_eq_true hparts
  refine ⟨rfl, rfl, ha, hb, hparts, fun hdots => of_decide_eq_true hlast ?_, by rw [hnode]; nofun, hrename⟩
  rw [List.getLast?_eq_some_getLast hparts, ← hdots, Path.name, List.getLastD_eq_getLast?,
    List.getLast?_eq_some_getLast hparts, Option.getD_some]

theorem Renaming.place_ne (h : Renaming path (rotatedPath path moment) tree moved) :
    path.place ≠ (rotatedPath path moment).place := by
  rw [Path.place_eq_concat h.parts_ne h.name_ne, place_rotatedPath]
  exact fun heq => isRotated_rotatedName.ne_name (List.singleton_inj.mp (List.append_cancel_left heq)).symm

/-- A file is what is renamed, where no directory is. -/
theorem Renaming.exists_file {path' : Path} (h : Renaming path path' tree moved)
    (hfile : tree.isDirectory path.place = false) :
    ∃ content, tree.node? path.place = some (.file content) := by
  rcases hnode : tree.node? path.place with _ | ⟨_ | content⟩
  case none => exact absurd hnode h.there
  case some.directory =>
    rw [isDirectory_iff.mpr hnode] at hfile
    cases hfile
  case some.file => exact ⟨content, rfl⟩

theorem Renaming.isDirectory_eq {path' : Path} (h : Renaming path path' tree moved)
    (hfile : tree.isDirectory path.place = false) : moved.isDirectory place = tree.isDirectory place := by
  obtain ⟨content, hcontent⟩ := h.exists_file hfile
  exact isDirectory_rename_file hcontent h.rename

/-- The path still leads into a directory. -/
theorem Renaming.leads (h : Renaming path (rotatedPath path moment) tree moved)
    (hfile : tree.isDirectory path.place = false) : moved.leadsToDirectory path.parent = true := by
  obtain ⟨hplace, hdir, -⟩ := (locate_child_eq_ok_iff isRotated_rotatedName.ne_dots).mp h.locates'
  have hsame (place : Location) : moved.isDirectory place = tree.isDirectory place := h.isDirectory_eq hfile
  exact leadsToDirectory_iff.mpr ⟨(locate_congr hsame).mpr hplace, (hsame _).trans hdir⟩

/-! ## Removing old files -/

theorem node?_discard : (discard tree path).node? place =
    if tree.locate path = .ok place ∧ (tree.content? place).isSome then none else tree.node? place := by
  unfold discard
  rcases hunlink : tree.unlink path with cause | moved
  case ok =>
    obtain ⟨hplace, ⟨content, hfile⟩, rfl⟩ := unlink_eq_ok hunlink
    rw [hplace, node?_erase (by rw [hfile]; nofun)]
    by_cases hsame : place = path.place
    · subst hsame
      rw [if_pos rfl, if_pos ⟨rfl, by rw [content?_eq_some_iff.mpr hfile]; rfl⟩]
    · rw [if_neg hsame, if_neg fun h => hsame (Except.ok.inj h.1).symm]
  case error =>
    refine (if_neg ?_).symm
    rintro ⟨hplace, hcontent⟩
    obtain ⟨content, hcontent⟩ := Option.isSome_iff_exists.mp hcontent
    rw [unlink_of_file hplace (content?_eq_some_iff.mp hcontent)] at hunlink
    cases hunlink

theorem isDirectory_discard : (discard tree path).isDirectory place = tree.isDirectory place := by
  by_cases hgone : tree.locate path = .ok place ∧ (tree.content? place).isSome
  · obtain ⟨content, hcontent⟩ := Option.isSome_iff_exists.mp hgone.2
    unfold isDirectory
    rw [node?_discard, if_pos hgone, content?_eq_some_iff.mp hcontent]
  · exact isDirectory_congr (by rw [node?_discard, if_neg hgone])

/-- The places of the files that are removed when the active file was put away: all but the latest. -/
def discarded (settings : JournalSettings) (tree : Files) : List Location :=
  if hasDoubleStar (rotatedPattern settings.path) then []
  else ((rotatedNames tree settings.path).drop (settings.maxFiles - 1).toNat).filterMap
    fun name => (tree.locate (settings.path.parent.child name)).toOption

theorem mem_discarded : place ∈ discarded settings tree ↔
    hasDoubleStar (rotatedPattern settings.path) = false ∧
      ∃ name ∈ (rotatedNames tree settings.path).drop (settings.maxFiles - 1).toNat,
        tree.locate (settings.path.parent.child name) = .ok place := by
  unfold discarded
  split
  case isTrue h => exact iff_of_false List.not_mem_nil fun h' => Bool.false_ne_true (h'.1.symm.trans h)
  case isFalse h =>
    rw [List.mem_filterMap]
    simp only [toOption_eq_some_iff]
    exact (and_iff_right (eq_false_of_ne_true h)).symm

theorem node?_foldl_discard (directory : Path) (names : List String) :
    (names.foldl (fun tree name => discard tree (directory.child name)) tree).node? place =
      if (∃ name ∈ names, tree.locate (directory.child name) = .ok place) ∧
        (tree.content? place).isSome then none else tree.node? place := by
  induction names generalizing tree with
  | nil => exact (if_neg fun ⟨⟨name, hname, _⟩, _⟩ => List.not_mem_nil hname).symm
  | cons name rest ih =>
    rw [List.foldl_cons, ih]
    have hlocate (other : String) : (discard tree (directory.child name)).locate (directory.child other)
        = .ok place ↔ tree.locate (directory.child other) = .ok place :=
      locate_congr fun _ => isDirectory_discard
    simp only [hlocate, List.exists_mem_cons_iff]
    by_cases hgone : tree.locate (directory.child name) = .ok place ∧ (tree.content? place).isSome
    · have hnode : (discard tree (directory.child name)).node? place = none := by
        rw [node?_discard, if_pos hgone]
      rw [hnode, ite_self, if_pos ⟨.inl hgone.1, hgone.2⟩]
    · have hnode : (discard tree (directory.child name)).node? place = tree.node? place := by
        rw [node?_discard, if_neg hgone]
      rw [hnode, content?_congr hnode]
      refine if_congr (and_congr_left fun hcontent => (or_iff_right fun hplace => ?_).symm) rfl rfl
      exact hgone ⟨hplace, hcontent⟩

/-- **Removing the old files** takes those that are discarded, and nothing else. -/
theorem node?_swept : (swept settings tree).node? place =
    if place ∈ discarded settings tree ∧ (tree.content? place).isSome then none else tree.node? place := by
  simp only [mem_discarded]
  unfold swept
  split
  case isTrue h => exact (if_neg fun h' => Bool.false_ne_true (h'.1.1.symm.trans h)).symm
  case isFalse h =>
    rw [node?_foldl_discard]
    simp only [eq_false_of_ne_true h, true_and]

theorem isDirectory_swept : (swept settings tree).isDirectory place = tree.isDirectory place := by
  by_cases hgone : place ∈ discarded settings tree ∧ (tree.content? place).isSome
  · obtain ⟨content, hcontent⟩ := Option.isSome_iff_exists.mp hgone.2
    unfold isDirectory
    rw [node?_swept, if_pos hgone, content?_eq_some_iff.mp hcontent]
  · exact isDirectory_congr (by rw [node?_swept, if_neg hgone])

theorem content?_swept : (swept settings tree).content? place =
    if place ∈ discarded settings tree then none else tree.content? place := by
  by_cases hgone : place ∈ discarded settings tree ∧ (tree.content? place).isSome
  · have hnode : (swept settings tree).node? place = none := by rw [node?_swept, if_pos hgone]
    unfold content?
    rw [hnode, if_pos hgone.1]
  · have hnode : (swept settings tree).node? place = tree.node? place := by
      rw [node?_swept, if_neg hgone]
    rw [content?_congr hnode]
    split
    case isTrue hmem => exact Option.not_isSome_iff_eq_none.mp fun hsome => hgone ⟨hmem, hsome⟩
    case isFalse => rfl

/-- **A new file can be opened** when the active one is put away. -/
theorem exists_openFile_of_renamed {desk : Desk}
    (hrenamed : renamed desk.tree settings.path (rotatedPath settings.path (clock desk.readings))
      = .ok (source, target, moved))
    (hfile : desk.tree.isDirectory settings.path.place = false)
    (hstars : hasDoubleStar (rotatedPattern settings.path) = false)
    (hchars : '\x00' ∉ settings.path.text.toList) (hparent : '\x00' ∉ settings.path.parent.text.toList) :
    ∃ mid desk', (rotate clock settings).run.run desk = (.ok (), mid) ∧ mid.tree = swept settings moved ∧
      (openFile settings.path).run.run { mid with size := 0 } = (.ok (), desk') := by
  obtain ⟨-, -, hrenaming⟩ := renamed_eq_ok hrenamed
  have hsame (place : Location) : (swept settings moved).isDirectory place = desk.tree.isDirectory place :=
    isDirectory_swept.trans (hrenaming.isDirectory_eq hfile)
  have hleads : (swept settings moved).leadsToDirectory settings.path.parent = true := by
    obtain ⟨hplace, hdir⟩ := leadsToDirectory_iff.mp (hrenaming.leads hfile)
    exact leadsToDirectory_iff.mpr
      ⟨(locate_congr fun _ => isDirectory_swept).mpr hplace, isDirectory_swept.trans hdir⟩
  obtain ⟨mid, hrotate, htree⟩ : ∃ mid, (rotate clock settings).run.run desk = (.ok (), mid) ∧
      mid.tree = swept settings moved := by
    rcases rotate_cases desk with ⟨_, notes, _, _, _, hrenamed', hrotate, hreturns⟩ | ⟨_, _, hfail, -⟩
    case inr => cases hfail.symm.trans hrenamed
    cases hrenamed'.symm.trans hrenamed
    obtain rfl := hreturns hstars
    refine ⟨_, hrotate, ?_⟩
    dsimp only
  rw [← htree] at hsame hleads
  have hplace := (locate_congr hsame).mpr hrenaming.locates
  obtain ⟨desk', hopen⟩ :
      ∃ desk', (openFile settings.path).run.run { mid with size := 0 } = (.ok (), desk') :=
    exists_openFile hchars hparent hleads hplace ((hsame _).trans hfile)
  exact ⟨mid, desk', hrotate, htree, hopen⟩

end AuditTrail.Journal
