import Mathlib.Data.Set.Card
import AuditTrail.Proofs.Journal.Retention

/-!
# Proofs/Journal/OldFiles — how many of the files that were put away there are

    put away as    STEM_stampSUFFIX           audit[1]_20240101_000001_000000.jsonl
    looked for     STEM_*SUFFIX, a pattern    audit1_… and no other name

The name of an old file has the stem as it is written, and the pattern by which it is looked for reads the
stem.  So a name may be missed (`IsMissed`).  The old files that are found are no more than the settings
allow, after every run and whichever steps are refused, and the others are never removed
(`limited_after`).  A path whose pattern has no set and no two stars next to each other misses none.
-/

namespace AuditTrail.Journal

open FileTree

/-! ## Old files, and what a step does to them -/

/-- **The old files of a path**: those with a name that the path gives at some moment. -/
def oldFiles (path : Path) (tree : Files) : Set String :=
  {name | (∃ moment, name = rotatedName path moment) ∧
    (tree.content? (path.parent.place ++ [name])).isSome}

/-- **Old files are not found under the name**: the pattern is refused, or does not fit. -/
def IsMissed (path : Path) (name : String) : Prop :=
  hasDoubleStar (rotatedPattern path) = true ∨
    (Glob.parse (rotatedPattern path)).accepts name.toList = false

section Definitions

variable (clock : Nat → Moment) (settings : JournalSettings)

/-- **The files once the active one was put away** and old ones were removed, where the renaming is not
refused. -/
def turned (tree : Files) (moment : Moment) : Files :=
  match renamed tree settings.path (rotatedPath settings.path moment) with
  | .ok (_, _, moved) => swept settings moved
  | .error _ => tree

/-- **The name that the active file gets**, where the renaming is not refused and it is no directory. -/
def nameGiven? (tree : Files) (moment : Moment) : Option String :=
  match renamed tree settings.path (rotatedPath settings.path moment) with
  | .ok _ =>
    if (tree.content? settings.path.place).isSome then some (rotatedName settings.path moment) else none
  | .error _ => none

/-- The files when a step has put the active one away, if it does. -/
def Step.turned (desk : Desk) (step : Step) : Files :=
  match step.rotation? clock settings desk with
  | some moment => Journal.turned settings desk.tree moment
  | none => desk.tree

/-- **The names under which the steps of a run put files away**, those of refused steps among them. -/
def namesGiven : List Step → Desk → List String
  | [], _ => []
  | step :: rest, desk =>
    ((step.rotation? clock settings desk).bind (nameGiven? settings desk.tree)).toList ++
      namesGiven rest (step.run clock settings desk).2

end Definitions

variable {clock : Nat → Moment} {settings : JournalSettings} {tree moved : Files}
  {desk desk' : Desk} {outcome : Except Fault Unit} {path : Path} {place source target : Location}
  {moment : Moment} {name : String} {names : List String}

theorem isRotated_of_mem_oldFiles (h : name ∈ oldFiles path tree) : IsRotated path name := by
  obtain ⟨⟨moment, rfl⟩, -⟩ := h
  exact isRotated_rotatedName

theorem tree_rotate (hrun : (rotate clock settings).run.run desk = (outcome, desk')) :
    desk'.tree = turned settings desk.tree (clock desk.readings) := by
  unfold turned
  rcases rotate_cases desk with ⟨_, _, source, target, moved, hrenamed, h, -⟩ | ⟨_, cause, hrenamed, h⟩
  · cases h.symm.trans hrun
    simp only [hrenamed]
  · cases h.symm.trans hrun
    simp only [hrenamed]

/-- Getting ready to write leaves the other files as they are once a full file was put away. -/
theorem content?_makeReady (hrun : (makeReady clock settings).run.run desk = (outcome, desk'))
    (hother : place ≠ settings.path.place) : desk'.tree.content? place =
      (if desk.handle.isSome ∧ isFull settings desk.size = true then
        turned settings desk.tree (clock desk.readings) else desk.tree).content? place := by
  rcases makeReady_cases desk with ⟨hnone, h⟩ | ⟨-, hroom, h⟩ |
    ⟨hopen, hfull, ⟨mid, hrotate, h⟩ | ⟨fault, mid, hrotate, h⟩⟩
  · rw [if_neg fun hfull => Option.not_isSome_iff_eq_none.mpr hnone hfull.1]
    exact content?_openFile (h.symm.trans hrun) hother
  · cases h.symm.trans hrun
    rw [if_neg fun hfull => Bool.false_ne_true (hroom.symm.trans hfull.2)]
  · have hmid := tree_rotate hrotate
    dsimp only at hmid
    have hopened := content?_openFile (h.symm.trans hrun) hother
    rw [if_pos ⟨hopen, hfull⟩, ← hmid, hopened]
  · have hmid := tree_rotate hrotate
    dsimp only at hmid
    cases h.symm.trans hrun
    rw [if_pos ⟨hopen, hfull⟩, ← hmid]

/-- Writing to an open file makes no file come or go. -/
theorem isSome_content?_written (handle : Option Location) (line : List UInt8) :
    ((written tree handle line).content? place).isSome = (tree.content? place).isSome := by
  by_cases hopen : handle = some place
  · subst hopen
    cases hcontent : tree.content? place with
    | none =>
      unfold written
      dsimp only
      rw [hcontent]
      dsimp only
      rw [hcontent]
    | some content =>
      have hwritten := node?_written_of_file line (content?_eq_some_iff.mp hcontent)
      rw [content?_eq_some_iff.mpr hwritten]
      rfl
  · rw [content?_congr (node?_written_of_ne line hopen)]

/-- A record that can be filled in puts the active file away where it finds the file open and full. -/
theorem turned_emit {template : String} {arguments : List String} {message : String}
    (h : Substitution.substitute template arguments = .ok message) :
    (Step.emit template arguments).turned clock settings desk =
      if desk.handle.isSome ∧ isFull settings desk.size = true then
        turned settings desk.tree (clock (desk.readings + 1)) else desk.tree := by
  unfold Step.turned Step.rotation?
  dsimp only
  rw [h]
  by_cases hfull : desk.handle.isSome ∧ isFull settings desk.size = true
  · rw [if_pos hfull, if_pos ⟨rfl, hfull⟩]
  · rw [if_neg hfull, if_neg fun hrotates => hfull hrotates.2]

/-- **After a step** there are the files that there are when it has put the active one away, apart from the
active one. -/
theorem isSome_content?_run (step : Step) (hrun : step.run clock settings desk = (outcome, desk'))
    (hother : place ≠ settings.path.place) : (desk'.tree.content? place).isSome
      = ((step.turned clock settings desk).content? place).isSome := by
  cases step with
  | close =>
    cases hrun
    rfl
  | start =>
    unfold Step.turned
    rcases start_cases desk with ⟨fault, h, hnone⟩ | ⟨h, hnone⟩ |
      ⟨hsome, ⟨mid, hrotate, h⟩ | ⟨_, fault, mid, hrotate, h⟩⟩
    · cases h.symm.trans hrun
      rw [hnone]
    · rw [hnone, content?_openFile (h.symm.trans hrun) hother]
    · rw [hsome, content?_openFile (h.symm.trans hrun) hother, tree_rotate hrotate]
    · cases h.symm.trans hrun
      rw [hsome, tree_rotate hrotate]
  | emit template arguments =>
    rcases emit_cases template arguments desk with ⟨reason, fault, hfail, h⟩ |
      ⟨message, hmessage, hready⟩
    · have hnone : (Step.emit template arguments).rotation? clock settings desk = none := by
        unfold Step.rotation?
        dsimp only
        rw [hfail]
        exact if_neg fun hfilled => Bool.false_ne_true hfilled.1
      cases h.symm.trans hrun
      unfold Step.turned
      rw [hnone]
    rw [turned_emit hmessage]
    rcases hready with ⟨mid, hready, h⟩ | ⟨_, fault, mid, hready, h⟩
    all_goals
      have hmid := content?_makeReady hready hother
      dsimp only at hmid
      cases h.symm.trans hrun
      rw [← hmid]
    · exact isSome_content?_written mid.handle _

/-- **A step changes the old files** only by putting the active one away. -/
theorem oldFiles_run (step : Step) : oldFiles settings.path (step.run clock settings desk).2.tree
    = oldFiles settings.path (step.turned clock settings desk) := by
  ext name
  refine and_congr_right fun ⟨moment, hname⟩ => ?_
  subst hname
  have hother : settings.path.parent.place ++ [rotatedName settings.path moment] ≠ settings.path.place :=
    isRotated_rotatedName.place_ne
  exact Bool.eq_iff_iff.mp (isSome_content?_run step rfl hother)

/-! ## Renaming the active file -/

theorem not_prefix_beside {a b : String} (hne : a ≠ b) (place : Location) :
    ¬ place ++ [a] <+: place ++ [b] := fun hprefix =>
  hne (List.cons_prefix_cons.mp ((List.prefix_append_right_inj _).mp hprefix)).1

theorem content?_renamed_file {content : List UInt8} (hnode : tree.node? path.place = some (.file content))
    (hname : IsRotated path name) (h : Renaming path (rotatedPath path moment) tree moved) :
    moved.content? (path.parent.place ++ [name]) =
      if name = rotatedName path moment then some content
      else tree.content? (path.parent.place ++ [name]) := by
  have hmoved := (rename_file hnode h.rename).2 (path.parent.place ++ [name])
  rw [if_neg hname.place_ne, place_rotatedPath] at hmoved
  split
  case isTrue heq =>
    rw [if_pos (by rw [heq])] at hmoved
    exact content?_eq_some_iff.mpr hmoved
  case isFalse hne =>
    rw [if_neg fun heq => hne (List.singleton_inj.mp (List.append_cancel_left heq))] at hmoved
    exact content?_congr hmoved

theorem content?_renamed_directory (hnode : tree.node? path.place = some .directory)
    (hroot : path.place ≠ ["/"]) (hname : IsRotated path name)
    (h : Renaming path (rotatedPath path moment) tree moved) :
    moved.content? (path.parent.place ++ [name]) =
      if name = rotatedName path moment then none
      else tree.content? (path.parent.place ++ [name]) := by
  have hplace := Path.place_eq_concat h.parts_ne h.name_ne
  obtain ⟨-, -, rfl⟩ := rename_directory hnode h.place_ne h.rename
  rw [place_rotatedPath]
  have hnil (other : String) : path.parent.place ++ [other] ≠ [] :=
    List.append_ne_nil_of_right_ne_nil _ (List.cons_ne_nil other [])
  have hnotRoot : ¬ (path.parent.place ++ [name] = [] ∨ path.parent.place ++ [name] = ["/"]) :=
    not_or.mpr ⟨hnil name, hname.concat_ne_root _⟩
  split
  case isTrue heq =>
    -- the directory itself comes to stand there
    subst heq
    have habove : ¬ path.parent.place ++ [rotatedName path moment] <+: path.place := by
      rw [hplace]
      exact not_prefix_beside hname.ne_name _
    have hsource : ¬ (path.place = [] ∨ path.place = ["/"]) := by
      refine not_or.mpr ⟨?_, hroot⟩
      rw [hplace]
      exact hnil _
    have hmoved : (tree.move path.place _).node? _ = tree.node? path.place :=
      node?_move_self habove hsource hnotRoot
    unfold content?
    rw [hmoved, hnode]
  case isFalse hne =>
    have hbelow : ¬ path.place <+: path.parent.place ++ [name] := by
      rw [hplace]
      exact not_prefix_beside hname.ne_name.symm _
    refine content?_congr ((node?_move (not_prefix_beside (Ne.symm hne) _) hnotRoot).trans ?_)
    rw [if_neg hbelow]

/-- The files beside the active one stay when it is renamed, and its content gets the new name. -/
theorem content?_renamed_beside (hroot : path.place ≠ ["/"]) (hname : IsRotated path name)
    (h : Renaming path (rotatedPath path moment) tree moved) :
    moved.content? (path.parent.place ++ [name]) =
      if name = rotatedName path moment then tree.content? path.place
      else tree.content? (path.parent.place ++ [name]) := by
  rcases hnode : tree.node? path.place with _ | ⟨_ | content⟩
  case none => exact absurd hnode h.there
  case some.file =>
    rw [content?_renamed_file hnode hname h, content?_eq_some_iff.mpr hnode]
  case some.directory =>
    have hnone : tree.content? path.place = none := by
      unfold content?
      rw [hnode]
    rw [content?_renamed_directory hnode hroot hname h, hnone]

/-- **Renaming the active file** makes it an old file, if it is a file, and changes no other. -/
theorem mem_oldFiles_renamed (hroot : path.place ≠ ["/"])
    (h : Renaming path (rotatedPath path moment) tree moved) : name ∈ oldFiles path moved ↔
      name ∈ oldFiles path tree ∨
        name = rotatedName path moment ∧ (tree.content? path.place).isSome := by
  by_cases hname : ∃ moment, name = rotatedName path moment
  case neg =>
    refine iff_of_false (fun hmem => hname hmem.1) fun hmem => ?_
    exact hmem.elim (fun hold => hname hold.1) fun hnew => hname ⟨moment, hnew.1⟩
  have hrotated : IsRotated path name := by
    obtain ⟨_, rfl⟩ := hname
    exact isRotated_rotatedName
  unfold oldFiles
  rw [Set.mem_ofPred_eq, Set.mem_ofPred_eq, and_iff_right hname, and_iff_right hname,
    content?_renamed_beside hroot hrotated h]
  split
  case isFalse hne => exact (or_iff_left fun hnew => hne hnew.1).symm
  case isTrue heq =>
    refine (and_iff_right heq).symm.trans (or_iff_right_of_imp fun hold => ⟨heq, ?_⟩).symm
    -- a directory is not renamed over an old file
    subst heq
    obtain ⟨before, hbefore⟩ := Option.isSome_iff_exists.mp hold
    rcases hnode : tree.node? path.place with _ | ⟨_ | active⟩
    case none => exact absurd hnode h.there
    case some.directory =>
      have hfree := (rename_directory hnode h.place_ne h.rename).1 before
      rw [place_rotatedPath] at hfree
      exact absurd (content?_eq_some_iff.mp hbefore) hfree
    case some.file =>
      rw [content?_eq_some_iff.mpr hnode]
      rfl

/-! ## Removing old files -/

theorem mem_oldFiles_swept : name ∈ oldFiles settings.path (swept settings tree) ↔
    name ∈ oldFiles settings.path tree ∧
      settings.path.parent.place ++ [name] ∉ discarded settings tree := by
  unfold oldFiles
  rw [Set.mem_ofPred_eq, Set.mem_ofPred_eq, content?_swept, and_assoc]
  refine and_congr_right fun _ => ?_
  split
  case isTrue hgone => exact iff_of_false nofun fun h => h.2 hgone
  case isFalse hstays => exact (and_iff_left hstays).symm

/-- **A file that is missed** is not removed. -/
theorem not_mem_discarded_of_isMissed (h : IsMissed settings.path name) :
    settings.path.parent.place ++ [name] ∉ discarded settings tree := by
  intro hgone
  obtain ⟨hstars, other, hother, hplace⟩ := mem_discarded.mp hgone
  have hfits := (mem_rotatedNames.mp (List.mem_of_mem_drop hother)).2.2
  rcases h with hstars' | hmissed
  · exact Bool.false_ne_true (hstars.symm.trans hstars')
  rcases settings.path.parent.place_child_cases other with heq | habove
  · rw [← eq_place_of_locate hplace] at heq
    rw [← List.singleton_inj.mp (List.append_cancel_left heq), hmissed] at hfits
    cases hfits
  · have hlength := habove.length_le
    rw [← eq_place_of_locate hplace, List.length_append, List.length_singleton] at hlength
    omega

/-- **A file that is found** stays only if it is among the latest. -/
theorem mem_take_of_mem_oldFiles (hleads : tree.leadsToDirectory settings.path.parent = true)
    (hshort : name.utf8ByteSize ≤ longestName) (hfound : ¬ IsMissed settings.path name)
    (h : name ∈ oldFiles settings.path (swept settings tree)) :
    name ∈ (rotatedNames tree settings.path).take (settings.maxFiles - 1).toNat := by
  have hrotated := isRotated_of_mem_oldFiles h
  obtain ⟨hold, hstays⟩ := mem_oldFiles_swept.mp h
  obtain ⟨hplace, hdir⟩ := leadsToDirectory_iff.mp hleads
  obtain ⟨hstars, hfits⟩ := not_or.mp hfound
  have hnode : (tree.node? (settings.path.parent.place ++ [name])).isSome := by
    obtain ⟨content, hcontent⟩ := Option.isSome_iff_exists.mp hold.2
    rw [content?_eq_some_iff.mp hcontent]
    rfl
  have hmem : name ∈ rotatedNames tree settings.path := mem_rotatedNames.mpr
    ⟨hplace, (mem_names (hrotated.concat_ne_root _)).mpr hnode, eq_true_of_ne_false hfits⟩
  rw [← List.take_append_drop (settings.maxFiles - 1).toNat (rotatedNames tree settings.path),
    List.mem_append] at hmem
  refine hmem.resolve_right fun hlate => hstays ?_
  exact mem_discarded.mpr ⟨eq_false_of_ne_true hstars, name, hlate,
    (locate_child_eq_ok_iff hrotated.ne_dots).mpr ⟨hplace, hdir, hshort, rfl⟩⟩

theorem encard_le_of_forall_mem {α : Type} {s : Set α} {xs : List α} {n : Nat} (hlength : xs.length ≤ n)
    (h : ∀ x ∈ s, x ∈ xs) : s.encard ≤ n := by
  classical
  have hsub : s ⊆ xs.toFinset := fun x hx => List.mem_toFinset.mpr (h x hx)
  refine (Set.encard_le_encard hsub).trans ?_
  rw [Set.encard_coe_eq_coe_finsetCard]
  exact_mod_cast xs.toFinset_card_le.trans hlength

/-! ## Limits -/

/-- **Old files are limited**: of those that are found there are no more than the settings allow with the
active file, and those that are missed are the ones that were put away. -/
structure Limited (settings : JournalSettings) (files : Set String) (given : List String) : Prop where
  missed : ∀ name, IsMissed settings.path name → (name ∈ files ↔ name ∈ given)
  found : {name ∈ files | ¬ IsMissed settings.path name}.encard ≤ (settings.maxFiles - 1).toNat
  short : ∀ name ∈ files, name.utf8ByteSize ≤ longestName

theorem Limited.empty : Limited settings ∅ [] := by
  refine ⟨fun name _ => iff_of_false id List.not_mem_nil, ?_, nofun⟩
  rw [Set.sep_empty, Set.encard_empty]
  exact zero_le

/-- The names stay short, as the path of the new one leads to its place. -/
theorem Limited.short_renamed (h : Limited settings (oldFiles settings.path tree) names)
    (hroot : settings.path.place ≠ ["/"])
    (hrenaming : Renaming settings.path (rotatedPath settings.path moment) tree moved)
    (hname : name ∈ oldFiles settings.path moved) : name.utf8ByteSize ≤ longestName := by
  rcases (mem_oldFiles_renamed hroot hrenaming).mp hname with hold | ⟨rfl, -⟩
  · exact h.short name hold
  · exact ((locate_child_eq_ok_iff isRotated_rotatedName.ne_dots).mp hrenaming.locates').2.2.1

/-- **Putting the active file away.** -/
theorem Limited.turned (h : Limited settings (oldFiles settings.path tree) names)
    (hroot : settings.path.parts ≠ [] → settings.path.name ≠ ".." → settings.path.place ≠ ["/"])
    (moment : Moment) : Limited settings (oldFiles settings.path (turned settings tree moment))
      (names ++ (nameGiven? settings tree moment).toList) := by
  unfold Journal.turned nameGiven?
  rcases hrenamed : renamed tree settings.path (rotatedPath settings.path moment) with
    cause | ⟨source, target, moved⟩
  case error =>
    rw [Option.toList_none, List.append_nil]
    exact h
  case ok =>
  obtain ⟨-, -, hrenaming⟩ := renamed_eq_ok hrenamed
  have hroot := hroot hrenaming.parts_ne hrenaming.name_ne
  have hmoved (name : String) : name ∈ oldFiles settings.path moved ↔ _ :=
    mem_oldFiles_renamed hroot hrenaming
  have hshort {name : String} (hname : name ∈ oldFiles settings.path (swept settings moved)) :
      name.utf8ByteSize ≤ longestName := h.short_renamed hroot hrenaming (mem_oldFiles_swept.mp hname).1
  dsimp only
  refine ⟨fun name hmissed => ?_, ?_, fun name hname => hshort hname⟩
  · rw [mem_oldFiles_swept, and_iff_left (not_mem_discarded_of_isMissed hmissed), hmoved,
      h.missed name hmissed, List.mem_append, Option.mem_toList,
      Option.ite_none_right_eq_some, Option.some.injEq, and_comm, eq_comm (a := name)]
  by_cases hfile : (tree.content? settings.path.place).isSome
  case neg =>
    refine (Set.encard_le_encard fun name hname => ?_).trans h.found
    have hstays := (hmoved name).mp (mem_oldFiles_swept.mp hname.1).1
    exact ⟨hstays.resolve_right fun hnew => hfile hnew.2, hname.2⟩
  case pos =>
    have hdir : tree.isDirectory settings.path.place = false := by
      obtain ⟨content, hcontent⟩ := Option.isSome_iff_exists.mp hfile
      unfold isDirectory
      rw [content?_eq_some_iff.mp hcontent]
    refine encard_le_of_forall_mem (List.length_take_le _ (rotatedNames moved settings.path))
      fun name hname => ?_
    exact mem_take_of_mem_oldFiles (hrenaming.leads hdir) (hshort hname.1) hname.2 hname.1

/-- **A run keeps the old files limited.** -/
theorem limited_after (hroot : settings.path.parts ≠ [] → settings.path.name ≠ ".." →
      settings.path.place ≠ ["/"]) (steps : List Step)
    (h : Limited settings (oldFiles settings.path desk.tree) names) :
    Limited settings (oldFiles settings.path (after clock settings steps desk).tree)
      (names ++ namesGiven clock settings steps desk) := by
  induction steps generalizing desk names with
  | nil => exact (List.append_nil names).symm ▸ h
  | cons step rest ih =>
    rw [namesGiven, ← List.append_assoc]
    refine ih ?_
    rw [oldFiles_run]
    unfold Step.turned
    cases step.rotation? clock settings desk with
    | none => exact (List.append_nil names).symm ▸ h
    | some moment => exact h.turned hroot moment

/-- A pattern that has no set and no two stars next to each other misses no old file. -/
theorem not_isMissed (hstars : hasDoubleStar (rotatedPattern path) = false)
    (hset : Glob.HasNoSet (Glob.parse (rotatedPattern path))) (moment : Moment) :
    ¬ IsMissed path (rotatedName path moment) := by
  rintro (hstars' | hmissed)
  · exact Bool.false_ne_true (hstars.symm.trans hstars')
  have hname : (rotatedName path moment).toList
      = (path.stem.toList ++ ['_']) ++ (stampText moment ++ path.suffix.toList) := by
    rw [toList_rotatedName, List.append_assoc, List.singleton_append]
  rw [rotatedPattern_eq] at hset hmissed
  rw [hname, Glob.accepts_star_of_hasNoSet hset] at hmissed
  cases hmissed

/-- **How many old files there are** after any run, whichever steps are refused and whatever the clock
shows, where there was none before.  Those that the pattern misses are all there, one for each name under
which a file was put away.  Of the others there are no more than the settings allow, and so of all old files
where the pattern has no set and no two stars next to each other. -/
theorem oldFiles_after {text : String} (hpath : settings.path = Path.parse text)
    (hnone : oldFiles settings.path tree = ∅) (steps : List Step) :
    (∀ name, IsMissed settings.path name →
      (name ∈ oldFiles settings.path (after clock settings steps (Desk.ofTree tree)).tree ↔
        name ∈ namesGiven clock settings steps (Desk.ofTree tree))) ∧
    {name ∈ oldFiles settings.path (after clock settings steps (Desk.ofTree tree)).tree |
        ¬ IsMissed settings.path name}.encard ≤ (settings.maxFiles - 1).toNat ∧
    (hasDoubleStar (rotatedPattern settings.path) = false →
      Glob.HasNoSet (Glob.parse (rotatedPattern settings.path)) →
      (oldFiles settings.path (after clock settings steps (Desk.ofTree tree)).tree).encard
        ≤ (settings.maxFiles - 1).toNat) := by
  have hbefore : Limited settings (oldFiles settings.path (Desk.ofTree tree).tree) [] := by
    rw [Desk.ofTree, hnone]
    exact Limited.empty
  have hafter : Limited settings _ (namesGiven clock settings steps (Desk.ofTree tree)) :=
    limited_after (Path.place_ne_root hpath) steps hbefore
  refine ⟨hafter.missed, hafter.found, fun hstars hset => ?_⟩
  have hall : oldFiles settings.path (after clock settings steps (Desk.ofTree tree)).tree ⊆
      {name ∈ oldFiles settings.path (after clock settings steps (Desk.ofTree tree)).tree |
        ¬ IsMissed settings.path name} := by
    rintro name hname
    obtain ⟨⟨moment, rfl⟩, -⟩ := id hname
    exact ⟨hname, not_isMissed hstars hset moment⟩
  exact (Set.encard_le_encard hall).trans hafter.found

theorem Fresh.oldFiles_eq_empty (h : Fresh path tree) : oldFiles path tree = ∅ := by
  refine Set.eq_empty_iff_forall_notMem.mpr fun name hname => ?_
  have hthere := hname.2
  unfold content? at hthere
  rw [h.unused name (isRotated_of_mem_oldFiles hname)] at hthere
  cases hthere

/-- A journal that keeps one old file, at a path with a star in its name. -/
def starred : JournalSettings := ⟨Path.parse "audit*].jsonl", 1, 2, false⟩

/-- After the third record there is one old file. -/
theorem starred_limited : starred.path = Path.parse "audit*].jsonl" ∧ oldFiles starred.path .empty = ∅ ∧
    (oldFiles starred.path (after halfSeconds starred [.start, .emit "a" [], .emit "b" [], .emit "c" []]
      (Desk.ofTree .empty)).tree).encard ≤ 1 := by
  have hnone : oldFiles starred.path .empty = ∅ := (fresh_empty (by decide +kernel)).oldFiles_eq_empty
  have hall : (oldFiles starred.path (after halfSeconds starred
      [.start, .emit "a" [], .emit "b" [], .emit "c" []] (Desk.ofTree .empty)).tree).encard
        ≤ (starred.maxFiles - 1).toNat :=
    (oldFiles_after rfl hnone _).2.2 (by decide +kernel) (by decide +kernel)
  exact ⟨rfl, hnone, hall⟩

/-- A journal that keeps no old file, at a path with a set in its name. -/
def bracketed : JournalSettings := ⟨Path.parse "audit[1].jsonl", 1, 1, false⟩

/-- **An old file too many**: it is put away by the second record, nothing is refused and the clock goes up,
but the pattern has a set where the name has brackets. -/
theorem bracketed_stays : bracketed.path = Path.parse "audit[1].jsonl" ∧ 1 ≤ bracketed.maxFiles ∧
    oldFiles bracketed.path .empty = ∅ ∧
    RotatesFreely halfSeconds bracketed [.start, .emit "a" [], .emit "b" []] (Desk.ofTree .empty) ∧
    GoesUp halfSeconds
      (after halfSeconds bracketed [.start, .emit "a" [], .emit "b" []] (Desk.ofTree .empty)).readings ∧
    ¬ (oldFiles bracketed.path (after halfSeconds bracketed [.start, .emit "a" [], .emit "b" []]
      (Desk.ofTree .empty)).tree).encard ≤ (bracketed.maxFiles - 1).toNat := by
  have hnone : oldFiles bracketed.path .empty = ∅ := (fresh_empty (by decide +kernel)).oldFiles_eq_empty
  have hfree : RotatesFreely halfSeconds bracketed [.start, .emit "a" [], .emit "b" []]
      (Desk.ofTree .empty) :=
    ⟨by decide +kernel, by decide +kernel, by decide +kernel, trivial⟩
  refine ⟨rfl, by decide, hnone, hfree, by decide +kernel, ?_⟩
  have hthere : rotatedName bracketed.path (halfSeconds 2) ∈ oldFiles bracketed.path
      (after halfSeconds bracketed [.start, .emit "a" [], .emit "b" []] (Desk.ofTree .empty)).tree :=
    ⟨⟨_, rfl⟩, by decide +kernel⟩
  intro hfew
  have hkeep : (bracketed.maxFiles - 1).toNat = 0 := by decide
  rw [hkeep, Nat.cast_zero, nonpos_iff_eq_zero, Set.encard_eq_zero] at hfew
  rw [hfew] at hthere
  exact hthere

end AuditTrail.Journal
