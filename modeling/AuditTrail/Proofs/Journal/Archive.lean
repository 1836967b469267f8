import AuditTrail.Proofs.Journal.Rotation

/-!
# Proofs/Journal/Archive — the files of a journal as lists of lines

    dropped                files                                   active
    [[a, b], [c]]          [(STEM_t₃SUFFIX, [d, e])]               [f]           lines = a b c d e f

An `Archive` is what the files of a journal are to hold: the lines of the active file, those of the files
that were put away, under names that go up, and the lines that went with the files that were removed.
Putting the active file away loses no line and makes none up (`lines_rotate`).  A directory `Shows` an
archive when its files hold these lines, and goes on showing it when directories are made, the file is
opened, a line is written, or the active file is put away (`Kept.rotate`).
-/

namespace AuditTrail.Journal

open FileTree

/-- **The files of a journal**, the earliest first, with the lines that were in removed files. -/
structure Archive where
  dropped : List (List (List UInt8))
  files : List (String × List (List UInt8))
  active : List (List UInt8)
  deriving DecidableEq, Repr

namespace Archive

/-- Nothing was written. -/
def empty : Archive := ⟨[], [], []⟩

/-- The names of the files that were put away. -/
def names (archive : Archive) : List String := archive.files.map (·.1)

/-- **All lines that were written**, in their order. -/
def lines (archive : Archive) : List (List UInt8) :=
  archive.dropped.flatten ++ ((archive.files.map (·.2)).flatten ++ archive.active)

/-- Writing lines to the active file. -/
def append (lines : List (List UInt8)) (archive : Archive) : Archive :=
  { archive with active := archive.active ++ lines }

/-- The active file gets a name, and a new one begins. -/
def putAway (name : String) (archive : Archive) : Archive :=
  { archive with files := archive.files ++ [(name, archive.active)], active := [] }

/-- The files before the latest ones, where only so many are kept. -/
def excess (keep : Nat) (archive : Archive) : List (String × List (List UInt8)) :=
  archive.files.take (archive.files.length - keep)

/-- **The latest files stay**, as many as are kept, and the others are removed. -/
def prune (keep : Nat) (archive : Archive) : Archive where
  dropped := archive.dropped ++ (archive.excess keep).map (·.2)
  files := archive.files.drop (archive.files.length - keep)
  active := archive.active

/-- **Putting the active file away** under a name. -/
def rotate (keep : Nat) (name : String) (archive : Archive) : Archive :=
  (archive.putAway name).prune keep

variable {archive : Archive} {keep : Nat} {name other : String}

@[simp] theorem lines_empty : empty.lines = [] := rfl

@[simp] theorem append_nil : archive.append [] = archive := by
  unfold append
  rw [List.append_nil]

@[simp] theorem lines_append (lines : List (List UInt8)) :
    (archive.append lines).lines = archive.lines ++ lines := by
  unfold append Archive.lines
  rw [List.append_assoc, List.append_assoc]

@[simp] theorem lines_putAway : (archive.putAway name).lines = archive.lines := by
  unfold putAway lines
  simp

@[simp] theorem lines_prune : (archive.prune keep).lines = archive.lines := by
  unfold prune excess lines
  dsimp only
  rw [List.flatten_append, List.append_assoc, ← List.append_assoc _ _ archive.active,
    ← List.flatten_append, ← List.map_append, List.take_append_drop]

/-- **No line is lost** when the active file is put away, and none is made up. -/
@[simp] theorem lines_rotate : (archive.rotate keep name).lines = archive.lines :=
  lines_prune.trans lines_putAway

theorem mem_names_of_mem_excess (h : name ∈ (archive.excess keep).map (·.1)) : name ∈ archive.names :=
  ((List.take_sublist _ archive.files).map _).subset h

theorem names_prune_sublist : (archive.prune keep).names.Sublist archive.names :=
  (List.drop_sublist _ archive.files).map _

/-- The names of the other files, the latest first. -/
theorem drop_reverse_names :
    archive.names.reverse.drop keep = ((archive.excess keep).map (·.1)).reverse := by
  unfold names excess
  rw [List.drop_reverse, List.map_take, List.length_map]

/-- **A file that is put away** is found under its name. -/
theorem lookup_putAway (h : name ∉ archive.names) : (archive.putAway name).files.lookup other
    = if other = name then some archive.active else archive.files.lookup other := by
  unfold putAway
  rw [List.lookup_append, List.lookup_cons, List.lookup_nil]
  by_cases hsame : other = name
  · rw [if_pos hsame, hsame, lookup_eq_none_iff.mpr h, beq_self_eq_true, Option.none_or]
  · rw [if_neg hsame, beq_eq_false_iff_ne.mpr hsame, Option.or_none]

/-- **The files that stay** are found as before. -/
theorem lookup_prune (h : archive.names.Nodup) : (archive.prune keep).files.lookup name
    = if name ∈ (archive.excess keep).map (·.1) then none else archive.files.lookup name :=
  lookup_drop h _ name

end Archive

variable {clock : Nat → Moment} {settings : JournalSettings} {tree moved : Files} {path : Path}
  {archive : Archive} {n reading : Nat} {name : String} {source target : Location}

/-- **A directory shows an archive**: the files with names of the kind that files get that are put away are
those of the archive, in the order of their names, and hold its lines, and the active file holds the
others. -/
structure Shows (path : Path) (tree : Files) (archive : Archive) : Prop where
  sorted : archive.names.Pairwise (· < ·)
  rotated : ∀ name ∈ archive.names, IsRotated path name
  files : ∀ name, IsRotated path name → tree.node? (path.parent.place ++ [name])
    = (archive.files.lookup name).map fun lines => .file (lines.flatten)
  active : (tree.content? path.place).getD [] = archive.active.flatten

/-- **No directory on the way to the file is taken for a file that was put away.** -/
def KeepsClear (path : Path) : Prop :=
  ∀ name, IsRotated path name → ¬ path.parent.Passes (path.parent.place ++ [name])

/-- A path that never turns back keeps clear. -/
theorem keepsClear_of_not_mem (h : ".." ∉ path.parts) : KeepsClear path := fun name _ =>
  Path.not_passes_child (fun hmem => h (List.dropLast_subset _ hmem)) name

/-- **The clock goes up** through its first readings, in years of four digits. -/
def GoesUp (clock : Nat → Moment) (readings : Nat) : Prop :=
  ∀ j < readings, HasLongYear (clock j) ∧ ∀ i < j, clock i < clock j

instance (clock : Nat → Moment) (readings : Nat) : Decidable (GoesUp clock readings) :=
  Nat.decidableBallLT readings _

/-- **A directory keeps an archive**: it shows it, under names that the clock gave with its first readings,
and nothing but a file stands at the path, unless the path comes by its own place. -/
structure Kept (clock : Nat → Moment) (path : Path) (n : Nat) (tree : Files)
    (archive : Archive) : Prop extends Shows path tree archive where
  stamped : ∀ name ∈ archive.names, ∃ i < n, name = rotatedName path (clock i)
  short : ∀ name ∈ archive.names, name.utf8ByteSize ≤ longestName
  free : tree.isDirectory path.place = true → path.parent.Passes path.place

namespace Kept

theorem mono (h : Kept clock path n tree archive) {n' : Nat} (hle : n ≤ n') :
    Kept clock path n' tree archive := by
  refine { h with stamped := fun name hname => ?_ }
  obtain ⟨i, hi, hname⟩ := h.stamped name hname
  exact ⟨i, Nat.lt_of_lt_of_le hi hle, hname⟩

/-! ## Making directories, opening, writing -/

/-- **Making the directories above the file.** -/
theorem of_madeFor (h : Kept clock path n tree archive) (hclear : KeepsClear path)
    (hmade : MadeFor path.parent tree moved) : Kept clock path n moved archive := by
  refine { h with files := fun name hname => ?_, active := ?_, free := fun hdir => ?_ }
  · rcases hmade (path.parent.place ++ [name]) with hsame | ⟨-, -, hpasses⟩
    · rw [hsame, h.files name hname]
    · exact absurd hpasses (hclear name hname)
  · rw [hmade.content?, h.active]
  · rcases hmade path.place with hsame | ⟨-, -, hpasses⟩
    · exact h.free (isDirectory_congr hsame ▸ hdir)
    · exact hpasses

/-- **Opening the file.** -/
theorem of_opened {desk desk' : Desk} (h : Kept clock path n desk.tree archive) (hclear : KeepsClear path)
    (hopened : Opened path desk desk') : Kept clock path n desk'.tree archive := by
  have hready := h.of_madeFor hclear madeFor_readied
  have hfile := hopened.node?_place
  refine { h with files := fun name hname => ?_, active := ?_, free := fun hdir => ?_ }
  · rw [hopened.node, if_neg hname.place_ne, hready.files name hname]
  · rw [content?_eq_some_iff.mpr hfile, Option.getD_some, hready.active]
  · rw [isDirectory_iff.mp hdir] at hfile
    cases hfile

/-- **Writing a line.** -/
theorem of_written (h : Kept clock path n tree archive) (line : List UInt8)
    (hfile : (tree.content? path.place).isSome) :
    Kept clock path n (written tree (some path.place) line) (archive.append [line]) := by
  obtain ⟨content, hcontent⟩ := Option.isSome_iff_exists.mp hfile
  have hwritten := node?_written_of_file line (content?_eq_some_iff.mp hcontent)
  refine { h with files := fun name hname => ?_, active := ?_, free := fun hdir => ?_ }
  · rw [node?_written_of_ne line fun heq => hname.place_ne (Option.some.inj heq).symm]
    exact h.files name hname
  · have hactive := h.active
    rw [hcontent, Option.getD_some] at hactive
    rw [content?_eq_some_iff.mpr hwritten, Option.getD_some, hactive]
    unfold Archive.append
    simp
  · rw [isDirectory_iff.mp hdir] at hwritten
    cases hwritten

/-! ## Putting the active file away -/

/-- The next name is later than all others. -/
theorem lt_rotatedName (h : Kept clock path n tree archive) (hn : n ≤ reading)
    (hclock : GoesUp clock (reading + 1)) (hname : name ∈ archive.names) :
    name < rotatedName path (clock reading) := by
  obtain ⟨i, hi, rfl⟩ := h.stamped name hname
  have hi : i < reading := Nat.lt_of_lt_of_le hi hn
  obtain ⟨hyear, hbefore⟩ := hclock reading (Nat.lt_succ_self reading)
  exact rotatedName_lt (hclock i (Nat.lt_succ_of_lt hi)).1 hyear (hbefore i hi)

/-- The active file holds the other lines. -/
theorem node?_active (h : Kept clock path n tree archive) {path' : Path}
    (hrenaming : Renaming path path' tree moved) (hfile : tree.isDirectory path.place = false) :
    tree.node? path.place = some (.file (archive.active.flatten)) := by
  obtain ⟨content, hcontent⟩ := hrenaming.exists_file hfile
  rw [hcontent, ← h.active, content?_eq_some_iff.mpr hcontent, Option.getD_some]

/-- **Renaming the active file.** -/
theorem putAway (h : Kept clock path n tree archive) (hn : n ≤ reading)
    (hclock : GoesUp clock (reading + 1)) (hfile : tree.isDirectory path.place = false)
    (hrenaming : Renaming path (rotatedPath path (clock reading)) tree moved) :
    Kept clock path (reading + 1) moved (archive.putAway (rotatedName path (clock reading))) := by
  have hmoved := (rename_file (h.node?_active hrenaming hfile) hrenaming.rename).2
  have hgone : moved.node? path.place = none := by
    rw [hmoved, if_neg hrenaming.place_ne, if_pos rfl]
  have hnames : (archive.putAway (rotatedName path (clock reading))).names
      = archive.names ++ [rotatedName path (clock reading)] := List.map_append
  constructor
  case toShows =>
    constructor
    case sorted =>
      rw [hnames, List.pairwise_append]
      refine ⟨h.sorted, List.pairwise_singleton _ _, fun name hname other hother => ?_⟩
      rw [List.mem_singleton.mp hother]
      exact h.lt_rotatedName hn hclock hname
    case rotated =>
      rw [hnames, List.forall_mem_append, List.forall_mem_singleton]
      exact ⟨h.rotated, isRotated_rotatedName⟩
    case files =>
      intro name hname
      have hnew : rotatedName path (clock reading) ∉ archive.names := fun hmem =>
        lt_irrefl _ (h.lt_rotatedName hn hclock hmem)
      rw [hmoved, if_neg hname.place_ne, h.files name hname, place_rotatedPath,
        Archive.lookup_putAway hnew, apply_ite (Option.map _)]
      refine if_congr ⟨fun heq => ?_, fun heq => heq ▸ rfl⟩ rfl rfl
      exact List.singleton_inj.mp (List.append_cancel_left heq)
    case active =>
      unfold content? Archive.putAway
      rw [hgone]
      rfl
  case stamped =>
    rw [hnames, List.forall_mem_append, List.forall_mem_singleton]
    refine ⟨fun name hname => ?_, reading, Nat.lt_succ_self reading, rfl⟩
    obtain ⟨i, hi, hname⟩ := h.stamped name hname
    exact ⟨i, by omega, hname⟩
  case short =>
    rw [hnames, List.forall_mem_append, List.forall_mem_singleton]
    have hnew := (locate_child_eq_ok_iff isRotated_rotatedName.ne_dots).mp hrenaming.locates'
    exact ⟨h.short, hnew.2.2.1⟩
  case free =>
    intro hdir
    rw [isDirectory_iff.mp hdir] at hgone
    cases hgone

/-- **The names that are found** are those of the archive. -/
theorem rotatedNames_eq (h : Kept clock path n tree archive) (hplain : IsPlain path)
    (hplace : tree.locate path.parent = .ok path.parent.place) :
    rotatedNames tree path = archive.names.reverse := by
  refine rotatedNames_eq_reverse hplain hplace h.sorted fun name => ⟨fun hname => ?_, ?_⟩
  · have hrotated := h.rotated name hname
    refine ⟨hrotated, ?_⟩
    rw [h.files name hrotated, Option.isSome_map]
    exact lookup_isSome_iff.mpr hname
  · rintro ⟨hrotated, hthere⟩
    rw [h.files name hrotated, Option.isSome_map] at hthere
    exact lookup_isSome_iff.mp hthere

/-- **The files that are removed** are those before the latest ones. -/
theorem mem_discarded_iff (h : Kept clock settings.path n tree archive) (hplain : IsPlain settings.path)
    (hleads : tree.leadsToDirectory settings.path.parent = true) {place : Location} :
    place ∈ discarded settings tree ↔
      ∃ name ∈ (archive.excess (settings.maxFiles - 1).toNat).map (·.1),
        place = settings.path.parent.place ++ [name] := by
  obtain ⟨hplace, hdir⟩ := leadsToDirectory_iff.mp hleads
  rw [mem_discarded, h.rotatedNames_eq hplain hplace, Archive.drop_reverse_names,
    and_iff_right (hasDoubleStar_rotatedPattern hplain)]
  simp only [List.mem_reverse]
  refine exists_congr fun name => and_congr_right fun hname => ?_
  have hname := Archive.mem_names_of_mem_excess hname
  rw [locate_child_eq_ok_iff (h.rotated name hname).ne_dots, and_iff_right hplace, and_iff_right hdir,
    and_iff_right (h.short name hname)]

theorem node?_swept_active (h : Kept clock settings.path n tree archive) (hplain : IsPlain settings.path)
    (hleads : tree.leadsToDirectory settings.path.parent = true) :
    (swept settings tree).node? settings.path.place = tree.node? settings.path.place := by
  rw [node?_swept]
  refine if_neg fun hgone => ?_
  obtain ⟨name, hname, hplace⟩ := (h.mem_discarded_iff hplain hleads).mp hgone.1
  exact (h.rotated name (Archive.mem_names_of_mem_excess hname)).place_ne hplace.symm

theorem node?_swept_name (h : Kept clock settings.path n tree archive) (hplain : IsPlain settings.path)
    (hleads : tree.leadsToDirectory settings.path.parent = true) (name : String) :
    (swept settings tree).node? (settings.path.parent.place ++ [name])
      = if name ∈ (archive.excess (settings.maxFiles - 1).toNat).map (·.1) then none
        else tree.node? (settings.path.parent.place ++ [name]) := by
  rw [node?_swept]
  refine if_congr ⟨fun hgone => ?_, fun hname => ?_⟩ rfl rfl
  · obtain ⟨other, hother, hplace⟩ := (h.mem_discarded_iff hplain hleads).mp hgone.1
    exact List.singleton_inj.mp (List.append_cancel_left hplace) ▸ hother
  · refine ⟨(h.mem_discarded_iff hplain hleads).mpr ⟨name, hname, rfl⟩, ?_⟩
    have hmem := Archive.mem_names_of_mem_excess hname
    obtain ⟨lines, hlines⟩ := Option.isSome_iff_exists.mp (lookup_isSome_iff.mpr hmem)
    have hnode := h.files name (h.rotated name hmem)
    rw [hlines] at hnode
    rw [content?_eq_some_iff.mpr hnode]
    rfl

/-- **Removing the files before the latest ones.** -/
theorem prune (h : Kept clock settings.path n tree archive) (hplain : IsPlain settings.path)
    (hleads : tree.leadsToDirectory settings.path.parent = true) :
    Kept clock settings.path n (swept settings tree) (archive.prune (settings.maxFiles - 1).toNat) := by
  have hnames : (archive.prune (settings.maxFiles - 1).toNat).names.Sublist archive.names :=
    Archive.names_prune_sublist
  have hactive := h.node?_swept_active hplain hleads
  constructor
  case toShows =>
    constructor
    case sorted => exact h.sorted.sublist hnames
    case rotated => exact fun name hname => h.rotated name (hnames.subset hname)
    case files =>
      intro name hname
      rw [h.node?_swept_name hplain hleads, Archive.lookup_prune (h.sorted.imp ne_of_lt),
        apply_ite (Option.map _), h.files name hname]
      rfl
    case active =>
      rw [content?_congr hactive]
      exact h.active
  case stamped => exact fun name hname => h.stamped name (hnames.subset hname)
  case short => exact fun name hname => h.short name (hnames.subset hname)
  case free => exact fun hdir => h.free (isDirectory_congr hactive ▸ hdir)

/-- **Putting the active file away.** -/
theorem rotate (h : Kept clock settings.path n tree archive) (hplain : IsPlain settings.path)
    (hn : n ≤ reading) (hclock : GoesUp clock (reading + 1))
    (hfile : tree.isDirectory settings.path.place = false)
    (hrenamed : renamed tree settings.path (rotatedPath settings.path (clock reading))
      = .ok (source, target, moved)) :
    Kept clock settings.path (reading + 1) (swept settings moved)
      (archive.rotate (settings.maxFiles - 1).toNat (rotatedName settings.path (clock reading))) := by
  obtain ⟨-, -, hrenaming⟩ := renamed_eq_ok hrenamed
  exact (h.putAway hn hclock hfile hrenaming).prune hplain (hrenaming.leads hfile)

end Kept

end AuditTrail.Journal
