import AuditTrail.Proofs.Files.Tree
import AuditTrail.Proofs.Outcome
import AuditTrail.Proofs.Text.Trimmed

/-!
# Proofs/Files/Place — where a path leads

    locate path = ok place   →   place = path.place

The parts of a path decide where it leads (`Path.place`), and the directories of the tree whether it
leads there.  So a path goes on leading to its place while directories are only added
(`locate_mono`).  Making the directories above a file adds directories at places above the path and
nothing else (`MadeFor`), and afterwards the path leads to a directory
(`leadsToDirectory_ensureDirectories`).
-/

namespace AuditTrail

open FileTree

/-- Where a part of a path leads from a location. -/
def FileTree.enter (place : Location) (part : String) : Location :=
  if part = ".." then above place else place ++ [part]

theorem FileTree.above_prefix {place : Location} : above place <+: place := by
  unfold above
  split
  · exact List.prefix_refl place
  · exact List.dropLast_prefix place

namespace Path

/-- Where the path starts. -/
def root (path : Path) : Location := if path.start = .relative then [] else ["/"]

/-- **The place of a path**: where it leads when there are directories all the way. -/
def place (path : Path) : Location := path.parts.foldl enter path.root

/-- **A place on the way**: one that the path comes by, or ends at. -/
def Passes (path : Path) (place : Location) : Prop :=
  ∃ n, place = (⟨path.start, path.parts.take n⟩ : Path).place

theorem foldl_enter_of_not_mem {parts : List String} (h : ".." ∉ parts) (place : Location) :
    parts.foldl enter place = place ++ parts := by
  induction parts generalizing place with
  | nil => rw [List.foldl_nil, List.append_nil]
  | cons part parts ih =>
    obtain ⟨hpart, hrest⟩ := List.ne_and_not_mem_of_not_mem_cons h
    rw [List.foldl_cons, ih hrest, enter, if_neg (Ne.symm hpart), List.append_assoc,
      List.singleton_append]

/-- A path that never turns back does not come by what is in the directory it leads to. -/
theorem not_passes_child {path : Path} (h : ".." ∉ path.parts) (name : String) :
    ¬ path.Passes (path.place ++ [name]) := by
  rintro ⟨n, heq⟩
  have htake : ".." ∉ path.parts.take n := fun hmem => h (List.mem_of_mem_take hmem)
  unfold place at heq
  rw [foldl_enter_of_not_mem h, foldl_enter_of_not_mem htake] at heq
  have hlength := congrArg List.length heq
  rw [List.length_append, List.length_append, List.length_append, List.length_take,
    List.length_singleton] at hlength
  unfold root at hlength
  dsimp only at hlength
  omega

theorem place_child {name : String} (path : Path) (h : name ≠ "..") :
    (path.child name).place = path.place ++ [name] := by
  unfold place child
  dsimp only
  rw [List.foldl_append, List.foldl_cons, List.foldl_nil, enter, if_neg h]
  rfl

theorem parent_child_name {path : Path} (h : path.parts ≠ []) : path.parent.child path.name = path := by
  unfold parent child name
  dsimp only
  rw [List.getLastD_eq_getLast?, List.getLast?_eq_some_getLast h, Option.getD_some,
    List.dropLast_append_getLast h]

theorem place_eq_concat {path : Path} (hparts : path.parts ≠ []) (hname : path.name ≠ "..") :
    path.place = path.parent.place ++ [path.name] := by
  conv_lhs => rw [← parent_child_name hparts]
  exact path.parent.place_child hname

/-- **A path ends at its name** in the directory that it is in, or else there or above. -/
theorem place_cases (path : Path) :
    path.place = path.parent.place ++ [path.name] ∨ path.place <+: path.parent.place := by
  by_cases hparts : path.parts = []
  · have hparent : path.parent = path := by
      unfold parent
      rw [hparts, List.dropLast_nil, ← hparts]
    rw [hparent]
    exact .inr (List.prefix_refl _)
  by_cases hname : path.name = ".."
  · have hplace : path.place = above path.parent.place := by
      conv_lhs => rw [← parent_child_name hparts]
      unfold place child
      dsimp only
      rw [List.foldl_append, List.foldl_cons, List.foldl_nil, enter, if_pos hname]
      rfl
    rw [hplace]
    exact .inr above_prefix
  · exact .inl (place_eq_concat hparts hname)

/-- The path of a name ends at this name in the directory, or else there or above. -/
theorem place_child_cases (path : Path) (name : String) :
    (path.child name).place = path.place ++ [name] ∨ (path.child name).place <+: path.place := by
  have hparent : (path.child name).parent = path := by
    unfold parent child
    dsimp only
    rw [List.dropLast_concat]
  have hname : (path.child name).name = name := by
    unfold Path.name child
    dsimp only
    rw [List.getLastD_concat]
  have hcases := (path.child name).place_cases
  rwa [hparent, hname] at hcases

theorem splitName_append (name : List Char) : (splitName name).1 ++ (splitName name).2 = name := by
  unfold splitName
  dsimp only
  split
  case isTrue => exact List.append_nil name
  case isFalse h =>
    have hsplit := List.takeWhile_append_dropWhile (p := (· ≠ '.')) (l := name.reverse)
    have hhead := List.head?_dropWhile_not (fun c : Char => decide (c ≠ '.')) name.reverse
    generalize name.reverse.takeWhile (· ≠ '.') = last at hsplit h ⊢
    generalize name.reverse.dropWhile (· ≠ '.') = front at hsplit hhead
    have hname : name = front.reverse ++ last.reverse := by
      rw [← List.reverse_append, hsplit, List.reverse_reverse]
    cases front with
    | nil =>
      refine absurd ?_ h
      rw [hname, List.reverse_nil, List.nil_append]
      simp
    | cons dot front =>
      obtain rfl : dot = '.' := by simpa using hhead
      rw [List.reverse_cons, List.append_assoc, List.singleton_append] at hname
      have hcut : name.length - last.reverse.length - 1 = front.reverse.length := by
        rw [hname, List.length_append, List.length_cons]
        omega
      rw [hcut, hname, List.take_left]

/-- No part of a path that is read has a slash in it. -/
theorem slash_not_mem_of_mem_parse {s part : String} (h : part ∈ (parse s).parts) :
    '/' ∉ part.toList := by
  obtain ⟨piece, hpiece, rfl⟩ := List.mem_map.mp h
  rw [String.toList_ofList]
  exact (Text.forall_mem_splitOn '/' _ piece (List.mem_of_mem_filter hpiece)).1

/-- A path that is read does not end at the root of the system, where it ends at a name. -/
theorem place_ne_root {path : Path} {text : String} (hpath : path = parse text) (hparts : path.parts ≠ [])
    (hname : path.name ≠ "..") : path.place ≠ ["/"] := by
  intro hroot
  rw [place_eq_concat hparts hname] at hroot
  obtain ⟨-, hslash⟩ := (List.append_eq_singleton_iff.mp hroot).resolve_right nofun
  have hmem : path.name ∈ path.parts := by
    unfold name
    rw [List.getLastD_eq_getLast?, List.getLast?_eq_some_getLast hparts, Option.getD_some]
    exact List.getLast_mem hparts
  rw [List.singleton_inj.mp hslash, hpath] at hmem
  exact slash_not_mem_of_mem_parse hmem (by decide)

/-- **A name** is its stem and its suffix. -/
theorem stem_append_suffix (path : Path) : path.stem ++ path.suffix = path.name := by
  unfold stem suffix
  rw [← String.ofList_append, splitName_append, String.ofList_toList]

end Path

namespace FileTree

variable {α : Type} {tree moved : FileTree α} {place other : Location} {path : Path}

/-! ## Going along a path -/

theorem walk_cons_eq_ok_iff {part : String} {rest : List String} :
    tree.walk place (part :: rest) = .ok other ↔ tree.isDirectory place = true ∧
      (part ≠ ".." → part.utf8ByteSize ≤ longestName) ∧ tree.walk (enter place part) rest = .ok other := by
  rw [walk, isDirectory, enter]
  rcases tree.node? place with _ | ⟨_ | _⟩
  case none => exact iff_of_false nofun nofun
  case some.file => exact iff_of_false nofun nofun
  case some.directory =>
    dsimp only
    rw [eq_self_iff_true, true_and]
    by_cases hdots : part = ".."
    · rw [if_pos hdots, if_pos hdots]
      exact (and_iff_right fun hne => absurd hdots hne).symm
    · rw [if_neg hdots, if_neg hdots]
      by_cases hlong : longestName < part.utf8ByteSize
      · rw [if_pos hlong]
        exact iff_of_false nofun fun h => Nat.not_le_of_lt hlong (h.1 hdots)
      · rw [if_neg hlong]
        exact (and_iff_right fun _ => Nat.le_of_not_lt hlong).symm

/-- Going along some parts and then along others. -/
theorem walk_append_eq_ok_iff {parts rest : List String} : tree.walk place (parts ++ rest) = .ok other ↔
    ∃ mid, tree.walk place parts = .ok mid ∧ tree.walk mid rest = .ok other := by
  induction parts generalizing place with
  | nil =>
    rw [List.nil_append, walk]
    refine ⟨fun h => ⟨place, rfl, h⟩, ?_⟩
    rintro ⟨mid, hmid, h⟩
    rwa [Except.ok.inj hmid]
  | cons part parts ih =>
    rw [List.cons_append, walk_cons_eq_ok_iff, ih]
    constructor
    · rintro ⟨hdir, hshort, mid, hmid, h⟩
      exact ⟨mid, walk_cons_eq_ok_iff.mpr ⟨hdir, hshort, hmid⟩, h⟩
    · rintro ⟨mid, hmid, h⟩
      obtain ⟨hdir, hshort, hmid⟩ := walk_cons_eq_ok_iff.mp hmid
      exact ⟨hdir, hshort, mid, hmid, h⟩

theorem eq_foldl_of_walk {parts : List String} (h : tree.walk place parts = .ok other) :
    other = parts.foldl enter place := by
  induction parts generalizing place with
  | nil => exact (Except.ok.inj h).symm
  | cons part parts ih => exact ih (walk_cons_eq_ok_iff.mp h).2.2

/-- **Where a path leads** is its place. -/
theorem eq_place_of_locate (h : tree.locate path = .ok place) : place = path.place := eq_foldl_of_walk h

theorem walk_mono {parts : List String}
    (hkept : ∀ place, tree.isDirectory place = true → moved.isDirectory place = true)
    (h : tree.walk place parts = .ok other) : moved.walk place parts = .ok other := by
  induction parts generalizing place with
  | nil => exact h
  | cons part parts ih =>
    obtain ⟨hdir, hshort, hrest⟩ := walk_cons_eq_ok_iff.mp h
    exact walk_cons_eq_ok_iff.mpr ⟨hkept place hdir, hshort, ih hrest⟩

/-- **While directories stay**, a path leads where it led. -/
theorem locate_mono (hkept : ∀ place, tree.isDirectory place = true → moved.isDirectory place = true)
    (h : tree.locate path = .ok place) : moved.locate path = .ok place := walk_mono hkept h

theorem locate_congr (hsame : ∀ place, moved.isDirectory place = tree.isDirectory place) :
    moved.locate path = .ok place ↔ tree.locate path = .ok place :=
  ⟨locate_mono fun other h => hsame other ▸ h, locate_mono fun other h => (hsame other).trans h⟩

/-- **The path of a name** leads into the directory. -/
theorem locate_child_eq_ok_iff {name : String} (hname : name ≠ "..") :
    tree.locate (path.child name) = .ok place ↔ tree.locate path = .ok path.place ∧
      tree.isDirectory path.place = true ∧ name.utf8ByteSize ≤ longestName ∧
      place = path.place ++ [name] := by
  have hstep {mid : Location} : tree.walk mid [name] = .ok place ↔ tree.isDirectory mid = true ∧
      name.utf8ByteSize ≤ longestName ∧ place = mid ++ [name] := by
    rw [walk_cons_eq_ok_iff, forall_prop_of_true hname, enter, if_neg hname, walk, Except.ok.injEq,
      eq_comm (a := place)]
  constructor
  · intro h
    obtain ⟨mid, hmid, h⟩ := walk_append_eq_ok_iff.mp h
    obtain rfl : mid = path.place := eq_foldl_of_walk hmid
    exact ⟨hmid, hstep.mp h⟩
  · rintro ⟨hmid, h⟩
    exact walk_append_eq_ok_iff.mpr ⟨_, hmid, hstep.mpr h⟩

/-- There are directories all the way down to a location. -/
def Grounded (tree : FileTree α) (place : Location) : Prop :=
  ∀ init, init <+: place → init ≠ place → tree.isDirectory init = true

theorem Grounded.of_prefix (h : tree.Grounded place) (hother : other <+: place) :
    tree.Grounded other := by
  intro init hinit hne
  refine h init (hinit.trans hother) fun heq => hne ?_
  exact hinit.eq_of_length_le (heq ▸ hother.length_le)

theorem Grounded.isDirectory_above (h : tree.Grounded place) (hdir : tree.isDirectory place = true) :
    tree.isDirectory (above place) = true := by
  by_cases hsame : above place = place
  · rw [hsame, hdir]
  · exact h _ above_prefix hsame

theorem grounded_of_walk {parts : List String} (hplace : tree.Grounded place)
    (h : tree.walk place parts = .ok other) : tree.Grounded other := by
  induction parts generalizing place with
  | nil =>
    obtain rfl := Except.ok.inj h
    exact hplace
  | cons part parts ih =>
    obtain ⟨hdir, -, hrest⟩ := walk_cons_eq_ok_iff.mp h
    refine ih ?_ hrest
    unfold enter
    split
    case isTrue => exact hplace.of_prefix above_prefix
    case isFalse =>
      intro init hinit hne
      rcases List.prefix_concat_iff.mp hinit with heq | hinit
      · exact absurd heq hne
      · by_cases hsame : init = place
        · rw [hsame, hdir]
        · exact hplace init hinit hsame

theorem grounded_root : tree.Grounded path.root := by
  intro init hinit hne
  unfold Path.root at hinit hne
  split at hinit
  case isTrue hstart =>
    rw [if_pos hstart] at hne
    exact absurd (List.prefix_nil.mp hinit) hne
  case isFalse hstart =>
    rw [if_neg hstart] at hne
    rcases List.prefix_cons_iff.mp hinit with rfl | ⟨rest, rfl, hrest⟩
    · exact isDirectory_iff.mpr (node?_of_root (.inl rfl))
    · exact absurd (congrArg _ (List.prefix_nil.mp hrest)) hne

/-- **A path that leads to no directory** ends in a name. -/
theorem name_ne_dots_of_locate (h : tree.locate path = .ok place)
    (hfile : tree.isDirectory place = false) : path.parts ≠ [] ∧ path.name ≠ ".." := by
  have hparts : path.parts ≠ [] := by
    intro hparts
    have hroot : path.place = path.root := by
      unfold Path.place
      rw [hparts, List.foldl_nil]
    have hdir : tree.isDirectory path.root = true := by
      refine isDirectory_iff.mpr (node?_of_root ?_)
      unfold Path.root
      split
      · exact .inl rfl
      · exact .inr rfl
    rw [eq_place_of_locate h, hroot, hdir] at hfile
    cases hfile
  refine ⟨hparts, fun hdots => ?_⟩
  rw [← Path.parent_child_name hparts] at h
  obtain ⟨mid, hmid, h⟩ := walk_append_eq_ok_iff.mp h
  obtain ⟨hdir, -, hlast⟩ := walk_cons_eq_ok_iff.mp h
  obtain rfl := Except.ok.inj hlast
  rw [enter, if_pos hdots] at hfile
  have habove := (grounded_of_walk grounded_root hmid).isDirectory_above hdir
  rw [habove] at hfile
  cases hfile

/-- It does not come by its own place on the way. -/
theorem not_passes_of_locate (h : tree.locate path = .ok place)
    (hfile : tree.isDirectory place = false) : ¬ path.parent.Passes place := by
  obtain ⟨hparts, -⟩ := name_ne_dots_of_locate h hfile
  rintro ⟨n, hplace⟩
  have hsplit : path.parts = path.parent.parts.take n ++ (path.parent.parts.drop n ++ [path.name]) := by
    rw [← List.append_assoc, List.take_append_drop]
    exact (congrArg Path.parts (Path.parent_child_name hparts)).symm
  unfold locate at h
  rw [hsplit] at h
  obtain ⟨mid, hmid, hrest⟩ := walk_append_eq_ok_iff.mp h
  obtain rfl : mid = place := (eq_foldl_of_walk hmid).trans hplace.symm
  obtain ⟨part, rest, hcons⟩ := List.exists_cons_of_ne_nil
    (List.append_ne_nil_of_right_ne_nil (path.parent.parts.drop n) (List.cons_ne_nil path.name []))
  rw [hcons] at hrest
  rw [(walk_cons_eq_ok_iff.mp hrest).1] at hfile
  cases hfile

/-! ## Making directories -/

/-- **What making the directories of a path does**: there are new directories at places on the way, and
everything else is as it was. -/
def MadeFor (path : Path) (tree moved : FileTree α) : Prop :=
  ∀ place, moved.node? place = tree.node? place ∨
    tree.node? place = none ∧ moved.node? place = some .directory ∧ path.Passes place

theorem MadeFor.refl : MadeFor path tree tree := fun _ => .inl rfl

theorem MadeFor.of_parent (h : MadeFor path.parent tree moved) : MadeFor path tree moved := by
  intro place
  refine (h place).imp_right ?_
  rintro ⟨hnone, hdir, n, rfl⟩
  refine ⟨hnone, hdir, min n (path.parts.length - 1), ?_⟩
  unfold Path.parent
  rw [List.dropLast_eq_take, List.take_take]

theorem MadeFor.trans {between : FileTree α} (h : MadeFor path tree between)
    (h' : MadeFor path between moved) : MadeFor path tree moved := by
  intro place
  rcases h' place with hsame | ⟨hnone, hdir, hplace⟩
  · rw [hsame]
    exact h place
  · rcases h place with hsame | ⟨-, hdir', -⟩
    · exact .inr ⟨hsame ▸ hnone, hdir, hplace⟩
    · rw [hdir'] at hnone
      cases hnone

/-- What was there stays. -/
theorem MadeFor.node?_eq (h : MadeFor path tree moved) (hplace : tree.node? place ≠ none) :
    moved.node? place = tree.node? place := by
  rcases h place with hsame | ⟨hnone, -, -⟩
  · exact hsame
  · exact absurd hnone hplace

theorem MadeFor.isDirectory (h : MadeFor path tree moved) (hdir : tree.isDirectory place = true) :
    moved.isDirectory place = true := by
  have hnode := isDirectory_iff.mp hdir
  rw [isDirectory_congr (h.node?_eq (by rw [hnode]; nofun)), hdir]

/-- No file comes or goes. -/
theorem MadeFor.content? (h : MadeFor path tree moved) : moved.content? place = tree.content? place := by
  rcases h place with hsame | ⟨hnone, hdir, -⟩
  · exact content?_congr hsame
  · unfold FileTree.content?
    rw [hnone, hdir]

theorem makeDirectory_eq_ok (h : tree.makeDirectory path = .ok moved) :
    tree.locate path = .ok path.place ∧ tree.node? path.place = none ∧
      moved = tree.put path.place .directory := by
  unfold makeDirectory at h
  obtain ⟨place, hplace, h⟩ := bind_eq_ok_iff.mp h
  obtain rfl := eq_place_of_locate hplace
  rcases hnode : tree.node? path.place with _ | node <;> rw [hnode] at h
  case some => cases h
  case none =>
    refine ⟨hplace, rfl, ?_⟩
    rcases hparent : tree.isDirectory path.place.dropLast with _ | _ <;> rw [hparent] at h
    case false => cases h
    case true => exact (Except.ok.inj h).symm

theorem leadsToDirectory_iff : tree.leadsToDirectory path = true ↔
    tree.locate path = .ok path.place ∧ tree.isDirectory path.place = true := by
  unfold leadsToDirectory
  split
  case h_1 place hplace =>
    obtain rfl := eq_place_of_locate hplace
    exact (and_iff_right hplace).symm
  case h_2 hfail =>
    refine iff_of_false nofun fun h => ?_
    rw [h.1] at hfail
    cases hfail

theorem madeFor_put (h : tree.node? path.place = none) :
    MadeFor path tree (tree.put path.place .directory) := by
  intro place
  rw [node?_put (by rw [h]; nofun)]
  split
  case isTrue hsame =>
    refine .inr ⟨hsame ▸ h, rfl, path.parts.length, ?_⟩
    rw [hsame, List.take_length]
  case isFalse => exact .inl rfl

/-- The tree was made for the path, and the path leads to a directory unless there was a refusal. -/
def Ensured (path : Path) (tree : FileTree α) (result : FileTree α × Option SystemFailure) : Prop :=
  MadeFor path tree result.1 ∧ (result.2 = none → result.1.leadsToDirectory path = true)

theorem ensured_ensureDirectory : Ensured path tree (tree.ensureDirectory path) := by
  unfold ensureDirectory
  split
  case h_1 made hmade =>
    obtain ⟨hplace, hnone, rfl⟩ := makeDirectory_eq_ok hmade
    have hmade := madeFor_put hnone
    refine ⟨hmade, fun _ => leadsToDirectory_iff.mpr
      ⟨locate_mono (fun _ => hmade.isDirectory) hplace, ?_⟩⟩
    rw [isDirectory_iff, node?_put (by rw [hnone]; nofun), if_pos rfl]
  case h_2 =>
    refine ⟨.refl, fun hnone => ?_⟩
    by_contra hleads
    rw [if_neg hleads] at hnone
    cases hnone

/-- **Making the directories of a path.** -/
theorem ensured_ensureDirectories (depth : Nat) : Ensured path tree (ensureDirectories path depth tree) := by
  induction depth generalizing path tree with
  | zero => exact ensured_ensureDirectory
  | succ depth ih =>
    rw [ensureDirectories]
    split
    case h_1 =>
      have hparent : MadeFor path tree (ensureDirectories path.parent depth tree).1 := ih.1.of_parent
      split
      case h_1 above failure habove =>
        rw [habove] at hparent
        exact ⟨hparent, nofun⟩
      case h_2 above habove =>
        rw [habove] at hparent
        exact ⟨hparent.trans ensured_ensureDirectory.1, ensured_ensureDirectory.2⟩
    case h_2 => exact ensured_ensureDirectory

/-- Where the path leads to a directory there is nothing to make. -/
theorem ensureDirectories_of_leadsToDirectory (depth : Nat) (h : tree.leadsToDirectory path = true) :
    ensureDirectories path depth tree = (tree, none) := by
  obtain ⟨hplace, hdir⟩ := leadsToDirectory_iff.mp h
  have hthere : tree.makeDirectory path = .error .alreadyThere := by
    unfold makeDirectory
    rw [hplace]
    have hsome : (tree.node? path.place).isSome = true := by
      rw [isDirectory_iff.mp hdir]
      rfl
    exact if_pos hsome
  have hensured : tree.ensureDirectory path = (tree, none) := by
    rw [ensureDirectory, hthere]
    dsimp only
    rw [if_pos h]
  cases depth with
  | zero => exact hensured
  | succ depth =>
    rw [ensureDirectories, hthere]
    exact hensured

/-! ## Removing a file -/

theorem unlink_eq_ok (h : tree.unlink path = .ok moved) : tree.locate path = .ok path.place ∧
    (∃ content, tree.node? path.place = some (.file content)) ∧ moved = tree.erase path.place := by
  unfold unlink at h
  obtain ⟨place, hplace, h⟩ := bind_eq_ok_iff.mp h
  obtain rfl := eq_place_of_locate hplace
  split at h
  case h_1 => cases h
  case h_2 => cases h
  case h_3 content hnode => exact ⟨hplace, ⟨content, hnode⟩, (Except.ok.inj h).symm⟩

theorem unlink_of_file {content : α} (hplace : tree.locate path = .ok place)
    (hfile : tree.node? place = some (.file content)) : tree.unlink path = .ok (tree.erase place) := by
  unfold unlink
  refine bind_eq_ok_iff.mpr ⟨place, hplace, ?_⟩
  rw [hfile]
  rfl

end FileTree

end AuditTrail
