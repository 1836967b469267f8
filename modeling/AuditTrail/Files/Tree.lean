import AuditTrail.Fault
import AuditTrail.Files.Path

/-!
# Files/Tree — directories and files below a working directory

A `FileTree` maps locations to directories and files.  A path leads to a location through directories
that exist; each operation gives the tree afterwards or the cause for which the operating system
refuses.
-/

namespace AuditTrail

/-- **A place in the tree**: the names that lead to it.  The working directory is the empty one; names
from the root of the system start with a slash. -/
abbrev Location := List String

/-- What is at a location. -/
inductive FileNode (α : Type)
  | directory
  | file (content : α)
  deriving DecidableEq, Repr

/-- **A tree of files** with contents of a type; there is one node at a location. -/
structure FileTree (α : Type) where
  entries : List (Location × FileNode α)
  nodup : (entries.map (·.1)).Nodup
  deriving Repr

namespace FileTree

variable {α : Type}

/-- The tree of an empty directory. -/
def empty : FileTree α := ⟨[], List.nodup_nil⟩

/-- The node at a location. -/
def node? (tree : FileTree α) (place : Location) : Option (FileNode α) :=
  if place = [] ∨ place = ["/"] then some .directory else tree.entries.lookup place

theorem nodup_filter (tree : FileTree α) (p : Location × FileNode α → Bool) :
    ((tree.entries.filter p).map (·.1)).Nodup :=
  tree.nodup.sublist (List.filter_sublist.map _)

/-- The tree without the node at a location. -/
def erase (tree : FileTree α) (place : Location) : FileTree α :=
  ⟨tree.entries.filter (·.1 ≠ place), tree.nodup_filter _⟩

theorem not_mem_erase (tree : FileTree α) (place : Location) :
    place ∉ (tree.erase place).entries.map (·.1) := by
  intro h
  obtain ⟨entry, hentry, heq⟩ := List.mem_map.mp h
  exact of_decide_eq_true (List.mem_filter.mp hentry).2 heq

/-- The tree with a node at a location. -/
def put (tree : FileTree α) (place : Location) (node : FileNode α) : FileTree α :=
  ⟨(place, node) :: (tree.erase place).entries,
    List.nodup_cons.mpr ⟨tree.not_mem_erase place, (tree.erase place).nodup⟩⟩

/-- There is a directory. -/
def isDirectory (tree : FileTree α) (place : Location) : Bool :=
  match tree.node? place with
  | some .directory => true
  | _ => false

/-- The content of a file. -/
def content? (tree : FileTree α) (place : Location) : Option α :=
  match tree.node? place with
  | some (.file content) => some content
  | _ => none

/-- The longest name of a file, in bytes. -/
def longestName : Nat := 255

/-- The directory above a location; there is none above the root of the system. -/
def above (place : Location) : Location := if place = ["/"] then place else place.dropLast

/-- Going from a location along parts of a path; every part but the last has to be a directory. -/
def walk (tree : FileTree α) : Location → List String → Except SystemCause Location
  | place, [] => .ok place
  | place, part :: rest =>
    match tree.node? place with
    | none => .error .notFound
    | some (.file _) => .error .notDirectory
    | some .directory =>
      if part = ".." then tree.walk (above place) rest
      else if longestName < part.utf8ByteSize then .error .nameTooLong
      else tree.walk (place ++ [part]) rest

/-- **The location that a path leads to.** -/
def locate (tree : FileTree α) (path : Path) : Except SystemCause Location :=
  tree.walk (if path.start = .relative then [] else ["/"]) path.parts

/-- The names directly inside a directory. -/
def names (tree : FileTree α) (place : Location) : List String :=
  tree.entries.filterMap fun (other, _) =>
    match other.getLast? with
    | some name => if other.dropLast = place then some name else none
    | none => none

/-- **Something is there**; a name that is too long cannot be asked for. -/
def present (tree : FileTree α) (path : Path) : Except SystemCause Bool :=
  match tree.locate path with
  | .ok place => .ok (tree.node? place).isSome
  | .error .nameTooLong => .error .nameTooLong
  | .error _ => .ok false

/-- Making one directory. -/
def makeDirectory (tree : FileTree α) (path : Path) : Except SystemCause (FileTree α) := do
  let place ← tree.locate path
  if (tree.node? place).isSome then throw .alreadyThere
  if !tree.isDirectory place.dropLast then throw .notFound
  return tree.put place .directory

/-- The path leads to a directory. -/
def leadsToDirectory (tree : FileTree α) (path : Path) : Bool :=
  match tree.locate path with
  | .ok place => tree.isDirectory place
  | .error _ => false

/-- Making one directory, unless it is there already; the tree afterwards, and the refusal if there was
one. -/
def ensureDirectory (tree : FileTree α) (path : Path) : FileTree α × Option SystemFailure :=
  match tree.makeDirectory path with
  | .ok made => (made, none)
  | .error cause => (tree, if tree.leadsToDirectory path then none else some ⟨cause, [path.text]⟩)

/-- **Making a directory with those above it**, `depth` levels up. -/
def ensureDirectories (path : Path) : (depth : Nat) → FileTree α → FileTree α × Option SystemFailure
  | 0, tree => tree.ensureDirectory path
  | depth + 1, tree =>
    match tree.makeDirectory path with
    | .error .notFound =>
      match ensureDirectories path.parent depth tree with
      | (above, some failure) => (above, some failure)
      | (above, none) => above.ensureDirectory path
    | _ => tree.ensureDirectory path

/-- Nothing is below a location. -/
def isBare (tree : FileTree α) (place : Location) : Bool :=
  tree.entries.all fun entry => entry.1 = place || !place.isPrefixOf entry.1

/-- Where a node is after all that is at or below a location was moved. -/
def relocated (source target place : Location) : Location :=
  if source.isPrefixOf place then target ++ place.drop source.length else place

/-- Two nodes do not come to the same location where there was nothing before. -/
theorem relocated_inj {source target p q : Location} (hp : target.isPrefixOf p = false)
    (hq : target.isPrefixOf q = false) (h : relocated source target p = relocated source target q) :
    p = q := by
  have hnew (rest : Location) : target.isPrefixOf (target ++ rest) = true :=
    List.isPrefixOf_iff_prefix.mpr (List.prefix_append target rest)
  unfold relocated at h
  split at h <;> split at h
  case isTrue.isTrue hsp hsq =>
    obtain ⟨x, rfl⟩ := List.isPrefixOf_iff_prefix.mp hsp
    obtain ⟨y, rfl⟩ := List.isPrefixOf_iff_prefix.mp hsq
    rw [List.drop_left, List.drop_left] at h
    rw [List.append_cancel_left h]
  case isTrue.isFalse =>
    rw [← h, hnew] at hq
    cases hq
  case isFalse.isTrue =>
    rw [h, hnew] at hp
    cases hp
  case isFalse.isFalse => exact h

/-- The tree with a directory moved, and with all that is below it; what was at the new location
goes. -/
def move (tree : FileTree α) (source target : Location) : FileTree α where
  entries := (tree.entries.filter fun entry => !target.isPrefixOf entry.1).map
    fun (place, node) => (relocated source target place, node)
  nodup := by
    rw [List.map_map, List.Nodup, List.pairwise_map]
    refine ((List.pairwise_map.mp tree.nodup).filter _).imp_of_mem fun ha hb hne heq => hne ?_
    exact relocated_inj (by simpa using (List.mem_filter.mp ha).2)
      (by simpa using (List.mem_filter.mp hb).2) heq

/-- **Renaming** what is at a location.  A file takes the place of a file, a directory that of an empty
directory; at its own location everything stays. -/
def rename (tree : FileTree α) (source target : Location) : Except SystemCause (FileTree α) :=
  if source = target ∧ (tree.node? source).isSome then .ok tree
  else match tree.node? source, tree.node? target with
  | none, _ => .error .notFound
  | some (.file _), some .directory => .error .isDirectory
  | some (.file content), _ => .ok ((tree.erase source).put target (.file content))
  | some .directory, some (.file _) => .error .notDirectory
  | some .directory, _ =>
    if tree.isBare target then .ok (tree.move source target) else .error .notEmpty

/-- **Removing a file.** -/
def unlink (tree : FileTree α) (path : Path) : Except SystemCause (FileTree α) := do
  let place ← tree.locate path
  match tree.node? place with
  | none => throw .notFound
  | some .directory => throw .isDirectory
  | some (.file _) => return tree.erase place

end FileTree

end AuditTrail
