import AuditTrail.Proofs.Access.Hierarchy
import AuditTrail.Proofs.Text.Trimmed

/-!
# Proofs/Access/Reading — the names that are read, and the resources that can be written

    name ──strip, split──▸ path name ──lower the root──▸ loweredPath name
                                                            ‖  parse name = .ok r
    r.name ◂──────────────── slashes between ───────────── r.parts

A name is that of a resource exactly when its lowered path is the list of the resource's parts
(`Resource.parse_eq_ok_iff`).  So reading takes every name to a resource whose own name is the canonical
form of the name, and it inverts writing exactly on the resources whose parts can be told apart in their
name (`Resource.parse_name_iff`).
-/

namespace AuditTrail

open AuditTrail.Text

/-- How many parts the name of a resource of the tree has at most. -/
def ResourceKind.mostParts : ResourceKind → Nat
  | .connection => 1
  | .data | .function => 3
  | .role => 2

theorem ResourceKind.root_inj {k k' : ResourceKind} (h : k.root = k'.root) : k = k' := by
  cases k <;> cases k' <;> simp [ResourceKind.root] at h ⊢

/-- The root is in lower case already, and has neither a slash nor a blank. -/
theorem ResourceKind.root_plain (k : ResourceKind) : String.ofList (lower k.root.toList) = k.root ∧
    '/' ∉ k.root.toList ∧ k.root.toList ≠ [] ∧ IsTrimmed k.root.toList := by
  cases k <;> decide

namespace Resource

variable {name : String} {r : Resource}

/-! ## Parts -/

/-- **The parts of the name**: the root and what is below it. -/
def parts (r : Resource) : List String := r.kind.root :: r.components

/-- The parts make out the resource. -/
theorem eq_of_parts_eq {a b : Resource} (h : a.parts = b.parts) : a = b := by
  obtain ⟨hroot, hcomponents⟩ := List.cons.inj h
  exact eq_of_components_eq (ResourceKind.root_inj hroot) hcomponents

/-- A path leads to the resource of these parts. -/
theorem ofPath?_eq_some_iff {root : String} {below : List String} :
    ofPath? root below = some r ↔ root :: below = r.parts := by
  constructor
  · intro h
    unfold ofPath? at h
    split at h <;> cases h <;> rfl
  · intro h
    obtain ⟨rfl, rfl⟩ := List.cons.inj h
    exact ofPath?_components r

/-- **A tree has a resource for every number of parts** that it allows. -/
theorem exists_components_eq : ∀ (kind : ResourceKind) (below : List String),
    below.length < kind.mostParts → ∃ r : Resource, r.kind = kind ∧ r.components = below
  | .connection, [], _ => ⟨connections, rfl, rfl⟩
  | .data, [], _ => ⟨allData, rfl, rfl⟩
  | .data, [k], _ => ⟨keyspace k, rfl, rfl⟩
  | .data, [k, t], _ => ⟨table k t, rfl, rfl⟩
  | .role, [], _ => ⟨allRoles, rfl, rfl⟩
  | .role, [r], _ => ⟨role r, rfl, rfl⟩
  | .function, [], _ => ⟨allFunctions, rfl, rfl⟩
  | .function, [k], _ => ⟨functionsOf k, rfl, rfl⟩
  | .function, [k, s], _ => ⟨function k s, rfl, rfl⟩
  | .connection, _ :: _, h => absurd h (by simp [ResourceKind.mostParts])
  | .role, _ :: _ :: _, h => absurd h (by simp [ResourceKind.mostParts])
  | .data, _ :: _ :: _ :: _, h => absurd h (by simp [ResourceKind.mostParts])
  | .function, _ :: _ :: _ :: _, h => absurd h (by simp [ResourceKind.mostParts])

theorem length_parts_le (r : Resource) : r.parts.length ≤ r.kind.mostParts := by
  cases r <;> simp [parts, components, kind, ResourceKind.mostParts]

/-- Parts are those of a resource when they start with a root and are not too many for its tree. -/
theorem exists_parts_eq_iff {root : String} {below : List String} :
    (∃ r : Resource, root :: below = r.parts) ↔
      ∃ kind : ResourceKind, root = kind.root ∧ (root :: below).length ≤ kind.mostParts := by
  constructor
  · rintro ⟨r, h⟩
    exact ⟨r.kind, (List.cons.inj h).1, h ▸ r.length_parts_le⟩
  · rintro ⟨kind, rfl, hlength⟩
    obtain ⟨r, rfl, rfl⟩ := exists_components_eq kind below hlength
    exact ⟨r, rfl⟩

/-! ## Reading -/

/-- **The path of a name in canonical form**: its parts, the first one in lower case. -/
def loweredPath (name : String) : List String :=
  match path name with
  | [] => []
  | root :: below => String.ofList (lower root) :: below.map String.ofList

/-- A name has a first part, and other ones below it. -/
theorem exists_path_eq (name : String) : ∃ root below, path name = root :: below ∧
    loweredPath name = String.ofList (lower root) :: below.map String.ofList := by
  obtain ⟨root, below, hpath⟩ := List.exists_cons_of_ne_nil (List.splitOn_ne_nil '/' (strip name.toList))
  exact ⟨root, below, hpath, by rw [loweredPath, path, hpath]⟩

/-- The parts of a name hold no slash, and nothing but characters of the name. -/
theorem forall_mem_path (name : String) : ∀ part ∈ path name, '/' ∉ part ∧ part ⊆ name.toList :=
  fun part hpart => (forall_mem_splitOn '/' _ part hpart).imp_right fun hsub _ hc =>
    strip_subset _ (hsub hc)

/-- **A name is that of a resource** when no part is empty and the lowered path has the resource's parts. -/
theorem parse_eq_ok_iff : parse name = .ok r ↔ [] ∉ path name ∧ loweredPath name = r.parts := by
  have hempty : (path name).any List.isEmpty = true ↔ [] ∈ path name := by simp
  obtain ⟨root, below, hpath, hlowered⟩ := exists_path_eq name
  rw [parse, hlowered, ← ofPath?_eq_some_iff]
  by_cases h : [] ∈ path name
  · rw [if_pos (hempty.mpr h)]
    exact iff_of_false nofun fun hnot => hnot.1 h
  · rw [if_neg (mt hempty.mp h), hpath]
    dsimp only
    rw [and_iff_right (hpath ▸ h)]
    cases ofPath? (String.ofList (lower root)) (below.map String.ofList) with
    | none => exact iff_of_false nofun nofun
    | some r' =>
      exact ⟨fun h => congrArg some (Except.ok.inj h), fun h => congrArg Except.ok (Option.some.inj h)⟩

/-- Reading fails in one way only. -/
theorem parse_cases (name : String) :
    (∃ r, parse name = .ok r) ∨ parse name = .error (.invalidName name) := by
  rw [parse]
  split
  · exact .inr rfl
  · split
    · exact .inr rfl
    · split
      · exact .inl ⟨_, rfl⟩
      · exact .inr rfl

/-! ## Writing -/

/-- **A resource whose name can be read**: no component is empty or holds a slash, and the last one does not
end in a blank. -/
structure IsReadable (r : Resource) : Prop where
  /-- The components are told apart in the name. -/
  component : ∀ part ∈ r.components, part ≠ "" ∧ '/' ∉ part.toList
  /-- The name is not cut at its end. -/
  last : ∀ part ∈ r.components.getLast?, ∀ c ∈ part.toList.getLast?, isBlank c = false

theorem toList_name (r : Resource) : r.name.toList = ['/'].intercalate (r.parts.map String.toList) :=
  String.toList_intercalate

/-- Each part of the name is a component, or the root. -/
theorem IsReadable.forall_mem_parts (h : r.IsReadable) :
    ∀ part ∈ r.parts.map String.toList, part ≠ [] ∧ '/' ∉ part := by
  obtain ⟨-, hslash, hne, -⟩ := r.kind.root_plain
  rw [parts, List.map_cons, List.forall_mem_cons]
  refine ⟨⟨hne, hslash⟩, List.forall_mem_map.mpr fun part hpart => ?_⟩
  exact (h.component part hpart).imp_left fun hne => mt String.toList_eq_nil_iff.mp hne

/-- A name that can be read has no blank at its ends. -/
theorem IsReadable.isTrimmed_name (h : r.IsReadable) : IsTrimmed r.name.toList := by
  obtain ⟨-, -, hne, hfirst, hlast⟩ := r.kind.root_plain
  rw [toList_name]
  constructor
  · rw [parts, List.map_cons, head?_intercalate hne]
    exact hfirst
  · rw [getLast?_intercalate fun hmem => (h.forall_mem_parts [] hmem).1 rfl, List.getLast?_map, parts]
    have hcomponent := h.last
    cases hcomponents : r.components with
    | nil => exact hlast
    | cons part rest =>
      rw [hcomponents] at hcomponent
      rw [List.getLast?_cons_cons]
      intro c hc
      obtain ⟨text, htext, hc⟩ := Option.bind_eq_some_iff.mp hc
      obtain ⟨last, hlast, rfl⟩ := Option.map_eq_some_iff.mp htext
      exact hcomponent last hlast c hc

/-- **What can be read is read back from its name.** -/
theorem IsReadable.parse_name (h : r.IsReadable) : parse r.name = .ok r := by
  have hpath : path r.name = r.parts.map String.toList := by
    rw [path, strip_eq_self_iff.mpr h.isTrimmed_name, toList_name]
    exact List.splitOn_intercalate '/' (fun part hpart => (h.forall_mem_parts part hpart).2)
      (List.cons_ne_nil _ _)
  refine parse_eq_ok_iff.mpr ⟨?_, ?_⟩
  · rw [hpath]
    exact fun hmem => (h.forall_mem_parts [] hmem).1 rfl
  · have hlowered := r.kind.root_plain.1
    rw [loweredPath, hpath, parts, List.map_cons]
    simp only [hlowered, List.map_map, Function.comp_def, String.ofList_toList, List.map_id']

/-- **Whatever is read can be read back.** -/
theorem IsReadable.of_parse (h : parse name = .ok r) : r.IsReadable := by
  obtain ⟨root, below, hpath, hlowered⟩ := exists_path_eq name
  obtain ⟨hne, hparts⟩ := parse_eq_ok_iff.mp h
  obtain ⟨-, hcomponents⟩ := List.cons.inj (hlowered.symm.trans hparts)
  constructor
  · rw [← hcomponents]
    refine List.forall_mem_map.mpr fun part hpart => ?_
    have hmem : part ∈ path name := hpath ▸ List.mem_cons_of_mem root hpart
    rw [String.toList_ofList]
    exact ⟨fun heq => hne (String.ofList_eq_empty_iff.mp heq ▸ hmem), (forall_mem_path name part hmem).1⟩
  · -- The last component ends where the stripped name does.
    have hlast : ∀ c ∈ (['/'].intercalate (path name)).getLast?, isBlank c = false := by
      rw [path, List.intercalate_splitOn]
      exact (isTrimmed_strip name.toList).2
    rw [getLast?_intercalate hne, hpath, List.getLast?_cons] at hlast
    rw [← hcomponents, List.getLast?_map]
    intro part hpart c hc
    obtain ⟨text, htext, rfl⟩ := Option.map_eq_some_iff.mp hpart
    rw [String.toList_ofList] at hc
    rw [htext] at hlast
    exact hlast c hc

/-- **Reading inverts writing** exactly on the resources whose name can be read. -/
theorem parse_name_iff : parse r.name = .ok r ↔ r.IsReadable := ⟨IsReadable.of_parse, IsReadable.parse_name⟩

/-! ## Names and resources -/

/-- **The parts of a name**: none is empty, and the first one is, in lower case, the root of a tree that is
deep enough for all of them. -/
def IsNamePath (parts : List (List Char)) : Prop :=
  [] ∉ parts ∧ ∃ kind : ResourceKind,
    parts.head?.map (fun root => String.ofList (lower root)) = some kind.root ∧
      parts.length ≤ kind.mostParts

/-- **Which names are read, and what they are read as.**  A name is read when its path is that of a name, and
otherwise it is told to be invalid.  The resource that is read has the name in canonical form for its own
name, and it is read back from there.  And a resource is read back from its name exactly when its components
are not empty, hold no slash and do not end the name in a blank. -/
theorem parse_inverts_name (name : String) (r : Resource) :
    ((∃ r, parse name = .ok r) ↔ IsNamePath (path name)) ∧
    (¬ IsNamePath (path name) → parse name = .error (.invalidName name)) ∧
    (parse name = .ok r → r.name = "/".intercalate (loweredPath name) ∧ parse r.name = .ok r) ∧
    (parse r.name = .ok r ↔ r.IsReadable) := by
  have hread : (∃ r, parse name = .ok r) ↔ IsNamePath (path name) := by
    obtain ⟨root, below, hpath, hlowered⟩ := exists_path_eq name
    simp only [parse_eq_ok_iff, exists_and_left, hlowered, exists_parts_eq_iff, IsNamePath, hpath,
      List.head?_cons, Option.map_some, Option.some_inj, List.length_cons, List.length_map]
  refine ⟨hread, fun hnot => (parse_cases name).resolve_left (mt hread.mp hnot), fun h => ?_, parse_name_iff⟩
  exact ⟨congrArg ("/".intercalate ·) (parse_eq_ok_iff.mp h).2.symm, (IsReadable.of_parse h).parse_name⟩

/-- A name in capitals and between blanks is read and written anew; a table whose name ends in a blank cannot
be read back. -/
theorem parse_shoutedTable :
    parse " DATA/ks/My table\n" = .ok (table "ks" "My table") ∧
    (table "ks" "My table").name = "/".intercalate (loweredPath " DATA/ks/My table\n") ∧
    parse "data/ks/My table" = .ok (table "ks" "My table") ∧
    ¬ parse (table "ks" "t ").name = .ok (table "ks" "t ") := by
  have hread : parse " DATA/ks/My table\n" = .ok (table "ks" "My table") := by decide +kernel
  obtain ⟨-, -, hback, -⟩ := parse_inverts_name " DATA/ks/My table\n" (table "ks" "My table")
  obtain ⟨-, -, -, hreadable⟩ := parse_inverts_name "" (table "ks" "t ")
  refine ⟨hread, (hback hread).1, (hback hread).2, fun h => ?_⟩
  exact Bool.false_ne_true ((hreadable.mp h).last "t " rfl ' ' rfl).symm

end Resource

end AuditTrail
