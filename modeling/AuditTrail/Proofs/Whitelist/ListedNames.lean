import AuditTrail.Proofs.Access.Reading
import AuditTrail.Proofs.Outcome
import AuditTrail.Whitelist.Request

/-!
# Proofs/Whitelist/ListedNames — which resources a list of names can name

    resources ──name──▸ names ──join──▸ value ──parseResources──▸ resources, if no name has a comma

A name between commas ends at the first of them, so what is listed has no comma in its name
(`not_mem_name_of_listed`).  Resources that their names lead back to are read back from the list of their
names exactly when no name has a comma (`parseResources_join_iff`): a signature with two arguments cannot be
listed.
-/

namespace AuditTrail

open AuditTrail.Text

namespace Resource

variable {name : String} {r : Resource}

/-- **The name leads back to the resource**, or to one that is the same. -/
def NamesItself (r : Resource) : Prop := ∃ r', parse r.name = .ok r' ∧ r'.same r = true

theorem name_ne_nil (r : Resource) : r.name.toList ≠ [] := by
  obtain ⟨-, -, hne, -⟩ := r.kind.root_plain
  rw [ne_eq, ← List.head?_eq_none_iff, toList_name, parts, List.map_cons, head?_intercalate hne,
    List.head?_eq_none_iff]
  exact hne

/-- A name that leads back has no blank at its ends. -/
theorem NamesItself.isTrimmed (h : r.NamesItself) : IsTrimmed r.name.toList := by
  obtain ⟨r', hr', hsame⟩ := h
  rw [← (same_iff.mp hsame).2]
  exact (IsReadable.of_parse hr').isTrimmed_name

/-- **The name of what is read** has no comma that is not in the name it is read from. -/
theorem comma_mem_of_mem_name (h : parse name = .ok r) (hcomma : ',' ∈ r.name.toList) :
    ',' ∈ name.toList := by
  obtain ⟨root, below, hpath, hlowered⟩ := exists_path_eq name
  obtain ⟨-, hcomponents⟩ := List.cons.inj (hlowered.symm.trans (parse_eq_ok_iff.mp h).2)
  rw [toList_name, parts, ← hcomponents] at hcomma
  rcases mem_intercalate hcomma with hslash | ⟨text, htext, hmem⟩
  · exact absurd hslash (by decide)
  rcases List.mem_cons.mp htext with rfl | hbelow
  · exact absurd hmem (by cases r.kind <;> decide)
  · rw [List.map_map, Function.comp_def] at hbelow
    simp only [String.toList_ofList, List.map_id'] at hbelow
    exact (forall_mem_path name text (hpath ▸ List.mem_cons_of_mem root hbelow)).2 hmem

end Resource

open Resource

variable {rs found : List Resource} {value sep : String} {r : Resource}

theorem parseListed_eq_ok_iff {cs : List Char} :
    parseListed cs = .ok r ↔ parse (String.ofList cs) = .ok r := mapError_eq_ok_iff

/-- **What is listed has no comma in its name.** -/
theorem not_mem_name_of_listed (h : parseResources value = .ok found) :
    ∀ r ∈ found, ',' ∉ r.name.toList := by
  intro r hr hcomma
  obtain ⟨cs, hcs, hlisted⟩ := exists_of_mem_of_mapM_eq_ok h r hr
  obtain ⟨piece, hpiece, rfl⟩ := List.mem_map.mp (List.mem_filter.mp hcs).1
  have hmem := comma_mem_of_mem_name (parseListed_eq_ok_iff.mp hlisted) hcomma
  rw [String.toList_ofList] at hmem
  exact (forall_mem_splitOn ',' _ piece hpiece).1 (strip_subset piece hmem)

/-- **Names without commas are told apart** between commas, with blanks behind these or without. -/
theorem parseResources_join {lead : List Char} (hsep : sep.toList = ',' :: lead)
    (hlead : ∀ c ∈ lead, isBlank c = true)
    (h : ∀ r ∈ rs, ',' ∉ r.name.toList ∧ IsTrimmed r.name.toList) :
    parseResources (sep.intercalate (rs.map name)) = (rs.map (·.name.toList)).mapM parseListed := by
  have hnames : ∀ text ∈ rs.map (String.toList ∘ name), ',' ∉ text ∧ IsTrimmed text :=
    List.forall_mem_map.mpr h
  have hkept : ∀ text ∈ rs.map (String.toList ∘ name), (!text.isEmpty) = true :=
    List.forall_mem_map.mpr fun r _ => by simpa using r.name_ne_nil
  rw [parseResources, String.toList_intercalate, hsep, List.map_map]
  by_cases hempty : rs = []
  · rw [hempty]
    rfl
  · rw [map_strip_splitOn_intercalate (by decide) hlead (mt List.map_eq_nil_iff.mp hempty) hnames,
      List.filter_eq_self.mpr hkept]
    rfl

/-- Names that lead back are read one by one. -/
theorem exists_mapM_parseListed (h : ∀ r ∈ rs, r.NamesItself) :
    ∃ found, (rs.map (·.name.toList)).mapM parseListed = .ok found ∧
      List.Forall₂ (fun r' r => r'.same r = true) found rs := by
  induction rs with
  | nil => exact ⟨[], rfl, .nil⟩
  | cons first rest ih =>
    obtain ⟨⟨r', hr', hsame⟩, hrest⟩ := List.forall_mem_cons.mp h
    obtain ⟨found, hfound, hall⟩ := ih hrest
    refine ⟨r' :: found, mapM_cons_eq_ok_iff.mpr ⟨r', found, ?_, hfound, rfl⟩, .cons hsame hall⟩
    rw [parseListed_eq_ok_iff, String.ofList_toList]
    exact hr'

/-- Resources that are the same one by one have the same names. -/
theorem map_name_eq (h : List.Forall₂ (fun r' r => r'.same r = true) found rs) :
    found.map name = rs.map name := by
  induction h with
  | nil => rfl
  | cons hsame _ ih => rw [List.map_cons, List.map_cons, (same_iff.mp hsame).2, ih]

/-- **Which resources can be listed by their names**, among those that their names lead back to: the list of
the names, with a comma between two of them and a blank behind it or none, is read as these resources in their
order exactly when no name has a comma. -/
theorem parseResources_join_iff (hsep : sep = "," ∨ sep = ", ") (h : ∀ r ∈ rs, r.NamesItself) :
    (∃ found, parseResources (sep.intercalate (rs.map name)) = .ok found ∧
      List.Forall₂ (fun r' r => r'.same r = true) found rs) ↔ ∀ r ∈ rs, ',' ∉ r.name.toList := by
  constructor
  · rintro ⟨found, hfound, hsame⟩ r hr
    obtain ⟨r', hr', hname⟩ := List.mem_map.mp (map_name_eq hsame ▸ List.mem_map_of_mem hr)
    rw [← hname]
    exact not_mem_name_of_listed hfound r' hr'
  · intro hcomma
    obtain ⟨lead, hlead, hblank⟩ : ∃ lead, sep.toList = ',' :: lead ∧ ∀ c ∈ lead, isBlank c = true := by
      rcases hsep with rfl | rfl
      · exact ⟨[], rfl, nofun⟩
      · exact ⟨[' '], rfl, List.all_eq_true.mp rfl⟩
    rw [parseResources_join hlead hblank fun r hr => ⟨hcomma r hr, (h r hr).isTrimmed⟩]
    exact exists_mapM_parseListed h

/-- A keyspace, a role with a blank in its name and a function are listed by their names. -/
theorem parseResources_threeNames :
    (∀ r ∈ [keyspace "ks", role "head coach", function "ks" "now()"], r.NamesItself) ∧
    ∃ found, parseResources "data/ks, roles/head coach, functions/ks/now()" = .ok found ∧
      List.Forall₂ (fun r' r => r'.same r = true) found
        [keyspace "ks", role "head coach", function "ks" "now()"] := by
  have hnames : ∀ r ∈ [keyspace "ks", role "head coach", function "ks" "now()"], r.NamesItself := by
    simp only [List.forall_mem_cons, List.not_mem_nil, false_imp_iff, implies_true, and_true]
    exact ⟨⟨_, by decide +kernel, same_refl _⟩, ⟨_, by decide +kernel, same_refl _⟩,
      ⟨_, by decide +kernel, same_refl _⟩⟩
  exact ⟨hnames, (parseResources_join_iff (.inr rfl) hnames).mpr (by decide +kernel)⟩

/-- **A comma in a name is taken for the end of the name**: a function with two arguments is not listed, and a
role with a comma in its name is listed as two other resources. -/
theorem commaNames_unlisted :
    ¬ (∀ (rs : List Resource) (sep : String), sep = "," ∨ sep = ", " → (∀ r ∈ rs, r.NamesItself) →
      ∃ found, parseResources (sep.intercalate (rs.map name)) = .ok found ∧
        List.Forall₂ (fun r' r => r'.same r = true) found rs) ∧
    (function "ks" "fn(int,text)").NamesItself ∧
    parseResources (function "ks" "fn(int,text)").name
      = .error (.invalidResource "text)" (.invalidName "text)")) ∧
    (role "a,connections").NamesItself ∧
    parseResources (role "a,connections").name = .ok [role "a", connections] := by
  have hsignature : (function "ks" "fn(int,text)").NamesItself := ⟨_, by decide +kernel, same_refl _⟩
  have hfails : parseResources (function "ks" "fn(int,text)").name
      = .error (.invalidResource "text)" (.invalidName "text)")) := by decide +kernel
  refine ⟨fun h => ?_, hsignature, hfails, ⟨_, by decide +kernel, same_refl _⟩, by decide +kernel⟩
  obtain ⟨found, hfound, -⟩ := h [function "ks" "fn(int,text)"] "," (.inl rfl)
    (List.forall_mem_singleton.mpr hsignature)
  rw [List.map_singleton, String.intercalate_singleton] at hfound
  cases hfails.symm.trans hfound

end AuditTrail
