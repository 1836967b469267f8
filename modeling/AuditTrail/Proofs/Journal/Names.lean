import Mathlib.Data.List.Sort
import Mathlib.Data.String.Basic
import AuditTrail.Journal.Basic
import AuditTrail.Proofs.Files.Glob
import AuditTrail.Proofs.Files.Place
import AuditTrail.Proofs.Journal.Stamp

/-!
# Proofs/Journal/Names — the names of the files that were put away

    STEM_20240131_235959_999999SUFFIX   <   STEM_20240201_000000_000000SUFFIX   both fit   STEM_*SUFFIX

A file is put away beside the active one under a name of its own (`place_rotatedPath`), and later files have
later names (`rotatedName_lt`).  Where the stem and the suffix are plain, the names that are found again are
those with the stem, the underscore and the suffix (`accepts_rotatedPattern_iff`), the latest first
(`rotatedNames_eq_reverse`).
-/

namespace AuditTrail.Journal

open FileTree AuditTrail.Number

variable {tree : Files} {path : Path} {moment : Moment}

/-! ## The name of a file that is put away -/

/-- **The name of a file that is put away.** -/
def rotatedName (path : Path) (moment : Moment) : String :=
  path.stem ++ "_" ++ String.ofList (stampText moment) ++ path.suffix

theorem toList_rotatedName : (rotatedName path moment).toList
    = path.stem.toList ++ '_' :: (stampText moment ++ path.suffix.toList) := by
  unfold rotatedName
  rw [String.toList_append, String.toList_append, String.toList_append, String.toList_ofList,
    String.toList_ofList, List.append_assoc, List.append_assoc, List.singleton_append]

/-- **A name of the kind that files get that are put away.** -/
def IsRotated (path : Path) (name : String) : Prop :=
  ∃ middle, name.toList = path.stem.toList ++ '_' :: (middle ++ path.suffix.toList)

theorem isRotated_rotatedName : IsRotated path (rotatedName path moment) :=
  ⟨stampText moment, toList_rotatedName⟩

theorem IsRotated.ne_of_not_mem {name other : String} (h : IsRotated path name)
    (hother : '_' ∉ other.toList) : name ≠ other := by
  obtain ⟨middle, hname⟩ := h
  rintro rfl
  rw [hname] at hother
  exact hother (List.mem_append_right _ List.mem_cons_self)

theorem IsRotated.ne_dots {name : String} (h : IsRotated path name) : name ≠ ".." :=
  h.ne_of_not_mem (by decide)

/-- Such a name is not the root of the system. -/
theorem IsRotated.concat_ne_root {name : String} (h : IsRotated path name) (place : Location) :
    place ++ [name] ≠ ["/"] := by
  intro hroot
  obtain ⟨-, hname⟩ := (List.append_eq_singleton_iff.mp hroot).resolve_right nofun
  exact h.ne_of_not_mem (by decide) (List.singleton_inj.mp hname)

/-- A file that is put away gets another name. -/
theorem IsRotated.ne_name {name : String} (h : IsRotated path name) : name ≠ path.name := by
  obtain ⟨middle, hname⟩ := h
  intro heq
  have hlength := congrArg List.length hname
  rw [heq, ← path.stem_append_suffix, String.toList_append, List.length_append, List.length_append,
    List.length_cons, List.length_append] at hlength
  omega

/-- **It is put away in its directory.** -/
theorem place_rotatedPath :
    (rotatedPath path moment).place = path.parent.place ++ [rotatedName path moment] :=
  path.parent.place_child isRotated_rotatedName.ne_dots

/-- No file that was put away has the place of the active one. -/
theorem IsRotated.place_ne {name : String} (h : IsRotated path name) :
    path.parent.place ++ [name] ≠ path.place := by
  intro heq
  rcases path.place_cases with hname | habove
  · rw [hname] at heq
    exact h.ne_name (List.singleton_inj.mp (List.append_cancel_left heq))
  · have hlength := habove.length_le
    rw [← heq, List.length_append, List.length_singleton] at hlength
    omega

/-- **A later file has a later name.** -/
theorem rotatedName_lt {moment' : Moment} (h : HasLongYear moment) (h' : HasLongYear moment')
    (hlt : moment < moment') : rotatedName path moment < rotatedName path moment' := by
  rw [String.lt_iff_toList_lt, toList_rotatedName, toList_rotatedName]
  refine List.append_left_lt (List.cons_lt_cons_iff.mpr (.inr ⟨rfl, ?_⟩))
  exact append_lt_append ((length_stampText h).trans (length_stampText h').symm) (stampText_lt h h' hlt)

/-! ## Finding the names again -/

/-- **The names that are found** are those in the directory that the pattern fits. -/
theorem mem_rotatedNames {name : String} : name ∈ rotatedNames tree path ↔
    tree.locate path.parent = .ok path.parent.place ∧ name ∈ tree.names path.parent.place ∧
      (Glob.parse (rotatedPattern path)).accepts name.toList = true := by
  unfold rotatedNames
  split
  case h_1 place hplace =>
    obtain rfl := eq_place_of_locate hplace
    rw [List.mem_mergeSort, List.mem_filter]
    exact (and_iff_right hplace).symm
  case h_2 cause hfail =>
    refine iff_of_false List.not_mem_nil fun h => ?_
    cases hfail.symm.trans h.1

/-- **The pattern means its stem and its suffix as they are written.** -/
def IsPlain (path : Path) : Prop := Glob.IsPlain path.stem.toList ∧ Glob.IsPlain path.suffix.toList

instance (path : Path) : Decidable (IsPlain path) := inferInstanceAs (Decidable (_ ∧ _))

theorem rotatedPattern_eq (path : Path) :
    rotatedPattern path = (path.stem.toList ++ ['_']) ++ '*' :: path.suffix.toList := by
  unfold rotatedPattern
  rw [String.toList_append, String.toList_append, String.toList_ofList, List.append_assoc, List.append_assoc]
  rfl

theorem IsPlain.stem_mark (h : IsPlain path) : Glob.IsPlain (path.stem.toList ++ ['_']) := by
  intro c hc
  rcases List.mem_append.mp hc with hc | hc
  · exact h.1 c hc
  · rw [List.mem_singleton.mp hc]
    decide

theorem accepts_rotatedPattern_iff (h : IsPlain path) {name : String} :
    (Glob.parse (rotatedPattern path)).accepts name.toList = true ↔ IsRotated path name := by
  rw [rotatedPattern_eq, Glob.accepts_star_iff h.stem_mark h.2]
  unfold IsRotated
  simp only [List.append_assoc, List.singleton_append]

theorem hasDoubleStar_of_isPlain {cs : List Char} (h : Glob.IsPlain cs) : hasDoubleStar cs = false := by
  induction cs with
  | nil => rfl
  | cons c cs ih =>
    obtain ⟨⟨hstar, -⟩, hrest⟩ := List.forall_mem_cons.mp h
    rw [hasDoubleStar, ih hrest]
    rintro rest hc -
    exact hstar hc

theorem hasDoubleStar_append {front back : List Char} (hfront : Glob.IsPlain front)
    (hback : Glob.IsPlain back) : hasDoubleStar (front ++ '*' :: back) = false := by
  induction front with
  | nil =>
    rw [List.nil_append, hasDoubleStar, hasDoubleStar_of_isPlain hback]
    rintro rest - rfl
    exact (hback '*' List.mem_cons_self).1 rfl
  | cons c front ih =>
    obtain ⟨⟨hstar, -⟩, hrest⟩ := List.forall_mem_cons.mp hfront
    rw [List.cons_append, hasDoubleStar, ih hrest]
    rintro rest hc -
    exact hstar hc

/-- There is one star in the pattern. -/
theorem hasDoubleStar_rotatedPattern (h : IsPlain path) :
    hasDoubleStar (rotatedPattern path) = false := by
  rw [rotatedPattern_eq]
  exact hasDoubleStar_append h.stem_mark h.2

/-- **The names that are found** come the latest first. -/
theorem pairwise_rotatedNames : (rotatedNames tree path).Pairwise fun a b => b < a := by
  unfold rotatedNames
  split
  case h_2 => exact List.Pairwise.nil
  case h_1 place _ =>
    dsimp only
    generalize hfound : (tree.names place).filter
      (fun name => (Glob.parse (rotatedPattern path)).accepts name.toList) = found
    have hle (a b : String) : (!decide (a < b)) = true ↔ b ≤ a := by
      rw [Bool.not_eq_true', decide_eq_false_iff_not, not_lt]
    have hsorted : (found.mergeSort fun a b => !decide (a < b)).Pairwise
        fun a b => (!decide (a < b)) = true := by
      refine List.pairwise_mergeSort (fun a b c hab hbc => ?_) (fun a b => ?_) found
      · exact (hle a c).mpr (((hle b c).mp hbc).trans ((hle a b).mp hab))
      · rw [Bool.or_eq_true, hle, hle]
        exact le_total b a
    have hnodup : (found.mergeSort fun a b => !decide (a < b)).Nodup := by
      rw [(List.mergeSort_perm _ _).nodup_iff, ← hfound]
      exact nodup_names.filter _
    exact hsorted.imp₂ (fun a b hab hne => ((hle a b).mp hab).lt_of_ne hne.symm) hnodup

/-- A name is not the latest where there is a later one. -/
theorem mem_tail_rotatedNames {name later : String} (hname : name ∈ rotatedNames tree path)
    (hlater : later ∈ rotatedNames tree path) (hlt : name < later) :
    name ∈ (rotatedNames tree path).tail := by
  have hsorted : (rotatedNames tree path).Pairwise fun a b => b < a := pairwise_rotatedNames
  cases hnames : rotatedNames tree path with
  | nil =>
    rw [hnames] at hname
    cases hname
  | cons latest rest =>
    rw [hnames] at hname hlater hsorted
    obtain ⟨hlatest, -⟩ := List.pairwise_cons.mp hsorted
    rcases List.mem_cons.mp hname with rfl | hrest
    · rcases List.mem_cons.mp hlater with rfl | hrest
      · exact absurd hlt (lt_irrefl _)
      · exact absurd hlt (hlatest later hrest).asymm
    · exact hrest

/-- They are known when it is known which there are. -/
theorem rotatedNames_eq_reverse {names : List String} (h : IsPlain path)
    (hplace : tree.locate path.parent = .ok path.parent.place) (hsorted : names.Pairwise (· < ·))
    (hnames : ∀ name, name ∈ names ↔
      IsRotated path name ∧ (tree.node? (path.parent.place ++ [name])).isSome) :
    rotatedNames tree path = names.reverse := by
  have hmem : ∀ name, name ∈ rotatedNames tree path ↔ name ∈ names.reverse := by
    intro name
    rw [mem_rotatedNames, accepts_rotatedPattern_iff h, List.mem_reverse, hnames, and_iff_right hplace,
      and_comm]
    exact and_congr_right fun hrotated => mem_names (hrotated.concat_ne_root _)
  have hreverse : names.reverse.Pairwise fun a b => b < a := List.pairwise_reverse.mpr hsorted
  have hperm : (rotatedNames tree path).Perm names.reverse :=
    (List.perm_ext_iff_of_nodup (pairwise_rotatedNames.imp ne_of_gt) (hreverse.imp ne_of_gt)).mpr hmem
  exact hperm.eq_of_pairwise (fun a b _ _ hab hba => absurd hab hba.asymm) pairwise_rotatedNames hreverse

end AuditTrail.Journal
