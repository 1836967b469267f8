import AuditTrail.Proofs.Journal.Foreign
import AuditTrail.Proofs.Journal.Line

/-!
# Proofs/Journal/Size — how large the active file gets

    open file   ──record──▸   not full: written      full: put away, and written to a new one
    no file     ──record──▸   opened and written, full or not

The journal knows the size of the file that it has open (`Sized`), so a record never goes to an open file
that is full (`change_step`).  A file that was closed is opened again without a look at its size: the
limit is kept through a run exactly when no record is written that way to a full file
(`withinLimit_iff_neverOverfills`).
-/

namespace AuditTrail.Journal

open FileTree

/-- **The bytes of the active file**, empty where there is none. -/
def activeBytes (path : Path) (tree : Files) : List UInt8 := (tree.content? path.place).getD []

/-- **The limit is kept**: the file is empty, or its size without the last record is below the limit. -/
def WithinLimit (settings : JournalSettings) (bytes : List UInt8) : Prop :=
  bytes = [] ∨ ((withoutLastLine bytes).length : Int) < settings.maxSize

instance (settings : JournalSettings) (bytes : List UInt8) : Decidable (WithinLimit settings bytes) :=
  inferInstanceAs (Decidable (_ ∨ _))

/-- **The journal knows the size** of the active file while it has it open. -/
def Sized (path : Path) (desk : Desk) : Prop :=
  desk.handle = some path.place →
    (desk.tree.content? path.place).map List.length = some desk.size

section Steps

variable (clock : Nat → Moment) (settings : JournalSettings)

/-- **A record is written to a full file**: none was open, and the one that is opened for the record has
reached its size. -/
def Step.Overfills (desk : Desk) : Step → Prop
  | emit template arguments =>
    desk.handle = none ∧ isFull settings (activeBytes settings.path desk.tree).length = true ∧
      ((emit template arguments).run clock settings desk).1 = .ok ()
  | _ => False

/-- **No step of a run is refused.** -/
def Unrefused : List Step → Desk → Prop
  | [], _ => True
  | step :: rest, desk => (step.run clock settings desk).1 = .ok () ∧
      Unrefused rest (step.run clock settings desk).2

instance decidableUnrefused : (steps : List Step) → (desk : Desk) →
    Decidable (Unrefused clock settings steps desk)
  | [], _ => inferInstanceAs (Decidable True)
  | step :: rest, desk =>
    haveI := decidableUnrefused rest (step.run clock settings desk).2
    inferInstanceAs (Decidable (_ ∧ Unrefused clock settings rest _))

/-- **No record of a run is written to a full file.** -/
def NeverOverfills : List Step → Desk → Prop
  | [], _ => True
  | step :: rest, desk => ¬ step.Overfills clock settings desk ∧
      NeverOverfills rest (step.run clock settings desk).2

end Steps

variable {clock : Nat → Moment} {settings : JournalSettings} {tree moved : Files} {path : Path}
  {desk desk' : Desk} {source target : Location} {moment : Moment} {outcome : Except Fault Unit}

theorem activeBytes_congr (h : moved.content? path.place = tree.content? path.place) :
    activeBytes path moved = activeBytes path tree := by
  unfold activeBytes
  rw [h]

theorem activeBytes_of_none (h : tree.content? path.place = none) : activeBytes path tree = [] := by
  unfold activeBytes
  rw [h]
  rfl

/-! ## Opening the file -/

theorem Opened.activeBytes (h : Opened path desk desk') :
    activeBytes path desk'.tree = Journal.activeBytes path desk.tree := by
  unfold Journal.activeBytes
  rw [content?_eq_some_iff.mpr h.node?_place, madeFor_readied.content?, Option.getD_some]

theorem Opened.sized (h : Opened path desk desk') : Sized path desk' := by
  intro _
  rw [content?_eq_some_iff.mpr h.node?_place, h.size, Option.map_some]

/-- **Opening the file** leaves its bytes. -/
theorem activeBytes_openFile (hrun : (openFile path).run.run desk = (outcome, desk')) :
    activeBytes path desk'.tree = activeBytes path desk.tree := by
  rcases openFile_cases path desk with ⟨_, h, hopened⟩ | ⟨_, _, h, hnot⟩ <;> cases h.symm.trans hrun
  · exact hopened.activeBytes
  · exact activeBytes_congr hnot.made.content?

theorem sized_openFile (h : Sized path desk) (hrun : (openFile path).run.run desk = (outcome, desk')) :
    Sized path desk' := by
  rcases openFile_cases path desk with ⟨_, hopen, hopened⟩ | ⟨_, _, hopen, hnot⟩ <;>
    cases hopen.symm.trans hrun
  · exact hopened.sized
  · intro hhandle
    rw [hnot.made.content?, hnot.size]
    exact h (hnot.handle ▸ hhandle)

/-! ## Putting the active file away -/

/-- **Nothing is left of the active file** where it was renamed. -/
theorem content?_renamed_active
    (h : renamed tree path (rotatedPath path moment) = .ok (source, target, moved)) :
    moved.content? path.place = none := by
  obtain ⟨rfl, rfl, hrenaming⟩ := renamed_eq_ok h
  have hne := hrenaming.place_ne
  rcases hnode : tree.node? path.place with _ | ⟨_ | content⟩
  case none => exact absurd hnode hrenaming.there
  case some.file =>
    have hmoved := (rename_file hnode hrenaming.rename).2 path.place
    rw [if_neg hne, if_pos rfl] at hmoved
    unfold content?
    rw [hmoved]
  case some.directory =>
    obtain ⟨-, -, rfl⟩ := rename_directory hnode hne hrenaming.rename
    unfold content?
    by_cases hroot : path.place = [] ∨ path.place = ["/"]
    · rw [node?_of_root hroot]
    · have hbelow : ¬ (rotatedPath path moment).place <+: path.place := by
        intro hwithin
        rw [place_rotatedPath, Path.place_eq_concat hrenaming.parts_ne hrenaming.name_ne] at hwithin hne
        exact hne (hwithin.eq_of_length (by simp)).symm
      rw [node?_move hbelow hroot, if_pos (List.prefix_refl _)]

/-- **Putting the active file away** leaves nothing of it, and no handle on it, or nothing happens. -/
theorem activeBytes_rotate (hrun : (rotate clock settings).run.run desk = (outcome, desk')) :
    (activeBytes settings.path desk'.tree = [] ∧ desk'.handle ≠ some settings.path.place) ∨
      (∃ fault, outcome = .error fault) ∧ desk' = { desk with readings := desk.readings + 1 } := by
  rcases rotate_cases desk with ⟨_, notes, source, target, moved, hrenamed, h, -⟩ | ⟨fault, cause, -, h⟩ <;>
    cases h.symm.trans hrun
  case inr => exact .inr ⟨⟨fault, rfl⟩, rfl⟩
  case inl =>
    refine .inl ⟨activeBytes_of_none ?_, fun hhandle => ?_⟩
    · dsimp only
      rw [content?_swept, content?_renamed_active hrenamed, ite_self]
    · obtain ⟨rfl, rfl, hrenaming⟩ := renamed_eq_ok hrenamed
      obtain ⟨place, -, hplace⟩ := Option.map_eq_some_iff.mp hhandle
      split at hplace
      case isTrue => exact hrenaming.place_ne hplace.symm
      case isFalse hne => exact hne hplace

/-! ## Writing a record -/

theorem Sized.activeBytes_size (h : Sized path desk) (hopen : desk.handle = some path.place) :
    (activeBytes path desk.tree).length = desk.size := by
  obtain ⟨content, hcontent, hsize⟩ := Option.map_eq_some_iff.mp (h hopen)
  unfold activeBytes
  rw [hcontent, Option.getD_some, hsize]

/-- **A line** is added to the active file if that is open. -/
theorem activeBytes_appended (h : Sized path desk) (line : List UInt8) :
    activeBytes path (appended line desk).tree
      = if desk.handle = some path.place then activeBytes path desk.tree ++ line
        else activeBytes path desk.tree := by
  unfold appended
  dsimp only
  split
  case isTrue hopen =>
    obtain ⟨content, hcontent, -⟩ := Option.map_eq_some_iff.mp (h hopen)
    have hwritten := node?_written_of_file line (content?_eq_some_iff.mp hcontent)
    unfold activeBytes
    rw [hopen, content?_eq_some_iff.mpr hwritten, hcontent, Option.getD_some, Option.getD_some]
  case isFalse hother => exact activeBytes_congr (content?_congr (node?_written_of_ne line hother))

theorem sized_appended (h : Sized path desk) (line : List UInt8) : Sized path (appended line desk) := by
  intro hopen
  obtain ⟨content, hcontent, hsize⟩ := Option.map_eq_some_iff.mp (h hopen)
  have hwritten := node?_written_of_file line (content?_eq_some_iff.mp hcontent)
  unfold appended at hopen ⊢
  dsimp only at hopen ⊢
  rw [hopen, content?_eq_some_iff.mpr hwritten, Option.map_some, List.length_append, hsize]

/-- **A file that is ready**: the closed one was opened as it is, the open one is not full, or a new one
was begun. -/
theorem ready_of_ok (h : Sized settings.path desk)
    (hrun : (makeReady clock settings).run.run desk = (.ok (), desk')) :
    Sized settings.path desk' ∧
      (desk.handle = none ∧ desk'.handle = some settings.path.place ∧
        activeBytes settings.path desk'.tree = activeBytes settings.path desk.tree ∨
      desk.handle ≠ none ∧ isFull settings desk.size = false ∧ desk' = desk ∨
      desk.handle ≠ none ∧ desk'.handle = some settings.path.place ∧
        activeBytes settings.path desk'.tree = []) := by
  rcases makeReady_cases desk with ⟨hnone, hready⟩ | ⟨hopen, hroom, hready⟩ |
    ⟨hopen, -, ⟨mid, hrotate, hready⟩ | ⟨fault, mid, -, hready⟩⟩
  · have hrun := hready.symm.trans hrun
    exact ⟨sized_openFile h hrun, .inl ⟨hnone, handle_openFile hrun, activeBytes_openFile hrun⟩⟩
  · cases hready.symm.trans hrun
    exact ⟨h, .inr (.inl ⟨Option.isSome_iff_ne_none.mp hopen, hroom, rfl⟩)⟩
  · have hrun := hready.symm.trans hrun
    rcases activeBytes_rotate hrotate with ⟨hempty, hclosed⟩ | ⟨⟨_, hfail⟩, -⟩
    case inr => cases hfail
    have hsized : Sized settings.path { mid with size := 0 } := fun hhandle => absurd hhandle hclosed
    exact ⟨sized_openFile hsized hrun, .inr (.inr ⟨Option.isSome_iff_ne_none.mp hopen,
      handle_openFile hrun, (activeBytes_openFile hrun).trans hempty⟩)⟩
  · cases hready.symm.trans hrun

/-- A refusal to get ready leaves the file, or nothing of it. -/
theorem ready_of_error {fault : Fault} (h : Sized settings.path desk)
    (hrun : (makeReady clock settings).run.run desk = (.error fault, desk')) :
    Sized settings.path desk' ∧ (activeBytes settings.path desk'.tree = activeBytes settings.path desk.tree ∨
      activeBytes settings.path desk'.tree = []) := by
  rcases makeReady_cases desk with ⟨-, hready⟩ | ⟨-, -, hready⟩ |
    ⟨-, -, ⟨mid, hrotate, hready⟩ | ⟨fault, mid, hrotate, hready⟩⟩
  · have hrun := hready.symm.trans hrun
    exact ⟨sized_openFile h hrun, .inl (activeBytes_openFile hrun)⟩
  · cases hready.symm.trans hrun
  · have hrun := hready.symm.trans hrun
    rcases activeBytes_rotate hrotate with ⟨hempty, hclosed⟩ | ⟨⟨_, hfail⟩, -⟩
    case inr => cases hfail
    have hsized : Sized settings.path { mid with size := 0 } := fun hhandle => absurd hhandle hclosed
    exact ⟨sized_openFile hsized hrun, .inr ((activeBytes_openFile hrun).trans hempty)⟩
  · cases hready.symm.trans hrun
    rcases activeBytes_rotate hrotate with ⟨hempty, hclosed⟩ | ⟨-, rfl⟩
    · exact ⟨fun hhandle => absurd hhandle hclosed, .inr hempty⟩
    · exact ⟨nofun, .inl rfl⟩

/-! ## Steps -/

/-- **What a step makes of the bytes of the active file.**  Only where it overfills does a record go to a
full file. -/
inductive Change (settings : JournalSettings) (overfills : Prop) (bytes : List UInt8) : List UInt8 → Prop
  | kept (h : ¬ overfills) : Change settings overfills bytes bytes
  | emptied (h : ¬ overfills) : Change settings overfills bytes []
  | begun (moment : Moment) (message template : String) (arguments : List String) (h : ¬ overfills) :
    Change settings overfills bytes (recordLine moment message template arguments)
  | added (moment : Moment) (message template : String) (arguments : List String)
    (hroom : isFull settings bytes.length = false) (h : ¬ overfills) :
    Change settings overfills bytes (bytes ++ recordLine moment message template arguments)
  | overfilled (moment : Moment) (message template : String) (arguments : List String)
    (hfull : isFull settings bytes.length = true) (h : overfills) :
    Change settings overfills bytes (bytes ++ recordLine moment message template arguments)

theorem change_of_kept_or_emptied {overfills : Prop} {bytes bytes' : List UInt8} (hnot : ¬ overfills)
    (h : bytes' = bytes ∨ bytes' = []) : Change settings overfills bytes bytes' := by
  rcases h with rfl | rfl
  · exact .kept hnot
  · exact .emptied hnot

theorem not_overfills_of_error {step : Step} {fault : Fault}
    (h : step.run clock settings desk = (.error fault, desk')) : ¬ step.Overfills clock settings desk := by
  cases step with
  | start => exact id
  | close => exact id
  | emit template arguments =>
    rintro ⟨-, -, hreturns⟩
    rw [h] at hreturns
    cases hreturns

/-- **A record that is written** goes to a full file exactly where it overfills. -/
theorem change_of_ready {template : String} {arguments : List String} {message : String} {mid : Desk}
    (h : Sized settings.path desk)
    (hready : (makeReady clock settings).run.run { desk with readings := desk.readings + 1 }
      = (.ok (), mid))
    (hemit : (Step.emit template arguments).run clock settings desk
      = (.ok (), appended (recordLine moment message template arguments) mid)) :
    Sized settings.path (appended (recordLine moment message template arguments) mid) ∧
      Change settings ((Step.emit template arguments).Overfills clock settings desk)
        (activeBytes settings.path desk.tree)
        (activeBytes settings.path (appended (recordLine moment message template arguments) mid).tree) := by
  have hreturns : ((Step.emit template arguments).run clock settings desk).1 = .ok () := by rw [hemit]
  have hread : Sized settings.path { desk with readings := desk.readings + 1 } := h
  obtain ⟨hsized, hcases⟩ := ready_of_ok hread hready
  refine ⟨sized_appended hsized _, ?_⟩
  rw [activeBytes_appended hsized]
  rcases hcases with ⟨hclosed, hopen, hsame⟩ | ⟨hthere, hroom, rfl⟩ | ⟨hthere, hopen, hempty⟩
  · rw [if_pos hopen, hsame]
    rcases hfull : isFull settings (activeBytes settings.path desk.tree).length with _ | _
    · exact .added _ _ _ _ hfull fun hover => Bool.false_ne_true (hfull.symm.trans hover.2.1)
    · exact .overfilled _ _ _ _ hfull ⟨hclosed, hfull, hreturns⟩
  · have hnot (hover : (Step.emit template arguments).Overfills clock settings desk) : False :=
      hthere hover.1
    by_cases hopen : desk.handle = some settings.path.place
    · rw [if_pos hopen]
      refine .added _ _ _ _ ?_ hnot
      rw [h.activeBytes_size hopen]
      exact hroom
    · rw [if_neg hopen]
      exact .kept hnot
  · rw [if_pos hopen, hempty, List.nil_append]
    exact .begun _ _ _ _ fun hover => hthere hover.1

/-- **A step** changes the active file in one of these ways, and the journal goes on knowing its size. -/
theorem change_step {step : Step} (h : Sized settings.path desk)
    (hrun : step.run clock settings desk = (outcome, desk')) :
    Sized settings.path desk' ∧ Change settings (step.Overfills clock settings desk)
      (activeBytes settings.path desk.tree) (activeBytes settings.path desk'.tree) := by
  cases step with
  | close =>
    cases hrun
    exact ⟨nofun, .kept id⟩
  | start =>
    rcases start_cases desk with ⟨fault, hstart, -⟩ | ⟨hstart, -⟩ |
      ⟨-, ⟨mid, hrotate, hstart⟩ | ⟨_, fault, mid, hrotate, hstart⟩⟩
    · cases hstart.symm.trans hrun
      exact ⟨h, .kept id⟩
    · have hrun := hstart.symm.trans hrun
      exact ⟨sized_openFile h hrun, change_of_kept_or_emptied id (.inl (activeBytes_openFile hrun))⟩
    · have hrun := hstart.symm.trans hrun
      rcases activeBytes_rotate hrotate with ⟨hempty, hclosed⟩ | ⟨⟨_, hfail⟩, -⟩
      case inr => cases hfail
      exact ⟨sized_openFile (fun hhandle => absurd hhandle hclosed) hrun,
        change_of_kept_or_emptied id (.inr ((activeBytes_openFile hrun).trans hempty))⟩
    · cases hstart.symm.trans hrun
      rcases activeBytes_rotate hrotate with ⟨hempty, hclosed⟩ | ⟨-, rfl⟩
      · exact ⟨fun hhandle => absurd hhandle hclosed, change_of_kept_or_emptied id (.inr hempty)⟩
      · exact ⟨h, .kept id⟩
  | emit template arguments =>
    rcases emit_cases template arguments desk with
      ⟨_, fault, -, hemit⟩ | ⟨message, -, ⟨mid, hready, hemit⟩ | ⟨_, fault, mid, hready, hemit⟩⟩
    · have hnot := not_overfills_of_error hemit
      cases hemit.symm.trans hrun
      exact ⟨h, .kept hnot⟩
    · have hchange := change_of_ready h hready hemit
      cases hemit.symm.trans hrun
      exact hchange
    · have hnot := not_overfills_of_error hemit
      have hread : Sized settings.path { desk with readings := desk.readings + 1 } := h
      obtain ⟨hsized, htext⟩ := ready_of_error hread hready
      cases hemit.symm.trans hrun
      exact ⟨hsized, change_of_kept_or_emptied hnot htext⟩

/-- The file goes on having whole lines. -/
theorem Change.hasWholeLines {overfills : Prop} {bytes bytes' : List UInt8}
    (h : Change settings overfills bytes bytes') (hwhole : HasWholeLines bytes) : HasWholeLines bytes' := by
  cases h with
  | kept => exact hwhole
  | emptied => exact .inl rfl
  | begun => exact hasWholeLines_recordLine
  | added => exact hasWholeLines_append_recordLine
  | overfilled => exact hasWholeLines_append_recordLine

/-- **The limit goes on being kept** unless a record overfills the file. -/
theorem Change.withinLimit_iff {overfills : Prop} {bytes bytes' : List UInt8}
    (h : Change settings overfills bytes bytes') (hsize : 1 ≤ settings.maxSize) (hwhole : HasWholeLines bytes)
    (hwithin : WithinLimit settings bytes) : WithinLimit settings bytes' ↔ ¬ overfills := by
  cases h with
  | kept hnot => exact iff_of_true hwithin hnot
  | emptied hnot => exact iff_of_true (.inl rfl) hnot
  | begun moment message template arguments hnot =>
    refine iff_of_true (.inr ?_) hnot
    rw [withoutLastLine_recordLine]
    exact hsize
  | added moment message template arguments hroom hnot =>
    refine iff_of_true (.inr ?_) hnot
    rw [withoutLastLine_append_recordLine hwhole]
    exact lt_of_not_ge (of_decide_eq_false hroom)
  | overfilled moment message template arguments hfull hover =>
    refine iff_of_false ?_ (not_not_intro hover)
    rintro (hempty | hroom)
    · exact recordLine_ne_nil (List.append_eq_nil_iff.mp hempty).2
    · rw [withoutLastLine_append_recordLine hwhole] at hroom
      exact absurd hroom (not_lt_of_ge (of_decide_eq_true hfull))

/-! ## Runs -/

/-- **The limit is kept after every step exactly when no record is written to a full file.** -/
theorem withinLimit_after_iff {steps : List Step} (hsize : 1 ≤ settings.maxSize)
    (h : Sized settings.path desk) (hwhole : HasWholeLines (activeBytes settings.path desk.tree))
    (hwithin : WithinLimit settings (activeBytes settings.path desk.tree)) :
    (∀ taken, taken <+: steps →
      WithinLimit settings (activeBytes settings.path (after clock settings taken desk).tree)) ↔
      NeverOverfills clock settings steps desk := by
  induction steps generalizing desk with
  | nil =>
    refine iff_of_true (fun taken htaken => ?_) trivial
    rw [List.prefix_nil.mp htaken]
    exact hwithin
  | cons step rest ih =>
    obtain ⟨hsized, hchange⟩ :=
      change_step h (Prod.mk.eta (p := step.run clock settings desk)).symm
    have hstep := hchange.withinLimit_iff hsize hwhole hwithin
    have hafter (taken : List Step) : after clock settings (step :: taken) desk
        = after clock settings taken (step.run clock settings desk).2 := rfl
    constructor
    · intro hall
      have hfirst := hall [step] (List.prefix_cons_inj step |>.mpr (List.nil_prefix))
      refine ⟨hstep.mp hfirst, (ih hsized (hchange.hasWholeLines hwhole) hfirst).mp fun taken htaken => ?_⟩
      exact hall (step :: taken) ((List.prefix_cons_inj step).mpr htaken)
    · rintro ⟨hnot, hrest⟩ taken htaken
      rcases List.prefix_cons_iff.mp htaken with rfl | ⟨later, rfl, hlater⟩
      · exact hwithin
      · exact (ih hsized (hchange.hasWholeLines hwhole) (hstep.mpr hnot)).mpr hrest later hlater

/-- **The limit is kept** after every step of a run that begins without a file exactly when no record of the
run is written to a full file. -/
theorem withinLimit_iff_neverOverfills {steps : List Step} (hsize : 1 ≤ settings.maxSize)
    (habsent : tree.content? settings.path.place = none) :
    (∀ taken, taken <+: steps → WithinLimit settings
      (activeBytes settings.path (after clock settings taken (Desk.ofTree tree)).tree)) ↔
      NeverOverfills clock settings steps (Desk.ofTree tree) := by
  have htext : activeBytes settings.path (Desk.ofTree tree).tree = [] := activeBytes_of_none habsent
  exact withinLimit_after_iff hsize nofun (.inl htext) (.inl htext)

/-! ## Runs in which the file stays open -/

/-- **A step that is not refused** leaves the file open, unless it closes it. -/
theorem handle_ne_none_of_ok {step : Step} (hclose : step ≠ .close)
    (hopen : step ≠ .start → desk.handle ≠ none)
    (hrun : step.run clock settings desk = (.ok (), desk')) : desk'.handle ≠ none := by
  have hopened {desk : Desk} (h : (openFile settings.path).run.run desk = (.ok (), desk')) :
      desk'.handle ≠ none := handle_openFile h ▸ Option.some_ne_none _
  cases step with
  | close => exact absurd rfl hclose
  | start =>
    rcases start_cases desk with ⟨fault, hstart, -⟩ | ⟨hstart, -⟩ |
      ⟨-, ⟨mid, -, hstart⟩ | ⟨_, fault, mid, -, hstart⟩⟩
    · cases hstart.symm.trans hrun
    · exact hopened (hstart.symm.trans hrun)
    · exact hopened (hstart.symm.trans hrun)
    · cases hstart.symm.trans hrun
  | emit template arguments =>
    rcases emit_cases template arguments desk with
      ⟨_, fault, -, hemit⟩ | ⟨message, -, ⟨mid, hready, hemit⟩ | ⟨_, fault, mid, -, hemit⟩⟩ <;>
      cases hemit.symm.trans hrun
    show mid.handle ≠ none
    rcases makeReady_cases { desk with readings := desk.readings + 1 } with ⟨-, h⟩ | ⟨-, -, h⟩ |
      ⟨-, -, ⟨_, -, h⟩ | ⟨_, _, -, h⟩⟩
    · exact handle_openFile (h.symm.trans hready) ▸ Option.some_ne_none _
    · cases h.symm.trans hready
      exact hopen nofun
    · exact handle_openFile (h.symm.trans hready) ▸ Option.some_ne_none _
    · cases h.symm.trans hready

theorem neverOverfills_of_open {steps : List Step} (hopen : desk.handle ≠ none) (hclose : .close ∉ steps)
    (hok : Unrefused clock settings steps desk) : NeverOverfills clock settings steps desk := by
  induction steps generalizing desk with
  | nil => trivial
  | cons step rest ih =>
    obtain ⟨hfirst, hrest⟩ := hok
    obtain ⟨hother, hlater⟩ := List.ne_and_not_mem_of_not_mem_cons hclose
    refine ⟨?_, ih (handle_ne_none_of_ok hother.symm (fun _ => hopen) (Prod.ext hfirst rfl)) hlater hrest⟩
    cases step with
    | emit template arguments => exact fun h => hopen h.1
    | start => exact id
    | close => exact id

/-- **A journal that is never closed** writes no record to a full file, unless a step is refused. -/
theorem neverOverfills_of_start {steps : List Step} (hclose : .close ∉ steps)
    (hok : Unrefused clock settings (.start :: steps) desk) :
    NeverOverfills clock settings (.start :: steps) desk :=
  have hother : Step.start ≠ .close := nofun
  have hopen : (Step.start.run clock settings desk).2.handle ≠ none :=
    handle_ne_none_of_ok hother (absurd rfl) (Prod.ext hok.1 rfl)
  ⟨id, neverOverfills_of_open hopen hclose hok.2⟩

/-- Each of two records finds room, the second in a file of its own. -/
theorem two_records_withinLimit :
    NeverOverfills halfSeconds shortJournal [.start, .emit "a" [], .emit "b" []] (Desk.ofTree .empty) ∧
    WithinLimit shortJournal (activeBytes shortJournal.path
      (after halfSeconds shortJournal [.start, .emit "a" [], .emit "b" []] (Desk.ofTree .empty)).tree) := by
  have hnever : NeverOverfills halfSeconds shortJournal [.start, .emit "a" [], .emit "b" []]
      (Desk.ofTree .empty) := neverOverfills_of_start (by decide) (by decide +kernel)
  have habsent : (FileTree.empty : Files).content? shortJournal.path.place = none := by
    decide +kernel
  exact ⟨hnever, (withinLimit_iff_neverOverfills (by decide) habsent).mpr hnever _ (List.prefix_refl _)⟩

/-- **A record that opens the file again** goes behind the first one, though the file is full with that:
no step is refused. -/
theorem reopened_beyond_limit : (Desk.ofTree .empty).tree.content? shortJournal.path.place = none ∧
    1 ≤ shortJournal.maxSize ∧
    Unrefused halfSeconds shortJournal [.start, .emit "a" [], .close, .emit "b" []] (Desk.ofTree .empty) ∧
    ¬ WithinLimit shortJournal (activeBytes shortJournal.path
      (after halfSeconds shortJournal [.start, .emit "a" [], .close, .emit "b" []]
        (Desk.ofTree .empty)).tree) := by
  have htext : activeBytes shortJournal.path (after halfSeconds shortJournal
      [.start, .emit "a" [], .close, .emit "b" []] (Desk.ofTree .empty)).tree
        = ([] ++ recordLine (halfSeconds 0) "a" "a" []) ++ recordLine (halfSeconds 1) "b" "b" [] := by
    rfl
  refine ⟨by decide +kernel, by decide, by decide +kernel, ?_⟩
  rw [htext]
  rintro (hempty | hroom)
  · exact recordLine_ne_nil (List.append_eq_nil_iff.mp hempty).2
  · rw [withoutLastLine_append_recordLine hasWholeLines_append_recordLine, List.nil_append] at hroom
    have hsome : (recordLine (halfSeconds 0) "a" "a" []).length ≠ 0 :=
      mt List.eq_nil_of_length_eq_zero recordLine_ne_nil
    have hone : shortJournal.maxSize = 1 := rfl
    omega

end AuditTrail.Journal
