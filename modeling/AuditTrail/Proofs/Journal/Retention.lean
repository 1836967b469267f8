import AuditTrail.Proofs.Journal.Archive

/-!
# Proofs/Journal/Retention — a run keeps the latest lines

    steps     start   emit a   emit b           emit c                 close
    archive   [ ]     [a]      [a] [b]          [b] [c]   (dropped a)

A run has an archive of its own (`archiveAfter`): a step that puts the active file away rotates it, and a
record that is not refused appends its line.  All lines of the archive are those that the run wrote
(`lines_archiveAfter`), and the directory shows it (`holds_after`), as one step keeps what is shown
(`holds_step`).  The path must not come by a directory that has the name of an old file: that directory is
found among the old files, and one of them is removed for it (`run_second_record`).
-/

namespace AuditTrail.Journal

open FileTree

/-! ## What a run writes, and where -/

section Steps

variable (clock : Nat → Moment) (settings : JournalSettings)

/-- **The lines that a step writes**: that of a record that is not refused. -/
def Step.lines (desk : Desk) : Step → List (List UInt8)
  | emit template arguments =>
    match ((emit template arguments).run clock settings desk).1,
      Substitution.substitute template arguments with
    | .ok (), .ok message => [recordLine (clock desk.readings) message template arguments]
    | _, _ => []
  | _ => []

/-- **The lines that a run writes**, in their order. -/
def linesOf : List Step → Desk → List (List UInt8)
  | [], _ => []
  | step :: rest, desk =>
    step.lines clock settings desk ++ linesOf rest (step.run clock settings desk).2

/-- **What a step does to an archive**: the active file may be put away first. -/
def Step.archive (desk : Desk) (archive : Archive) (step : Step) : Archive :=
  match step.rotation? clock settings desk with
  | some moment => (archive.rotate (settings.maxFiles - 1).toNat
      (rotatedName settings.path moment)).append (step.lines clock settings desk)
  | none => archive.append (step.lines clock settings desk)

/-- **The archive of a run.** -/
def archiveAfter : List Step → Desk → Archive → Archive
  | [], _, archive => archive
  | step :: rest, desk, archive =>
    archiveAfter rest (step.run clock settings desk).2 (step.archive clock settings desk archive)

/-- **No step of a run that puts the active file away is refused.** -/
def RotatesFreely : List Step → Desk → Prop
  | [], _ => True
  | step :: rest, desk =>
    ((step.rotation? clock settings desk).isSome → (step.run clock settings desk).1 = .ok ()) ∧
      RotatesFreely rest (step.run clock settings desk).2

end Steps

/-- **A place for a new journal**: nothing there has a name of the kind that files get that are put away,
and there is no active file, or an empty one. -/
structure Fresh (path : Path) (tree : Files) : Prop where
  unused : ∀ name, IsRotated path name → tree.node? (path.parent.place ++ [name]) = none
  active : tree.node? path.place = none ∨ tree.node? path.place = some (.file [])

/-- An empty directory is one, for a file below it. -/
theorem fresh_empty {path : Path} (h : ¬ (path.place = [] ∨ path.place = ["/"])) : Fresh path .empty := by
  refine ⟨fun name hname => node?_of_not_root ?_, .inl (node?_of_not_root h)⟩
  rintro (hnil | hroot)
  · exact List.append_ne_nil_of_right_ne_nil _ (List.cons_ne_nil name []) hnil
  · exact hname.concat_ne_root _ hroot

variable {clock : Nat → Moment} {settings : JournalSettings} {tree : Files}
  {archive : Archive} {desk desk' mid : Desk} {outcome : Except Fault Unit} {path : Path}

theorem archive_of_none {step : Step} (h : step.rotation? clock settings desk = none) :
    step.archive clock settings desk archive = archive.append (step.lines clock settings desk) := by
  unfold Step.archive
  rw [h]

theorem archive_of_some {step : Step} {moment : Moment}
    (h : step.rotation? clock settings desk = some moment) : step.archive clock settings desk archive
      = (archive.rotate (settings.maxFiles - 1).toNat (rotatedName settings.path moment)).append
          (step.lines clock settings desk) := by
  unfold Step.archive
  rw [h]

/-- A refused step writes no line. -/
theorem lines_of_error {step : Step} {fault : Fault}
    (h : step.run clock settings desk = (.error fault, desk')) : step.lines clock settings desk = [] := by
  cases step with
  | start => rfl
  | close => rfl
  | emit template arguments =>
    rw [Step.lines, h]

theorem lines_emit {template : String} {arguments : List String} {message : String}
    (h : (Step.emit template arguments).run clock settings desk = (.ok (), desk'))
    (hmessage : Substitution.substitute template arguments = .ok message) :
    (Step.emit template arguments).lines clock settings desk
      = [recordLine (clock desk.readings) message template arguments] := by
  rw [Step.lines, h, hmessage]

theorem lines_archive (step : Step) : (step.archive clock settings desk archive).lines
    = archive.lines ++ step.lines clock settings desk := by
  unfold Step.archive
  split
  case h_1 => rw [Archive.lines_append, Archive.lines_rotate]
  case h_2 => rw [Archive.lines_append]

/-- **All lines of the archive** are those that were written. -/
theorem lines_archiveAfter (steps : List Step) (desk : Desk) (archive : Archive) :
    (archiveAfter clock settings steps desk archive).lines
      = archive.lines ++ linesOf clock settings steps desk := by
  induction steps generalizing desk archive with
  | nil => exact (List.append_nil _).symm
  | cons step rest ih => rw [archiveAfter, ih, lines_archive, linesOf, List.append_assoc]

/-! ## The clock is read on and on -/

theorem readings_openFile (hrun : (openFile settings.path).run.run desk = (outcome, desk')) :
    desk'.readings = desk.readings := by
  rcases openFile_cases settings.path desk with ⟨_, h, hopened⟩ | ⟨_, _, h, hnot⟩ <;>
    cases h.symm.trans hrun
  · exact hopened.readings
  · exact hnot.readings

theorem readings_rotate (hrun : (rotate clock settings).run.run desk = (outcome, desk')) :
    desk'.readings = desk.readings + 1 := by
  rcases rotate_cases desk with ⟨_, _, _, _, _, -, h, -⟩ | ⟨_, _, -, h⟩ <;> cases h.symm.trans hrun <;> rfl

theorem readings_makeReady (hrun : (makeReady clock settings).run.run desk = (outcome, desk')) :
    desk.readings ≤ desk'.readings := by
  rcases makeReady_cases desk with ⟨-, h⟩ | ⟨-, -, h⟩ | ⟨-, -, ⟨mid, hrotate, h⟩ | ⟨_, mid, hrotate, h⟩⟩
  · exact (readings_openFile (h.symm.trans hrun)).ge
  · cases h.symm.trans hrun
    exact le_rfl
  · have hmid := readings_rotate hrotate
    have hopen := readings_openFile (h.symm.trans hrun)
    dsimp only at hmid hopen
    omega
  · have hmid := readings_rotate hrotate
    cases h.symm.trans hrun
    dsimp only at hmid
    omega

theorem readings_run (step : Step) (hrun : step.run clock settings desk = (outcome, desk')) :
    desk.readings ≤ desk'.readings := by
  cases step with
  | close =>
    cases hrun
    exact le_rfl
  | start =>
    rcases start_cases desk with ⟨_, h, -⟩ | ⟨h, -⟩ | ⟨-, ⟨mid, hrotate, h⟩ | ⟨_, _, mid, hrotate, h⟩⟩
    · cases h.symm.trans hrun
      exact le_rfl
    · exact (readings_openFile (h.symm.trans hrun)).ge
    · have hmid := readings_rotate hrotate
      have hopen := readings_openFile (h.symm.trans hrun)
      omega
    · have hmid := readings_rotate hrotate
      cases h.symm.trans hrun
      omega
  | emit template arguments =>
    rcases emit_cases template arguments desk with ⟨_, _, -, h⟩ |
      ⟨_, -, ⟨mid, hready, h⟩ | ⟨_, _, mid, hready, h⟩⟩
    · cases h.symm.trans hrun
      exact Nat.le_succ _
    all_goals
      have hmid := readings_makeReady hready
      cases h.symm.trans hrun
      exact Nat.le_of_succ_le hmid

theorem readings_after (steps : List Step) (desk : Desk) :
    desk.readings ≤ (after clock settings steps desk).readings := by
  induction steps generalizing desk with
  | nil => exact le_rfl
  | cons step rest ih => exact (readings_run step rfl).trans (ih _)

theorem GoesUp.mono {readings readings' : Nat} (h : GoesUp clock readings') (hle : readings ≤ readings') :
    GoesUp clock readings := fun j hj => h j (Nat.lt_of_lt_of_le hj hle)

/-! ## One step -/

/-- **A desk holds an archive**: the directory keeps it, and where a file is open it is the active one. -/
structure Holds (clock : Nat → Moment) (path : Path) (desk : Desk) (archive : Archive) : Prop where
  kept : Kept clock path desk.readings desk.tree archive
  handle : ∀ place, desk.handle = some place → place = path.place ∧ (desk.tree.content? path.place).isSome

/-- **An open file.** -/
theorem Opened.holds (hopened : Opened path desk desk') (hclear : KeepsClear path)
    (h : Kept clock path desk.readings desk.tree archive) : Holds clock path desk' archive := by
  refine ⟨hopened.readings ▸ h.of_opened hclear hopened, fun place hplace => ?_⟩
  rw [hopened.handle] at hplace
  refine ⟨(Option.some.inj hplace).symm, ?_⟩
  rw [content?_eq_some_iff.mpr hopened.node?_place]
  rfl

theorem NotOpened.holds (hnot : NotOpened path desk desk') (hclear : KeepsClear path)
    (h : Holds clock path desk archive) : Holds clock path desk' archive := by
  refine ⟨hnot.readings ▸ h.kept.of_madeFor hclear hnot.made, fun place hplace => ?_⟩
  rw [hnot.made.content?]
  exact h.handle place (hnot.handle ▸ hplace)

theorem holds_openFile (h : Holds clock settings.path desk archive) (hclear : KeepsClear settings.path)
    (hrun : (openFile settings.path).run.run desk = (outcome, desk')) :
    Holds clock settings.path desk' archive := by
  rcases openFile_cases settings.path desk with ⟨_, hopen, hopened⟩ | ⟨_, _, hopen, hnot⟩ <;>
    cases hopen.symm.trans hrun
  · exact hopened.holds hclear h.kept
  · exact hnot.holds hclear h

/-- **Putting the active file away and opening a new one.** -/
theorem holds_reopen {mid' : Desk} (hrotate : (rotate clock settings).run.run desk = (.ok (), mid))
    (hopen : (openFile settings.path).run.run mid' = (.ok (), desk'))
    (hsame : mid'.tree = mid.tree ∧ mid'.readings = mid.readings)
    (h : Kept clock settings.path desk.readings desk.tree archive) (hplain : IsPlain settings.path)
    (hclear : KeepsClear settings.path) (hclock : GoesUp clock (desk.readings + 1)) :
    Holds clock settings.path desk' (archive.rotate (settings.maxFiles - 1).toNat
      (rotatedName settings.path (clock desk.readings))) := by
  have hmid := readings_rotate hrotate
  rcases openFile_cases settings.path mid' with ⟨_, hrun, hopened⟩ | ⟨_, _, hrun, -⟩ <;>
    cases hrun.symm.trans hopen
  refine hopened.holds hclear ?_
  rw [hsame.1, hsame.2, hmid]
  rcases rotate_cases desk with ⟨_, _, source, target, moved, hrenamed, hrun, -⟩ | ⟨_, _, -, hrun⟩ <;>
    cases hrun.symm.trans hrotate
  -- the file can be opened, so no directory is at its place, and it was a file that was put away
  have hfree : (readied settings.path mid'.tree).isDirectory settings.path.place = false :=
    eq_false_of_ne_true fun hdir => hopened.free (isDirectory_iff.mp hdir)
  have hfile : desk.tree.isDirectory settings.path.place = false :=
    eq_false_of_ne_true fun hdir => not_passes_of_locate hopened.locates hfree (h.free hdir)
  dsimp only
  exact h.rotate hplain le_rfl hclock hfile hrenamed

/-- **Getting ready to write**: where a full file is open, it is put away first. -/
theorem holds_makeReady (h : Holds clock settings.path desk archive) (hplain : IsPlain settings.path)
    (hclear : KeepsClear settings.path)
    (hrun : (makeReady clock settings).run.run desk = (outcome, desk'))
    (hclock : GoesUp clock desk'.readings) :
    ((¬ (desk.handle.isSome ∧ isFull settings desk.size = true) ∧
      Holds clock settings.path desk' archive) ∨
    (desk.handle.isSome ∧ isFull settings desk.size = true) ∧ (outcome = .ok () →
      Holds clock settings.path desk' (archive.rotate (settings.maxFiles - 1).toNat
        (rotatedName settings.path (clock desk.readings))))) ∧
    (outcome = .ok () → desk'.handle = some settings.path.place) := by
  rcases makeReady_cases desk with ⟨hnone, hready⟩ | ⟨hopen, hroom, hready⟩ |
    ⟨hopen, hfull, ⟨mid, hrotate, hready⟩ | ⟨fault, mid, hrotate, hready⟩⟩
  · have hrun := hready.symm.trans hrun
    refine ⟨.inl ⟨?_, holds_openFile h hclear hrun⟩, ?_⟩
    · rw [hnone]
      nofun
    · rintro rfl
      exact handle_openFile hrun
  · cases hready.symm.trans hrun
    refine ⟨.inl ⟨?_, h⟩, fun _ => ?_⟩
    · rw [hroom]
      nofun
    · obtain ⟨place, hplace⟩ := Option.isSome_iff_exists.mp hopen
      rw [hplace, (h.handle place hplace).1]
  · have hrun := hready.symm.trans hrun
    have hreadings := readings_openFile hrun
    have hmid := readings_rotate hrotate
    dsimp only at hreadings hmid
    refine ⟨.inr ⟨⟨hopen, hfull⟩, ?_⟩, ?_⟩
    · rintro rfl
      have hclock := hclock.mono (hmid.symm.trans hreadings.symm).le
      have hheld := holds_reopen hrotate hrun ⟨rfl, rfl⟩ h.kept hplain hclear hclock
      exact hheld
    · rintro rfl
      exact handle_openFile hrun
  · cases hready.symm.trans hrun
    exact ⟨.inr ⟨⟨hopen, hfull⟩, nofun⟩, nofun⟩

/-- **Writing a line** to the active file. -/
theorem Holds.appended (h : Holds clock path desk archive) (hopen : desk.handle = some path.place)
    (line : List UInt8) : Holds clock path (appended line desk) (archive.append [line]) := by
  have hthere := (h.handle _ hopen).2
  obtain ⟨content, hcontent⟩ := Option.isSome_iff_exists.mp hthere
  unfold Journal.appended
  rw [hopen]
  refine ⟨h.kept.of_written line hthere, fun place hplace => ⟨(Option.some.inj hplace).symm, ?_⟩⟩
  dsimp only
  rw [content?_eq_some_iff.mpr (node?_written_of_file line (content?_eq_some_iff.mp hcontent))]
  rfl

/-- **Writing a record.** -/
theorem holds_emit {template : String} {arguments : List String}
    (h : Holds clock settings.path desk archive) (hplain : IsPlain settings.path)
    (hclear : KeepsClear settings.path)
    (hrun : (Step.emit template arguments).run clock settings desk = (outcome, desk'))
    (hfree : ((Step.emit template arguments).rotation? clock settings desk).isSome → outcome = .ok ())
    (hclock : GoesUp clock desk'.readings) :
    Holds clock settings.path desk'
      ((Step.emit template arguments).archive clock settings desk archive) := by
  have hread : Holds clock settings.path { desk with readings := desk.readings + 1 } archive :=
    ⟨h.kept.mono (Nat.le_succ _), h.handle⟩
  rcases emit_cases template arguments desk with
    ⟨reason, fault, hfail, hemit⟩ | ⟨message, hmessage, hready⟩
  · have hnone : (Step.emit template arguments).rotation? clock settings desk = none := by
      refine Option.eq_none_iff_forall_ne_some.mpr fun moment hsome => ?_
      have hfilled := (rotation?_emit_eq_some_iff.mp hsome).1.1
      rw [hfail] at hfilled
      cases hfilled
    rw [archive_of_none hnone, lines_of_error hemit, Archive.append_nil]
    cases hemit.symm.trans hrun
    exact hread
  have hnone (hroom : ¬ (desk.handle.isSome ∧ isFull settings desk.size = true)) :
      (Step.emit template arguments).rotation? clock settings desk = none := rotation?_emit_eq_none hroom
  have hsome (hfull : desk.handle.isSome ∧ isFull settings desk.size = true) :
      (Step.emit template arguments).rotation? clock settings desk = some (clock (desk.readings + 1)) :=
    rotation?_emit_eq_some_iff.mpr ⟨⟨by rw [hmessage]; rfl, hfull⟩, rfl⟩
  rcases hready with ⟨mid, hready, hemit⟩ | ⟨_, fault, mid, hready, hemit⟩
  · have hlines := lines_emit hemit hmessage
    cases hemit.symm.trans hrun
    obtain ⟨hmid, hopen⟩ := holds_makeReady hread hplain hclear hready hclock
    rcases hmid with ⟨hroom, hmid⟩ | ⟨hfull, hmid⟩
    · rw [archive_of_none (hnone hroom), hlines]
      exact hmid.appended (hopen rfl) _
    · rw [archive_of_some (hsome hfull), hlines]
      exact (hmid rfl).appended (hopen rfl) _
  · have hlines := lines_of_error hemit
    cases hemit.symm.trans hrun
    obtain ⟨hmid, -⟩ := holds_makeReady hread hplain hclear hready hclock
    rcases hmid with ⟨hroom, hmid⟩ | ⟨hfull, -⟩
    · rw [archive_of_none (hnone hroom), hlines, Archive.append_nil]
      exact hmid
    · rw [hsome hfull] at hfree
      cases hfree rfl

/-- **A new journal.** -/
theorem holds_start (h : Holds clock settings.path desk archive) (hplain : IsPlain settings.path)
    (hclear : KeepsClear settings.path) (hrun : Step.start.run clock settings desk = (outcome, desk'))
    (hfree : (Step.start.rotation? clock settings desk).isSome → outcome = .ok ())
    (hclock : GoesUp clock desk'.readings) :
    Holds clock settings.path desk' (Step.start.archive clock settings desk archive) := by
  have hlines : Step.start.lines clock settings desk = [] := rfl
  rcases start_cases desk with ⟨fault, hstart, hnone⟩ | ⟨hstart, hnone⟩ |
    ⟨hsome, ⟨mid, hrotate, hstart⟩ | ⟨_, fault, mid, hrotate, hstart⟩⟩
  · rw [archive_of_none hnone, hlines, Archive.append_nil]
    cases hstart.symm.trans hrun
    exact h
  · rw [archive_of_none hnone, hlines, Archive.append_nil]
    exact holds_openFile h hclear (hstart.symm.trans hrun)
  · rw [archive_of_some hsome, hlines, Archive.append_nil]
    -- a refusal would leave the earlier journal writing to the file that was put away
    rw [hsome] at hfree
    obtain rfl := hfree rfl
    have hopen := hstart.symm.trans hrun
    have hreadings := (readings_openFile hopen).trans (readings_rotate hrotate)
    exact holds_reopen hrotate hopen ⟨rfl, rfl⟩ h.kept hplain hclear (hclock.mono hreadings.ge)
  · rw [hsome] at hfree
    obtain rfl := hfree rfl
    cases hstart.symm.trans hrun

/-- **A step** does to the files what it does to the archive. -/
theorem holds_step {step : Step} (h : Holds clock settings.path desk archive)
    (hplain : IsPlain settings.path) (hclear : KeepsClear settings.path)
    (hrun : step.run clock settings desk = (outcome, desk'))
    (hfree : (step.rotation? clock settings desk).isSome → outcome = .ok ())
    (hclock : GoesUp clock desk'.readings) :
    Holds clock settings.path desk' (step.archive clock settings desk archive) := by
  cases step with
  | start => exact holds_start h hplain hclear hrun hfree hclock
  | emit template arguments => exact holds_emit h hplain hclear hrun hfree hclock
  | close =>
    cases hrun
    have harchive : Step.close.archive clock settings desk archive = archive := Archive.append_nil
    rw [harchive]
    exact ⟨h.kept, nofun⟩

/-- **A run** does to the files what it does to the archive. -/
theorem holds_after {steps : List Step} (h : Holds clock settings.path desk archive)
    (hplain : IsPlain settings.path) (hclear : KeepsClear settings.path)
    (hfree : RotatesFreely clock settings steps desk)
    (hclock : GoesUp clock (after clock settings steps desk).readings) :
    Holds clock settings.path (after clock settings steps desk)
      (archiveAfter clock settings steps desk archive) := by
  induction steps generalizing desk archive with
  | nil => exact h
  | cons step rest ih =>
    obtain ⟨hstep, hrest⟩ := hfree
    have hnext := holds_step h hplain hclear rfl hstep (hclock.mono (readings_after rest _))
    exact ih hnext hrest hclock

/-- A new journal has an empty archive. -/
theorem Fresh.holds (h : Fresh path tree) : Holds clock path (Desk.ofTree tree) .empty := by
  refine ⟨⟨⟨.nil, nofun, fun name hname => ?_, ?_⟩, nofun, nofun, fun hdir => ?_⟩, nofun⟩
  · exact h.unused name hname
  · unfold content?
    rcases h.active with hnone | hempty
    · rw [Desk.ofTree, hnone]
      rfl
    · rw [Desk.ofTree, hempty]
      rfl
  · have hdir := isDirectory_iff.mp hdir
    rcases h.active with hnone | hempty
    · cases hnone.symm.trans hdir
    · cases hempty.symm.trans hdir

/-- **A run keeps the latest lines.** -/
theorem shows_archiveAfter {steps : List Step} (hplain : IsPlain settings.path)
    (hclear : KeepsClear settings.path) (hfresh : Fresh settings.path tree)
    (hfree : RotatesFreely clock settings steps (Desk.ofTree tree))
    (hclock : GoesUp clock (after clock settings steps (Desk.ofTree tree)).readings) :
    Shows settings.path (after clock settings steps (Desk.ofTree tree)).tree
        (archiveAfter clock settings steps (Desk.ofTree tree) .empty) ∧
      (archiveAfter clock settings steps (Desk.ofTree tree) .empty).lines
        = linesOf clock settings steps (Desk.ofTree tree) := by
  constructor
  · exact (holds_after hfresh.holds hplain hclear hfree hclock).kept.toShows
  · rw [lines_archiveAfter, Archive.lines_empty, List.nil_append]

/-- A journal that keeps one old file and is full with any line. -/
def twoFiles : JournalSettings := ⟨Path.parse "audit.jsonl", 1, 2, false⟩

/-- The second record puts the first one away, and both lines are there. -/
theorem two_records_shown :
    Shows twoFiles.path
      (after halfSeconds twoFiles [.start, .emit "a" [], .emit "b" []] (Desk.ofTree .empty)).tree
      ⟨[], [("audit_20240101_000001_000000.jsonl", [recordLine (halfSeconds 0) "a" "a" []])],
        [recordLine (halfSeconds 1) "b" "b" []]⟩ ∧
    linesOf halfSeconds twoFiles [.start, .emit "a" [], .emit "b" []] (Desk.ofTree .empty)
      = [recordLine (halfSeconds 0) "a" "a" [], recordLine (halfSeconds 1) "b" "b" []] := by
  have hfree : RotatesFreely halfSeconds twoFiles [.start, .emit "a" [], .emit "b" []]
      (Desk.ofTree .empty) :=
    ⟨by decide +kernel, by decide +kernel, by decide +kernel, trivial⟩
  have hshown := shows_archiveAfter (by decide +kernel) (keepsClear_of_not_mem (by decide +kernel))
    (fresh_empty (by decide +kernel)) hfree (by decide +kernel)
  have harchive : archiveAfter halfSeconds twoFiles [.start, .emit "a" [], .emit "b" []]
      (Desk.ofTree .empty) .empty = ⟨[], [("audit_20240101_000001_000000.jsonl",
        [recordLine (halfSeconds 0) "a" "a" []])], [recordLine (halfSeconds 1) "b" "b" []]⟩ := by
    decide +kernel
  rw [harchive] at hshown
  exact ⟨hshown.1, hshown.2.symm⟩

/-! ## A directory in the place of an old file -/

/-- A journal that keeps one old file, at a path that goes through a directory with the name of such a
file and back. -/
def turningBack : JournalSettings := ⟨Path.parse "audit_9.jsonl/../audit.jsonl", 1, 2, false⟩

/-- The desk when the second record is to be written. -/
def beforeSecond : Desk := after halfSeconds turningBack [.start, .emit "a" []] (Desk.ofTree .empty)

/-- The first record is put away, and its file is found after the directory. -/
theorem first_record_discarded : ∃ source target moved,
    renamed beforeSecond.tree turningBack.path (rotatedPath turningBack.path (halfSeconds 2))
        = .ok (source, target, moved) ∧
      ["audit_20240101_000001_000000.jsonl"] ∈ discarded turningBack moved := by
  have hchecked : ((renamed beforeSecond.tree turningBack.path
      (rotatedPath turningBack.path (halfSeconds 2))).toOption.map fun result =>
        decide (result.2.2.locate turningBack.path.parent = .ok [] ∧
          result.2.2.locate (turningBack.path.parent.child "audit_20240101_000001_000000.jsonl")
            = .ok ["audit_20240101_000001_000000.jsonl"] ∧
          "audit_20240101_000001_000000.jsonl" ∈ result.2.2.names [] ∧
          "audit_9.jsonl" ∈ result.2.2.names [])) = some true := by
    decide +kernel
  obtain ⟨⟨source, target, moved⟩, hrenamed, hthere⟩ := Option.map_eq_some_iff.mp hchecked
  obtain ⟨hparent, hplace, hfirst, hdirectory⟩ := of_decide_eq_true hthere
  refine ⟨source, target, moved, toOption_eq_some_iff.mp hrenamed, ?_⟩
  have hfound : "audit_20240101_000001_000000.jsonl" ∈ rotatedNames moved turningBack.path :=
    mem_rotatedNames.mpr ⟨hparent, hfirst, by decide +kernel⟩
  have hlater : "audit_9.jsonl" ∈ rotatedNames moved turningBack.path :=
    mem_rotatedNames.mpr ⟨hparent, hdirectory, by decide +kernel⟩
  have htail := mem_tail_rotatedNames hfound hlater (by decide +kernel)
  rw [← List.drop_one] at htail
  exact mem_discarded.mpr ⟨by decide +kernel, _, htail, hplace⟩

/-- The second record is written, and the file of the first one is gone. -/
theorem run_second_record : ∃ desk', (Step.emit "b" []).run halfSeconds turningBack beforeSecond
      = (.ok (), desk') ∧ desk'.readings = 3 ∧
    desk'.tree.content? ["audit_20240101_000001_000000.jsonl"] = none := by
  obtain ⟨source, target, moved, hrenamed, hdiscarded⟩ := first_record_discarded
  obtain ⟨mid, desk', hrotate, htree, hopen⟩ : ∃ mid desk', (rotate halfSeconds turningBack).run.run
        { beforeSecond with readings := beforeSecond.readings + 1, handle := none } = (.ok (), mid) ∧
      mid.tree = swept turningBack moved ∧
      (openFile turningBack.path).run.run { mid with size := 0 } = (.ok (), desk') :=
    exists_openFile_of_renamed hrenamed (by decide +kernel) (by decide +kernel) (by decide +kernel)
      (by decide +kernel)
  have hrun : (Step.emit "b" []).run halfSeconds turningBack beforeSecond
      = (.ok (), appended (recordLine (halfSeconds beforeSecond.readings) "b" "b" []) desk') :=
    run_emit_of_rotate rfl (by decide +kernel) (by decide +kernel) hrotate hopen
  refine ⟨_, hrun, ?_, ?_⟩
  · have hopened := readings_openFile hopen
    have hrotated := readings_rotate hrotate
    have hreadings : desk'.readings = beforeSecond.readings + 2 := hopened.trans hrotated
    have hone : beforeSecond.readings = 1 := by decide +kernel
    exact hreadings.trans (congrArg (· + 2) hone)
  · have hother : ["audit_20240101_000001_000000.jsonl"] ≠ turningBack.path.place := by decide +kernel
    have hwritten : desk'.handle ≠ some ["audit_20240101_000001_000000.jsonl"] := by
      rw [handle_openFile hopen]
      exact fun heq => hother (Option.some.inj heq).symm
    unfold appended
    dsimp only
    rw [content?_congr (node?_written_of_ne _ hwritten), content?_openFile hopen hother]
    dsimp only
    rw [htree, content?_swept, if_pos hdiscarded]

/-- The archive still has the first record then, as one file is kept. -/
theorem files_of_two_records : (archiveAfter halfSeconds turningBack
    [.start, .emit "a" [], .emit "b" []] (Desk.ofTree .empty) .empty).files
      = [("audit_20240101_000001_000000.jsonl", [recordLine (halfSeconds 0) "a" "a" []])] := by
  have hlast : archiveAfter halfSeconds turningBack [.start, .emit "a" [], .emit "b" []]
      (Desk.ofTree .empty) .empty = (Step.emit "b" []).archive halfSeconds turningBack beforeSecond
        (archiveAfter halfSeconds turningBack [.start, .emit "a" []] (Desk.ofTree .empty) .empty) := rfl
  have hsome : (Step.emit "b" []).rotation? halfSeconds turningBack beforeSecond
      = some (halfSeconds 2) := by
    decide +kernel
  have hbefore : archiveAfter halfSeconds turningBack [.start, .emit "a" []] (Desk.ofTree .empty) .empty
      = ⟨[], [], [recordLine (halfSeconds 0) "a" "a" []]⟩ := by
    decide +kernel
  have hname : rotatedName turningBack.path (halfSeconds 2) = "audit_20240101_000001_000000.jsonl" := by
    decide +kernel
  rw [hlast, archive_of_some hsome, hbefore, hname]
  rfl

/-- **The first record is lost** when the second puts it away: one old file is to be kept, and nothing was
refused, but the directory that was made for the path is found in its place. -/
theorem first_record_lost :
    IsPlain turningBack.path ∧ Fresh turningBack.path .empty ∧
    RotatesFreely halfSeconds turningBack [.start, .emit "a" [], .emit "b" []] (Desk.ofTree .empty) ∧
    GoesUp halfSeconds
      (after halfSeconds turningBack [.start, .emit "a" [], .emit "b" []] (Desk.ofTree .empty)).readings ∧
    (archiveAfter halfSeconds turningBack [.start, .emit "a" [], .emit "b" []]
      (Desk.ofTree .empty) .empty).files
        = [("audit_20240101_000001_000000.jsonl", [recordLine (halfSeconds 0) "a" "a" []])] ∧
    (after halfSeconds turningBack [.start, .emit "a" [], .emit "b" []]
      (Desk.ofTree .empty)).tree.content? ["audit_20240101_000001_000000.jsonl"] = none := by
  obtain ⟨desk', hrun, hreadings, hgone⟩ := run_second_record
  have hafter : after halfSeconds turningBack [.start, .emit "a" [], .emit "b" []] (Desk.ofTree .empty)
      = desk' := congrArg Prod.snd hrun
  have hfree : RotatesFreely halfSeconds turningBack [.start, .emit "a" [], .emit "b" []]
      (Desk.ofTree .empty) :=
    ⟨by decide +kernel, by decide +kernel, fun _ => congrArg Prod.fst hrun, trivial⟩
  rw [hafter, hreadings]
  exact ⟨by decide +kernel, fresh_empty (by decide +kernel), hfree, by decide +kernel,
    files_of_two_records, hgone⟩

end AuditTrail.Journal
