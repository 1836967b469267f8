import AuditTrail.Proofs.Journal.Rotation

/-!
# Proofs/Journal/Foreign — what becomes of the files of others

    a file that no step takes   ──▶  the same content          a step takes it   ──▶  gone, or written over

Opening, writing and closing leave every file but the active one as it is (`Opened.content?`).  Putting
the active file away does not (`Takes`): it renames over a file that already has the new name, and the
pattern by which old files are found and removed fits files of others, too.  So a file of another stays
exactly until a step takes it (`spared_after`, `taken_step`).
-/

namespace AuditTrail.Journal

open FileTree

variable {clock : Nat → Moment} {settings : JournalSettings} {desk desk' : Desk} {place : Location}
  {moment : Moment} {content : List UInt8} {tree moved : Files} {source target : Location}
  {outcome : Except Fault Unit}

/-! ## What a step takes -/

/-- **Putting the active file away takes a file**: the active file is renamed over it, it is below a
directory that is renamed in place of an active file, or it is removed as an old file. -/
def Takes (settings : JournalSettings) (tree : Files) (moment : Moment) (place : Location) :
    Prop :=
  ∃ source target moved,
    renamed tree settings.path (rotatedPath settings.path moment) = .ok (source, target, moved) ∧
      (place = target ∨ (tree.isDirectory source = true ∧ source <+: place) ∨
        place ∈ discarded settings moved)

/-- **A step takes a file.** -/
def Step.Takes (clock : Nat → Moment) (settings : JournalSettings) (step : Step) (desk : Desk)
    (place : Location) : Prop :=
  ∃ moment, step.rotation? clock settings desk = some moment ∧
    Journal.Takes settings desk.tree moment place

theorem not_takes_of_rotation?_eq_none {step : Step} (h : step.rotation? clock settings desk = none) :
    ¬ step.Takes clock settings desk place := by
  rintro ⟨moment, hrotates, -⟩
  cases h.symm.trans hrotates

/-- **No step of a run takes the file.** -/
def Spares (clock : Nat → Moment) (settings : JournalSettings) (place : Location) :
    List Step → Desk → Prop
  | [], _ => True
  | step :: rest, desk => ¬ step.Takes clock settings desk place ∧
      Spares clock settings place rest (step.run clock settings desk).2

/-- **A file was taken**: it is gone, or the file that was the active one has its place. -/
def Taken (settings : JournalSettings) (moment : Moment) (before after : Files)
    (place : Location) : Prop :=
  after.content? place = none ∨
    place = (rotatedPath settings.path moment).place ∧
      after.content? place = before.content? settings.path.place

/-! ## Opening and writing -/

theorem spared_openFile (hrun : (openFile settings.path).run.run desk = (outcome, desk'))
    (hcontent : desk.tree.content? place = some content) (hother : place ≠ settings.path.place)
    (hclosed : desk.handle ≠ some place) :
    desk'.tree.content? place = some content ∧ desk'.handle ≠ some place := by
  refine ⟨(content?_openFile hrun hother).trans hcontent, ?_⟩
  rcases openFile_cases settings.path desk with ⟨mid, h, hopened⟩ | ⟨fault, mid, h, hnot⟩ <;>
    cases h.symm.trans hrun
  · rw [hopened.handle]
    exact fun heq => hother (Option.some.inj heq).symm
  · rw [hnot.handle]
    exact hclosed

theorem content?_written (line : List UInt8) (hclosed : desk.handle ≠ some place) :
    (written desk.tree desk.handle line).content? place = desk.tree.content? place :=
  content?_congr (node?_written_of_ne line hclosed)

/-! ## Putting the active file away -/

/-- **Renaming the active file** leaves the files of others, apart from one at the new name and those
below a directory. -/
theorem content?_renamed (hcontent : tree.content? place = some content)
    (hother : place ≠ settings.path.place)
    (h : renamed tree settings.path (rotatedPath settings.path moment) = .ok (source, target, moved)) :
    moved.content? place =
      if place = target then tree.content? settings.path.place
      else if tree.isDirectory source = true ∧ source <+: place then none
      else some content := by
  obtain ⟨rfl, rfl, hrenaming⟩ := renamed_eq_ok h
  have hne := hrenaming.place_ne
  have hrename := hrenaming.rename
  rcases hnode : tree.node? settings.path.place with _ | ⟨_ | active⟩
  case none => exact absurd hnode hrenaming.there
  case some.directory =>
    have htarget : place ≠ (rotatedPath settings.path moment).place := by
      rintro rfl
      exact (rename_directory hnode hne hrename).1 content (content?_eq_some_iff.mp hcontent)
    rw [content?_rename_directory hnode hne hrename hcontent, if_neg htarget, isDirectory_iff.mpr hnode]
    exact if_congr (and_iff_right rfl).symm rfl rfl
  case some.file =>
    have hmoved := (rename_file hnode hrename).2 place
    have hfile : ¬ (tree.isDirectory settings.path.place = true ∧ settings.path.place <+: place) := by
      rintro ⟨hdir, -⟩
      rw [isDirectory_iff.mp hdir] at hnode
      cases hnode
    rw [if_neg hother] at hmoved
    rw [if_neg hfile]
    split
    case isTrue htarget =>
      rw [if_pos htarget] at hmoved
      rw [content?_eq_some_iff.mpr hmoved, content?_eq_some_iff.mpr hnode]
    case isFalse htarget =>
      rw [if_neg htarget] at hmoved
      rw [content?_congr hmoved, hcontent]

/-- **A file that is not taken** stays when the active file is put away. -/
theorem spared_rotate (hrun : (rotate clock settings).run.run desk = (outcome, desk'))
    (hcontent : desk.tree.content? place = some content) (hother : place ≠ settings.path.place)
    (hspared : ¬ Takes settings desk.tree (clock desk.readings) place) :
    desk'.tree.content? place = some content ∧
      (desk.handle ≠ some place → desk'.handle ≠ some place) := by
  rcases rotate_cases desk with ⟨_, notes, source, target, moved, hrenamed, h, -⟩ | ⟨fault, cause, -, h⟩
  case inr =>
    cases h.symm.trans hrun
    exact ⟨hcontent, id⟩
  case inl =>
    cases h.symm.trans hrun
    have hkept := content?_renamed hcontent hother hrenamed
    have hnot (hwhy : place = target ∨ (desk.tree.isDirectory source = true ∧ source <+: place) ∨
        place ∈ discarded settings moved) : False :=
      hspared ⟨source, target, moved, hrenamed, hwhy⟩
    rw [if_neg fun h => hnot (.inl h), if_neg fun h => hnot (.inr (.inl h))] at hkept
    refine ⟨?_, fun hclosed hopen => ?_⟩
    · dsimp only
      rw [content?_swept, if_neg fun h => hnot (.inr (.inr h)), hkept]
    · obtain ⟨other, hhandle, hplace⟩ := Option.map_eq_some_iff.mp hopen
      split at hplace
      case isTrue => exact hnot (.inl hplace.symm)
      case isFalse => exact hclosed (hplace ▸ hhandle)

/-- **A file that is taken** is gone when the active file was put away, or written over by it. -/
theorem taken_rotate (hrun : (rotate clock settings).run.run desk = (outcome, desk'))
    (hcontent : desk.tree.content? place = some content) (hother : place ≠ settings.path.place)
    (htaken : Takes settings desk.tree (clock desk.readings) place) :
    Taken settings (clock desk.readings) desk.tree desk'.tree place := by
  obtain ⟨source, target, moved, hrenamed, hwhy⟩ := htaken
  rcases rotate_cases desk with ⟨_, notes, a, b, moved', hrenamed', h, -⟩ | ⟨fault, cause, hfail, h⟩
  case inr => cases hfail.symm.trans hrenamed
  case inl =>
    cases hrenamed'.symm.trans hrenamed
    cases h.symm.trans hrun
    have hmoved := content?_renamed hcontent hother hrenamed
    unfold Taken
    dsimp only
    rw [content?_swept]
    by_cases hold : place ∈ discarded settings moved
    · exact .inl (if_pos hold)
    rw [if_neg hold, hmoved]
    by_cases htarget : place = target
    · rw [if_pos htarget]
      exact .inr ⟨htarget.trans (renamed_eq_ok hrenamed).2.1, rfl⟩
    · rw [if_neg htarget]
      exact .inl (if_pos ((hwhy.resolve_left htarget).resolve_right hold))

/-! ## Steps and runs -/

theorem spared_makeReady (hrun : (makeReady clock settings).run.run desk = (outcome, desk'))
    (hcontent : desk.tree.content? place = some content) (hother : place ≠ settings.path.place)
    (hclosed : desk.handle ≠ some place)
    (hspared : desk.handle.isSome → isFull settings desk.size = true →
      ¬ Takes settings desk.tree (clock desk.readings) place) :
    desk'.tree.content? place = some content ∧ desk'.handle ≠ some place := by
  rcases makeReady_cases desk with ⟨-, h⟩ | ⟨-, -, h⟩ |
    ⟨hopen, hfull, ⟨mid, hrotate, h⟩ | ⟨fault, mid, hrotate, h⟩⟩
  · exact spared_openFile (h.symm.trans hrun) hcontent hother hclosed
  · cases h.symm.trans hrun
    exact ⟨hcontent, hclosed⟩
  · have hmid := spared_rotate hrotate hcontent hother (hspared hopen hfull)
    exact spared_openFile (h.symm.trans hrun) hmid.1 hother (hmid.2 nofun)
  · have hmid := spared_rotate hrotate hcontent hother (hspared hopen hfull)
    cases h.symm.trans hrun
    exact ⟨hmid.1, hmid.2 nofun⟩

/-- **A step that does not take a file** leaves it as it is. -/
theorem spared_step {step : Step} (hrun : step.run clock settings desk = (outcome, desk'))
    (hcontent : desk.tree.content? place = some content) (hother : place ≠ settings.path.place)
    (hclosed : desk.handle ≠ some place) (hspared : ¬ step.Takes clock settings desk place) :
    desk'.tree.content? place = some content ∧ desk'.handle ≠ some place := by
  cases step with
  | close =>
    cases hrun
    exact ⟨hcontent, nofun⟩
  | start =>
    rcases start_cases desk with ⟨fault, h, -⟩ | ⟨h, -⟩ |
      ⟨hrotates, ⟨mid, hrotate, h⟩ | ⟨_, fault, mid, hrotate, h⟩⟩
    · cases h.symm.trans hrun
      exact ⟨hcontent, hclosed⟩
    · exact spared_openFile (h.symm.trans hrun) hcontent hother hclosed
    · have hmid := spared_rotate hrotate hcontent hother fun htakes => hspared ⟨_, hrotates, htakes⟩
      exact spared_openFile (h.symm.trans hrun) hmid.1 hother (hmid.2 hclosed)
    · have hmid := spared_rotate hrotate hcontent hother fun htakes => hspared ⟨_, hrotates, htakes⟩
      cases h.symm.trans hrun
      exact ⟨hmid.1, hmid.2 hclosed⟩
  | emit template arguments =>
    rcases emit_cases template arguments desk with ⟨_, fault, -, h⟩ |
      ⟨message, hmessage, ⟨mid, hready, h⟩ | ⟨_, fault, mid, hready, h⟩⟩
    · cases h.symm.trans hrun
      exact ⟨hcontent, hclosed⟩
    all_goals
      have hfilled : (Substitution.substitute template arguments).isOk := by rw [hmessage]; rfl
      have hmid := spared_makeReady hready hcontent hother hclosed fun hopen hfull htakes =>
        hspared ⟨_, rotation?_emit_eq_some_iff.mpr ⟨⟨hfilled, hopen, hfull⟩, rfl⟩, htakes⟩
      cases h.symm.trans hrun
    · exact ⟨(content?_written _ hmid.2).trans hmid.1, hmid.2⟩
    · exact hmid

theorem Taken.congr {after after' : Files} (h : Taken settings moment tree after place)
    (hsame : after'.content? place = after.content? place) :
    Taken settings moment tree after' place := by
  unfold Taken
  rwa [hsame]

theorem taken_makeReady (hrun : (makeReady clock settings).run.run desk = (outcome, desk'))
    (hcontent : desk.tree.content? place = some content) (hother : place ≠ settings.path.place)
    (hopen : desk.handle.isSome) (hfull : isFull settings desk.size = true)
    (htakes : Takes settings desk.tree (clock desk.readings) place) :
    Taken settings (clock desk.readings) desk.tree desk'.tree place ∧
      (outcome = .ok () → desk'.handle ≠ some place) := by
  rcases makeReady_cases desk with ⟨hnone, -⟩ | ⟨-, hnot, -⟩ |
    ⟨-, -, ⟨mid, hrotate, h⟩ | ⟨fault, mid, hrotate, h⟩⟩
  · rw [hnone] at hopen
    cases hopen
  · rw [hfull] at hnot
    cases hnot
  · have hmid := taken_rotate hrotate hcontent hother htakes
    have hrun := h.symm.trans hrun
    have hkept := content?_openFile hrun hother
    refine ⟨hmid.congr hkept, ?_⟩
    rintro rfl
    rw [handle_openFile hrun]
    exact fun heq => hother (Option.some.inj heq).symm
  · have hmid := taken_rotate hrotate hcontent hother htakes
    cases h.symm.trans hrun
    exact ⟨hmid, nofun⟩

/-- **A step that takes a file**: it is gone, or written over. -/
theorem taken_step (step : Step) (hrun : step.run clock settings desk = (outcome, desk'))
    (hcontent : desk.tree.content? place = some content) (hother : place ≠ settings.path.place)
    (hrotates : step.rotation? clock settings desk = some moment)
    (htakes : Takes settings desk.tree moment place) : Taken settings moment desk.tree desk'.tree place := by
  cases step with
  | close => cases hrotates
  | start =>
    rcases start_cases desk with ⟨fault, -, hnone⟩ | ⟨-, hnone⟩ |
      ⟨hsome, ⟨mid, hrotate, h⟩ | ⟨_, fault, mid, hrotate, h⟩⟩
    · cases hnone.symm.trans hrotates
    · cases hnone.symm.trans hrotates
    · cases hsome.symm.trans hrotates
      have hmid := taken_rotate hrotate hcontent hother htakes
      exact hmid.congr (content?_openFile (h.symm.trans hrun) hother)
    · cases hsome.symm.trans hrotates
      have hmid := taken_rotate hrotate hcontent hother htakes
      cases h.symm.trans hrun
      exact hmid
  | emit template arguments =>
    obtain ⟨⟨hfilled, hopen, hfull⟩, rfl⟩ := rotation?_emit_eq_some_iff.mp hrotates
    rcases emit_cases template arguments desk with ⟨_, fault, hfail, -⟩ |
      ⟨message, hmessage, ⟨mid, hready, h⟩ | ⟨_, fault, mid, hready, h⟩⟩
    · rw [hfail] at hfilled
      cases hfilled
    all_goals
      have hmid := taken_makeReady hready hcontent hother hopen hfull htakes
      cases h.symm.trans hrun
    · exact hmid.1.congr (content?_written _ (hmid.2 rfl))
    · exact hmid.1

/-- **While no step takes it**, a file of another stays. -/
theorem spared_after {steps : List Step} (hcontent : desk.tree.content? place = some content)
    (hother : place ≠ settings.path.place) (hclosed : desk.handle ≠ some place)
    (hspared : Spares clock settings place steps desk) :
    (after clock settings steps desk).tree.content? place = some content ∧
      (after clock settings steps desk).handle ≠ some place := by
  induction steps generalizing desk with
  | nil => exact ⟨hcontent, hclosed⟩
  | cons step rest ih =>
    obtain ⟨hstep, hrest⟩ := hspared
    obtain ⟨hcontent, hclosed⟩ := spared_step rfl hcontent hother hclosed hstep
    exact ih hcontent hclosed hrest

/-- **A file of another stays exactly until a step takes it**, whatever was there before and whichever
steps are refused: it has the same content while no step takes it, and the step that takes it leaves
nothing there, or the file that was the active one. -/
theorem stays_until_taken {steps : List Step} (hcontent : tree.content? place = some content)
    (hother : place ≠ settings.path.place)
    (hspared : Spares clock settings place steps (Desk.ofTree tree)) :
    (after clock settings steps (Desk.ofTree tree)).tree.content? place = some content ∧
      ∀ step moment,
        step.rotation? clock settings (after clock settings steps (Desk.ofTree tree)) = some moment →
        Takes settings (after clock settings steps (Desk.ofTree tree)).tree moment place →
        Taken settings moment (after clock settings steps (Desk.ofTree tree)).tree
          (after clock settings (steps ++ [step]) (Desk.ofTree tree)).tree place := by
  have hstays : (after clock settings steps (Desk.ofTree tree)).tree.content? place = some content :=
    (spared_after hcontent hother (Option.some_ne_none place).symm hspared).1
  refine ⟨hstays, fun step moment hrotates htakes => ?_⟩
  have hafter : after clock settings (steps ++ [step]) (Desk.ofTree tree)
      = (step.run clock settings (after clock settings steps (Desk.ofTree tree))).2 := by
    unfold after
    rw [List.foldl_append]
    rfl
  rw [hafter]
  exact taken_step step rfl hstays hother hrotates htakes

/-! ## The log of another beside the journal -/

/-- A journal that keeps no old file and is full with any line. -/
def shortJournal : JournalSettings := ⟨Path.parse "audit.jsonl", 1, 1, false⟩

/-- What is in the log of another journal. -/
def loginLog : List UInt8 := Text.encodeUtf8 "login\n".toList

/-- A directory with the active log of another journal. -/
def besideLogin : Files := FileTree.empty.put ["audit_login.jsonl"] (.file loginLog)

theorem second_record_rotates : (Step.emit "b" []).rotation? halfSeconds shortJournal
    (after halfSeconds shortJournal [.start, .emit "a" []] (Desk.ofTree besideLogin))
      = some (halfSeconds 2) := by
  decide +kernel

/-- The second record finds the file full, and the log of the other journal among the old files. -/
theorem takes_login : Takes shortJournal
    (after halfSeconds shortJournal [.start, .emit "a" []] (Desk.ofTree besideLogin)).tree
    (halfSeconds 2) ["audit_login.jsonl"] := by
  have hnames : ((renamed
      (after halfSeconds shortJournal [.start, .emit "a" []] (Desk.ofTree besideLogin)).tree
      shortJournal.path (rotatedPath shortJournal.path (halfSeconds 2))).toOption.map
        fun result => decide ("audit_login.jsonl" ∈ result.2.2.names [])) = some true := by
    decide +kernel
  obtain ⟨⟨source, target, moved⟩, hrenamed, hthere⟩ := Option.map_eq_some_iff.mp hnames
  refine ⟨source, target, moved, toOption_eq_some_iff.mp hrenamed, .inr (.inr ?_)⟩
  have hfound : "audit_login.jsonl" ∈ rotatedNames moved shortJournal.path :=
    mem_rotatedNames.mpr ⟨rfl, of_decide_eq_true hthere, by decide +kernel⟩
  refine mem_discarded.mpr ⟨by decide +kernel, _, hfound, ?_⟩
  exact (locate_child_eq_ok_iff (by decide)).mpr
    ⟨rfl, isDirectory_iff.mpr (node?_of_root (.inl rfl)), by decide +kernel, by decide +kernel⟩

theorem login_stays_until_taken :
    (after halfSeconds shortJournal [.start, .emit "a" []] (Desk.ofTree besideLogin)).tree.content?
        ["audit_login.jsonl"] = some loginLog ∧
      Taken shortJournal (halfSeconds 2)
        (after halfSeconds shortJournal [.start, .emit "a" []] (Desk.ofTree besideLogin)).tree
        (after halfSeconds shortJournal [.start, .emit "a" [], .emit "b" []]
          (Desk.ofTree besideLogin)).tree ["audit_login.jsonl"] := by
  have hspared : Spares halfSeconds shortJournal ["audit_login.jsonl"] [.start, .emit "a" []]
      (Desk.ofTree besideLogin) :=
    ⟨not_takes_of_rotation?_eq_none (by decide +kernel),
      not_takes_of_rotation?_eq_none (by decide +kernel), trivial⟩
  have hcontent : besideLogin.content? ["audit_login.jsonl"] = some loginLog := by decide +kernel
  have hstays := stays_until_taken hcontent (by decide +kernel) hspared
  exact ⟨hstays.1, hstays.2 _ _ second_record_rotates takes_login⟩

/-- **The log of the other journal is removed**: it is there before the journal begins and at its first
record, and gone after the second. -/
theorem login_removed : besideLogin.content? ["audit_login.jsonl"] = some loginLog ∧
    ["audit_login.jsonl"] ≠ shortJournal.path.place ∧
    (after halfSeconds shortJournal [.start, .emit "a" [], .emit "b" []]
      (Desk.ofTree besideLogin)).tree.content? ["audit_login.jsonl"] = none := by
  have hcontent : (after halfSeconds shortJournal [.start, .emit "a" []]
      (Desk.ofTree besideLogin)).tree.content? ["audit_login.jsonl"] = some loginLog := by
    decide +kernel
  refine ⟨by decide +kernel, by decide +kernel, ?_⟩
  rcases taken_step (.emit "b" []) rfl hcontent (by decide +kernel) second_record_rotates
    takes_login with hgone | ⟨hplace, -⟩
  · exact hgone
  · exact absurd hplace (by decide +kernel)

end AuditTrail.Journal
