import AuditTrail.Journal.Basic
import AuditTrail.Proofs.Files.Place
import AuditTrail.Proofs.Work

/-!
# Proofs/Journal/Run — what a step leaves on the desk

    start   [ rotate ]  open
    emit    open | [ rotate  open ]  append
    close

A step may put the active file away, at a moment that the desk decides (`Step.rotation?`).  Each part
of the work has one lemma about all its runs (`openFile_cases`, `rotate_cases`), which says what becomes
of the files, of the open file and of the clock.  The notes are left out.
-/

namespace AuditTrail.Journal

open FileTree

/-! ## Steps -/

/-- **A step** of those who use a journal. -/
inductive Step
  | start
  | emit (template : String) (arguments : List String)
  | close
  deriving DecidableEq, Repr

section Steps

variable (clock : Nat → Moment) (settings : JournalSettings)

/-- The work of a step. -/
def Step.work : Step → Work Unit
  | start => Journal.start clock settings
  | emit template arguments => Journal.emit clock settings template arguments
  | close => Journal.close

/-- **Taking a step**: the outcome, and the desk afterwards. -/
def Step.run (step : Step) (desk : Desk) : Except Fault Unit × Desk :=
  (step.work clock settings).run.run desk

/-- **The desk after some steps**, refused ones among them. -/
def after (steps : List Step) (desk : Desk) : Desk :=
  steps.foldl (fun desk step => (step.run clock settings desk).2) desk

/-- **The moment at which a step puts the active file away**, if it does: a new journal that is to do so
and finds a file, and a record that finds the open file full. -/
def Step.rotation? (desk : Desk) : Step → Option Moment
  | start =>
    if settings.rotateOnStartup ∧ (desk.tree.present settings.path).toOption = some true then
      some (clock desk.readings)
    else none
  | emit template arguments =>
    if (Substitution.substitute template arguments).isOk ∧ desk.handle.isSome ∧
        isFull settings desk.size then
      some (clock (desk.readings + 1))
    else none
  | close => none

end Steps

/-! ## Parts of the work -/

variable {clock : Nat → Moment} {settings : JournalSettings}

theorem run_readClock (desk : Desk) : (readClock clock).run.run desk
    = (.ok (clock desk.readings), { desk with readings := desk.readings + 1 }) := rfl

theorem run_note (level : NoteLevel) (message : String) (desk : Desk) :
    (note level message).run.run desk
      = (.ok (), { desk with notes := desk.notes ++ [⟨level, message⟩] }) := rfl

theorem run_telling_of_ok {α : Type} (what : String) {work : Work α} {desk desk' : Desk} {a : α}
    (h : work.run.run desk = (.ok a, desk')) :
    (telling what work).run.run desk = (.ok a, desk') := by
  unfold telling
  rw [run_tryCatch, h]

theorem run_telling_of_error {α : Type} (what : String) {work : Work α} {desk desk' : Desk}
    {fault : Fault} (h : work.run.run desk = (.error fault, desk')) :
    ∃ fault', (telling what work).run.run desk = (.error fault', desk') := by
  unfold telling
  rw [run_tryCatch, h]
  cases fault <;> exact ⟨_, rfl⟩

theorem run_checkCharacters (path : Path) (desk : Desk) :
    (checkCharacters path).run.run desk = (.ok (), desk) ∨
      ∃ fault, (checkCharacters path).run.run desk = (.error fault, desk) := by
  unfold checkCharacters
  split
  · exact .inr ⟨_, rfl⟩
  · exact .inl rfl

theorem run_checkCharacters_of_not_mem {path : Path} (h : '\x00' ∉ path.text.toList) (desk : Desk) :
    (checkCharacters path).run.run desk = (.ok (), desk) := by
  unfold checkCharacters
  rw [if_neg (mt List.contains_iff_mem.mp h)]
  rfl

/-- The tree with the directories above a file. -/
def readied (path : Path) (tree : Files) : Files :=
  (ensureDirectories path.parent path.parent.parts.length tree).1

theorem madeFor_readied {path : Path} {tree : Files} :
    MadeFor path.parent tree (readied path tree) := (ensured_ensureDirectories _).1

/-- **Making the directories above the file.** -/
theorem makeParents_cases (path : Path) (desk : Desk) :
    (makeParents path).run.run desk = (.ok (), { desk with tree := readied path desk.tree }) ∧
      (readied path desk.tree).leadsToDirectory path.parent = true ∨
    ∃ fault tree, (makeParents path).run.run desk = (.error fault, { desk with tree := tree }) ∧
      MadeFor path.parent desk.tree tree := by
  unfold makeParents
  rw [run_bind]
  rcases run_checkCharacters path.parent desk with h | ⟨fault, h⟩ <;> rw [h]
  case inr => exact .inr ⟨fault, desk.tree, rfl, .refl⟩
  dsimp only
  rw [run_get_bind]
  have hensured : Ensured path.parent desk.tree
    (ensureDirectories path.parent path.parent.parts.length desk.tree) := ensured_ensureDirectories _
  unfold readied
  generalize ensureDirectories path.parent path.parent.parts.length desk.tree = result at hensured ⊢
  obtain ⟨tree, failure⟩ := result
  dsimp only
  rw [run_set_bind]
  cases failure with
  | some failure => exact .inr ⟨.system failure, tree, rfl, hensured.1⟩
  | none => exact .inl ⟨rfl, hensured.2 rfl⟩

/-- **What an open file means**: the directories are made, and the file stands at the end of the path,
empty if it was not there. -/
structure Opened (path : Path) (desk desk' : Desk) : Prop where
  leads : (readied path desk.tree).leadsToDirectory path.parent = true
  locates : (readied path desk.tree).locate path = .ok path.place
  free : (readied path desk.tree).node? path.place ≠ some .directory
  node : ∀ place, desk'.tree.node? place = if place = path.place then
      some (.file (((readied path desk.tree).content? path.place).getD []))
    else (readied path desk.tree).node? place
  size : desk'.size = (((readied path desk.tree).content? path.place).getD []).length
  handle : desk'.handle = some path.place
  readings : desk'.readings = desk.readings

theorem Opened.node?_place {path : Path} {desk desk' : Desk} (h : Opened path desk desk') :
    desk'.tree.node? path.place
      = some (.file (((readied path desk.tree).content? path.place).getD [])) :=
  (h.node path.place).trans (if_pos rfl)

/-- **What a refusal to open leaves**: directories at most. -/
structure NotOpened (path : Path) (desk desk' : Desk) : Prop where
  made : MadeFor path.parent desk.tree desk'.tree
  size : desk'.size = desk.size
  handle : desk'.handle = desk.handle
  readings : desk'.readings = desk.readings

/-- **Opening the file at its end.** -/
theorem openAtEnd_cases (path : Path) (desk : Desk) :
    (∃ tree, (openAtEnd path).run.run desk = (.ok (), { desk with
        tree := tree, handle := some path.place,
        size := ((desk.tree.content? path.place).getD []).length }) ∧
      desk.tree.locate path = .ok path.place ∧ desk.tree.node? path.place ≠ some .directory ∧
      ∀ place, tree.node? place = if place = path.place then
          some (.file ((desk.tree.content? path.place).getD []))
        else desk.tree.node? place) ∨
    ∃ fault, (openAtEnd path).run.run desk = (.error fault, desk) := by
  unfold openAtEnd
  rw [run_bind]
  rcases run_checkCharacters path desk with h | ⟨fault, h⟩ <;> rw [h]
  case inr => exact .inr ⟨fault, rfl⟩
  dsimp only
  rw [run_get_bind]
  rcases hplace : desk.tree.locate path with cause | place
  case error => exact .inr ⟨_, rfl⟩
  obtain rfl := eq_place_of_locate hplace
  dsimp only
  rcases hnode : desk.tree.node? path.place with _ | ⟨_ | content⟩
  case some.directory => exact .inr ⟨_, rfl⟩
  case none =>
    have hcontent : desk.tree.content? path.place = none := by
      unfold content?
      rw [hnode]
    rw [hcontent]
    refine .inl ⟨_, rfl, rfl, nofun, fun place => ?_⟩
    exact node?_put (by rw [hnode]; nofun) _
  case some.file =>
    rw [content?_eq_some_iff.mpr hnode]
    refine .inl ⟨desk.tree, rfl, rfl, nofun, fun place => ?_⟩
    by_cases hsame : place = path.place
    · rw [if_pos hsame, hsame, hnode]
      rfl
    · rw [if_neg hsame]

/-- **Opening the file.** -/
theorem openFile_cases (path : Path) (desk : Desk) :
    (∃ desk', (openFile path).run.run desk = (.ok (), desk') ∧ Opened path desk desk') ∨
    ∃ fault desk', (openFile path).run.run desk = (.error fault, desk') ∧
      NotOpened path desk desk' := by
  unfold openFile
  rw [run_bind]
  have hwork : (∃ desk', (makeParents path >>= fun _ => openAtEnd path).run.run desk = (.ok (), desk') ∧
        Opened path desk desk') ∨
      ∃ fault desk', (makeParents path >>= fun _ => openAtEnd path).run.run desk = (.error fault, desk') ∧
        NotOpened path desk desk' := by
    rw [run_bind]
    rcases makeParents_cases path desk with ⟨hmade, hleads⟩ | ⟨fault, tree, hmade, htree⟩ <;> rw [hmade]
    case inr => exact .inr ⟨fault, _, rfl, htree, rfl, rfl, rfl⟩
    dsimp only
    rcases openAtEnd_cases path { desk with tree := readied path desk.tree } with
      ⟨tree, hopen, hplace, hfree, hnode⟩ | ⟨fault, hopen⟩ <;> rw [hopen]
    case inl => exact .inl ⟨_, rfl, hleads, hplace, hfree, hnode, rfl, rfl, rfl⟩
    case inr => exact .inr ⟨fault, _, rfl, madeFor_readied, rfl, rfl, rfl⟩
  rcases hwork with ⟨desk', hwork, hopened⟩ | ⟨fault, desk', hwork, hnot⟩
  · rw [run_telling_of_ok _ hwork]
    exact .inl ⟨_, rfl, hopened.leads, hopened.locates, hopened.free, hopened.node, hopened.size,
      hopened.handle, hopened.readings⟩
  · obtain ⟨fault', htold⟩ := run_telling_of_error ("Failed to open audit log " ++ path.text) hwork
    rw [htold]
    exact .inr ⟨fault', desk', rfl, hnot⟩

/-- **The file can be opened** where the path leads to no directory, but into one. -/
theorem exists_openFile {path : Path} {desk : Desk} (hchars : '\x00' ∉ path.text.toList)
    (hparent : '\x00' ∉ path.parent.text.toList) (hleads : desk.tree.leadsToDirectory path.parent = true)
    (hplace : desk.tree.locate path = .ok path.place) (hfile : desk.tree.isDirectory path.place = false) :
    ∃ desk', (openFile path).run.run desk = (.ok (), desk') := by
  have hmade : (makeParents path).run.run desk = (.ok (), desk) := by
    unfold makeParents
    rw [run_bind, run_checkCharacters_of_not_mem hparent]
    dsimp only
    rw [run_get_bind, ensureDirectories_of_leadsToDirectory _ hleads]
    rfl
  obtain ⟨mid, hopen⟩ : ∃ mid, (openAtEnd path).run.run desk = (.ok (), mid) := by
    unfold openAtEnd
    rw [run_bind, run_checkCharacters_of_not_mem hchars]
    dsimp only
    rw [run_get_bind, hplace]
    dsimp only
    rcases hnode : desk.tree.node? path.place with _ | ⟨_ | content⟩
    case none => exact ⟨_, rfl⟩
    case some.directory =>
      rw [isDirectory_iff.mpr hnode] at hfile
      cases hfile
    case some.file => exact ⟨_, rfl⟩
  have hwork : (makeParents path >>= fun _ => openAtEnd path).run.run desk = (.ok (), mid) := by
    rw [run_bind, hmade]
    exact hopen
  unfold openFile
  rw [run_bind, run_telling_of_ok _ hwork]
  exact ⟨_, rfl⟩

/-- Opening it touches no other file. -/
theorem Opened.content? {desk desk' : Desk} {place : Location} (h : Opened settings.path desk desk')
    (hother : place ≠ settings.path.place) : desk'.tree.content? place = desk.tree.content? place := by
  rw [content?_congr ((h.node place).trans (if_neg hother)), madeFor_readied.content?]

theorem content?_openFile {desk desk' : Desk} {outcome : Except Fault Unit} {place : Location}
    (hrun : (openFile settings.path).run.run desk = (outcome, desk'))
    (hother : place ≠ settings.path.place) : desk'.tree.content? place = desk.tree.content? place := by
  rcases openFile_cases settings.path desk with ⟨mid, h, hopened⟩ | ⟨fault, mid, h, hnot⟩ <;>
    cases h.symm.trans hrun
  · exact hopened.content? hother
  · exact hnot.made.content?

/-- The file at the path is the one that is open then. -/
theorem handle_openFile {desk desk' : Desk}
    (hrun : (openFile settings.path).run.run desk = (.ok (), desk')) :
    desk'.handle = some settings.path.place := by
  rcases openFile_cases settings.path desk with ⟨mid, h, hopened⟩ | ⟨fault, mid, h, hnot⟩ <;>
    cases h.symm.trans hrun
  exact hopened.handle

/-! ## Putting the active file away -/

/-- The tree without a file, if the path leads to one. -/
def discard (tree : Files) (path : Path) : Files :=
  match tree.unlink path with
  | .ok moved => moved
  | .error _ => tree

theorem run_remove (path : Path) (desk : Desk) : ∃ notes, (remove path).run.run desk
    = (.ok (), { desk with tree := discard desk.tree path, notes := notes }) := by
  unfold remove discard
  rw [run_get_bind]
  rcases desk.tree.unlink path with cause | tree
  · exact ⟨_, rfl⟩
  · exact ⟨_, rfl⟩

/-- **The tree after old files were removed.** -/
def swept (settings : JournalSettings) (tree : Files) : Files :=
  if hasDoubleStar (rotatedPattern settings.path) then tree
  else ((rotatedNames tree settings.path).drop (settings.maxFiles - 1).toNat).foldl
    (fun tree name => discard tree (settings.path.parent.child name)) tree

theorem run_removeAll (directory : Path) (names : List String) (desk : Desk) : ∃ notes,
    (forIn names PUnit.unit fun name _ => do
        remove (directory.child name)
        pure (ForInStep.yield PUnit.unit) : Work PUnit).run.run desk
      = (.ok ⟨⟩, { desk with
          tree := names.foldl (fun tree name => discard tree (directory.child name)) desk.tree,
          notes := notes }) := by
  induction names generalizing desk with
  | nil => exact ⟨desk.notes, rfl⟩
  | cons name rest ih =>
    obtain ⟨notes, hremove⟩ := run_remove (directory.child name) desk
    obtain ⟨notes', hrest⟩ :=
      ih { desk with tree := discard desk.tree (directory.child name), notes := notes }
    refine ⟨notes', ?_⟩
    rw [List.forIn_cons, bind_assoc, run_bind, hremove]
    exact hrest

theorem run_prune (settings : JournalSettings) (desk : Desk) : ∃ outcome notes,
    (prune settings).run.run desk
        = (outcome, { desk with tree := swept settings desk.tree, notes := notes }) ∧
      (hasDoubleStar (rotatedPattern settings.path) = false → outcome = .ok ()) := by
  unfold prune swept
  split
  case isTrue hstars => exact ⟨_, desk.notes, rfl, fun h => absurd hstars (Bool.eq_false_iff.mp h)⟩
  case isFalse =>
    obtain ⟨notes, hall⟩ := run_removeAll settings.path.parent
      ((rotatedNames desk.tree settings.path).drop (settings.maxFiles - 1).toNat) desk
    refine ⟨.ok (), notes, ?_, fun _ => rfl⟩
    rw [run_get_bind, run_bind, hall]
    rfl

/-- **Putting the active file away**: the renaming is refused, or it is done and old files are removed. -/
theorem rotate_cases (desk : Desk) :
    (∃ outcome notes source target moved,
      renamed desk.tree settings.path (rotatedPath settings.path (clock desk.readings))
        = .ok (source, target, moved) ∧
      (rotate clock settings).run.run desk = (outcome, {
        tree := swept settings moved, readings := desk.readings + 1, notes := notes, size := desk.size
        handle := desk.handle.map fun place => if place = source then target else place }) ∧
      (hasDoubleStar (rotatedPattern settings.path) = false → outcome = .ok ())) ∨
    ∃ fault cause,
      renamed desk.tree settings.path (rotatedPath settings.path (clock desk.readings)) = .error cause ∧
      (rotate clock settings).run.run desk
        = (.error fault, { desk with readings := desk.readings + 1 }) := by
  unfold rotate
  rw [run_bind, run_readClock]
  dsimp only
  rw [run_bind, rename, run_get_bind]
  dsimp only
  rcases hrenamed : renamed desk.tree settings.path (rotatedPath settings.path (clock desk.readings))
    with cause | ⟨source, target, moved⟩
  case error => exact .inr ⟨_, cause, rfl, rfl⟩
  case ok =>
    have hprune := run_prune settings
      { tree := moved, readings := desk.readings + 1, size := desk.size,
        notes := desk.notes ++ [⟨.info, "Rotated audit log to: " ++
          (rotatedPath settings.path (clock desk.readings)).text⟩],
        handle := desk.handle.map fun place => if place = source then target else place }
    obtain ⟨outcome, notes, hprune, hreturns⟩ := hprune
    dsimp only at hprune
    refine .inl ⟨outcome, notes, source, target, moved, rfl, ?_, hreturns⟩
    rw [run_set]
    dsimp only
    rw [run_bind, run_note]
    dsimp only
    rw [hprune]

/-! ## The steps -/

/-- **A new journal**: it is refused before it does anything, or it opens the file, after putting the
active file away if it is to. -/
theorem start_cases (desk : Desk) :
    (∃ fault, Step.start.run clock settings desk = (.error fault, desk) ∧
      Step.start.rotation? clock settings desk = none) ∨
    (Step.start.run clock settings desk = (openFile settings.path).run.run desk ∧
      Step.start.rotation? clock settings desk = none) ∨
    Step.start.rotation? clock settings desk = some (clock desk.readings) ∧
      ((∃ desk', (rotate clock settings).run.run desk = (.ok (), desk') ∧
        Step.start.run clock settings desk = (openFile settings.path).run.run desk') ∨
      ∃ fault fault' desk', (rotate clock settings).run.run desk = (.error fault, desk') ∧
        Step.start.run clock settings desk = (.error fault', desk')) := by
  unfold Step.run Step.work Step.rotation? start
  dsimp only
  split
  case isFalse hno => exact .inr (.inl ⟨rfl, if_neg fun h => hno h.1⟩)
  case isTrue hyes =>
    rw [run_get_bind]
    rcases desk.tree.present settings.path with cause | _ | _
    case error => exact .inl ⟨_, rfl, if_neg nofun⟩
    case ok.false => exact .inr (.inl ⟨rfl, if_neg nofun⟩)
    case ok.true =>
      refine .inr (.inr ⟨if_pos ⟨hyes, rfl⟩, ?_⟩)
      dsimp only
      rw [if_pos rfl, run_bind]
      rcases hrotate : (rotate clock settings).run.run desk with ⟨fault | _, desk'⟩
      case error =>
        obtain ⟨fault', htold⟩ := run_telling_of_error "Failed to rotate audit log on startup" hrotate
        rw [htold]
        exact .inr ⟨fault, fault', desk', rfl, rfl⟩
      case ok =>
        rw [run_telling_of_ok "Failed to rotate audit log on startup" hrotate]
        exact .inl ⟨desk', rfl, rfl⟩

/-- **A line is written** to the end of the open file. -/
theorem node?_written_of_file {tree : Files} {place : Location} {content : List UInt8}
    (line : List UInt8) (h : tree.node? place = some (.file content)) :
    (written tree (some place) line).node? place = some (.file (content ++ line)) := by
  unfold written
  dsimp only
  rw [content?_eq_some_iff.mpr h]
  dsimp only
  rw [node?_put (by rw [h]; nofun), if_pos rfl]

/-- It is written nowhere else. -/
theorem node?_written_of_ne {tree : Files} {handle : Option Location} {place : Location}
    (line : List UInt8) (h : handle ≠ some place) :
    (written tree handle line).node? place = tree.node? place := by
  unfold written
  split
  case h_1 => rfl
  case h_2 other =>
    split
    case h_1 content hcontent =>
      have hfile := content?_eq_some_iff.mp hcontent
      rw [node?_put (by rw [hfile]; nofun), if_neg fun hsame => h (congrArg some hsame.symm)]
    case h_2 => rfl

/-- The desk with a line at the end of the open file. -/
def appended (line : List UInt8) (desk : Desk) : Desk :=
  { desk with tree := written desk.tree desk.handle line, size := desk.size + line.length }

/-- **Getting ready to write.** -/
theorem makeReady_cases (desk : Desk) :
    (desk.handle = none ∧
      (makeReady clock settings).run.run desk = (openFile settings.path).run.run desk) ∨
    (desk.handle.isSome ∧ isFull settings desk.size = false ∧
      (makeReady clock settings).run.run desk = (.ok (), desk)) ∨
    desk.handle.isSome ∧ isFull settings desk.size = true ∧
      ((∃ desk', (rotate clock settings).run.run { desk with handle := none } = (.ok (), desk') ∧
        (makeReady clock settings).run.run desk
          = (openFile settings.path).run.run { desk' with size := 0 }) ∨
      ∃ fault desk', (rotate clock settings).run.run { desk with handle := none } = (.error fault, desk') ∧
        (makeReady clock settings).run.run desk = (.error fault, desk')) := by
  unfold makeReady
  rw [run_get_bind]
  rcases hhandle : desk.handle with _ | place
  case none => exact .inl ⟨rfl, rfl⟩
  rcases hfull : isFull settings desk.size with _ | _
  case some.false => exact .inr (.inl ⟨rfl, rfl, rfl⟩)
  refine .inr (.inr ⟨rfl, rfl, ?_⟩)
  dsimp only [Option.isNone_some]
  rw [if_neg Bool.false_ne_true, if_pos rfl, run_set_bind, run_bind]
  rcases (rotate clock settings).run.run { desk with handle := none } with ⟨fault | _, desk'⟩
  case error => exact .inr ⟨fault, desk', rfl, rfl⟩
  case ok => exact .inl ⟨desk', rfl, rfl⟩

/-- **Writing a record**: it is refused where the template cannot be filled, and else written when the
file is ready. -/
theorem emit_cases (template : String) (arguments : List String) (desk : Desk) :
    (∃ reason fault, Substitution.substitute template arguments = .error reason ∧
      (Step.emit template arguments).run clock settings desk
        = (.error fault, { desk with readings := desk.readings + 1 })) ∨
    ∃ message, Substitution.substitute template arguments = .ok message ∧
      ((∃ desk', (makeReady clock settings).run.run { desk with readings := desk.readings + 1 }
          = (.ok (), desk') ∧
        (Step.emit template arguments).run clock settings desk
          = (.ok (), appended (recordLine (clock desk.readings) message template arguments) desk')) ∨
      ∃ fault fault' desk', (makeReady clock settings).run.run { desk with readings := desk.readings + 1 }
          = (.error fault, desk') ∧
        (Step.emit template arguments).run clock settings desk = (.error fault', desk')) := by
  unfold Step.run Step.work emit
  dsimp only
  rw [run_bind, run_readClock]
  dsimp only
  rcases Substitution.substitute template arguments with reason | message
  case error => exact .inl ⟨reason, _, rfl, rfl⟩
  case ok =>
    refine .inr ⟨message, rfl, ?_⟩
    dsimp only
    rw [run_bind]
    rcases hready : (makeReady clock settings).run.run { desk with readings := desk.readings + 1 }
      with ⟨fault | _, desk'⟩
    case error =>
      obtain ⟨fault', htold⟩ := run_telling_of_error "Failed to write audit record" hready
      rw [htold]
      exact .inr ⟨fault, fault', desk', rfl, rfl⟩
    case ok =>
      rw [run_telling_of_ok "Failed to write audit record" hready]
      exact .inl ⟨desk', rfl, rfl⟩

/-- A record puts the file away that it finds full. -/
theorem rotation?_emit_eq_some_iff {template : String} {arguments : List String} {desk : Desk}
    {moment : Moment} :
    (Step.emit template arguments).rotation? clock settings desk = some moment ↔
      ((Substitution.substitute template arguments).isOk ∧ desk.handle.isSome ∧
        isFull settings desk.size = true) ∧ clock (desk.readings + 1) = moment := by
  unfold Step.rotation?
  dsimp only
  rw [Option.ite_none_right_eq_some, Option.some.injEq]

theorem rotation?_emit_eq_none {template : String} {arguments : List String} {desk : Desk}
    (h : ¬ (desk.handle.isSome ∧ isFull settings desk.size = true)) :
    (Step.emit template arguments).rotation? clock settings desk = none :=
  if_neg fun hrotates => h hrotates.2

/-- **A record that puts the active file away**, when nothing is refused. -/
theorem run_emit_of_rotate {template : String} {arguments : List String} {message : String}
    {desk mid desk' : Desk} (hmessage : Substitution.substitute template arguments = .ok message)
    (hthere : desk.handle.isSome) (hfull : isFull settings desk.size = true)
    (hrotate : (rotate clock settings).run.run { desk with readings := desk.readings + 1, handle := none }
      = (.ok (), mid))
    (hopen : (openFile settings.path).run.run { mid with size := 0 } = (.ok (), desk')) :
    (Step.emit template arguments).run clock settings desk
      = (.ok (), appended (recordLine (clock desk.readings) message template arguments) desk') := by
  have hready : (makeReady clock settings).run.run { desk with readings := desk.readings + 1 }
      = (.ok (), desk') := by
    obtain ⟨place, hhandle⟩ := Option.isSome_iff_exists.mp hthere
    unfold makeReady
    rw [run_get_bind]
    dsimp only
    rw [hhandle, Option.isNone_some, if_neg Bool.false_ne_true, if_pos hfull, run_set_bind, run_bind,
      hrotate]
    exact hopen
  unfold Step.run Step.work emit
  dsimp only
  rw [run_bind, run_readClock]
  dsimp only
  rw [hmessage]
  dsimp only
  rw [run_bind, run_telling_of_ok _ hready]
  rfl

end AuditTrail.Journal
