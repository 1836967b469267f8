import AuditTrail.Proofs.Journal.Size

/-!
# Proofs/Journal/Counter — the size that a journal counts

    open the file        size := the bytes of the file that is there
    write a record       size := size + the bytes of its line
    put the file away    no file is open, size := 0

A journal asks for the size of its file when it opens it and counts from there, and whether it puts the file
away rests on this count.  The count is right after every run (`countsBytes_after`), also where steps were
refused, where the file was closed and opened again, and where it was put away and no other one opened.
-/

namespace AuditTrail.Journal

open FileTree

/-! ## Moves -/

/-- **What is done with a journal**: a step, or a part of the steps by itself. -/
inductive Move
  | step (step : Step)
  | openFile
  | putAway
  deriving DecidableEq, Repr

section Moves

variable (clock : Nat → Moment) (settings : JournalSettings)

/-- **Putting the active file away** with nothing after it: the file is closed first, and the next one starts
empty. -/
def putAway : Work Unit := do
  modify fun desk => { desk with handle := none }
  rotate clock settings
  modify fun desk => { desk with size := 0 }

/-- The work of a move. -/
def Move.work : Move → Work Unit
  | step s => s.work clock settings
  | openFile => Journal.openFile settings.path
  | putAway => Journal.putAway clock settings

/-- **Making a move**: the outcome, and the desk afterwards. -/
def Move.run (move : Move) (desk : Desk) : Except Fault Unit × Desk :=
  (move.work clock settings).run.run desk

/-- **The desk after some moves**, refused ones among them. -/
def afterMoves (moves : List Move) (desk : Desk) : Desk :=
  moves.foldl (fun desk move => (move.run clock settings desk).2) desk

/-- **Every journal that is begun in a run is there**: none of the starts is refused. -/
def Begun : List Move → Desk → Prop
  | [], _ => True
  | move :: rest, desk => (move = .step .start → (move.run clock settings desk).1 = .ok ()) ∧
      Begun rest (move.run clock settings desk).2

instance decidableBegun : (moves : List Move) → (desk : Desk) → Decidable (Begun clock settings moves desk)
  | [], _ => inferInstanceAs (Decidable True)
  | move :: rest, desk =>
    haveI := decidableBegun rest (move.run clock settings desk).2
    inferInstanceAs (Decidable (_ ∧ Begun clock settings rest _))

end Moves

variable {clock : Nat → Moment} {settings : JournalSettings} {path : Path} {desk desk' : Desk}
  {outcome : Except Fault Unit}

/-! ## The file that is open -/

/-- **No other file is open** than the active one. -/
def OpensOwn (path : Path) (desk : Desk) : Prop := ∀ place ∈ desk.handle, place = path.place

theorem opensOwn_of_none (h : desk.handle = none) : OpensOwn path desk := by
  intro place hplace
  rw [h] at hplace
  exact absurd hplace (Option.not_mem_none place)

theorem opensOwn_of_some (h : desk.handle = some path.place) : OpensOwn path desk := by
  intro place hplace
  rw [h] at hplace
  exact (Option.mem_some.mp hplace).symm

theorem opensOwn_openFile (h : OpensOwn path desk)
    (hrun : (openFile path).run.run desk = (outcome, desk')) : OpensOwn path desk' := by
  rcases openFile_cases path desk with ⟨mid, hopen, hopened⟩ | ⟨fault, mid, hopen, hnot⟩ <;>
    cases hopen.symm.trans hrun
  · exact opensOwn_of_some hopened.handle
  · intro place hplace
    exact h place (hnot.handle ▸ hplace)

/-- A file that is put away while none is open stays closed. -/
theorem handle_rotate (hclosed : desk.handle = none)
    (hrun : (rotate clock settings).run.run desk = (outcome, desk')) : desk'.handle = none := by
  rcases rotate_cases desk with
    ⟨_, _, _, _, _, -, hrotate, -⟩ | ⟨_, _, -, hrotate⟩ <;> cases hrotate.symm.trans hrun
  · exact Option.map_eq_none_iff.mpr hclosed
  · exact hclosed

theorem handle_putAway (hrun : (putAway clock settings).run.run desk = (outcome, desk')) :
    desk'.handle = none := by
  rw [putAway, run_modify_bind, run_bind] at hrun
  rcases hrotate : (rotate clock settings).run.run { desk with handle := none } with ⟨ended, mid⟩
  have hclosed : mid.handle = none := handle_rotate rfl hrotate
  rw [hrotate] at hrun
  cases ended <;> cases hrun <;> exact hclosed

theorem opensOwn_makeReady (h : OpensOwn settings.path desk)
    (hrun : (makeReady clock settings).run.run desk = (outcome, desk')) : OpensOwn settings.path desk' := by
  rcases makeReady_cases desk with ⟨-, hready⟩ | ⟨-, -, hready⟩ |
    ⟨-, -, ⟨mid, hrotate, hready⟩ | ⟨fault, mid, hrotate, hready⟩⟩
  · exact opensOwn_openFile h (hready.symm.trans hrun)
  · cases hready.symm.trans hrun
    exact h
  · have hclosed : mid.handle = none := handle_rotate rfl hrotate
    have hown : OpensOwn settings.path { mid with size := 0 } := opensOwn_of_none hclosed
    exact opensOwn_openFile hown (hready.symm.trans hrun)
  · cases hready.symm.trans hrun
    exact opensOwn_of_none (handle_rotate rfl hrotate)

/-- **A step opens no other file**, if a new journal is there. -/
theorem opensOwn_step {step : Step} (h : OpensOwn settings.path desk)
    (hstart : step = .start → outcome = .ok ())
    (hrun : step.run clock settings desk = (outcome, desk')) : OpensOwn settings.path desk' := by
  cases step with
  | start =>
    obtain rfl := hstart rfl
    rcases start_cases desk with ⟨fault, hbegin, -⟩ | ⟨hbegin, -⟩ |
      ⟨-, ⟨mid, -, hbegin⟩ | ⟨_, fault, mid, -, hbegin⟩⟩
    · cases hbegin.symm.trans hrun
    · exact opensOwn_of_some (handle_openFile (hbegin.symm.trans hrun))
    · exact opensOwn_of_some (handle_openFile (hbegin.symm.trans hrun))
    · cases hbegin.symm.trans hrun
  | emit template arguments =>
    have hread : OpensOwn settings.path { desk with readings := desk.readings + 1 } := h
    rcases emit_cases template arguments desk with
      ⟨_, fault, -, hemit⟩ | ⟨message, -, ⟨mid, hready, hemit⟩ | ⟨_, fault, mid, hready, hemit⟩⟩ <;>
      cases hemit.symm.trans hrun
    · exact hread
    · have hown : OpensOwn settings.path mid := opensOwn_makeReady hread hready
      exact hown
    · exact opensOwn_makeReady hread hready
  | close =>
    cases hrun
    exact opensOwn_of_none rfl

/-! ## The count -/

/-- **The count is right**: an open file is the active one, and the size of the journal is the number of its
bytes. -/
def CountsBytes (path : Path) (desk : Desk) : Prop :=
  ∀ place, desk.handle = some place → place = path.place ∧
    ∃ content, desk.tree.content? path.place = some content ∧ desk.size = content.length

theorem countsBytes_iff : CountsBytes path desk ↔ OpensOwn path desk ∧ Sized path desk := by
  constructor
  · intro h
    refine ⟨fun place hplace => (h place hplace).1, fun hopen => ?_⟩
    obtain ⟨-, content, hcontent, hsize⟩ := h path.place hopen
    rw [hcontent, hsize, Option.map_some]
  · rintro ⟨hown, hsized⟩ place hplace
    obtain rfl := hown place hplace
    obtain ⟨content, hcontent, hsize⟩ := Option.map_eq_some_iff.mp (hsized hplace)
    exact ⟨rfl, content, hcontent, hsize.symm⟩

/-- **Every move keeps the count right**, if a new journal is there. -/
theorem countsBytes_move {move : Move} (h : CountsBytes settings.path desk)
    (hstart : move = .step .start → outcome = .ok ())
    (hrun : move.run clock settings desk = (outcome, desk')) : CountsBytes settings.path desk' := by
  obtain ⟨hown, hsized⟩ := countsBytes_iff.mp h
  cases move with
  | step step =>
    have hnew : step = .start → outcome = .ok () := fun heq => hstart (congrArg Move.step heq)
    exact countsBytes_iff.mpr ⟨opensOwn_step hown hnew hrun, (change_step hsized hrun).1⟩
  | openFile => exact countsBytes_iff.mpr ⟨opensOwn_openFile hown hrun, sized_openFile hsized hrun⟩
  | putAway =>
    intro place hplace
    rw [handle_putAway hrun] at hplace
    cases hplace

theorem countsBytes_afterMoves {moves : List Move} (h : CountsBytes settings.path desk)
    (hbegun : Begun clock settings moves desk) :
    CountsBytes settings.path (afterMoves clock settings moves desk) := by
  induction moves generalizing desk with
  | nil => exact h
  | cons move rest ih =>
    obtain ⟨hfirst, hrest⟩ := hbegun
    exact ih (countsBytes_move h hfirst Prod.mk.eta.symm) hrest

/-- **The count is right after every run** over any files: while a file is open, it is the active one, and the
journal takes it to be as large as it is. -/
theorem countsBytes_after {moves : List Move} {tree : Files}
    (hbegun : Begun clock settings moves (Desk.ofTree tree)) :
    CountsBytes settings.path (afterMoves clock settings moves (Desk.ofTree tree)) :=
  countsBytes_afterMoves nofun hbegun

/-- A journal whose file is full with its first record. -/
def smallJournal : JournalSettings := ⟨Path.parse "audit.jsonl", 5, 2, false⟩

/-- A directory with a log from before, which is no text. -/
def withOldLog : Files := FileTree.empty.put ["audit.jsonl"] (.file [0xFF, lineBreak])

/-- The old log is gone on with: a record is refused, the next one is written, and the file is closed and
opened again. -/
def reopening : List Move :=
  [.step .start, .step (.emit "%d" ["x"]), .step (.emit "a" []), .step .close, .openFile]

def afterReopening : Desk := afterMoves halfSeconds smallJournal reopening (Desk.ofTree withOldLog)

/-- The record that comes then puts the full file away, and is in the new one. -/
theorem run_emit_afterReopening : ∃ desk',
    (Step.emit "%s" ["é"]).run halfSeconds smallJournal afterReopening = (.ok (), desk') ∧
      desk'.handle = some smallJournal.path.place := by
  have hrenamed : (renamed afterReopening.tree smallJournal.path (rotatedPath smallJournal.path
      (halfSeconds (afterReopening.readings + 1)))).toOption.isSome = true := by
    decide +kernel
  obtain ⟨⟨source, target, moved⟩, hrenamed⟩ := Option.isSome_iff_exists.mp hrenamed
  obtain ⟨mid, desk', hrotate, -, hopen⟩ : ∃ mid desk', (rotate halfSeconds smallJournal).run.run
        { afterReopening with readings := afterReopening.readings + 1, handle := none } = (.ok (), mid) ∧
      mid.tree = swept smallJournal moved ∧
      (openFile smallJournal.path).run.run { mid with size := 0 } = (.ok (), desk') :=
    exists_openFile_of_renamed (toOption_eq_some_iff.mp hrenamed) (by decide +kernel) (by decide +kernel)
      (by decide +kernel) (by decide +kernel)
  have hsubstituted : Substitution.substitute "%s" ["é"] = .ok "é" := by decide +kernel
  have hopened : desk'.handle = some smallJournal.path.place := handle_openFile hopen
  exact ⟨_, run_emit_of_rotate hsubstituted (by decide +kernel) (by decide +kernel) hrotate hopen, hopened⟩

/-- A record goes into a new file after the old one was opened twice, and its size is counted. -/
theorem reopening_countsBytes :
    Begun halfSeconds smallJournal (reopening ++ [.step (.emit "%s" ["é"])]) (Desk.ofTree withOldLog) ∧
    ∃ desk, afterMoves halfSeconds smallJournal (reopening ++ [.step (.emit "%s" ["é"])])
        (Desk.ofTree withOldLog) = desk ∧
      desk.handle = some ["audit.jsonl"] ∧
      ∃ content, desk.tree.content? ["audit.jsonl"] = some content ∧ desk.size = content.length := by
  have hbegun : Begun halfSeconds smallJournal (reopening ++ [.step (.emit "%s" ["é"])])
      (Desk.ofTree withOldLog) := by
    decide +kernel
  obtain ⟨desk, hrun, hhandle⟩ := run_emit_afterReopening
  have hafter : afterMoves halfSeconds smallJournal (reopening ++ [.step (.emit "%s" ["é"])])
      (Desk.ofTree withOldLog) = desk := by
    rw [afterMoves, List.foldl_append]
    exact congrArg Prod.snd hrun
  have hcounts : CountsBytes smallJournal.path desk := hafter ▸ countsBytes_after hbegun
  exact ⟨hbegun, desk, hafter, hhandle, (hcounts _ hhandle).2⟩

end AuditTrail.Journal
