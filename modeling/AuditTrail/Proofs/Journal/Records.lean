import Mathlib.Data.List.Forall2
import AuditTrail.Proofs.Journal.Retention
import AuditTrail.Proofs.Journal.Size
import AuditTrail.Proofs.Json.RoundTrip

/-!
# Proofs/Journal/Records — the lines of a file tell what was written

    steps    emit "%s" ["a⏎b"]                            emit "%s" []    emit "c" []
    file     … ⏎ {…, "arguments": ["a\nb"]} ⏎             refused         {…, "template": "c", …} ⏎

While no step puts the active file away, a run only adds to it, and what it adds are its lines
(`activeBytes_after`).  A line has no line break of its own and is read back as its record
(`isLineOf_recordLine`), so the lines of the file are those that were there and one for each record that
was not refused, whatever its template and its arguments are (`splitOn_after`).
-/

namespace AuditTrail.Journal

open FileTree Json Text

/-! ## What a run records -/

section Steps

variable (clock : Nat → Moment) (settings : JournalSettings)

/-- **What a step records**: the template and the arguments of a record that is not refused. -/
def Step.records (desk : Desk) : Step → List (String × List String)
  | emit template arguments =>
    match ((emit template arguments).run clock settings desk).1 with
    | .ok () => [(template, arguments)]
    | .error _ => []
  | _ => []

/-- **What a run records**, in its order. -/
def recordsOf : List Step → Desk → List (String × List String)
  | [], _ => []
  | step :: rest, desk =>
    step.records clock settings desk ++ recordsOf rest (step.run clock settings desk).2

/-- **No step of a run puts the active file away.** -/
def NeverRotates : List Step → Desk → Prop
  | [], _ => True
  | step :: rest, desk => step.rotation? clock settings desk = none ∧
      NeverRotates rest (step.run clock settings desk).2

end Steps

/-- **A journal writes to the active file**: if a file is open it is that one, and it is there. -/
def WritesActive (path : Path) (desk : Desk) : Prop :=
  ∀ place, desk.handle = some place → place = path.place ∧ (desk.tree.content? place).isSome

/-- **A line tells a record**: in printable ASCII, and its text is read as JSON as the value of a record with
this template, these arguments and the message that they make. -/
structure Tells (line : List UInt8) (record : String × List String) : Prop where
  ascii : ∀ b ∈ line, IsAsciiByte b
  reads : ∃ text moment message, decodeUtf8 line = some text ∧
    Substitution.substitute record.1 record.2 = .ok message ∧
    read? (String.ofList text) = some (recordData moment message record.1 record.2)

/-- The line of a record, with its line break. -/
def IsLineOf (line : List UInt8) (record : String × List String) : Prop :=
  ∃ body, line = body ++ [lineBreak] ∧ Tells body record

variable {clock : Nat → Moment} {settings : JournalSettings} {path : Path} {desk desk' : Desk}
  {outcome : Except Fault Unit}

/-! ## A line -/

theorem readsBack_recordData {moment : Moment} {message template : String} {arguments : List String} :
    ReadsBack (recordData moment message template arguments) := by
  have harguments : ReadsBack (.list (arguments.map .text)) := by
    refine readsBack_list fun item hitem => ?_
    obtain ⟨s, -, rfl⟩ := List.mem_map.mp hitem
    exact readsBack_text s
  refine readsBack_ofFields ?_
  simp only [List.forall_mem_cons]
  exact ⟨readsBack_text _, readsBack_text _, readsBack_text _, harguments,
    fun field hfield => absurd hfield List.not_mem_nil⟩

/-- **The line of a record** tells it. -/
theorem isLineOf_recordLine {template : String} {arguments : List String} {message : String}
    (moment : Moment) (hmessage : Substitution.substitute template arguments = .ok message) :
    IsLineOf (recordLine moment message template arguments) (template, arguments) :=
  ⟨_, recordLine_eq, forall_mem_encodeUtf8 forall_mem_writeChars_recordData,
    _, moment, message, decodeUtf8_encodeUtf8 _, hmessage, readsBack_recordData.read?_write⟩

theorem Tells.not_mem {line : List UInt8} {record : String × List String} (h : Tells line record) :
    lineBreak ∉ line := fun hmem => absurd (h.ascii _ hmem) (by decide)

/-- **The lines of records** are found again when they are split at the line breaks. -/
theorem splitOn_flatten {lines : List (List UInt8)} {records : List (String × List String)}
    (h : List.Forall₂ IsLineOf lines records) :
    ∃ bodies, lines.flatten.splitOn lineBreak = bodies ++ [[]] ∧ List.Forall₂ Tells bodies records := by
  induction h with
  | nil => exact ⟨[], rfl, .nil⟩
  | cons hline _ ih =>
    obtain ⟨body, rfl, htells⟩ := hline
    obtain ⟨bodies, hsplit, hall⟩ := ih
    refine ⟨body :: bodies, ?_, .cons htells hall⟩
    rw [List.flatten_cons, List.append_assoc, List.singleton_append,
      List.splitOn_append_cons_self_of_not_mem htells.not_mem, hsplit, List.cons_append]

/-- What is behind whole lines has lines of its own. -/
theorem HasWholeLines.splitOn_append {bytes : List UInt8} (h : HasWholeLines bytes) (added : List UInt8) :
    (bytes ++ added).splitOn lineBreak
      = (bytes.splitOn lineBreak).dropLast ++ added.splitOn lineBreak := by
  rcases h with rfl | ⟨init, rfl⟩
  · rfl
  · rw [List.append_assoc, List.singleton_append, List.splitOn_append_cons_self,
      List.splitOn_append_cons_self, List.splitOn_nil, List.dropLast_concat]

/-! ## One step -/

theorem Opened.writesActive (h : Opened path desk desk') : WritesActive path desk' := by
  intro place hplace
  rw [h.handle] at hplace
  cases hplace
  exact ⟨rfl, Option.isSome_of_eq_some (content?_eq_some_iff.mpr h.node?_place)⟩

theorem writesActive_openFile (h : WritesActive path desk)
    (hrun : (openFile path).run.run desk = (outcome, desk')) : WritesActive path desk' := by
  rcases openFile_cases path desk with ⟨_, hopen, hopened⟩ | ⟨_, _, hopen, hnot⟩ <;>
    cases hopen.symm.trans hrun
  · exact hopened.writesActive
  · intro place hplace
    rw [hnot.made.content?]
    exact h place (hnot.handle ▸ hplace)

/-- **A line** goes to the end of the active file. -/
theorem WritesActive.appended (h : WritesActive path desk) (hopen : desk.handle = some path.place)
    (line : List UInt8) : WritesActive path (appended line desk) ∧
      activeBytes path (Journal.appended line desk).tree = activeBytes path desk.tree ++ line := by
  obtain ⟨content, hcontent⟩ := Option.isSome_iff_exists.mp (h _ hopen).2
  have hwritten : (Journal.appended line desk).tree.content? path.place = some (content ++ line) := by
    unfold Journal.appended
    dsimp only
    rw [hopen]
    exact content?_eq_some_iff.mpr (node?_written_of_file line (content?_eq_some_iff.mp hcontent))
  refine ⟨fun place hplace => ?_, ?_⟩
  · cases hplace.symm.trans hopen
    exact ⟨rfl, Option.isSome_of_eq_some hwritten⟩
  · unfold activeBytes
    rw [hwritten, hcontent, Option.getD_some, Option.getD_some]

/-- **Getting ready** leaves the content of a file that has room. -/
theorem activeBytes_makeReady (h : WritesActive settings.path desk)
    (hroom : ¬ (desk.handle.isSome ∧ isFull settings desk.size = true))
    (hrun : (makeReady clock settings).run.run desk = (outcome, desk')) :
    WritesActive settings.path desk' ∧
      activeBytes settings.path desk'.tree = activeBytes settings.path desk.tree ∧
      (outcome = .ok () → desk'.handle = some settings.path.place) := by
  rcases makeReady_cases desk with ⟨-, hready⟩ | ⟨hopen, -, hready⟩ | ⟨hopen, hfull, -⟩
  · have hrun := hready.symm.trans hrun
    refine ⟨writesActive_openFile h hrun, activeBytes_openFile hrun, ?_⟩
    rintro rfl
    exact handle_openFile hrun
  · cases hready.symm.trans hrun
    refine ⟨h, rfl, fun _ => ?_⟩
    obtain ⟨place, hplace⟩ := Option.isSome_iff_exists.mp hopen
    rw [hplace, (h place hplace).1]
  · exact absurd ⟨hopen, hfull⟩ hroom

/-- **A record** that does not put the active file away adds its line to it. -/
theorem activeBytes_emit {template : String} {arguments : List String}
    (h : WritesActive settings.path desk)
    (hstays : (Step.emit template arguments).rotation? clock settings desk = none)
    (hrun : (Step.emit template arguments).run clock settings desk = (outcome, desk')) :
    WritesActive settings.path desk' ∧ activeBytes settings.path desk'.tree
      = activeBytes settings.path desk.tree ++
          ((Step.emit template arguments).lines clock settings desk).flatten := by
  have hread : WritesActive settings.path { desk with readings := desk.readings + 1 } := h
  rcases emit_cases template arguments desk with
    ⟨_, fault, -, hemit⟩ | ⟨message, hmessage, hready⟩
  · rw [lines_of_error hemit]
    cases hemit.symm.trans hrun
    exact ⟨h, (List.append_nil _).symm⟩
  have hroom : ¬ (desk.handle.isSome ∧ isFull settings desk.size = true) := by
    intro hfull
    have hsome : (Step.emit template arguments).rotation? clock settings desk
        = some (clock (desk.readings + 1)) :=
      rotation?_emit_eq_some_iff.mpr ⟨⟨by rw [hmessage]; rfl, hfull⟩, rfl⟩
    cases hstays.symm.trans hsome
  rcases hready with ⟨mid, hready, hemit⟩ | ⟨_, fault, mid, hready, hemit⟩
  · obtain ⟨hactive, hbytes, hopen⟩ := activeBytes_makeReady hread hroom hready
    obtain ⟨hactive', hwritten⟩ := hactive.appended (hopen rfl)
      (recordLine (clock desk.readings) message template arguments)
    rw [lines_emit hemit hmessage]
    cases hemit.symm.trans hrun
    refine ⟨hactive', ?_⟩
    rw [hwritten, hbytes, List.flatten_cons]
    exact congrArg _ (List.append_nil _).symm
  · obtain ⟨hactive, hbytes, -⟩ := activeBytes_makeReady hread hroom hready
    rw [lines_of_error hemit]
    cases hemit.symm.trans hrun
    exact ⟨hactive, hbytes.trans (List.append_nil _).symm⟩

/-- **A step** that does not put the active file away adds its lines to it. -/
theorem activeBytes_step {step : Step} (h : WritesActive settings.path desk)
    (hstays : step.rotation? clock settings desk = none)
    (hrun : step.run clock settings desk = (outcome, desk')) :
    WritesActive settings.path desk' ∧ activeBytes settings.path desk'.tree
      = activeBytes settings.path desk.tree ++ (step.lines clock settings desk).flatten := by
  have hnone {bytes : List UInt8} : bytes = bytes ++ [].flatten := (List.append_nil _).symm
  cases step with
  | emit template arguments => exact activeBytes_emit h hstays hrun
  | close =>
    cases hrun
    exact ⟨nofun, hnone⟩
  | start =>
    rcases start_cases desk with ⟨fault, hstart, -⟩ | ⟨hstart, -⟩ | ⟨hsome, -⟩
    · cases hstart.symm.trans hrun
      exact ⟨h, hnone⟩
    · have hrun := hstart.symm.trans hrun
      exact ⟨writesActive_openFile h hrun, (activeBytes_openFile hrun).trans hnone⟩
    · cases hstays.symm.trans hsome

/-- **The lines of a step** are those of what it records. -/
theorem isLineOf_lines (step : Step) (desk : Desk) :
    List.Forall₂ IsLineOf (step.lines clock settings desk) (step.records clock settings desk) := by
  cases step with
  | start => exact .nil
  | close => exact .nil
  | emit template arguments =>
    rcases emit_cases template arguments desk with
      ⟨_, fault, -, hemit⟩ | ⟨message, hmessage, ⟨mid, -, hemit⟩ | ⟨_, fault, mid, -, hemit⟩⟩
    · rw [lines_of_error hemit, Step.records, hemit]
      exact .nil
    · rw [lines_emit hemit hmessage, Step.records, hemit]
      exact .cons (isLineOf_recordLine _ hmessage) .nil
    · rw [lines_of_error hemit, Step.records, hemit]
      exact .nil

/-! ## Runs -/

/-- **A run** that never puts the active file away adds its lines to it. -/
theorem activeBytes_after {steps : List Step} (h : WritesActive settings.path desk)
    (hstays : NeverRotates clock settings steps desk) :
    activeBytes settings.path (after clock settings steps desk).tree
      = activeBytes settings.path desk.tree ++ (linesOf clock settings steps desk).flatten := by
  induction steps generalizing desk with
  | nil => exact (List.append_nil _).symm
  | cons step rest ih =>
    obtain ⟨hstep, hrest⟩ := hstays
    obtain ⟨hactive, hbytes⟩ := activeBytes_step h hstep rfl
    have hlater := ih hactive hrest
    rw [linesOf, List.flatten_append, ← List.append_assoc, ← hbytes]
    exact hlater

theorem isLineOf_linesOf (steps : List Step) (desk : Desk) :
    List.Forall₂ IsLineOf (linesOf clock settings steps desk) (recordsOf clock settings steps desk) := by
  induction steps generalizing desk with
  | nil => exact .nil
  | cons step rest ih => exact List.rel_append (isLineOf_lines step desk) (ih _)

/-- **The file gets one line for each record**, which tells it, behind the lines that were there. -/
theorem splitOn_after {steps : List Step} (hactive : WritesActive settings.path desk)
    (hwhole : HasWholeLines (activeBytes settings.path desk.tree))
    (hstays : NeverRotates clock settings steps desk) :
    ∃ (added : List UInt8) (lines : List (List UInt8)),
      activeBytes settings.path (after clock settings steps desk).tree
        = activeBytes settings.path desk.tree ++ added ∧
      added.splitOn lineBreak = lines ++ [[]] ∧
      (activeBytes settings.path (after clock settings steps desk).tree).splitOn lineBreak
        = ((activeBytes settings.path desk.tree).splitOn lineBreak).dropLast ++ (lines ++ [[]]) ∧
      List.Forall₂ Tells lines (recordsOf clock settings steps desk) := by
  obtain ⟨lines, hsplit, htells⟩ := splitOn_flatten (isLineOf_linesOf steps desk)
  have hbytes := activeBytes_after hactive hstays
  refine ⟨(linesOf clock settings steps desk).flatten, lines, hbytes, hsplit, ?_, htells⟩
  rw [hbytes, hwhole.splitOn_append, hsplit]

/-- A journal with room for all records. -/
def roomyJournal : JournalSettings := ⟨Path.parse "audit.jsonl", 1000000, 2, false⟩

/-- A directory with a journal of one line, which is no text. -/
def oneLine : Files := FileTree.empty.put ["audit.jsonl"] (.file [0xFF, lineBreak])

/-- An argument that reads like the end of a record, a line break and the beginning of another. -/
def forgery : String := "\"]\x7d\r\n\x7b\u2028😀\\"

/-- A record of it, one that is refused, and one in the file that is opened again. -/
def forgedSteps : List Step :=
  [.start, .emit "%s" [forgery], .emit "%s" [], .close, .emit "c" []]

/-- It is one argument of one record. -/
theorem forgery_told : ∃ (added : List UInt8) (lines : List (List UInt8)),
    activeBytes roomyJournal.path (after halfSeconds roomyJournal forgedSteps (Desk.ofTree oneLine)).tree
      = [0xFF, lineBreak] ++ added ∧
    added.splitOn lineBreak = lines ++ [[]] ∧
    List.Forall₂ Tells lines [("%s", [forgery]), ("c", [])] := by
  have hwhole : HasWholeLines (activeBytes roomyJournal.path (Desk.ofTree oneLine).tree) :=
    .inr ⟨[0xFF], by decide +kernel⟩
  have hstays : NeverRotates halfSeconds roomyJournal forgedSteps (Desk.ofTree oneLine) :=
    ⟨by decide +kernel, by decide +kernel, by decide +kernel, by decide +kernel, by decide +kernel, trivial⟩
  have hrecords : recordsOf halfSeconds roomyJournal forgedSteps (Desk.ofTree oneLine)
      = [("%s", [forgery]), ("c", [])] := by
    decide +kernel
  have hbytes : activeBytes roomyJournal.path (Desk.ofTree oneLine).tree = [0xFF, lineBreak] := by decide +kernel
  obtain ⟨added, lines, hadded, hsplit, -, htells⟩ := splitOn_after (by nofun) hwhole hstays
  rw [hrecords] at htells
  rw [hbytes] at hadded
  exact ⟨added, lines, hadded, hsplit, htells⟩

end AuditTrail.Journal
