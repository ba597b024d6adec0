import ChatFlow.Flow.Builder
import ChatFlow.Proofs.Turn.Progress

/-!
# Reports and rows

What a turn reports is what the store says of its execution afterwards, with one exception: an
execution that waits for a reply and is completed by it at the node where it waits is reported to
wait still.
-/

namespace ChatFlow

open Process

/-- An execution says what a row says of its place. -/
structure ExecutionRow.Agrees (row : ExecutionRow) (execution : Execution) : Prop where
  id_eq : execution.id = row.id
  flow_eq : execution.flow = row.flow
  conversation_eq : execution.conversation = row.conversation
  position_eq : execution.position = row.position

theorem ExecutionRow.agrees_toExecution (row : ExecutionRow) : row.Agrees row.toExecution :=
  ⟨rfl, rfl, rfl, rfl⟩

namespace Turn

variable {engine : Engine} {site : Site} {graph : Flow.Graph} {execution : Execution}
  {input : TurnInput} {row : ExecutionRow} {scene after : Scene} {report : TurnReport}

/-- A turn that is not cut short leaves its row where the exits of its legs lead to. -/
theorem exists_row_of_ends
    (member : row ∈ scene.store.executions)
    (active : row.status = .active)
    (agrees : row.Agrees execution)
    (ends : Ends site.Answers (perform engine graph execution input) scene (.ok report) after) :
    Reports execution (way engine graph execution input) report ∧
      ∃ stored ∈ after.store.executions, stored.id = row.id ∧
        stored.position =
          row.position.travel ((way engine graph execution input).map Leg.exit) := by
  have activeThere : execution.status = .active :=
    (congrArg Position.status agrees.position_eq).trans active
  obtain ⟨calls, reaches⟩ := Site.exists_notes { scene } ends
  have begins : (perform engine graph execution input).Pursues Call.isMark
      (Completes execution (way engine graph execution input))
      ((way engine graph execution input).flatMap
        (Leg.calls execution.conversation execution.flow)) { scene } :=
    ⟨_, scripted_perform activeThere input, rfl⟩
  obtain ⟨left, ⟨rfl, reports⟩, taken⟩ := Pursues.reaches begins reaches
  have held : scene.store.Holds row := .of_mem member
  obtain ⟨updated, stored⟩ := Site.Notes.holds_of_reaches held reaches
  refine ⟨reports, _, stored, ExecutionRow.id_writeAll, ?_⟩
  change (row.writeAll calls).position = _
  have taken : calls.filter Call.isMark ++ [] = _ := taken
  rw [List.append_nil] at taken
  rw [ExecutionRow.position_writeAll, taken, agrees.conversation_eq, agrees.flow_eq,
    Position.after_legs]

/-- The report of a turn says what the store says of the execution afterwards: where it stands,
whether it is complete, and whether it waits.  Only when an execution that waits is completed at
the one node that the turn enters, it is reported to wait, which in the store it does not. -/
theorem report_eq
    (kept : scene.store.WellKept)
    (member : row ∈ scene.store.executions)
    (active : row.status = .active)
    (agrees : row.Agrees execution)
    (ends : Ends site.Answers (perform engine graph execution input) scene (.ok report) after) :
    ∃ stored, after.store.byId? report.execution = some stored ∧
      report.final = stored.node ∧
      (report.completed = true ↔ stored.status = .completed) ∧
      (stored.status = .completed → stored.waiting = false) ∧
      report.waiting = (stored.waiting ||
        (report.completed && row.waiting && report.visited.length == 1)) := by
  obtain ⟨reports, stored, storedMember, id_eq, position_eq⟩ :=
    exists_row_of_ends member active agrees ends
  obtain ⟨calls, reaches⟩ := Site.exists_notes { scene } ends
  have keptAfter : after.store.WellKept := Site.Notes.wellKept_of_reaches kept reaches
  have waiting_eq : execution.waiting = row.waiting :=
    congrArg Position.waiting agrees.position_eq
  rw [← agrees.position_eq] at position_eq
  refine ⟨stored.toExecution, ?_, ?_, ?_, ?_, ?_⟩
  · rw [reports.execution_eq, agrees.id_eq, ← id_eq]
    exact keptAfter.byId?_eq storedMember
  · rw [reports.final_eq, ← position_eq]
    rfl
  · rw [reports.completed_iff, ← position_eq]
    rfl
  · intro completed
    change stored.position.waiting = false
    rw [position_eq]
    refine Position.waiting_travel ?_ ?_
    · rw [agrees.position_eq]
      intro before
      rw [show row.position.status = row.status from rfl, active] at before
      cases before
    · rw [← position_eq]
      exact completed
  · rw [reports.waiting_eq, ← position_eq, waiting_eq]
    rfl

end Turn

/-! ## An inquiry -/

/-- A flow that asks something, and is done with the answer. -/
def Flow.Graph.inquiry : Flow.Graph where
  definition := ((((Definition.blank "inquiry").addNode ⟨"start", .start, []⟩).addMessage
    "ask" "Hi").addNode ⟨"answer", .userReply, []⟩).chain ["start", "ask", "answer"]
  start := ⟨"start", .start, []⟩
  sound := by decide
  start_found := rfl

/-- A site with that flow, where nothing fails. -/
def Site.inquiry : Site where
  library := .ofFlows [.inquiry] [{ device := "1", flow := "inquiry" }]
  faults _ := False
  clock _ := True

/-- A message to that site. -/
def InboundMessage.toInquiry (text : String) : InboundMessage where
  conversation := { phone := "2", device := "1" }
  text

/-- The row of an execution that waits for the answer. -/
def ExecutionRow.ofInquiry : ExecutionRow where
  id := "execution"
  flow := "inquiry"
  conversation := { phone := "2", device := "1" }
  node := "answer"
  last := some "ask"
  waiting := true
  created := Timestamp.print ⟨0⟩
  updated := Timestamp.print ⟨0⟩

/-- A scene with that row. -/
def Scene.inquiry : Scene where
  store := { executions := [.ofInquiry] }

/-- What is reported when the answer comes. -/
def TurnReport.ofInquiry : TurnReport where
  execution := "execution"
  flow := "inquiry"
  visited := ["answer"]
  dispatched := 0
  final := "end"
  waiting := true
  completed := true
  scheduled := none
  hopLimit := false

namespace Turn

/-- The turn that takes the answer. -/
def answered : Except Fault TurnReport × Scene :=
  (perform {} .inquiry ExecutionRow.ofInquiry.toExecution
    (.ofMessage (.toInquiry "ok") true)).run (Site.inquiry.answer ⟨0⟩ {}) .inquiry

theorem ends_answered :
    Ends Site.inquiry.Answers
      (perform {} .inquiry ExecutionRow.ofInquiry.toExecution (.ofMessage (.toInquiry "ok") true))
      .inquiry (.ok .ofInquiry) answered.2 := by
  have reports : answered.1 = .ok .ofInquiry := by decide +kernel
  rw [← reports]
  exact ends_of_run _ (Site.answers_answer trivial {}) _ _

theorem report_eq_inquiry :
    ∃ stored, answered.2.store.byId? "execution" = some stored ∧ "end" = stored.node ∧
      stored.status = .completed ∧ stored.waiting = false := by
  have kept : Scene.inquiry.store.WellKept := by
    constructor
    · decide
    · simp [Scene.inquiry]
  obtain ⟨stored, found, final, completed, ready, _⟩ :=
    report_eq kept (List.mem_singleton.mpr rfl) rfl (ExecutionRow.agrees_toExecution _)
      ends_answered
  exact ⟨stored, found, final, completed.mp rfl, ready (completed.mp rfl)⟩

/-- A turn that takes the answer reports that the execution is complete and waits, while in the
store it is complete and does not wait. -/
theorem completed_and_waiting_inquiry :
    Ends Site.inquiry.Answers
      (perform {} .inquiry ExecutionRow.ofInquiry.toExecution (.ofMessage (.toInquiry "ok") true))
      .inquiry (.ok .ofInquiry) answered.2 ∧
    TurnReport.ofInquiry.completed = true ∧ TurnReport.ofInquiry.waiting = true ∧
    answered.2.store.executions.map (fun row => (row.id, row.status, row.waiting)) =
      [("execution", .completed, false)] :=
  ⟨ends_answered, rfl, rfl, by decide +kernel⟩

end Turn
end ChatFlow
