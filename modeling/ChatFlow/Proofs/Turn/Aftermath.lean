import ChatFlow.Proofs.Turn.Recital
import ChatFlow.Proofs.Turn.Report

/-!
# What a turn leaves behind

A turn against obliging callees that is not cut short has taken all its legs: it reports them, its
row stands where they lead to, and it has said what they have to say.  All that a later turn depends
on can be read from the row.
-/

namespace ChatFlow

open Process

/-- An execution says what a row says of its place, its stage and its fields. -/
structure ExecutionRow.Tells (row : ExecutionRow) (execution : Execution) : Prop where
  agrees : row.Agrees execution
  stage_eq : execution.stage = row.stage
  vars_eq : execution.vars = Store.decodeVariables row.vars

theorem ExecutionRow.tells_toExecution (row : ExecutionRow) : row.Tells row.toExecution :=
  ⟨row.agrees_toExecution, rfl, rfl⟩

theorem Position.travel_append (position : Position) (exits more : List Exit) :
    position.travel (exits ++ more) = (position.travel exits).travel more :=
  List.foldl_append

/-- An execution that takes legs on which its turn goes on runs on, and waits for nothing. -/
theorem Position.travel_of_onward
    {position : Position}
    {legs : List Leg}
    (active : position.status = .active)
    (goOn : ∀ leg ∈ legs, leg.exit.onward?.isSome = true) :
    (position.travel (legs.map Leg.exit)).status = .active ∧
      (legs ≠ [] → (position.travel (legs.map Leg.exit)).waiting = false) := by
  induction legs generalizing position with
  | nil => exact ⟨active, fun some => (some rfl).elim⟩
  | cons leg legs inductionHypothesis =>
      obtain ⟨node, exit⟩ := leg
      obtain ⟨target, onward⟩ := Option.isSome_iff_exists.mp (goOn _ List.mem_cons_self)
      have further := fun leg member => goOn leg (List.mem_cons_of_mem _ member)
      obtain rfl := Exit.eq_advance onward
      have moved := Exit.leave_advance active target false
      have runs : ((Exit.advance target false).leave position).status = .active := by
        rw [moved]
        exact active
      simp only [Position.travel, List.map_cons, List.foldl_cons]
      cases legs with
      | nil => exact ⟨runs, fun _ => by rw [List.map_nil, List.foldl_nil, moved]⟩
      | cons next legs =>
          obtain ⟨stillRuns, ready⟩ := inductionHypothesis runs further
          exact ⟨stillRuns, fun _ => ready (List.cons_ne_nil _ _)⟩

namespace Turn

variable {σ : Type} {site : Site} {cast : Cast σ} {engine : Engine} {graph : Flow.Graph}
  {execution : Execution} {row : ExecutionRow} {input : TurnInput} {before after : Transcript σ}
  {report : TurnReport}

/-- What is left behind by a turn that has taken some legs. -/
structure Leaves
    (cast : Cast σ) (engine : Engine) (graph : Flow.Graph) (execution : Execution)
    (input : TurnInput) (legs : List Leg) (before : Transcript σ) (report : TurnReport)
    (after : Transcript σ) (stored : ExecutionRow) : Prop where
  reports : Reports execution legs report
  awaits : Awaits graph { execution, input } legs report.scheduled
  kept : after.scene.store.WellKept
  member : stored ∈ after.scene.store.executions
  id_eq : stored.id = execution.id
  flow_eq : stored.flow = execution.flow
  conversation_eq : stored.conversation = execution.conversation
  position_eq : stored.position = execution.position.travel (legs.map Leg.exit)
  said : (prologue execution input before).recite engine cast legs =
    prologue stored.toExecution input after
  lines_eq : ∃ lines, after.lines = before.lines ++ lines

/-- A turn of a stored execution that is not cut short has taken all its legs. -/
theorem exists_leaves
    (kept : before.scene.store.WellKept)
    (member : row ∈ before.scene.store.executions)
    (active : row.status = .active)
    (tells : row.Tells execution)
    (ends : Ends (site.Obliges cast.manner) (perform engine graph execution input) before
      (.ok report) after) :
    ∃ stored, Leaves cast engine graph execution input (way engine graph execution input) before
      report after stored := by
  obtain ⟨reports, stored, storedMember, id_eq, position_eq⟩ :=
    exists_row_of_ends member active tells.agrees (Site.ends_of_obliges ends)
  obtain ⟨asked, asked_eq, keptAfter, updated, held⟩ := Site.exists_asked_of_obliges kept
    (Store.Holds.of_mem member) ends
  have sorted : execution.vars.Sorted := by
    rw [tells.vars_eq]
    exact Store.sorted_decodeVariables row.vars
  have remembered : before.scene.store.Remembers execution.id (prologue execution input before) :=
    ⟨row, .of_mem member, tells.agrees.id_eq.symm, tells.stage_eq.symm, tells.vars_eq.symm⟩
  obtain ⟨_, turn, rfl, waits, said, _, other, ⟨otherUpdated, otherHeld⟩, names, stage_eq,
    vars_eq⟩ := (perform_recital sorted remembered).ends ends
  have heldRow : { row.writeAll asked with updated } = stored :=
    keptAfter.eq_of_id held storedMember (ExecutionRow.id_writeAll.trans id_eq.symm)
  have flow_eq : stored.flow = execution.flow := by
    rw [← heldRow, tells.agrees.flow_eq]
    exact ExecutionRow.flow_writeAll
  have conversation_eq : stored.conversation = execution.conversation := by
    rw [← heldRow, tells.agrees.conversation_eq]
    exact ExecutionRow.conversation_writeAll
  have id_eq : stored.id = execution.id := id_eq.trans tells.agrees.id_eq.symm
  have names : other.id = stored.id := by
    rw [names, id_eq]
    exact waits.id_eq
  have otherRow : { other with updated := otherUpdated } = stored :=
    keptAfter.eq_of_id otherHeld storedMember names
  have stage_eq : stored.stage = turn.execution.stage := by
    rw [← otherRow]
    exact stage_eq.trans (congrArg Recital.stage said).symm
  have vars_eq : stored.toExecution.vars = turn.execution.vars := by
    rw [← otherRow]
    exact vars_eq.trans (congrArg Recital.vars said).symm
  have lines_eq : after.lines = before.lines ++ asked.filterMap Call.line? := by
    rw [Transcript.lines, asked_eq, List.filterMap_append]
    rfl
  rw [← tells.agrees.position_eq] at position_eq
  refine ⟨stored, reports, waits.awaits, keptAfter, storedMember, id_eq, flow_eq, conversation_eq,
    position_eq, ?_, _, lines_eq⟩
  rw [← said]
  apply Recital.ext
  · exact waits.conversation_eq.trans conversation_eq.symm
  · exact congrArg TurnInput.text waits.input_eq
  · exact congrArg TurnInput.displayName waits.input_eq
  · exact stage_eq.symm
  · exact vars_eq.symm
  · rfl
  · rfl

end Turn
end ChatFlow
