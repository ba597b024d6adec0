import ChatFlow.Proofs.Process.Renaming
import ChatFlow.Proofs.Store.Rows
import ChatFlow.Store.Locks
import ChatFlow.Store.Records
import Mathlib.Data.List.Find

/-!
# Parts of a store

The rows of one conversation are its part of the store.  What is done for a conversation comes out
the same in its part alone, and does nothing to the parts of the others.  Nor does it matter what
the ids of executions are, as long as different ones stay different.
-/

namespace ChatFlow
namespace Store

variable {store : Store} {naming : Naming} {stamp : Stamp} {now : Instant} {stale : Span}
  {conversation other : Conversation} {flow node id : String} {waiting : Bool}
  {change : ExecutionRow → ExecutionRow}

/-- What a store holds of a conversation. -/
def part (conversation : Conversation) (store : Store) : Store where
  locks := store.locks.filter fun row => row.conversation == conversation
  executions := store.rowsOf conversation
  history := store.historyOf conversation
  captures := store.captures

/-- The store with other ids. -/
def rename (naming : Naming) (store : Store) : Store :=
  { store with executions := store.executions.map (ExecutionRow.rename naming) }

/-! ## Rows -/

section Rows

variable {α : Type} {about : α → Conversation} {chosen : α → Prop} [DecidablePred chosen]
  {alter : α → α} {rows : List α}

/-- When some rows are changed, and not moved to other conversations, so they are in each part. -/
theorem filter_map_of_kept
    (kept : ∀ row, about (alter row) = about row)
    (rows : List α) :
    (rows.map fun row => if chosen row then alter row else row).filter
        (fun row => about row == conversation) =
      (rows.filter fun row => about row == conversation).map fun row =>
        if chosen row then alter row else row := by
  have keptIf (row : α) : about (if chosen row then alter row else row) = about row := by
    split
    · exact kept row
    · rfl
  simp only [List.filter_map, Function.comp_def, keptIf]

/-- A part is left alone when no row of it is changed. -/
theorem filter_map_of_still
    (kept : ∀ row, about (alter row) = about row)
    (still : ∀ row ∈ rows, about row = conversation → ¬ chosen row) :
    (rows.map fun row => if chosen row then alter row else row).filter
        (fun row => about row == conversation) =
      rows.filter fun row => about row == conversation := by
  rw [filter_map_of_kept kept, List.map_congr_left (g := id), List.map_id]
  intro row member
  obtain ⟨among, same⟩ := List.mem_filter.mp member
  exact if_neg (still row among (beq_iff_eq.mp same))

end Rows

/-! ## Locks -/

/-- A lock that is taken over stays the lock of its conversation. -/
theorem relocked_kept (row : LockRow) :
    { row with since := Timestamp.print now }.conversation = row.conversation := rfl

/-- Whether a lock is to be had depends on the part of its conversation, and changes that alone. -/
theorem acquireAt_part :
    (store.part conversation).acquireAt conversation now stale =
      ((store.acquireAt conversation now stale).1,
        (store.acquireAt conversation now stale).2.part conversation) := by
  have lock_eq : (store.part conversation).lock? conversation = store.lock? conversation := by
    simp only [lock?, part, List.find?_filter, and_self, Bool.decide_eq_true]
  unfold acquireAt
  rw [lock_eq]
  cases store.lock? conversation with
  | none => simp [part, rowsOf, historyOf]
  | some row =>
      dsimp only
      split
      · rfl
      · refine Prod.ext rfl ?_
        simp only [part, rowsOf, historyOf, filter_map_of_kept relocked_kept]

theorem part_acquireAt_of_ne (different : conversation ≠ other) :
    (store.acquireAt conversation now stale).2.part other = store.part other := by
  unfold acquireAt
  split
  · simp [part, rowsOf, historyOf, different]
  · split
    · rfl
    · have still (row : LockRow) (_ : row ∈ store.locks) (same : row.conversation = other) :
          row.conversation ≠ conversation :=
        fun locked => different (locked.symm.trans same)
      simp only [part, rowsOf, historyOf, filter_map_of_still relocked_kept still]

theorem release_part :
    (store.part conversation).release conversation =
      (store.release conversation).part conversation := by
  simp only [release, part, rowsOf, historyOf, List.filter_filter, Bool.and_comm]

theorem part_release_of_ne (different : conversation ≠ other) :
    (store.release conversation).part other = store.part other := by
  have kept (row : LockRow) :
      (row.conversation == other && row.conversation != conversation) =
        (row.conversation == other) := by
    by_cases same : row.conversation = other <;> simp [same, different.symm]
  simp only [release, part, rowsOf, historyOf, List.filter_filter, kept]

/-! ## History -/

theorem appendHistory_part (entry : HistoryEntry) :
    (store.part conversation).appendHistory conversation entry =
      (store.appendHistory conversation entry).part conversation := by
  simp [appendHistory, part, rowsOf, historyOf, HistoryRow.ofEntry]

theorem part_appendHistory_of_ne
    (different : conversation ≠ other)
    (entry : HistoryEntry) :
    (store.appendHistory conversation entry).part other = store.part other := by
  simp [appendHistory, part, rowsOf, historyOf, HistoryRow.ofEntry, different]

theorem readHistory_part (limit : Nat) :
    (store.part conversation).readHistory conversation limit =
      store.readHistory conversation limit := by
  simp [readHistory, part, historyOf]

/-! ## Looking up executions -/

/-- What runs in a flow for a conversation is in the part of the conversation. -/
theorem runsIn_of_part (row : ExecutionRow) :
    (row.conversation == conversation && row.runsIn conversation flow) =
      row.runsIn conversation flow := by
  by_cases runs : row.runsIn conversation flow = true
  · simp [runs, (ExecutionRow.runsIn_iff.mp runs).1]
  · simp [runs]

theorem activeIn?_part :
    (store.part conversation).activeIn? conversation flow =
      store.activeIn? conversation flow := by
  simp only [activeIn?, part, rowsOf, List.find?_filter, Bool.decide_and, Bool.decide_eq_true,
    runsIn_of_part]

theorem isActiveIn_part :
    (store.part conversation).isActiveIn conversation flow =
      store.isActiveIn conversation flow := by
  simp only [isActiveIn, part, rowsOf, List.any_filter, runsIn_of_part]

theorem active?_part :
    (store.part conversation).active? conversation = store.active? conversation := by
  simp only [active?, part, rowsOf, List.filter_filter, Bool.and_self]

theorem latest?_part :
    (store.part conversation).latest? conversation flow = store.latest? conversation flow := by
  have belongs_eq : (fun row : ExecutionRow =>
      (row.belongsTo conversation flow && (row.conversation == conversation))) =
        fun row => row.belongsTo conversation flow := by
    funext row
    by_cases same : row.conversation = conversation <;> simp [ExecutionRow.belongsTo, same]
  simp only [latest?, part, rowsOf, List.filter_filter, belongs_eq]

/-- An execution is found by its id in the part of its conversation. -/
theorem byId?_part
    (owned : ∀ row ∈ store.executions, row.id = id → row.conversation = conversation) :
    (store.part conversation).byId? id = store.byId? id := by
  have named_eq : store.executions.find? (fun row =>
      decide ((row.conversation == conversation) = true ∧ (row.id == id) = true)) =
        store.executions.find? fun row => row.id == id := by
    refine List.find?_congr fun row member => ?_
    by_cases named : row.id = id
    · simp [named, owned row member named]
    · simp [named]
  simp only [byId?, part, rowsOf, List.find?_filter, named_eq]

/-! ## Changing executions -/

theorem updateActive_part
    (kept : ∀ row, (change row).conversation = row.conversation) :
    (store.part conversation).updateActive conversation flow change =
      (store.updateActive conversation flow change).part conversation := by
  simp only [updateActive, part, rowsOf, historyOf, filter_map_of_kept kept]

theorem part_updateActive_of_ne
    (different : conversation ≠ other)
    (kept : ∀ row, (change row).conversation = row.conversation) :
    (store.updateActive conversation flow change).part other = store.part other := by
  have still (row : ExecutionRow) (_ : row ∈ store.executions)
      (same : row.conversation = other) : ¬ row.runsIn conversation flow := fun runs =>
    different ((ExecutionRow.runsIn_iff.mp runs).1.symm.trans same)
  simp only [updateActive, part, rowsOf, historyOf, filter_map_of_still kept still]

theorem updateById_part
    (kept : ∀ row, (change row).conversation = row.conversation) :
    (store.part conversation).updateById id change =
      (store.updateById id change).part conversation := by
  simp only [updateById, part, rowsOf, historyOf, filter_map_of_kept kept]

/-- What is written to an execution by its id is in the part of its conversation. -/
theorem part_updateById_of_ne
    (different : conversation ≠ other)
    (owned : ∀ row ∈ store.executions, row.id = id → row.conversation = conversation)
    (kept : ∀ row, (change row).conversation = row.conversation) :
    (store.updateById id change).part other = store.part other := by
  have still (row : ExecutionRow) (member : row ∈ store.executions)
      (same : row.conversation = other) : row.id ≠ id := fun named =>
    different ((owned row member named).symm.trans same)
  simp only [updateById, part, rowsOf, historyOf, filter_map_of_still kept still]

/-- A new id is new in every part. -/
theorem insertActive_part
    (unused : ∀ row ∈ store.executions, row.id ≠ stamp.freshId) :
    (store.part conversation).insertActive stamp conversation flow node waiting =
      (store.insertActive stamp conversation flow node waiting).part conversation := by
  have unusedHere : (store.part conversation).executions.any (fun row => row.id == stamp.freshId) =
      false := by
    simp only [part, rowsOf, List.any_eq_false, List.mem_filter, beq_iff_eq]
    exact fun row member => unused row member.1
  have unusedThere : store.executions.any (fun row => row.id == stamp.freshId) = false := by
    simp only [List.any_eq_false, beq_iff_eq]
    exact unused
  unfold insertActive
  rw [isActiveIn_part, unusedHere, unusedThere]
  split
  · rfl
  · simp [part, rowsOf, historyOf]

theorem part_insertActive_of_ne (different : conversation ≠ other) :
    (store.insertActive stamp conversation flow node waiting).part other = store.part other := by
  unfold insertActive
  split
  · rfl
  · simp [part, rowsOf, historyOf, different]

theorem create_part
    (unused : ∀ row ∈ store.executions, row.id ≠ stamp.freshId) :
    (store.part conversation).create stamp conversation flow node =
      ((store.create stamp conversation flow node).1,
        (store.create stamp conversation flow node).2.part conversation) := by
  simp only [create, insertActive_part unused, activeIn?_part]
  split <;> rfl

theorem part_create_of_ne (different : conversation ≠ other) :
    (store.create stamp conversation flow node).2.part other = store.part other := by
  unfold create
  dsimp only
  split <;> exact part_insertActive_of_ne different

theorem advance_part
    (unused : ∀ row ∈ store.executions, row.id ≠ stamp.freshId) :
    (store.part conversation).advance stamp conversation flow node waiting =
      (store.advance stamp conversation flow node waiting).part conversation := by
  unfold advance
  rw [isActiveIn_part]
  split
  · exact updateActive_part fun _ => rfl
  · exact insertActive_part unused

theorem part_advance_of_ne (different : conversation ≠ other) :
    (store.advance stamp conversation flow node waiting).part other = store.part other := by
  unfold advance
  split
  · exact part_updateActive_of_ne different fun _ => rfl
  · exact part_insertActive_of_ne different

theorem setWaiting_part :
    (store.part conversation).setWaiting now conversation flow waiting =
      ((store.setWaiting now conversation flow waiting).1,
        (store.setWaiting now conversation flow waiting).2.part conversation) := by
  unfold setWaiting
  rw [isActiveIn_part]
  split
  · exact congrArg (Prod.mk _) (updateActive_part fun _ => rfl)
  · rfl

theorem part_setWaiting_of_ne (different : conversation ≠ other) :
    (store.setWaiting now conversation flow waiting).2.part other = store.part other := by
  unfold setWaiting
  split
  · exact part_updateActive_of_ne different fun _ => rfl
  · rfl

theorem complete_part :
    (store.part conversation).complete now conversation flow =
      (store.complete now conversation flow).part conversation :=
  updateActive_part fun _ => rfl

theorem part_complete_of_ne (different : conversation ≠ other) :
    (store.complete now conversation flow).part other = store.part other :=
  part_updateActive_of_ne different fun _ => rfl

theorem setStage_part (stage : Option String) :
    (store.part conversation).setStage now id stage =
      (store.setStage now id stage).part conversation :=
  updateById_part fun _ => rfl

theorem part_setStage_of_ne
    (different : conversation ≠ other)
    (owned : ∀ row ∈ store.executions, row.id = id → row.conversation = conversation)
    (stage : Option String) :
    (store.setStage now id stage).part other = store.part other :=
  part_updateById_of_ne different owned fun _ => rfl

theorem saveVariables_part (vars : Keyed String) :
    (store.part conversation).saveVariables now id vars =
      (store.saveVariables now id vars).part conversation :=
  updateById_part fun _ => rfl

theorem part_saveVariables_of_ne
    (different : conversation ≠ other)
    (owned : ∀ row ∈ store.executions, row.id = id → row.conversation = conversation)
    (vars : Keyed String) :
    (store.saveVariables now id vars).part other = store.part other :=
  part_updateById_of_ne different owned fun _ => rfl

/-! ## Other ids -/

theorem isActiveIn_rename :
    (store.rename naming).isActiveIn conversation flow = store.isActiveIn conversation flow := by
  simp only [isActiveIn, rename, List.any_map]
  rfl

theorem activeIn?_rename :
    (store.rename naming).activeIn? conversation flow =
      (store.activeIn? conversation flow).map (Execution.rename naming) := by
  simp only [activeIn?, rename, List.find?_map, Option.map_map]
  rfl

theorem byRecency_rename (rows : List ExecutionRow) :
    byRecency (rows.map (ExecutionRow.rename naming)) =
      (byRecency rows).map (ExecutionRow.rename naming) := by
  unfold byRecency
  rw [← List.map_reverse, List.map_mergeSort]
  intros
  rfl

theorem active?_rename :
    (store.rename naming).active? conversation =
      (store.active? conversation).map (Execution.rename naming) := by
  simp only [active?, rowsOf, rename, List.filter_map, byRecency_rename, List.head?_map,
    Option.map_map]
  rfl

theorem latest?_rename :
    (store.rename naming).latest? conversation flow =
      (store.latest? conversation flow).map (Execution.rename naming) := by
  simp only [latest?, rename, List.filter_map, byRecency_rename, List.head?_map,
    Option.map_map]
  rfl

/-- Different ids stay different. -/
theorem named_rename
    (injective : Function.Injective naming)
    (id : String) :
    (fun row : ExecutionRow => row.id == naming id) ∘ ExecutionRow.rename naming =
      fun row => row.id == id := by
  funext row
  simp [ExecutionRow.rename, injective.eq_iff]

theorem byId?_rename (injective : Function.Injective naming) :
    (store.rename naming).byId? (naming id) =
      (store.byId? id).map (Execution.rename naming) := by
  simp only [byId?, rename, List.find?_map, named_rename injective, Option.map_map]
  rfl

theorem insertActive_rename (injective : Function.Injective naming) :
    (store.rename naming).insertActive ⟨stamp.now, naming stamp.freshId⟩ conversation flow node
        waiting =
      (store.insertActive stamp conversation flow node waiting).rename naming := by
  have used_eq : (store.rename naming).executions.any (fun row => row.id == naming stamp.freshId) =
      store.executions.any fun row => row.id == stamp.freshId := by
    rw [rename, List.any_map, named_rename injective]
  unfold insertActive
  rw [isActiveIn_rename, used_eq]
  split
  · rfl
  · simp [rename, ExecutionRow.rename]

/-- To change some rows is to change the same rows under other ids. -/
theorem map_ite_rename
    {chosen sought : ExecutionRow → Prop} [DecidablePred chosen] [DecidablePred sought]
    (chosen_iff : ∀ row, chosen (row.rename naming) ↔ sought row)
    (alike : ∀ row : ExecutionRow, change (row.rename naming) = (change row).rename naming)
    (rows : List ExecutionRow) :
    ((rows.map (ExecutionRow.rename naming)).map fun row =>
        if chosen row then change row else row) =
      (rows.map fun row => if sought row then change row else row).map
        (ExecutionRow.rename naming) := by
  rw [List.map_map, List.map_map]
  apply List.map_congr_left
  intro row _
  simp only [Function.comp, chosen_iff]
  split
  · exact alike row
  · rfl

theorem updateActive_rename
    (alike : ∀ row : ExecutionRow, change (row.rename naming) = (change row).rename naming) :
    (store.rename naming).updateActive conversation flow change =
      (store.updateActive conversation flow change).rename naming := by
  unfold updateActive rename
  congr 1
  exact map_ite_rename (fun _ => Iff.rfl) alike store.executions

theorem updateById_rename
    (injective : Function.Injective naming)
    (alike : ∀ row : ExecutionRow, change (row.rename naming) = (change row).rename naming) :
    (store.rename naming).updateById (naming id) change =
      (store.updateById id change).rename naming := by
  unfold updateById rename
  congr 1
  exact map_ite_rename (fun _ => injective.eq_iff) alike store.executions

theorem create_rename (injective : Function.Injective naming) :
    (store.rename naming).create ⟨stamp.now, naming stamp.freshId⟩ conversation flow node =
      ((store.create stamp conversation flow node).1.map (Execution.rename naming),
        (store.create stamp conversation flow node).2.rename naming) := by
  simp only [create, insertActive_rename injective, activeIn?_rename]
  cases (store.insertActive stamp conversation flow node false).activeIn? conversation flow <;> rfl

theorem advance_rename (injective : Function.Injective naming) :
    (store.rename naming).advance ⟨stamp.now, naming stamp.freshId⟩ conversation flow node waiting =
      (store.advance stamp conversation flow node waiting).rename naming := by
  unfold advance
  rw [isActiveIn_rename]
  split
  · exact updateActive_rename fun _ => rfl
  · exact insertActive_rename injective

theorem setWaiting_rename :
    (store.rename naming).setWaiting now conversation flow waiting =
      ((store.setWaiting now conversation flow waiting).1,
        (store.setWaiting now conversation flow waiting).2.rename naming) := by
  unfold setWaiting
  rw [isActiveIn_rename]
  split
  · exact congrArg (Prod.mk _) (updateActive_rename fun _ => rfl)
  · rfl

theorem complete_rename :
    (store.rename naming).complete now conversation flow =
      (store.complete now conversation flow).rename naming :=
  updateActive_rename fun _ => rfl

theorem setStage_rename
    (injective : Function.Injective naming)
    (stage : Option String) :
    (store.rename naming).setStage now (naming id) stage =
      (store.setStage now id stage).rename naming :=
  updateById_rename injective fun _ => rfl

theorem saveVariables_rename
    (injective : Function.Injective naming)
    (vars : Keyed String) :
    (store.rename naming).saveVariables now (naming id) vars =
      (store.saveVariables now id vars).rename naming :=
  updateById_rename injective fun _ => rfl

theorem acquireAt_rename :
    (store.rename naming).acquireAt conversation now stale =
      ((store.acquireAt conversation now stale).1,
        (store.acquireAt conversation now stale).2.rename naming) := by
  have lock_eq : (store.rename naming).lock? conversation = store.lock? conversation := rfl
  unfold acquireAt
  rw [lock_eq]
  split
  · rfl
  · split <;> rfl

end Store
end ChatFlow
