import ChatFlow.Proofs.Store.Rows
import ChatFlow.Proofs.Store.Variables
import ChatFlow.Proofs.Time.Timestamp
import ChatFlow.Store.Records

/-!
# Groups of columns

The columns of an execution fall into groups: its position, its stage and its captured fields.
The history is a table of its own.  A write belongs to one group, and touches no other.  So writes
of different groups may come in either order: neither is lost, and both return what they return
anyway.
-/

namespace ChatFlow

/-- A row but for the time of its last change. -/
def ExecutionRow.undated (row : ExecutionRow) : ExecutionRow :=
  { row with updated := "" }

namespace Store

/-- The store but for the times of the last changes of executions. -/
def undated (store : Store) : Store :=
  { store with executions := store.executions.map ExecutionRow.undated }

/-- What is written together. -/
inductive ColumnGroup where
  /-- Where an execution stands and stood before, whether it waits, and whether it still runs. -/
  | position
  /-- The stage. -/
  | stage
  /-- The captured fields. -/
  | variables
  /-- The history. -/
  | history
deriving DecidableEq

/-- A row but for the columns of a group and the time of its last change. -/
def ColumnGroup.erase : ColumnGroup → ExecutionRow → ExecutionRow
  | .position, row =>
      { row with node := "", last := none, waiting := false, status := .active, updated := "" }
  | .stage, row => { row with stage := none, updated := "" }
  | .variables, row => { row with vars := "", updated := "" }
  | .history, row => row

/-- A write of one group. -/
inductive Write where
  | advance (conversation : Conversation) (flow node : String) (waiting : Bool)
  | setWaiting (conversation : Conversation) (flow : String) (waiting : Bool)
  | complete (conversation : Conversation) (flow : String)
  | setStage (id : String) (stage : Option String)
  | saveVariables (id : String) (vars : Keyed String)
  | appendHistory (conversation : Conversation) (entry : HistoryEntry)

namespace Write

/-- The group that a write belongs to. -/
def group : Write → ColumnGroup
  | .advance .. | .setWaiting .. | .complete .. => .position
  | .setStage .. => .stage
  | .saveVariables .. => .variables
  | .appendHistory .. => .history

/-- What a write returns, and the store after it. -/
def perform (stamp : Stamp) : Write → Store → Except Error Unit × Store
  | .advance conversation flow node waiting, store =>
      (.ok (), store.advance stamp conversation flow node waiting)
  | .setWaiting conversation flow waiting, store =>
      store.setWaiting stamp.now conversation flow waiting
  | .complete conversation flow, store => (.ok (), store.complete stamp.now conversation flow)
  | .setStage id stage, store => (.ok (), store.setStage stamp.now id stage)
  | .saveVariables id vars, store => (.ok (), store.saveVariables stamp.now id vars)
  | .appendHistory conversation entry, store => (.ok (), store.appendHistory conversation entry)

/-- The id that a write names. -/
def id? : Write → Option String
  | .setStage id _ | .saveVariables id _ => some id
  | _ => none

/-- The id under which a write may add a row. -/
def freshId? (stamp : Stamp) : Write → Option String
  | .advance .. => some stamp.freshId
  | _ => none

/-- The id of a row that a write may add is not the one that another write names. -/
def Foreign (write other : Write) (stamp : Stamp) : Prop :=
  ∀ id, other.id? = some id → write.freshId? stamp ≠ some id

/-- Fields that are written are a map, with its keys in order. -/
def IsProper : Write → Prop
  | .saveVariables _ vars => vars.Sorted
  | _ => True

/-- Whether a write is about an execution. -/
def owns : Write → Execution → Bool
  | .advance conversation flow .., execution | .setWaiting conversation flow _, execution
  | .complete conversation flow, execution =>
      execution.conversation == conversation && execution.flow == flow && execution.isActive
  | .setStage id _, execution | .saveVariables id _, execution => execution.id == id
  | .appendHistory .., _ => false

/-- What a write makes of an execution that it is about, at a time as that is read back. -/
def effect (now : Instant) : Write → Execution → Execution
  | .advance _ _ node waiting, execution =>
      { execution with last := some execution.node, node, waiting, updated := now }
  | .setWaiting _ _ waiting, execution => { execution with waiting, updated := now }
  | .complete .., execution =>
      { execution with
        status := .completed, last := some execution.node, node := "end", waiting := false,
        updated := now }
  | .setStage _ stage, execution => { execution with stage, updated := now }
  | .saveVariables _ vars, execution => { execution with vars, updated := now }
  | .appendHistory .., execution => execution

/-- What is read of an execution after a write. -/
def shown (write : Write) (now : Instant) (execution : Execution) : Execution :=
  if write.owns execution then write.effect (Timestamp.parse (Timestamp.print now)) execution
  else execution

/-- The entries that a write adds to the history. -/
def entries : Write → List HistoryRow
  | .appendHistory conversation entry => [HistoryRow.ofEntry conversation entry]
  | _ => []

/-! ## Rows -/

/-- What a write makes of a row that it is about. -/
def revise (now : Instant) : Write → ExecutionRow → ExecutionRow
  | .advance _ _ node waiting, row => row.moved now node waiting
  | .setWaiting _ _ waiting, row => { row with waiting, updated := Timestamp.print now }
  | .complete .., row =>
      { row with
        status := .completed, last := some row.node, node := "end", waiting := false,
        updated := Timestamp.print now }
  | .setStage _ stage, row => { row with stage, updated := Timestamp.print now }
  | .saveVariables _ vars, row =>
      { row with vars := encodeVariables vars, updated := Timestamp.print now }
  | .appendHistory .., row => row

/-- What a write makes of any row. -/
def change (write : Write) (now : Instant) (row : ExecutionRow) : ExecutionRow :=
  if write.owns row.toExecution then write.revise now row else row

/-- The rows that a write adds, one at most. -/
def added (stamp : Stamp) : Write → Store → List ExecutionRow
  | .advance conversation flow node waiting, store =>
      if store.isActiveIn conversation flow ||
        store.executions.any (fun row => row.id == stamp.freshId) then []
      else [{ freshRow stamp conversation flow node with waiting }]
  | _, _ => []

variable {write first second : Write} {stamp firstStamp secondStamp : Stamp}
  {now firstNow secondNow : Instant} {row : ExecutionRow} {store : Store}
  {conversation other : Conversation} {flow node id : String} {waiting : Bool}

theorem change_of_owns (owns : write.owns row.toExecution = true) :
    write.change now row = write.revise now row :=
  if_pos owns

theorem change_of_not_owns (foreign : write.owns row.toExecution = false) :
    write.change now row = row :=
  if_neg (Bool.eq_false_iff.mp foreign)

@[simp] theorem id_change : (write.change now row).id = row.id := by
  unfold change
  split
  · cases write <;> rfl
  · rfl

/-- A write leaves all columns but those of its group. -/
theorem erase_change :
    write.group.erase (write.change now row) = write.group.erase row := by
  unfold change
  split
  · cases write <;> rfl
  · rfl

/-- What is read of a row after a write. -/
theorem toExecution_change (proper : write.IsProper) :
    (write.change now row).toExecution = write.shown now row.toExecution := by
  unfold change shown
  split
  · cases write with
    | saveVariables id vars =>
        simp only [revise, effect, ExecutionRow.toExecution,
          decodeVariables_encodeVariables (show vars.Sorted from proper)]
    | _ => rfl
  · rfl

/-! ## Tables -/

/-- Where no row is a write's own, it changes none. -/
theorem map_change_of_idle
    (idle : ∀ row ∈ store.executions, write.owns row.toExecution = false) :
    store.executions.map (write.change now) = store.executions := by
  rw [List.map_congr_left fun row member => change_of_not_owns (idle row member)]
  exact List.map_id _

/-- A move of a running execution changes no row where none runs. -/
theorem map_change_of_inactive
    (inactive : store.isActiveIn conversation flow = false)
    (owns_eq : ∀ row : ExecutionRow, write.owns row.toExecution = row.runsIn conversation flow) :
    store.executions.map (write.change now) = store.executions := by
  refine map_change_of_idle fun row member => ?_
  rw [owns_eq]
  exact Bool.eq_false_iff.mpr (List.any_eq_false.mp inactive row member)

/-- A write that names an id changes the row with that id. -/
theorem map_change_of_id
    (owns_eq : ∀ row : ExecutionRow, write.owns row.toExecution = (row.id == id)) :
    store.executions.map (write.change now) =
      (store.updateById id (write.revise now)).executions := by
  refine List.map_congr_left fun row _ => ?_
  simp only [change, owns_eq, beq_iff_eq]

theorem insertActive_eq :
    store.insertActive stamp conversation flow node waiting =
      { store with
        executions :=
          store.executions ++ (advance conversation flow node waiting).added stamp store } := by
  unfold insertActive added
  dsimp only
  split
  · rw [List.append_nil]
  · rfl

/-- A write changes rows one by one, may add a row, and may add to the history. -/
theorem snd_perform (write : Write) (stamp : Stamp) (store : Store) :
    (write.perform stamp store).2 =
      { store with
        executions := store.executions.map (write.change stamp.now) ++ write.added stamp store
        history := store.history ++ write.entries } := by
  cases write with
  | advance conversation flow node waiting =>
      simp only [perform, Store.advance, entries, List.append_nil]
      cases runs : store.isActiveIn conversation flow with
      | true =>
          simp only [added, runs, Bool.true_or, if_true, List.append_nil]
          rfl
      | false =>
          rw [map_change_of_inactive runs fun _ => rfl, insertActive_eq]
          rfl
  | setWaiting conversation flow waiting =>
      simp only [perform, Store.setWaiting, added, entries, List.append_nil]
      cases runs : store.isActiveIn conversation flow with
      | true => rfl
      | false =>
          rw [map_change_of_inactive runs fun _ => rfl]
          rfl
  | complete conversation flow =>
      simp only [perform, added, entries, List.append_nil]
      rfl
  | setStage id stage =>
      rw [map_change_of_id fun _ => rfl]
      simp only [perform, added, entries, List.append_nil]
      rfl
  | saveVariables id vars =>
      rw [map_change_of_id fun _ => rfl]
      simp only [perform, added, entries, List.append_nil]
      rfl
  | appendHistory conversation entry =>
      rw [map_change_of_idle fun _ _ => rfl]
      simp only [perform, added, List.append_nil]
      rfl

/-- A write returns an error only when it is to park or unpark an execution and none runs. -/
theorem fst_perform (write : Write) (stamp : Stamp) (store : Store) :
    (write.perform stamp store).1 =
      match write with
      | .setWaiting conversation flow _ =>
          if store.isActiveIn conversation flow then .ok ()
          else .error (.executionNotFound (conversation.address ++ " in flow " ++ flow))
      | _ => .ok () := by
  cases write with
  | setWaiting conversation flow waiting =>
      simp only [perform, Store.setWaiting]
      split <;> rfl
  | _ => rfl

/-! ## Two writes -/

/-- What is about an execution is so whatever a write of another group made of it. -/
theorem owns_change (different : first.group ≠ second.group) :
    second.owns (first.change now row).toExecution = second.owns row.toExecution := by
  unfold change
  split
  · cases first <;> cases second <;>
      first
      | exact (different rfl).elim
      | simp only [owns, revise, ExecutionRow.moved, ExecutionRow.toExecution, Execution.isActive]
  · rfl

/-- Writes of different groups revise different columns. -/
theorem undated_revise_revise (different : first.group ≠ second.group) :
    (second.revise secondNow (first.revise firstNow row)).undated =
      (first.revise firstNow (second.revise secondNow row)).undated := by
  cases first <;> cases second <;>
    first
    | exact (different rfl).elim
    | simp only [revise, ExecutionRow.moved, ExecutionRow.undated]

/-- Writes of different groups make the same of a row in either order, but for the time. -/
theorem undated_change_change (different : first.group ≠ second.group) :
    (second.change secondNow (first.change firstNow row)).undated =
      (first.change firstNow (second.change secondNow row)).undated := by
  have secondOwns : second.owns (first.change firstNow row).toExecution = _ :=
    owns_change different
  have firstOwns : first.owns (second.change secondNow row).toExecution = _ :=
    owns_change different.symm
  cases ownsFirst : first.owns row.toExecution with
  | false =>
      rw [change_of_not_owns ownsFirst, change_of_not_owns (firstOwns.trans ownsFirst)]
  | true =>
      cases ownsSecond : second.owns row.toExecution with
      | false =>
          rw [change_of_not_owns ownsSecond, change_of_not_owns (secondOwns.trans ownsSecond)]
      | true =>
          rw [change_of_owns (secondOwns.trans ownsSecond), change_of_owns ownsFirst,
            change_of_owns (firstOwns.trans ownsFirst), change_of_owns ownsSecond]
          exact undated_revise_revise different

/-- Only a position write adds a row. -/
theorem added_of_ne (notPosition : write.group ≠ .position) : write.added stamp store = [] := by
  cases write with
  | advance => exact (notPosition rfl).elim
  | _ => rfl

/-- Whether an execution runs does not depend on writes of other groups. -/
theorem isActiveIn_perform (notPosition : write.group ≠ .position) :
    (write.perform stamp store).2.isActiveIn conversation flow =
      store.isActiveIn conversation flow := by
  have owns_eq (row : ExecutionRow) :
      (write.change stamp.now row).runsIn conversation flow = row.runsIn conversation flow :=
    show (complete conversation flow).owns (write.change stamp.now row).toExecution = _ from
      owns_change notPosition
  rw [snd_perform, added_of_ne notPosition, List.append_nil]
  simp only [isActiveIn, List.any_map, Function.comp_def, owns_eq]

/-- The row that a write adds does not depend on writes of other groups. -/
theorem added_perform (different : first.group ≠ second.group) :
    first.added firstStamp (second.perform secondStamp store).2 =
      first.added firstStamp store := by
  cases first with
  | advance conversation flow node waiting =>
      have notPosition : second.group ≠ .position := different.symm
      have taken : (second.perform secondStamp store).2.executions.any
            (fun row => row.id == firstStamp.freshId) =
          store.executions.any fun row => row.id == firstStamp.freshId := by
        rw [snd_perform, added_of_ne notPosition, List.append_nil]
        simp only [List.any_map, Function.comp_def, id_change]
      simp only [added, isActiveIn_perform notPosition, taken]
  | _ => rfl

/-- A write of another group is not about a row that is added under a new id. -/
theorem map_change_added
    (different : first.group ≠ second.group)
    (foreign : first.Foreign second stamp) :
    (first.added stamp store).map (second.change now) = first.added stamp store := by
  cases first with
  | advance conversation flow node waiting =>
      have unowned : second.owns
          ({ freshRow stamp conversation flow node with waiting } : ExecutionRow).toExecution =
            false := by
        cases second with
        | advance | setWaiting | complete => exact (different rfl).elim
        | appendHistory => rfl
        | setStage id | saveVariables id =>
            exact beq_eq_false_iff_ne.mpr fun same => foreign id rfl (congrArg some same)
      dsimp only [added]
      split
      · rfl
      · rw [List.map_singleton, change_of_not_owns unowned]
  | _ => rfl

/-- What a write returns does not depend on writes of other groups. -/
theorem fst_perform_perform (different : first.group ≠ second.group) :
    (first.perform firstStamp (second.perform secondStamp store).2).1 =
      (first.perform firstStamp store).1 := by
  rw [fst_perform, fst_perform]
  cases first with
  | setWaiting conversation flow waiting =>
      have notPosition : second.group ≠ .position := different.symm
      simp only [isActiveIn_perform notPosition]
  | _ => rfl

/-- Of two writes of different groups only one adds a row, if any does, and only one adds to the
history. -/
theorem append_comm_of_ne (different : first.group ≠ second.group) :
    first.added firstStamp store ++ second.added secondStamp store =
        second.added secondStamp store ++ first.added firstStamp store ∧
      first.entries ++ second.entries = second.entries ++ first.entries := by
  constructor
  · by_cases position : first.group = .position
    · have notPosition : second.group ≠ .position := position ▸ different.symm
      rw [added_of_ne notPosition, List.append_nil, List.nil_append]
    · rw [added_of_ne position, List.append_nil, List.nil_append]
  · cases first with
    | appendHistory =>
        cases second with
        | appendHistory => exact (different rfl).elim
        | _ => rfl
    | _ => exact (List.append_nil _).symm

/-- Writes of different groups leave the same tables in either order, but for the times. -/
theorem undated_perform_perform
    (different : first.group ≠ second.group)
    (firstForeign : first.Foreign second firstStamp)
    (secondForeign : second.Foreign first secondStamp) :
    (second.perform secondStamp (first.perform firstStamp store).2).2.undated =
      (first.perform firstStamp (second.perform secondStamp store).2).2.undated := by
  have comm : first.added firstStamp store ++ second.added secondStamp store = _ ∧ _ :=
    append_comm_of_ne different
  obtain ⟨added_comm, entries_comm⟩ := comm
  have rows : ((store.executions.map (first.change firstStamp.now)).map
        (second.change secondStamp.now)).map ExecutionRow.undated =
      ((store.executions.map (second.change secondStamp.now)).map
        (first.change firstStamp.now)).map ExecutionRow.undated := by
    simp only [List.map_map]
    exact List.map_congr_left fun row _ => undated_change_change different
  rw [snd_perform second, snd_perform first firstStamp (second.perform secondStamp store).2,
    added_perform different, added_perform different.symm]
  simp only [snd_perform, undated, List.map_append (f := first.change firstStamp.now),
    List.map_append (f := second.change secondStamp.now), map_change_added different firstForeign,
    map_change_added different.symm secondForeign, List.append_assoc, entries_comm, added_comm]
  rw [List.map_append, rows, ← List.map_append]

/-! ## One write -/

/-- A write is about one row at most. -/
theorem eq_of_owns
    {another : ExecutionRow}
    (kept : store.WellKept)
    (member : row ∈ store.executions)
    (otherMember : another ∈ store.executions)
    (owns : write.owns row.toExecution = true)
    (ownsOther : write.owns another.toExecution = true) :
    row = another := by
  have running {conversation : Conversation} {flow : String}
      (runs : row.runsIn conversation flow = true)
      (runsOther : another.runsIn conversation flow = true) : row = another := by
    obtain ⟨rfl, rfl, active⟩ := ExecutionRow.runsIn_iff.mp runs
    obtain ⟨sameConversation, sameFlow, activeOther⟩ := ExecutionRow.runsIn_iff.mp runsOther
    exact kept.unique row member another otherMember active activeOther sameConversation.symm
      sameFlow.symm
  cases write with
  | advance | setWaiting | complete => exact running owns ownsOther
  | setStage id | saveVariables id =>
      exact kept.eq_of_id member otherMember
        ((beq_iff_eq.mp owns).trans (beq_iff_eq.mp ownsOther).symm)
  | appendHistory => cases owns

/-- What a write touches, and that it leaves everything else alone. -/
structure Frames (write : Write) (stamp : Stamp) (before after : Store) : Prop where
  locks_eq : after.locks = before.locks
  captures_eq : after.captures = before.captures
  history_eq : after.history = before.history ++ write.entries
  /-- Only rows that the write is about are changed, and only in the columns of its group.  A row is
  added only for an execution that is moved and does not run. -/
  executions_eq : ∃ change added,
    after.executions = before.executions.map change ++ added ∧
    (∀ row : ExecutionRow, write.owns row.toExecution = false → change row = row) ∧
    (∀ row, write.group.erase (change row) = write.group.erase row) ∧
    (added = [] ∨ ∃ conversation flow node waiting,
      write = .advance conversation flow node waiting ∧
      before.isActiveIn conversation flow = false ∧
      added = [{ freshRow stamp conversation flow node with waiting }])
  /-- Where rows are well kept, the write is about one row at most. -/
  unique : before.WellKept → ∀ row ∈ before.executions, ∀ another ∈ before.executions,
    write.owns row.toExecution = true → write.owns another.toExecution = true → row = another

theorem frames_perform (write : Write) (stamp : Stamp) (store : Store) :
    write.Frames stamp store (write.perform stamp store).2 := by
  rw [snd_perform]
  refine ⟨rfl, rfl, rfl, ⟨write.change stamp.now, write.added stamp store, rfl,
    fun row => change_of_not_owns, fun row => erase_change, ?_⟩,
    fun kept row member another => eq_of_owns kept member⟩
  cases write with
  | advance conversation flow node waiting =>
      dsimp only [added]
      split
      · exact .inl rfl
      · rename_i free
        rw [Bool.or_eq_true, not_or, Bool.not_eq_true] at free
        exact .inr ⟨conversation, flow, node, waiting, rfl, free.1, rfl⟩
  | _ => exact .inl rfl

/-- After a write the execution with an id is read as what the write makes of it. -/
theorem byId?_perform
    (proper : write.IsProper)
    (foreign : write.freshId? stamp ≠ some id) :
    (write.perform stamp store).2.byId? id = (store.byId? id).map (write.shown stamp.now) := by
  have notAdded : (write.added stamp store).find? (fun row => row.id == id) = none := by
    cases write with
    | advance conversation flow node waiting =>
        dsimp only [added]
        split
        · rfl
        · refine List.find?_eq_none.mpr fun row member => ?_
          rw [List.mem_singleton.mp member, beq_iff_eq]
          exact fun same => foreign (congrArg some same)
    | _ => rfl
  rw [snd_perform]
  simp only [byId?, List.find?_append, notAdded, Option.or_none, List.find?_map,
    Function.comp_def, id_change, Option.map_map, toExecution_change proper]

end Write

/-- An execution that is moved is read where it was moved to, be it that it ran before or that it
begins there. -/
theorem activeIn?_advance
    {store : Store}
    {stamp : Stamp}
    (fresh : ∀ row ∈ store.executions, row.id ≠ stamp.freshId)
    (conversation : Conversation)
    (flow node : String)
    (waiting : Bool) :
    (store.advance stamp conversation flow node waiting).activeIn? conversation flow =
      some (((store.activeIn? conversation flow).map
        ((Write.advance conversation flow node waiting).shown stamp.now)).getD
          ({ freshRow stamp conversation flow node with waiting } : ExecutionRow).toExecution) := by
  have runs_eq (row : ExecutionRow) :
      ((Write.advance conversation flow node waiting).change stamp.now row).runsIn conversation
        flow = row.runsIn conversation flow := by
    unfold Write.change
    split
    · simp only [Write.revise, ExecutionRow.moved, ExecutionRow.runsIn, ExecutionRow.belongsTo]
    · rfl
  rw [show store.advance stamp conversation flow node waiting = _ from
    Write.snd_perform (.advance conversation flow node waiting) stamp store]
  simp only [activeIn?, List.find?_append, List.find?_map, Function.comp_def, runs_eq]
  cases found : store.executions.find? fun row => row.runsIn conversation flow with
  | some row =>
      simp only [Option.map_some, Option.some_or, Option.getD_some]
      have proper : (Write.advance conversation flow node waiting).IsProper := trivial
      rw [Write.toExecution_change proper]
  | none =>
      have inactive : store.isActiveIn conversation flow = false :=
        List.any_eq_false.mpr (List.find?_eq_none.mp found)
      have free : (store.executions.any fun row => row.id == stamp.freshId) = false := by
        simpa using fresh
      have runs : ({ freshRow stamp conversation flow node with waiting } : ExecutionRow).runsIn
          conversation flow = true :=
        ExecutionRow.runsIn_iff.mpr ⟨rfl, rfl, rfl⟩
      simp only [Write.added, inactive, free, Bool.or_false, Bool.false_eq_true, if_false,
        Option.map_none, Option.none_or, List.find?_singleton, runs, if_true, Option.map_some,
        Option.getD_none]

/-- An entry is read back as it was written, but for a time that has no stored form. -/
theorem toEntry_ofEntry (conversation : Conversation) (entry : HistoryEntry) :
    (HistoryRow.ofEntry conversation entry).toEntry =
      { entry with time := Timestamp.parse (Timestamp.print entry.time) } := by
  simp only [HistoryRow.ofEntry, HistoryRow.toEntry]

/-- An entry is read back behind those that were read before. -/
theorem readHistory_appendHistory
    {limit : Nat}
    (small : limit < largestLimit)
    (store : Store)
    (conversation other : Conversation)
    (entry : HistoryEntry) :
    (store.appendHistory conversation entry).readHistory other (limit + 1) =
      if other = conversation then
        store.readHistory conversation limit ++ [(HistoryRow.ofEntry conversation entry).toEntry]
      else store.readHistory other (limit + 1) := by
  have small_le : limit ≤ largestLimit := Nat.le_of_lt small
  have next_le : limit + 1 ≤ largestLimit := small
  by_cases same : other = conversation
  · subst same
    have rows : ((store.appendHistory other entry).historyOf other).reverse =
        HistoryRow.ofEntry other entry :: (store.historyOf other).reverse := by
      simp [appendHistory, historyOf, HistoryRow.ofEntry]
    simp only [readHistory, limited, small_le, next_le, if_true, rows, List.take_succ_cons,
      List.reverse_cons, List.map_append, List.map_singleton]
  · have rows : (store.appendHistory conversation entry).historyOf other =
        store.historyOf other := by
      simp [appendHistory, historyOf, HistoryRow.ofEntry, Ne.symm same]
    rw [if_neg same, readHistory, rows, readHistory]

/-- Two writes of different groups return the same in either order, and leave the same tables but
for the times of last changes.  Every write touches the columns of its group only, of the one
execution that it is about, and its values are read back as they were written. -/
theorem disjoint_groups :
    (∀ (store : Store) (first second : Write) (firstStamp secondStamp : Stamp),
      first.group ≠ second.group → first.Foreign second firstStamp →
      second.Foreign first secondStamp →
      (first.perform firstStamp (second.perform secondStamp store).2).1 =
          (first.perform firstStamp store).1 ∧
        (second.perform secondStamp (first.perform firstStamp store).2).1 =
          (second.perform secondStamp store).1 ∧
        (second.perform secondStamp (first.perform firstStamp store).2).2.undated =
          (first.perform firstStamp (second.perform secondStamp store).2).2.undated) ∧
    (∀ store stamp (write : Write),
      write.Frames stamp store (write.perform stamp store).2 ∧
      ∀ id, write.IsProper → write.freshId? stamp ≠ some id →
        (write.perform stamp store).2.byId? id =
          (store.byId? id).map (write.shown stamp.now)) ∧
    (∀ (store : Store) stamp conversation flow node waiting,
      (∀ row ∈ store.executions, row.id ≠ stamp.freshId) →
      (store.advance stamp conversation flow node waiting).activeIn? conversation flow =
        some (((store.activeIn? conversation flow).map
          ((Write.advance conversation flow node waiting).shown stamp.now)).getD
            ({ freshRow stamp conversation flow node with waiting } : ExecutionRow).toExecution)) ∧
    ∀ (store : Store) conversation entry limit, limit < largestLimit →
      ∃ read : HistoryEntry,
        (store.appendHistory conversation entry).readHistory conversation (limit + 1) =
          store.readHistory conversation limit ++ [read] ∧
        { read with time := entry.time } = entry ∧
        (entry.time.IsStored → read = entry) := by
  refine ⟨?_, ?_, ?_, ?_⟩
  · intro store first second firstStamp secondStamp different firstForeign secondForeign
    exact ⟨Write.fst_perform_perform different, Write.fst_perform_perform different.symm,
      Write.undated_perform_perform different firstForeign secondForeign⟩
  · intro store stamp write
    exact ⟨Write.frames_perform write stamp store,
      fun id proper foreign => Write.byId?_perform proper foreign⟩
  · intro store stamp conversation flow node waiting fresh
    exact activeIn?_advance fresh conversation flow node waiting
  · intro store conversation entry limit small
    refine ⟨(HistoryRow.ofEntry conversation entry).toEntry, ?_, ?_, fun stored => ?_⟩
    · rw [readHistory_appendHistory small, if_pos rfl]
    · rw [toEntry_ofEntry]
    · rw [toEntry_ofEntry, Timestamp.parse_print stored]

/-! ## An execution begins again -/

/-- A store with an execution that is complete. -/
def concluded : Store where
  executions :=
    [{ freshRow ⟨⟨0⟩, "exec-1"⟩ ⟨"p1", "d1"⟩ "f1" "end" with
       status := .completed, last := some "m" }]

/-- The conversation begins the flow again. -/
def restarting : Write :=
  .advance ⟨"p1", "d1"⟩ "f1" "s" true

/-- The execution that is complete gets an empty stage. -/
def labelling : Write :=
  .setStage "exec-1" (some "")

/-- What was said at the time of both. -/
def farewell : HistoryEntry where
  user := "bye"
  bot := ""
  stage := some ""
  time := ⟨3⟩

theorem disjoint_groups_concluded :
    (restarting.group ≠ labelling.group ∧
      (labelling.perform ⟨⟨2⟩, "exec-3"⟩
          (restarting.perform ⟨⟨1⟩, "exec-2"⟩ concluded).2).2.undated =
        (restarting.perform ⟨⟨1⟩, "exec-2"⟩
          (labelling.perform ⟨⟨2⟩, "exec-3"⟩ concluded).2).2.undated) ∧
    ((labelling.perform ⟨⟨2⟩, "exec-3"⟩ concluded).2.byId? "exec-1").map Execution.stage =
      some (some "") ∧
    ((restarting.perform ⟨⟨1⟩, "exec-2"⟩ concluded).2.activeIn? ⟨"p1", "d1"⟩ "f1").map
      (fun execution => (execution.id, execution.node, execution.stage)) =
        some ("exec-2", "s", none) ∧
    (concluded.appendHistory ⟨"p1", "d1"⟩ farewell).readHistory ⟨"p1", "d1"⟩ 1 = [farewell] := by
  obtain ⟨commute, touch, moved, said⟩ := disjoint_groups
  have different : restarting.group ≠ labelling.group := by decide
  refine ⟨⟨different, ?_⟩, ?_, ?_, ?_⟩
  · refine (commute concluded restarting labelling _ _ different ?_ ?_).2.2
    · rintro id ⟨⟩
      decide
    · exact nofun
  · rw [(touch concluded ⟨⟨2⟩, "exec-3"⟩ labelling).2 "exec-1" trivial nofun]
    decide +kernel
  · refine (congrArg (Option.map _)
      (moved concluded ⟨⟨1⟩, "exec-2"⟩ ⟨"p1", "d1"⟩ "f1" "s" true (by decide))).trans ?_
    decide +kernel
  · obtain ⟨read, read_eq, _, exact_of_stored⟩ :=
      said concluded ⟨"p1", "d1"⟩ farewell 0 (by decide)
    rw [read_eq, exact_of_stored (by decide)]
    rfl

end Store
end ChatFlow
