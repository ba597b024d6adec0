import ChatFlow.Proofs.Store.Rows
import ChatFlow.Store.Database

/-!
# The lives of rows

Calls that change executions come to one database through any number of handles, in any order and
with whatever they are given.  A row that was once added is there from then on.  It may move about
while it runs; once it is completed it stays where it came to rest, and a new execution of its
conversation in its flow is another row.
-/

namespace ChatFlow

/-- What a row becomes in time. -/
structure ExecutionRow.Becomes (row later : ExecutionRow) : Prop where
  id_eq : later.id = row.id
  flow_eq : later.flow = row.flow
  conversation_eq : later.conversation = row.conversation
  created_eq : later.created = row.created
  /-- What is completed stays so, and stays behind the node where it stood last. -/
  rests : row.status = .completed → later.status = .completed ∧ later.last = row.last

/-- A completed row stands at the end and does not wait. -/
def ExecutionRow.IsAtRest (row : ExecutionRow) : Prop :=
  row.status = .completed → row.node = "end" ∧ row.waiting = false

namespace Store

/-- A call that changes executions. -/
inductive Deed where
  | create (conversation : Conversation) (flow node : String)
  | advance (conversation : Conversation) (flow node : String) (waiting : Bool)
  | setWaiting (conversation : Conversation) (flow : String) (waiting : Bool)
  | complete (conversation : Conversation) (flow : String)
  | setStage (id : String) (stage : Option String)
  | saveVariables (id : String) (vars : Keyed String)

/-- What a call returns, if it returns anything, and the store after it. -/
def Deed.perform (stamp : Stamp) : Deed → Store → Except Error (Option Execution) × Store
  | .create conversation flow node, store =>
    let (result, store) := store.create stamp conversation flow node
    (result.map some, store)
  | .advance conversation flow node waiting, store =>
    (.ok none, store.advance stamp conversation flow node waiting)
  | .setWaiting conversation flow waiting, store =>
    let (result, store) := store.setWaiting stamp.now conversation flow waiting
    (result.map fun _ => none, store)
  | .complete conversation flow, store => (.ok none, store.complete stamp.now conversation flow)
  | .setStage id stage, store => (.ok none, store.setStage stamp.now id stage)
  | .saveVariables id vars, store => (.ok none, store.saveVariables stamp.now id vars)

/-- A call that comes through some handle of a database. -/
structure Access where
  /-- When it comes, and the id of the row that it may add. -/
  stamp : Stamp
  deed : Deed
  /-- Whether another handle holds the database for writing at that moment. -/
  held : Bool := false

/-- What an access returns, and the store after it. -/
def Access.perform (access : Access) (store : Store) : Except Error (Option Execution) × Store :=
  let (result, database) :=
    ({ store, held := access.held } : Database).write (access.deed.perform access.stamp)
  (result, database.store)

/-- The store after some accesses. -/
def afterAll (store : Store) (accesses : List Access) : Store :=
  accesses.foldl (fun store access => (access.perform store).2) store

variable {store before after : Store} {row : ExecutionRow} {stamp : Stamp}
  {conversation : Conversation} {flow node : String} {accesses past future : List Access}

theorem afterAll_append (past future : List Access) :
    store.afterAll (past ++ future) = (store.afterAll past).afterAll future :=
  List.foldl_append

theorem afterAll_concat (past : List Access) (access : Access) :
    store.afterAll (past ++ [access]) = (access.perform (store.afterAll past)).2 := by
  rw [afterAll_append]
  rfl

/-! ## Continuing -/

/-- Every row is still there as what it became, and rows may have been added. -/
def Continues (before after : Store) : Prop :=
  ∃ change : ExecutionRow → ExecutionRow, ∃ added,
    after.executions = before.executions.map change ++ added ∧
      ∀ row ∈ before.executions, row.Becomes (change row)

end Store

namespace ExecutionRow.Becomes

variable {row middle later : ExecutionRow}

theorem refl (row : ExecutionRow) : row.Becomes row :=
  ⟨rfl, rfl, rfl, rfl, fun completed => ⟨completed, rfl⟩⟩

theorem trans (first : row.Becomes middle) (second : middle.Becomes later) :
    row.Becomes later where
  id_eq := second.id_eq.trans first.id_eq
  flow_eq := second.flow_eq.trans first.flow_eq
  conversation_eq := second.conversation_eq.trans first.conversation_eq
  created_eq := second.created_eq.trans first.created_eq
  rests completed := by
    obtain ⟨still, last_eq⟩ := first.rests completed
    obtain ⟨atLast, lastStill⟩ := second.rests still
    exact ⟨atLast, lastStill.trans last_eq⟩

end ExecutionRow.Becomes

namespace Store

variable {store before after : Store} {row : ExecutionRow} {stamp : Stamp} {deed : Deed}
  {conversation : Conversation} {flow node : String} {accesses past future : List Access}

theorem Continues.refl (store : Store) : store.Continues store :=
  ⟨id, [], by simp, fun row _ => .refl row⟩

theorem Continues.trans
    {middle : Store}
    (first : before.Continues middle)
    (second : middle.Continues after) :
    before.Continues after := by
  obtain ⟨change, added, middle_eq, becomes⟩ := first
  obtain ⟨further, last, after_eq, becomesThen⟩ := second
  refine ⟨further ∘ change, added.map further ++ last, ?_, ?_⟩
  · rw [after_eq, middle_eq, List.map_append, List.map_map, List.append_assoc]
  · intro row member
    refine (becomes row member).trans (becomesThen _ ?_)
    rw [middle_eq]
    exact List.mem_append_left _ (List.mem_map_of_mem member)

/-! ## What holds of a store -/

/-- The rows are well kept, those that are completed are at rest, and the ids are some that were
given out. -/
structure Orderly (given : List String) (store : Store) : Prop where
  kept : store.WellKept
  atRest : ∀ row ∈ store.executions, row.IsAtRest
  ids : ∀ row ∈ store.executions, row.id ∈ given

theorem orderly_empty : ({} : Store).Orderly [] :=
  ⟨wellKept_empty, by simp, by simp⟩

/-- A change of rows that they can live with. -/
structure Gentle (change : ExecutionRow → ExecutionRow) : Prop where
  settled : Settled change
  becomes : ∀ row : ExecutionRow, row.Becomes (change row)
  atRest : ∀ row : ExecutionRow, row.IsAtRest → (change row).IsAtRest

/-- What is done to running rows only is gentle when it leaves a row where it belongs. -/
theorem gentle_of_active
    (change : ExecutionRow → ExecutionRow)
    (settled : Settled change)
    (created_eq : ∀ row : ExecutionRow, (change row).created = row.created)
    (atRest : ∀ row : ExecutionRow, row.status = .active → (change row).IsAtRest)
    (conversation : Conversation)
    (flow : String) :
    Gentle fun row => if row.runsIn conversation flow = true then change row else row where
  settled := settled.ite fun row => row.runsIn conversation flow = true
  becomes row := by
    split
    · rename_i runs
      obtain ⟨_, _, active⟩ := ExecutionRow.runsIn_iff.mp runs
      exact ⟨settled.id_eq row, settled.flow_eq row, settled.conversation_eq row, created_eq row,
        fun completed => by rw [active] at completed; cases completed⟩
    · exact .refl row
  atRest row rests := by
    split
    · rename_i runs
      exact atRest row (ExecutionRow.runsIn_iff.mp runs).2.2
    · exact rests

/-- What is done to the row with an id is gentle when its status and its place stay. -/
theorem gentle_of_id
    (change : ExecutionRow → ExecutionRow)
    (becomes : ∀ row : ExecutionRow, row.Becomes (change row))
    (status_eq : ∀ row : ExecutionRow, (change row).status = row.status)
    (node_eq : ∀ row : ExecutionRow, (change row).node = row.node)
    (waiting_eq : ∀ row : ExecutionRow, (change row).waiting = row.waiting)
    (id : String) :
    Gentle fun row => if row.id = id then change row else row where
  settled := Settled.ite
    { id_eq := fun row => (becomes row).id_eq
      conversation_eq := fun row => (becomes row).conversation_eq
      flow_eq := fun row => (becomes row).flow_eq
      active := fun row active => (status_eq row).symm.trans active } fun row => row.id = id
  becomes row := by
    split
    · exact becomes row
    · exact .refl row
  atRest row rests := by
    split
    · intro completed
      rw [node_eq, waiting_eq]
      exact rests ((status_eq row).symm.trans completed)
    · exact rests

/-! ## One access -/

/-- What an access does to the rows: it changes them gently, or it adds one where none runs. -/
theorem Access.rows_perform
    (access : Access)
    (store : Store) :
    (∃ change, Gentle change ∧
      (access.perform store).2.executions = store.executions.map change) ∨
    ∃ conversation flow node waiting,
      (access.perform store).2 =
        store.insertActive access.stamp conversation flow node waiting := by
  have moving (conversation : Conversation) (flow node : String) (waiting : Bool) :
      Gentle fun row => if row.runsIn conversation flow = true then
        row.moved access.stamp.now node waiting else row :=
    gentle_of_active (fun row => row.moved access.stamp.now node waiting)
      ⟨fun _ => rfl, fun _ => rfl, fun _ => rfl, fun _ active => active⟩ (fun _ => rfl)
      (fun row active completed => by cases active.symm.trans completed) conversation flow
  have nothing : Gentle id :=
    ⟨⟨fun _ => rfl, fun _ => rfl, fun _ => rfl, fun _ active => active⟩, .refl,
      fun _ rests => rests⟩
  obtain ⟨stamp, deed, held⟩ := access
  cases held with
  | true => exact .inl ⟨id, nothing, (List.map_id _).symm⟩
  | false =>
    cases deed with
    | create conversation flow node =>
        refine .inr ⟨conversation, flow, node, false, ?_⟩
        simp only [perform, Database.write, Deed.perform, Store.create]
        cases (store.insertActive stamp conversation flow node false).activeIn? conversation flow
          <;> rfl
    | advance conversation flow node waiting =>
        by_cases runs : store.isActiveIn conversation flow = true
        · refine .inl ⟨_, moving conversation flow node waiting, ?_⟩
          simp [perform, Database.write, Deed.perform, Store.advance, runs, updateActive,
            ExecutionRow.moved]
        · refine .inr ⟨conversation, flow, node, waiting, ?_⟩
          simp [perform, Database.write, Deed.perform, Store.advance, runs]
    | setWaiting conversation flow waiting =>
        by_cases runs : store.isActiveIn conversation flow = true
        · refine .inl ⟨_, gentle_of_active
            (fun row => { row with waiting, updated := Timestamp.print stamp.now })
            ⟨fun _ => rfl, fun _ => rfl, fun _ => rfl, fun _ active => active⟩ (fun _ => rfl)
            (fun row active completed => by cases active.symm.trans completed)
            conversation flow, ?_⟩
          simp [perform, Database.write, Deed.perform, Store.setWaiting, runs, updateActive]
        · refine .inl ⟨id, nothing, ?_⟩
          simp [perform, Database.write, Deed.perform, Store.setWaiting, runs]
    | complete conversation flow =>
        exact .inl ⟨_, gentle_of_active
          (fun row => { row with
            status := .completed, last := some row.node, node := "end", waiting := false,
            updated := Timestamp.print stamp.now })
          ⟨fun _ => rfl, fun _ => rfl, fun _ => rfl, fun _ active => by cases active⟩
          (fun _ => rfl) (fun _ _ _ => ⟨rfl, rfl⟩) conversation flow, rfl⟩
    | setStage id stage =>
        exact .inl ⟨_, gentle_of_id
          (fun row => { row with stage, updated := Timestamp.print stamp.now })
          (fun _ => ⟨rfl, rfl, rfl, rfl, fun completed => ⟨completed, rfl⟩⟩)
          (fun _ => rfl) (fun _ => rfl) (fun _ => rfl) id, rfl⟩
    | saveVariables id vars =>
        exact .inl ⟨_, gentle_of_id
          (fun row => { row with
            vars := encodeVariables vars, updated := Timestamp.print stamp.now })
          (fun _ => ⟨rfl, rfl, rfl, rfl, fun completed => ⟨completed, rfl⟩⟩)
          (fun _ => rfl) (fun _ => rfl) (fun _ => rfl) id, rfl⟩

/-- Whatever an access does, the rows live on. -/
theorem Access.continues_perform
    (access : Access)
    (store : Store) :
    store.Continues (access.perform store).2 := by
  rcases access.rows_perform store with
    ⟨change, gentle, rows⟩ | ⟨conversation, flow, node, waiting, inserted⟩
  · exact ⟨change, [], by rw [rows, List.append_nil], fun row _ => gentle.becomes row⟩
  · rw [inserted]
    unfold insertActive
    split
    · exact .refl store
    · exact ⟨id, _, by rw [List.map_id], fun row _ => .refl row⟩

/-- An access leaves the store in order.  The only id that it can bring is its own. -/
theorem Orderly.perform
    {given : List String}
    (orderly : store.Orderly given)
    (access : Access) :
    (access.perform store).2.Orderly (given ++ [access.stamp.freshId]) := by
  have among {row : ExecutionRow} (member : row ∈ store.executions) :
      row.id ∈ given ++ [access.stamp.freshId] :=
    List.mem_append_left _ (orderly.ids row member)
  rcases access.rows_perform store with
    ⟨change, gentle, rows⟩ | ⟨conversation, flow, node, waiting, inserted⟩
  · refine ⟨orderly.kept.map gentle.settled rows, ?_, ?_⟩ <;> rw [rows] <;> intro row member <;>
      obtain ⟨old, oldMember, rfl⟩ := List.mem_map.mp member
    · exact gentle.atRest old (orderly.atRest old oldMember)
    · rw [gentle.settled.id_eq]
      exact among oldMember
  · rw [inserted]
    refine ⟨orderly.kept.insertActive, ?_, ?_⟩ <;> unfold insertActive <;> split
    · exact orderly.atRest
    · intro row member
      rcases List.mem_append.mp member with old | added
      · exact orderly.atRest row old
      · obtain rfl := List.mem_singleton.mp added
        exact fun completed => nomatch completed
    · exact fun row member => among member
    · intro row member
      rcases List.mem_append.mp member with old | added
      · exact among old
      · obtain rfl := List.mem_singleton.mp added
        exact List.mem_append_right _ (List.mem_singleton.mpr rfl)

/-! ## Creating -/

/-- The running rows of a conversation in a flow. -/
def running (store : Store) (conversation : Conversation) (flow : String) : List ExecutionRow :=
  store.executions.filter fun row => row.runsIn conversation flow

theorem WellKept.running_eq
    (kept : store.WellKept)
    (member : row ∈ store.executions)
    (runs : row.runsIn conversation flow = true) :
    store.running conversation flow = [row] := by
  refine List.perm_singleton.mp ((List.perm_ext_iff_of_nodup ?_ (List.nodup_singleton row)).mpr ?_)
  · exact (kept.nodup.of_map _).filter _
  · intro other
    rw [running, List.mem_filter, List.mem_singleton]
    constructor
    · rintro ⟨otherMember, otherRuns⟩
      obtain ⟨rfl, rfl, active⟩ := ExecutionRow.runsIn_iff.mp runs
      obtain ⟨sameConversation, sameFlow, otherActive⟩ := ExecutionRow.runsIn_iff.mp otherRuns
      exact kept.unique other otherMember row member otherActive active sameConversation sameFlow
    · rintro rfl
      exact ⟨member, runs⟩

theorem WellKept.length_running_le
    (kept : store.WellKept)
    (conversation : Conversation)
    (flow : String) :
    (store.running conversation flow).length ≤ 1 := by
  cases rows : store.running conversation flow with
  | nil => exact Nat.zero_le 1
  | cons row rest =>
      have first : row ∈ store.running conversation flow := rows ▸ List.mem_cons_self
      obtain ⟨member, runs⟩ := List.mem_filter.mp first
      rw [← rows, kept.running_eq member runs]
      exact Nat.le_refl 1

/-- The execution that is created is the one that runs; one that ran before is found as it was. -/
theorem create_of_fresh
    (kept : store.WellKept)
    (fresh : ∀ row ∈ store.executions, row.id ≠ stamp.freshId)
    (conversation : Conversation)
    (flow node : String) :
    ∃ row : ExecutionRow,
      (store.create stamp conversation flow node).1 = .ok row.toExecution ∧
      (store.create stamp conversation flow node).2.running conversation flow = [row] ∧
      (store.running conversation flow ≠ [] →
        (store.create stamp conversation flow node).2 = store) := by
  have present : ∃ row ∈ (store.insertActive stamp conversation flow node false).executions,
      row.runsIn conversation flow = true := by
    by_cases runs : store.isActiveIn conversation flow = true
    · rw [insertActive, if_pos (by rw [runs, Bool.true_or])]
      exact List.any_eq_true.mp runs
    · have free : ¬ store.executions.any (fun row => row.id == stamp.freshId) = true := by
        simpa using fresh
      rw [insertActive, if_neg (by rw [Bool.or_eq_true, not_or]; exact ⟨runs, free⟩)]
      exact ⟨_, List.mem_append_right _ (List.mem_singleton.mpr rfl),
        ExecutionRow.runsIn_iff.mpr ⟨rfl, rfl, rfl⟩⟩
  obtain ⟨row, member, runs⟩ := present
  have only := kept.insertActive.running_eq member runs
  have found : (store.insertActive stamp conversation flow node false).activeIn? conversation flow =
      some row.toExecution := by
    rw [activeIn?, ← List.head?_filter]
    exact congrArg (fun rows => rows.head?.map ExecutionRow.toExecution) only
  have created : store.create stamp conversation flow node =
      (.ok row.toExecution, store.insertActive stamp conversation flow node false) := by
    simp only [create, found]
  rw [created]
  refine ⟨row, rfl, only, fun some => ?_⟩
  obtain ⟨other, otherMember⟩ := List.exists_mem_of_ne_nil _ some
  obtain ⟨otherOld, otherRuns⟩ := List.mem_filter.mp otherMember
  have runs : store.isActiveIn conversation flow = true :=
    List.any_eq_true.mpr ⟨other, otherOld, otherRuns⟩
  rw [insertActive, if_pos (by rw [runs, Bool.true_or])]

/-! ## Any number of accesses -/

theorem continues_afterAll
    (store : Store)
    (accesses : List Access) :
    store.Continues (store.afterAll accesses) := by
  induction accesses generalizing store with
  | nil => exact .refl store
  | cons access rest continues =>
      exact (access.continues_perform store).trans (continues (access.perform store).2)

theorem Orderly.afterAll
    {given : List String}
    (orderly : store.Orderly given)
    (accesses : List Access) :
    (store.afterAll accesses).Orderly
      (given ++ accesses.map fun access => access.stamp.freshId) := by
  induction accesses generalizing store given with
  | nil =>
      rw [List.map_nil, List.append_nil]
      exact orderly
  | cons access rest keeps =>
      have later := keeps (orderly.perform access)
      rwa [List.append_assoc] at later

/-- The store that accesses to an empty one lead to. -/
def reached (accesses : List Access) : Store :=
  ({} : Store).afterAll accesses

theorem orderly_reached (accesses : List Access) :
    (reached accesses).Orderly (accesses.map fun access => access.stamp.freshId) :=
  orderly_empty.afterAll accesses

theorem reached_concat (past : List Access) (access : Access) :
    reached (past ++ [access]) = (access.perform (reached past)).2 :=
  afterAll_concat past access

/-- Whatever accesses come, with a new id for each, a conversation has one running row in a flow
at most.  Every row lives on, with its id, its flow, its conversation and the time when it was
added; once completed it stays completed, stands at the end, does not wait, and keeps the node
where it stood before.  What is created is the one running row, and the row that ran already stays
as it was. -/
theorem lives_of_accesses
    (accesses : List Access)
    (fresh : (accesses.map fun access => access.stamp.freshId).Nodup) :
    (∀ conversation flow, ((reached accesses).running conversation flow).length ≤ 1) ∧
    (∀ past future, accesses = past ++ future → (reached past).Continues (reached accesses)) ∧
    (∀ row ∈ (reached accesses).executions, row.IsAtRest) ∧
    ∀ past future access conversation flow node,
      accesses = past ++ access :: future →
      access.deed = .create conversation flow node → access.held = false →
      ∃ row : ExecutionRow,
        (access.perform (reached past)).1 = .ok (some row.toExecution) ∧
        (reached (past ++ [access])).running conversation flow = [row] ∧
        ((reached past).running conversation flow ≠ [] →
          reached (past ++ [access]) = reached past) := by
  refine ⟨(orderly_reached accesses).kept.length_running_le, ?_, (orderly_reached accesses).atRest,
    ?_⟩
  · rintro past future rfl
    rw [reached, reached, afterAll_append]
    exact continues_afterAll _ future
  · rintro past future ⟨stamp, _, _⟩ conversation flow node rfl rfl rfl
    have unused (row : ExecutionRow) (member : row ∈ (reached past).executions) :
        row.id ≠ stamp.freshId := by
      intro same
      rw [List.map_append, List.nodup_append] at fresh
      exact fresh.2.2 _ ((orderly_reached past).ids row member) _ List.mem_cons_self same
    obtain ⟨row, result, only, kept⟩ :=
      create_of_fresh (orderly_reached past).kept unused conversation flow node
    rw [reached_concat]
    exact ⟨row, congrArg (Except.map some) result, only, kept⟩

/-- An execution is created twice over, completed, and created again; in between another handle
holds the database. -/
def restarts : List Access :=
  [⟨⟨⟨0⟩, "exec-1"⟩, .create ⟨"p1", "d1"⟩ "f1" "s", false⟩,
   ⟨⟨⟨1⟩, "exec-2"⟩, .create ⟨"p1", "d1"⟩ "f1" "m", false⟩,
   ⟨⟨⟨2⟩, "exec-3"⟩, .advance ⟨"p1", "d1"⟩ "f1" "m" true, false⟩,
   ⟨⟨⟨3⟩, "exec-4"⟩, .complete ⟨"p1", "d1"⟩ "f1", true⟩,
   ⟨⟨⟨4⟩, "exec-5"⟩, .complete ⟨"p1", "d1"⟩ "f1", false⟩,
   ⟨⟨⟨5⟩, "exec-6"⟩, .create ⟨"p1", "d1"⟩ "f1" "s", false⟩]

/-- The first execution is completed and there for good, and the second is another one. -/
theorem lives_of_accesses_restarts :
    (restarts.map fun access => access.stamp.freshId).Nodup ∧
    ((reached restarts).executions.map fun row => (row.id, row.status, row.last)) =
      [("exec-1", .completed, some "m"), ("exec-6", .active, none)] ∧
    (reached (restarts.take 5)).Continues (reached restarts) :=
  have fresh : (restarts.map fun access => access.stamp.freshId).Nodup := by decide
  ⟨fresh, by decide +kernel,
    (lives_of_accesses restarts fresh).2.1 (restarts.take 5) (restarts.drop 5) rfl⟩

end Store
end ChatFlow
