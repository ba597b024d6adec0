import ChatFlow.Store.Executions
import Mathlib.Data.List.Nodup

/-!
# Rows of executions

A store is `WellKept` when no id repeats and no conversation has two running rows in one flow.
In such a store every operation on a running execution replaces one row.
-/

namespace ChatFlow

namespace ExecutionRow

/-- The row after its execution moved to a node. -/
def moved (row : ExecutionRow) (now : Instant) (node : String) (waiting : Bool) : ExecutionRow :=
  { row with last := some row.node, node, waiting, updated := Timestamp.print now }

/-- A row runs where it says that it runs. -/
theorem runsIn_iff
    {row : ExecutionRow}
    {conversation : Conversation}
    {flow : String} :
    row.runsIn conversation flow = true ↔
      row.conversation = conversation ∧ row.flow = flow ∧ row.status = .active := by
  simp [runsIn, belongsTo, and_assoc]

end ExecutionRow

namespace Store

variable {store : Store} {row other : ExecutionRow} {stamp : Stamp} {now : Instant}
  {conversation : Conversation} {flow node : String}

/-- Ids are distinct, and so are the flows in which a conversation runs. -/
structure WellKept (store : Store) : Prop where
  /-- No id repeats. -/
  nodup : (store.executions.map ExecutionRow.id).Nodup
  /-- A conversation has one running row in a flow at most. -/
  unique : ∀ row ∈ store.executions, ∀ other ∈ store.executions,
    row.status = .active → other.status = .active → row.conversation = other.conversation →
    row.flow = other.flow → row = other

/-- Rows with one id are one row. -/
theorem WellKept.eq_of_id
    (kept : store.WellKept)
    (member : row ∈ store.executions)
    (otherMember : other ∈ store.executions)
    (same : row.id = other.id) :
    row = other :=
  List.inj_on_of_nodup_map kept.nodup member otherMember same

/-- The empty store is well kept. -/
theorem wellKept_empty : ({} : Store).WellKept :=
  ⟨List.nodup_nil, by simp⟩

/-- Whether a store is well kept is seen by its executions. -/
theorem WellKept.of_eq
    {after : Store}
    (kept : store.WellKept)
    (rows : after.executions = store.executions) :
    after.WellKept := by
  constructor
  · rw [rows]
    exact kept.nodup
  · rw [rows]
    exact kept.unique

/-! ## Replacing a row -/

/-- The store with another row in the place of the one with the same id. -/
def replace (store : Store) (row : ExecutionRow) : Store :=
  store.updateById row.id fun _ => row

theorem mem_replace
    (member : other ∈ (store.replace row).executions) :
    other = row ∨ other ∈ store.executions ∧ other.id ≠ row.id := by
  obtain ⟨old, oldMember, rfl⟩ := List.mem_map.mp member
  dsimp only
  split
  · exact .inl rfl
  · rename_i different
    exact .inr ⟨oldMember, different⟩

theorem mem_replace_self
    (member : other ∈ store.executions)
    (same : other.id = row.id) :
    row ∈ (store.replace row).executions := by
  refine List.mem_map.mpr ⟨other, member, ?_⟩
  rw [if_pos same]

theorem mem_replace_of_ne
    (member : other ∈ store.executions)
    (different : other.id ≠ row.id) :
    other ∈ (store.replace row).executions := by
  refine List.mem_map.mpr ⟨other, member, ?_⟩
  rw [if_neg different]

/-- To change the row with an id is to replace it. -/
theorem WellKept.updateById_eq
    (kept : store.WellKept)
    (member : row ∈ store.executions)
    {change : ExecutionRow → ExecutionRow}
    (same : (change row).id = row.id) :
    store.updateById row.id change = store.replace (change row) := by
  unfold replace updateById
  congr 1
  apply List.map_congr_left
  intro other otherMember
  rw [same]
  split
  · rename_i sameId
    rw [kept.eq_of_id otherMember member sameId]
  · rfl

/-- To change a running row is to replace it. -/
theorem WellKept.updateActive_eq
    (kept : store.WellKept)
    (member : row ∈ store.executions)
    (active : row.status = .active)
    {change : ExecutionRow → ExecutionRow}
    (same : (change row).id = row.id) :
    store.updateActive row.conversation row.flow change = store.replace (change row) := by
  rw [← kept.updateById_eq member same]
  unfold updateById updateActive
  congr 1
  apply List.map_congr_left
  intro other otherMember
  by_cases sameId : other.id = row.id
  · obtain rfl := kept.eq_of_id otherMember member sameId
    rw [if_pos (ExecutionRow.runsIn_iff.mpr ⟨rfl, rfl, active⟩), if_pos rfl]
  · rw [if_neg sameId, if_neg]
    intro runs
    obtain ⟨sameConversation, sameFlow, running⟩ := ExecutionRow.runsIn_iff.mp runs
    exact sameId (congrArg _
      (kept.unique other otherMember row member running active sameConversation sameFlow))

/-- A store stays well kept when a row is replaced that stays where it is. -/
theorem WellKept.replace
    (kept : store.WellKept)
    (member : row ∈ store.executions)
    (active : row.status = .active)
    (sameId : other.id = row.id)
    (sameConversation : other.conversation = row.conversation)
    (sameFlow : other.flow = row.flow) :
    (store.replace other).WellKept := by
  have apart {third : ExecutionRow} (thirdMember : third ∈ store.executions)
      (different : third.id ≠ other.id) (running : third.status = .active)
      (thirdConversation : third.conversation = row.conversation)
      (thirdFlow : third.flow = row.flow) : False := by
    apply different
    rw [sameId, kept.unique third thirdMember row member running active thirdConversation
      thirdFlow]
  constructor
  · have sameIds : (store.replace other).executions.map ExecutionRow.id =
        store.executions.map ExecutionRow.id := by
      simp only [Store.replace, updateById, List.map_map]
      apply List.map_congr_left
      intro third _
      simp only [Function.comp]
      split
      · rename_i same
        exact same.symm
      · rfl
    rw [sameIds]
    exact kept.nodup
  · intro first firstMember second secondMember firstActive secondActive sameConversations
      sameFlows
    rcases mem_replace firstMember with rfl | ⟨firstOld, firstDifferent⟩
    · rcases mem_replace secondMember with rfl | ⟨secondOld, secondDifferent⟩
      · rfl
      · exact (apart secondOld secondDifferent secondActive
          (sameConversations.symm.trans sameConversation) (sameFlows.symm.trans sameFlow)).elim
    · rcases mem_replace secondMember with rfl | ⟨secondOld, _⟩
      · exact (apart firstOld firstDifferent firstActive
          (sameConversations.trans sameConversation) (sameFlows.trans sameFlow)).elim
      · exact kept.unique first firstOld second secondOld firstActive secondActive
          sameConversations sameFlows

/-! ## Operations on a running row -/

/-- A running row is seen to run. -/
theorem isActiveIn_of_mem
    (member : row ∈ store.executions)
    (active : row.status = .active) :
    store.isActiveIn row.conversation row.flow = true := by
  rw [isActiveIn, List.any_eq_true]
  exact ⟨row, member, ExecutionRow.runsIn_iff.mpr ⟨rfl, rfl, active⟩⟩

theorem WellKept.advance_eq
    (kept : store.WellKept)
    (member : row ∈ store.executions)
    (active : row.status = .active)
    (waiting : Bool) :
    store.advance stamp row.conversation row.flow node waiting =
      store.replace (row.moved stamp.now node waiting) := by
  unfold advance
  rw [if_pos (isActiveIn_of_mem member active)]
  exact kept.updateActive_eq member active rfl

theorem WellKept.setWaiting_eq
    (kept : store.WellKept)
    (member : row ∈ store.executions)
    (active : row.status = .active)
    (waiting : Bool) :
    store.setWaiting now row.conversation row.flow waiting =
      (.ok (), store.replace { row with waiting, updated := Timestamp.print now }) := by
  unfold setWaiting
  rw [if_pos (isActiveIn_of_mem member active)]
  congr 1
  exact kept.updateActive_eq member active rfl

theorem WellKept.complete_eq
    (kept : store.WellKept)
    (member : row ∈ store.executions)
    (active : row.status = .active) :
    store.complete now row.conversation row.flow =
      store.replace { row with
        status := .completed, last := some row.node, node := "end", waiting := false,
        updated := Timestamp.print now } :=
  kept.updateActive_eq member active rfl

/-! ## Looking up -/

theorem of_active?_eq_some
    {execution : Execution}
    (found : store.active? conversation = some execution) :
    ∃ row ∈ store.executions, row.conversation = conversation ∧ row.status = .active ∧
      execution = row.toExecution := by
  obtain ⟨row, first, rfl⟩ := Option.map_eq_some_iff.mp found
  have member := List.mem_of_head? first
  simp only [byRecency, List.mem_mergeSort, List.mem_reverse, rowsOf, List.mem_filter,
    beq_iff_eq] at member
  exact ⟨row, member.1.1, member.1.2, member.2, rfl⟩

theorem of_active?_eq_none
    (missing : store.active? conversation = none)
    (member : row ∈ store.executions)
    (same : row.conversation = conversation) :
    row.status ≠ .active := by
  intro active
  rw [active?, Option.map_eq_none_iff, List.head?_eq_none_iff, byRecency,
    ← List.length_eq_zero_iff, List.length_mergeSort, List.length_reverse,
    List.length_eq_zero_iff, List.filter_eq_nil_iff] at missing
  apply missing row
  · simp [rowsOf, member, same]
  · simp [active]

theorem of_byId?_eq_some
    {id : String}
    {execution : Execution}
    (found : store.byId? id = some execution) :
    ∃ row ∈ store.executions, row.id = id ∧ execution = row.toExecution := by
  obtain ⟨row, first, rfl⟩ := Option.map_eq_some_iff.mp found
  exact ⟨row, List.mem_of_find?_eq_some first, by simpa using List.find?_some first, rfl⟩

theorem of_latest?_eq_some
    {execution : Execution}
    (found : store.latest? conversation flow = some execution) :
    ∃ row ∈ store.executions, row.conversation = conversation ∧ row.flow = flow ∧
      execution = row.toExecution := by
  obtain ⟨row, first, rfl⟩ := Option.map_eq_some_iff.mp found
  have member := List.mem_of_head? first
  simp only [byRecency, List.mem_mergeSort, List.mem_reverse, List.mem_filter,
    ExecutionRow.belongsTo, Bool.and_eq_true, beq_iff_eq] at member
  exact ⟨row, member.1, member.2.1, member.2.2, rfl⟩

theorem WellKept.byId?_eq
    (kept : store.WellKept)
    (member : row ∈ store.executions) :
    store.byId? row.id = some row.toExecution := by
  unfold byId?
  cases found : store.executions.find? fun other => other.id == row.id with
  | none => simpa using List.find?_eq_none.mp found row member
  | some other =>
      have same : other.id = row.id := by simpa using List.find?_some found
      rw [kept.eq_of_id (List.mem_of_find?_eq_some found) member same]
      rfl

/-! ## Adding a row -/

/-- The row that is added for an execution that begins. -/
def freshRow (stamp : Stamp) (conversation : Conversation) (flow node : String) : ExecutionRow :=
  { id := stamp.freshId
    flow
    conversation
    node
    waiting := false
    created := Timestamp.print stamp.now
    updated := Timestamp.print stamp.now }

/-- Where a conversation is idle, an execution is created by adding a row; nothing is created when
the id is taken. -/
theorem create_of_idle
    (stamp : Stamp)
    (flow node : String)
    (idle : ∀ row ∈ store.executions, row.conversation = conversation → row.status ≠ .active) :
    (∃ text, store.create stamp conversation flow node =
      (.error (.executionNotFound text), store)) ∨
    (∀ row ∈ store.executions, row.id ≠ stamp.freshId) ∧
      store.create stamp conversation flow node =
        (.ok (freshRow stamp conversation flow node).toExecution,
          { store with
            executions := store.executions ++ [freshRow stamp conversation flow node] }) := by
  have still (row : ExecutionRow) (member : row ∈ store.executions) :
      ¬ row.runsIn conversation flow = true := by
    intro runs
    obtain ⟨same, _, active⟩ := ExecutionRow.runsIn_iff.mp runs
    exact idle row member same active
  have inactive : store.isActiveIn conversation flow = false := by
    rw [isActiveIn, List.any_eq_false]
    exact still
  have notFound : store.executions.find? (fun row => row.runsIn conversation flow) = none :=
    List.find?_eq_none.mpr still
  by_cases taken : store.executions.any (fun row => row.id == stamp.freshId) = true
  · left
    refine ⟨conversation.address ++ " in flow " ++ flow, ?_⟩
    simp [create, insertActive, activeIn?, taken, notFound]
  · right
    have fresh : ∀ row ∈ store.executions, row.id ≠ stamp.freshId := by
      simpa using taken
    refine ⟨fresh, ?_⟩
    have runs : (freshRow stamp conversation flow node).runsIn conversation flow = true :=
      ExecutionRow.runsIn_iff.mpr ⟨rfl, rfl, rfl⟩
    have inserted : store.insertActive stamp conversation flow node false =
        { store with
          executions := store.executions ++ [freshRow stamp conversation flow node] } := by
      rw [insertActive, if_neg]
      · rfl
      · rw [inactive, Bool.false_or]
        exact taken
    rw [create, inserted]
    simp only [activeIn?, List.find?_append, notFound, Option.none_or, List.find?_singleton,
      runs, if_true, Option.map_some]

/-- A store stays well kept when a row with a new id is added where none runs in the same flow. -/
theorem WellKept.add
    (kept : store.WellKept)
    (fresh : ∀ other ∈ store.executions, other.id ≠ row.id)
    (idle : ∀ other ∈ store.executions, other.conversation = row.conversation →
      other.flow = row.flow → other.status ≠ .active) :
    ({ store with executions := store.executions ++ [row] } : Store).WellKept := by
  constructor
  · rw [List.map_append, List.nodup_append]
    refine ⟨kept.nodup, by simp, ?_⟩
    rintro id member _ last rfl
    obtain ⟨other, otherMember, same⟩ := List.mem_map.mp member
    rw [List.map_singleton, List.mem_singleton] at last
    exact fresh other otherMember (same.trans last)
  · intro first firstMember second secondMember firstActive secondActive sameConversation sameFlow
    simp only [List.mem_append, List.mem_singleton] at firstMember secondMember
    rcases firstMember with firstOld | rfl
    · rcases secondMember with secondOld | rfl
      · exact kept.unique first firstOld second secondOld firstActive secondActive
          sameConversation sameFlow
      · exact (idle first firstOld sameConversation sameFlow firstActive).elim
    · rcases secondMember with secondOld | rfl
      · exact (idle second secondOld sameConversation.symm sameFlow.symm secondActive).elim
      · rfl

/-- A store stays well kept when a row with a new id is added for an idle conversation. -/
theorem WellKept.append
    (kept : store.WellKept)
    (fresh : ∀ other ∈ store.executions, other.id ≠ row.id)
    (idle : ∀ other ∈ store.executions, other.conversation = row.conversation →
      other.status ≠ .active) :
    ({ store with executions := store.executions ++ [row] } : Store).WellKept :=
  kept.add fresh fun other member same _ => idle other member same

/-! ## What every operation keeps -/

/-- A change of rows leaves each where it is, and lets none begin to run again. -/
structure Settled (change : ExecutionRow → ExecutionRow) : Prop where
  id_eq : ∀ row, (change row).id = row.id
  conversation_eq : ∀ row, (change row).conversation = row.conversation
  flow_eq : ∀ row, (change row).flow = row.flow
  active : ∀ row, (change row).status = .active → row.status = .active

/-- Some rows may be left as they are. -/
theorem Settled.ite
    {change : ExecutionRow → ExecutionRow}
    (settled : Settled change)
    (chosen : ExecutionRow → Prop)
    [DecidablePred chosen] :
    Settled fun row => if chosen row then change row else row := by
  constructor
  · intro row
    split
    · exact settled.id_eq row
    · rfl
  · intro row
    split
    · exact settled.conversation_eq row
    · rfl
  · intro row
    split
    · exact settled.flow_eq row
    · rfl
  · intro row
    split
    · exact settled.active row
    · exact fun active => active

/-- A store stays well kept when its rows are changed one by one. -/
theorem WellKept.map
    {after : Store}
    {change : ExecutionRow → ExecutionRow}
    (kept : store.WellKept)
    (settled : Settled change)
    (rows : after.executions = store.executions.map change) :
    after.WellKept := by
  constructor
  · rw [rows, List.map_map,
      show ExecutionRow.id ∘ change = ExecutionRow.id from funext settled.id_eq]
    exact kept.nodup
  · rw [rows]
    simp only [List.mem_map]
    rintro _ ⟨first, firstMember, rfl⟩ _ ⟨second, secondMember, rfl⟩ firstActive secondActive
      sameConversation sameFlow
    rw [settled.conversation_eq, settled.conversation_eq] at sameConversation
    rw [settled.flow_eq, settled.flow_eq] at sameFlow
    rw [kept.unique first firstMember second secondMember (settled.active _ firstActive)
      (settled.active _ secondActive) sameConversation sameFlow]

theorem WellKept.updateActive
    {change : ExecutionRow → ExecutionRow}
    (kept : store.WellKept)
    (settled : Settled change) :
    (store.updateActive conversation flow change).WellKept :=
  kept.map (settled.ite fun row => row.runsIn conversation flow = true) rfl

theorem WellKept.updateById
    {id : String}
    {change : ExecutionRow → ExecutionRow}
    (kept : store.WellKept)
    (settled : Settled change) :
    (store.updateById id change).WellKept :=
  kept.map (settled.ite fun row => row.id = id) rfl

/-- A row is added only where none runs, and under a new id. -/
theorem WellKept.insertActive
    {waiting : Bool}
    (kept : store.WellKept) :
    (store.insertActive stamp conversation flow node waiting).WellKept := by
  unfold Store.insertActive
  split
  · exact kept
  · rename_i free
    simp only [Bool.or_eq_true, not_or, isActiveIn, List.any_eq_true, not_exists, not_and,
      beq_iff_eq] at free
    refine kept.add free.2 ?_
    intro other member sameConversation sameFlow active
    exact free.1 other member (ExecutionRow.runsIn_iff.mpr ⟨sameConversation, sameFlow, active⟩)

end Store
end ChatFlow
