import ChatFlow.Proofs.Engine.Resumption
import ChatFlow.Proofs.Time.Timestamp

/-!
# What becomes of queued continuations

As long as the clock stands still within a request, a queued continuation is either still ahead,
its execution parked at the delay where it was queued, or it is behind: due, and its target
passed.  An execution that is parked stays there until it is moved to the target of all
continuations that are ahead of it, and that is not before they are due.
-/

namespace ChatFlow

/-- A continuation is on offer that is due. -/
def Scene.IsDue (scene : Scene) (now : Instant) : Request → Prop
  | .message _ => True
  | .continuation item => ∃ queued ∈ scene.queued, item.Retries queued ∧ queued.due ≤ now

/-- What is due is on offer. -/
theorem Scene.IsDue.offers
    {scene : Scene}
    {now : Instant}
    {request : Request}
    (due : scene.IsDue now request) :
    scene.Offers request := by
  cases request with
  | message message => trivial
  | continuation item =>
      obtain ⟨queued, isQueued, same, _⟩ := due
      exact ⟨queued, isQueued, same⟩

namespace Flow.Library

/-- No delay of a flow lies on a cycle. -/
def IsUnwound (library : Library) (id : String) : Prop :=
  ∀ graph, library.get id = .ok graph → graph.Unwound

/-- An execution is parked at the delay where a continuation was queued. -/
structure Ahead (library : Library) (engine : Engine) (item : Continuation) (row : ExecutionRow)
    (graph : Graph) (node : Node) : Prop where
  /-- The execution is the one that the continuation names. -/
  id_eq : row.id = item.execution
  /-- It runs. -/
  active : row.status = .active
  /-- It does not wait for a reply. -/
  ready : row.waiting = false
  /-- Its flow is the one that the continuation names. -/
  flow_eq : row.flow = item.flow
  /-- The flow is known. -/
  known : library.get row.flow = .ok graph
  /-- It stands at a node. -/
  found : graph.node? row.node = some node
  /-- The node is a delay. -/
  kind : node.kind = .delay
  /-- The continuation leads along the first edge. -/
  next : graph.nextTarget? row.node = some item.target
  /-- The wait began when the execution came to the delay. -/
  due_eq : item.due =
    (Timestamp.parse row.updated).after (Delay.span engine.settings.defaultDelay node)

/-- A continuation is due and its target was passed. -/
def Behind (library : Library) (now : Instant) (item : Continuation) (scene : Scene) : Prop :=
  library.Passed item scene ∧ item.due ≤ now

/-- A continuation is ahead or behind. -/
def Tracks (library : Library) (engine : Engine) (now : Instant) (item : Continuation)
    (scene : Scene) : Prop :=
  (∃ row ∈ scene.store.executions, ∃ graph node, library.Ahead engine item row graph node) ∨
    library.Behind now item scene

/-- Every queued continuation of an unwound flow is ahead or behind. -/
def Tracked (library : Library) (engine : Engine) (now : Instant) (scene : Scene) : Prop :=
  ∀ item ∈ scene.queued, library.IsUnwound item.flow → library.Tracks engine now item scene

/-- What is behind stays there, and what is ahead stays or gets behind. -/
structure Advances (library : Library) (engine : Engine) (now : Instant) (before after : Scene) :
    Prop where
  /-- What is behind stays there. -/
  behind : ∀ item, library.Behind now item before → library.Behind now item after
  /-- What is ahead stays or gets behind. -/
  ahead : ∀ item row graph node, library.IsUnwound item.flow →
    library.Ahead engine item row graph node → row ∈ before.store.executions →
    row ∈ after.store.executions ∨ library.Behind now item after

variable {library : Library} {engine : Engine} {now time : Instant}
  {before middle after : Scene} {item : Continuation} {row : ExecutionRow} {graph : Graph}
  {node : Node}

theorem Ahead.isDelay (ahead : library.Ahead engine item row graph node) :
    graph.IsDelay row.node :=
  ⟨node, ahead.found, ahead.kind⟩

/-- A continuation that is ahead is awaited. -/
theorem Ahead.awaits
    (ahead : library.Ahead engine item row graph node) :
    library.Awaits item graph row where
  id_eq := ahead.id_eq
  active := ahead.active
  ready := ahead.ready
  known := ahead.known
  isDelay := ahead.isDelay
  edge := Graph.hasEdge_of_nextTarget? ahead.next

theorem Advances.refl (scene : Scene) : library.Advances engine now scene scene :=
  ⟨fun _ behind => behind, fun _ _ _ _ _ _ member => .inl member⟩

theorem Advances.trans
    (first : library.Advances engine now before middle)
    (second : library.Advances engine now middle after) :
    library.Advances engine now before after where
  behind item behind := second.behind item (first.behind item behind)
  ahead := by
    intro item row graph node unwound ahead member
    rcases first.ahead item row graph node unwound ahead member with stays | behind
    · exact second.ahead item row graph node unwound ahead stays
    · exact .inr (second.behind item behind)

/-- Nothing goes back when the executions stay as they are. -/
theorem advances_of_eq
    (rows : after.store.executions = before.store.executions) :
    library.Advances engine now before after where
  behind item behind := ⟨behind.1.of_eq rows, behind.2⟩
  ahead := by
    intro item row graph node _ _ member
    rw [rows]
    exact .inl member

/-- A continuation stays tracked. -/
theorem Tracks.advance
    (tracks : library.Tracks engine now item before)
    (unwound : library.IsUnwound item.flow)
    (advances : library.Advances engine now before after) :
    library.Tracks engine now item after := by
  rcases tracks with ⟨row, member, graph, node, ahead⟩ | behind
  · rcases advances.ahead item row graph node unwound ahead member with stays | behind
    · exact .inl ⟨row, stays, graph, node, ahead⟩
    · exact .inr behind
  · exact .inr (advances.behind item behind)

/-- Continuations stay tracked when none is queued. -/
theorem Tracked.advance
    (tracked : library.Tracked engine now before)
    (advances : library.Advances engine now before after)
    (queue : after.queued = before.queued) :
    library.Tracked engine now after := by
  intro item queued unwound
  rw [queue] at queued
  exact (tracked item queued unwound).advance unwound advances

/-- What was tracked is tracked later. -/
theorem Tracked.later
    (tracked : library.Tracked engine time before)
    (later : time ≤ now) :
    library.Tracked engine now before := by
  intro item queued unwound
  rcases tracked item queued unwound with ahead | ⟨passed, due⟩
  · exact .inl ahead
  · exact .inr ⟨passed, Int.le_trans due later⟩

/-- All continuations that are ahead of a parked execution lead to the same target and are due at
the same time. -/
theorem Ahead.unique
    {other : Continuation}
    {otherGraph : Graph}
    {otherNode : Node}
    (ahead : library.Ahead engine item row graph node)
    (otherAhead : library.Ahead engine other row otherGraph otherNode) :
    item.target = other.target ∧ item.due = other.due := by
  have known := ahead.known
  rw [otherAhead.known] at known
  cases known
  have found := ahead.found
  rw [otherAhead.found] at found
  cases found
  have next := ahead.next
  rw [otherAhead.next] at next
  exact ⟨(Option.some.inj next).symm, ahead.due_eq.trans otherAhead.due_eq.symm⟩

end Flow.Library

namespace Site

variable {site : Site} {engine : Engine} {now : Instant} {scene before after middle : Scene}
  {item : Continuation} {row : ExecutionRow} {graph : Flow.Graph} {node : Flow.Node}
  {request : Request} {id : String}

/-- No move of a turn touches a row that is parked. -/
theorem stays_of_ahead
    {other : Flow.Graph}
    (ahead : site.library.Ahead engine item row graph node)
    (kept : before.store.WellKept)
    (member : row ∈ before.store.executions)
    (move : Turn.Move engine site other id before after) :
    row ∈ after.store.executions := by
  cases move with
  | aside rows queue =>
      rw [rows]
      exact member
  | change onClock oldMember id_eq active known changes =>
      refine Store.mem_replace_of_ne member fun same => ?_
      obtain rfl := kept.eq_of_id member oldMember (same.trans changes.id_eq)
      rw [ahead.known] at known
      cases known
      cases changes with
      | advance _ passed _ => exact passed ahead.isDelay
      | wait passed => exact passed ahead.isDelay
      | annotate passed => exact passed ahead.isDelay
      | complete last =>
          have missing := last ahead.isDelay
          rw [ahead.next] at missing
          cases missing
  | queue => exact member

/-- A continuation that a turn queues is ahead. -/
theorem ahead_of_follows
    (stored : now.IsStored)
    (still : ∀ other, site.clock other → other = now)
    (active : row.status = .active)
    (ready : row.waiting = false)
    (known : site.library.get row.flow = .ok graph)
    (dated : row.IsDated site.clock)
    (found : graph.node? row.node = some node)
    (follows : item.Follows engine graph site.clock row.toExecution node) :
    site.library.Ahead engine item row graph node := by
  obtain ⟨time, onClock, updated⟩ := dated
  obtain rfl := still time onClock
  obtain ⟨begun, begunOnClock, due⟩ := follows.due
  obtain rfl := still begun begunOnClock
  constructor
  · exact follows.execution_eq.symm
  · exact active
  · exact ready
  · exact follows.flow_eq.symm
  · exact known
  · exact found
  · exact follows.kind
  · rw [← Flow.Graph.id_of_node? found]
    exact follows.target
  · rw [updated, Timestamp.parse_print stored, due]

/-- The moves of a turn take nothing back. -/
theorem advances_of_move
    (sound : site.library.Sound before)
    (move : Turn.Move engine site graph id before after) :
    site.library.Advances engine now before after where
  behind _ behind := ⟨passed_preserved.moves graph id before after behind.1 move, behind.2⟩
  ahead _ _ _ _ _ ahead member :=
    .inl (stays_of_ahead ahead sound.kept member move)

/-- The moves of a turn keep continuations tracked. -/
theorem tracked_of_move
    (stored : now.IsStored)
    (still : ∀ other, site.clock other → other = now)
    (sound : site.library.Sound before)
    (tracked : site.library.Tracked engine now before)
    (move : Turn.Move engine site graph id before after) :
    site.library.Tracked engine now after := by
  have advances : site.library.Advances engine now before after := advances_of_move sound move
  cases move with
  | aside rows queue => exact tracked.advance advances queue
  | change => exact tracked.advance advances rfl
  | @queue row node item member id_eq active known dated found ready follows =>
      intro other queued unwound
      rcases List.mem_append.mp queued with old | last
      · exact (tracked other old unwound).advance unwound advances
      · obtain rfl := List.mem_singleton.mp last
        exact .inl ⟨row, member, graph, node,
          ahead_of_follows stored still active ready known dated found follows⟩

/-- An execution that goes on when its delay is long over leaves no continuation ahead that is not
due. -/
theorem behind_of_late
    {target : String}
    (ahead : site.library.Ahead engine item row graph node)
    (member : row ∈ scene.store.executions)
    (late : (Timestamp.parse row.updated).after (engine.patience node) < now)
    (next : graph.nextTarget? row.node = some target) :
    site.library.Behind now item
      (scene.withStore (scene.store.replace (row.moved now target false))) := by
  rw [ahead.next] at next
  obtain rfl := Option.some.inj next
  refine ⟨Flow.Library.passed_of_moved member ahead.id_eq, ?_⟩
  rw [ahead.due_eq]
  change (Timestamp.parse row.updated).nanos +
    (((Delay.span engine.settings.defaultDelay node).nanos + _ + _ : Nat) : Int) < now.nanos at late
  change (Timestamp.parse row.updated).nanos + _ ≤ now.nanos
  omega

/-- A continuation that is taken up leaves no continuation ahead that is not due: it is itself
ahead, since the target of what is behind has no edge from a delay. -/
theorem behind_of_awaits
    {taken : Continuation}
    (sound : site.library.Sound scene)
    (tracked : site.library.Tracked engine now scene)
    (due : scene.IsDue now (.continuation taken))
    (unwound : site.library.IsUnwound item.flow)
    (ahead : site.library.Ahead engine item row graph node)
    (member : row ∈ scene.store.executions)
    (awaits : site.library.Awaits taken graph row) :
    site.library.Behind now item
      (scene.withStore (scene.store.replace (row.moved now taken.target false))) := by
  obtain ⟨queued, isQueued, same, due⟩ := due
  have names : row.id = queued.execution := by rw [awaits.id_eq, same]
  have targets : taken.target = queued.target := by rw [same]
  obtain ⟨other, otherMember, otherNames, otherFlow, _⟩ := sound.named queued isQueued
  obtain rfl := sound.kept.eq_of_id otherMember member (otherNames.trans names.symm)
  have sameFlow : queued.flow = item.flow := otherFlow.symm.trans ahead.flow_eq
  have unwoundHere : graph.Unwound := unwound graph (by rw [← ahead.flow_eq, ahead.known])
  rcases tracked queued isQueued (by rw [sameFlow]; exact unwound) with
    ⟨parked, parkedMember, parkedGraph, parkedNode, queuedAhead⟩ | ⟨passed, _⟩
  · obtain rfl := sound.kept.eq_of_id parkedMember member (queuedAhead.id_eq.trans names.symm)
    obtain ⟨sameTarget, sameDue⟩ := ahead.unique queuedAhead
    rw [targets, ← sameTarget]
    refine ⟨Flow.Library.passed_of_moved member ahead.id_eq, ?_⟩
    rw [sameDue]
    exact due
  · have edge := awaits.edge
    rw [targets] at edge
    exact (unwoundHere.not_hasEdge awaits.isDelay
      (passed.leads other member names awaits.active graph awaits.known) edge).elim

/-- However a request opens that is due, it takes nothing back. -/
theorem advances_of_opens
    (still : ∀ other, site.clock other → other = now)
    (sound : site.library.Sound scene)
    (tracked : site.library.Tracked engine now scene)
    (due : scene.IsDue now request)
    (opens : site.Opens engine scene request graph row middle) :
    site.library.Advances engine now scene middle where
  behind _ behind :=
    ⟨passed_preserved.opens scene request graph row middle sound behind.1 due.offers opens,
      behind.2⟩
  ahead := by
    intro item parked parkedGraph node unwound ahead parkedMember
    cases opens with
    | fresh => exact .inl (List.mem_append_left _ parkedMember)
    | standing => exact .inl parkedMember
    | @overdue _ _ row found target later time onClock laterOnClock member active ready known
        isFound kind late next =>
        by_cases same : parked.id = row.id
        · right
          obtain rfl := sound.kept.eq_of_id parkedMember member same
          have sameGraph := ahead.known
          rw [known] at sameGraph
          cases sameGraph
          have sameNode := ahead.found
          rw [isFound] at sameNode
          cases sameNode
          obtain rfl := still time onClock
          obtain rfl := still later laterOnClock
          exact behind_of_late ahead member late next
        · exact .inl (Store.mem_replace_of_ne parkedMember same)
    | @wake taken _ row time onClock member awaits =>
        by_cases same : parked.id = row.id
        · right
          obtain rfl := sound.kept.eq_of_id parkedMember member same
          have sameGraph := ahead.known
          rw [awaits.known] at sameGraph
          cases sameGraph
          obtain rfl := still time onClock
          exact behind_of_awaits sound tracked due unwound ahead member awaits
        · exact .inl (Store.mem_replace_of_ne parkedMember same)

end Site
end ChatFlow
