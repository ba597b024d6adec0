import ChatFlow.Proofs.Engine.Reachable
import ChatFlow.Proofs.Engine.Turns

/-!
# Executions that requests leave parked

A request touches the row of its turn only.  So an execution that is parked after a request was
parked before it, or the turn accounts for it.
-/

namespace ChatFlow

open Process

namespace Turn

variable {engine : Engine} {site : Site} {graph : Flow.Graph} {execution : Execution}
  {row : ExecutionRow} {id : String} {start scene after : Scene} {result : Except Fault TurnReport}
  {input : TurnInput}

/-- All rows but the one with an id are old, and that one keeps to its flow. -/
def Confined (site : Site) (graph : Flow.Graph) (id : String) (start scene : Scene) : Prop :=
  ∀ row ∈ scene.store.executions,
    (row.id = id → site.library.get row.flow = .ok graph) ∧
    (row.id ≠ id → row ∈ start.store.executions)

theorem confined_kept : Kept engine site graph id (Confined site graph id start) := by
  intro before after confined move
  cases move with
  | aside rows =>
      rw [Confined, rows]
      exact confined
  | change _ _ id_eq _ known changes =>
      intro other member
      rcases Store.mem_replace member with rfl | ⟨old, _⟩
      · refine ⟨fun _ => ?_, fun different => (different (changes.id_eq.trans id_eq)).elim⟩
        rw [changes.flow_eq]
        exact known
      · exact confined other old
  | queue => exact confined

/-- A turn touches one row only. -/
theorem confined_of_ends
    (stands : Stands site graph execution row scene)
    (ends : Ends site.Supports (perform engine graph execution input) scene result after) :
    Confined site graph execution.id scene after := by
  have begun : Confined site graph execution.id scene scene := by
    intro other member
    refine ⟨fun same => ?_, fun _ => member⟩
    obtain rfl := stands.kept.eq_of_id stands.member member (stands.id_eq.trans same.symm)
    exact stands.known
  have kept : Kept engine site graph execution.id (Confined site graph execution.id scene) :=
    confined_kept
  have safe := (perform_safe kept stands begun input).narrow
    fun _ _ _ _ supported => Site.Supports.answered supported
  exact (safe.ends ends).1

end Turn

/-- A turn begins where its row stands. -/
theorem Opening.Places.stands
    {site : Site}
    {scene begun : Scene}
    {request : Request}
    {opening : Opening}
    {row : ExecutionRow}
    (filed : site.library.Filed)
    (sound : site.library.Sound scene)
    (begins : site.Begins scene request opening)
    (places : opening.Places site row)
    (kept : begun.store.WellKept)
    (member : row ∈ begun.store.executions) :
    Turn.Stands site opening.graph opening.execution row begun := by
  have agrees := (places.tells begins).agrees
  refine
    { kept, member
      active := places.active begins
      id_eq := agrees.id_eq.symm
      flow_eq := agrees.flow_eq.symm
      conversation_eq := agrees.conversation_eq.symm
      node_eq := congrArg Position.node agrees.position_eq.symm
      known := ?_
      placed := ?_
      arrived := ?_ }
  · rw [places.flow_eq]
    exact Opening.known_of_begins filed begins
  · cases begins with
    | fresh =>
        obtain rfl := places
        exact ⟨_, (Flow.Graph.node?_start _).1⟩
    | standing old own active known =>
        obtain rfl := places
        exact (sound.placed _ old active _ known).1
    | overdue _ _ _ _ _ _ next =>
        obtain ⟨now, _, rfl⟩ := places
        exact Flow.Graph.exists_target (Flow.Graph.hasEdge_of_nextTarget? next)
    | wake _ _ _ _ _ _ edge =>
        obtain ⟨now, _, rfl⟩ := places
        exact Flow.Graph.exists_target edge
  · intro isDelay
    cases begins with
    | fresh =>
        obtain rfl := places
        exact (Flow.Graph.not_isDelay_start _ isDelay).elim
    | standing old own active known last =>
        obtain rfl := places
        refine .inl (last ?_ isDelay)
        by_contra waits
        exact sound.parked _ old active (by simpa using waits) _ known isDelay
    | overdue | wake =>
        obtain ⟨now, onClock, rfl⟩ := places
        exact .inr ⟨rfl, _, onClock, rfl⟩

theorem Site.hosts_supports (site : Site) : site.Hosts id site.Supports :=
  fun _ _ _ _ supported => supported

namespace Engine

variable {engine : Engine} {site : Site} {graph : Flow.Graph} {row : ExecutionRow}
  {before after : Scene} {request : Request} {opening : Opening}

/-- After a request that performs a turn it is accounted for that the execution of the turn is
parked, and the others were there before. -/
theorem Performs.accounts
    {turned : Except Fault TurnReport}
    (filed : site.library.Filed)
    (sound : site.library.Sound before)
    (begins : site.Begins before request opening)
    (performs : engine.Performs site site.Supports id opening before turned after)
    (member : row ∈ after.store.executions)
    (parked : site.library.Parked graph row) :
    (row ∈ before.store.executions ∧ row.id ≠ opening.row.id) ∨
      Turn.Accounts engine site graph before after row (∃ fault, turned = .error fault) := by
  obtain ⟨quietly, kept, placed, places, others, ends, still⟩ := performs
  have stands := places.stands filed sound begins kept placed
  have rows : after.store.executions = _ := still.untouched.executions_eq
  obtain ⟨own, other⟩ := Turn.confined_of_ends stands ends row (by rwa [rows] at member)
  by_cases same : row.id = opening.execution.id
  · obtain rfl : graph = opening.graph := Except.ok.inj (parked.known.symm.trans (own same))
    obtain ⟨_, accounts⟩ := (Turn.perform_accounts stands _).ends ends
    have accounts := accounts.extend (quietly.grows site.hosts_supports)
      (still.quietly.grows site.hosts_supports) rows fun isCut => isCut
    exact .inr (accounts row member same parked)
  · rw [opening.id_execution] at same
    refine .inl ⟨others row (other ?_) ?_, same⟩
    · rwa [opening.id_execution]
    · rwa [places.id_eq]

/-- The same for a request that may perform no turn. -/
theorem Attends.accounts
    {idle : Prop}
    {told : Except Fault TurnReport → Prop}
    (filed : site.library.Filed)
    (sound : site.library.Sound before)
    (attends : engine.Attends site site.Supports id request idle told before after)
    (member : row ∈ after.store.executions)
    (parked : site.library.Parked graph row) :
    (row ∈ before.store.executions ∧
      (idle ∨ ∃ found, before.Finds request found ∧ row.id ≠ found.id)) ∨
      ∃ turned, told turned ∧
        Turn.Accounts engine site graph before after row (∃ fault, turned = .error fault) := by
  cases attends with
  | idle still holds =>
      have rows : after.store.executions = _ := still.untouched.executions_eq
      rw [rows] at member
      exact .inl ⟨member, .inl holds⟩
  | turn begins finds performs tells =>
      rcases performs.accounts filed sound begins member parked with ⟨old, different⟩ | accounts
      · exact .inl ⟨old, .inr ⟨_, finds, different⟩⟩
      · exact .inr ⟨_, tells, accounts⟩

end Engine
end ChatFlow
