import ChatFlow.Proofs.Engine.Charge
import ChatFlow.Proofs.Engine.Parts
import ChatFlow.Proofs.Journal

/-!
# What requests own

What a request finds is of its conversation, and what it writes to is what it found, unless it is
given a continuation that names an execution of another conversation.  Rows never change their ids
or their conversations, and new rows are of the conversation of the request that adds them.  So a
request only ever names executions of its own conversation.
-/

namespace ChatFlow

variable {callees : Callees} {request : Request} {charge : Charge} {call : Call} {scene : Scene}
  {stamp : Stamp} {conversation : Conversation}

/-! ## What is owned -/

/-- A continuation does not name an execution of another conversation. -/
def Request.Owns (scene : Scene) : Request → Prop
  | .message _ => True
  | .continuation item => ∀ row ∈ scene.store.executions, row.id = item.execution →
      row.conversation = item.conversation

instance Request.decidableOwns (scene : Scene) :
    (request : Request) → Decidable (request.Owns scene)
  | .message _ => inferInstanceAs (Decidable True)
  | .continuation item =>
      inferInstanceAs (Decidable (∀ row ∈ scene.store.executions, row.id = item.execution →
        row.conversation = item.conversation))

/-- What a request is in charge of is an execution of its conversation. -/
def Charge.Owns (request : Request) (scene : Scene) : Charge → Prop
  | .tending id _ => ∀ row ∈ scene.store.executions, row.id = id →
      row.conversation = request.conversation
  | _ => True

/-- A request owns all executions that it may name. -/
structure Request.Minding (request : Request) (scene : Scene) (charge : Charge) : Prop where
  kept : scene.store.WellKept
  names : request.Owns scene
  owns : charge.Owns request scene

/-- What a request may call names an execution of its conversation, if any. -/
theorem Request.Minding.owns_call
    (minding : request.Minding scene charge)
    (allows : charge.Allows request call) :
    call.Owns request.conversation scene := by
  cases call with
  | executionById id =>
      cases charge with
      | entered =>
          obtain ⟨item, rfl, rfl⟩ := allows
          exact minding.names
      | outside | vacant | tending | settled | left => cases allows
  | setStage id | saveVariables id =>
      cases charge with
      | tending =>
          obtain rfl := allows
          exact minding.owns
      | outside | entered | vacant | settled | left => cases allows
  | _ => trivial

/-! ## Where rows come from -/

/-- A row was there before, under its id and for its conversation, or it is new. -/
def ExecutionRow.Stems
    (store : Store) (freshId : String) (conversation : Conversation) (row : ExecutionRow) : Prop :=
  (∃ old ∈ store.executions, old.id = row.id ∧ old.conversation = row.conversation) ∨
    row.id = freshId ∧ row.conversation = conversation

namespace ExecutionRow.Stems

variable {store : Store} {row : ExecutionRow} {about : Conversation} {flow node id : String}
  {waiting : Bool} {change : ExecutionRow → ExecutionRow}

theorem of_mem (member : row ∈ store.executions) : row.Stems store id conversation :=
  .inl ⟨row, member, rfl, rfl⟩

theorem updateActive
    (member : row ∈ (store.updateActive about flow change).executions)
    (id_eq : ∀ row, (change row).id = row.id)
    (conversation_eq : ∀ row, (change row).conversation = row.conversation) :
    row.Stems store id conversation := by
  obtain ⟨old, oldMember, rfl⟩ := List.mem_map.mp member
  split
  · exact .inl ⟨old, oldMember, (id_eq old).symm, (conversation_eq old).symm⟩
  · exact of_mem oldMember

theorem updateById
    {named : String}
    (member : row ∈ (store.updateById named change).executions)
    (id_eq : ∀ row, (change row).id = row.id)
    (conversation_eq : ∀ row, (change row).conversation = row.conversation) :
    row.Stems store id conversation := by
  obtain ⟨old, oldMember, rfl⟩ := List.mem_map.mp member
  split
  · exact .inl ⟨old, oldMember, (id_eq old).symm, (conversation_eq old).symm⟩
  · exact of_mem oldMember

theorem insertActive
    (member : row ∈ (store.insertActive stamp conversation flow node waiting).executions) :
    row.Stems store stamp.freshId conversation := by
  unfold Store.insertActive at member
  split at member
  · exact of_mem member
  · rcases List.mem_append.mp member with old | new
    · exact of_mem old
    · obtain rfl := List.mem_singleton.mp new
      exact .inr ⟨rfl, rfl⟩

end ExecutionRow.Stems

namespace Callees

variable {row : ExecutionRow}

/-- A call that is answered leaves the store as it is, or does to it what it does. -/
theorem store_answer (callees : Callees) (stamp : Stamp) (call : Call) (scene : Scene) :
    (callees.answer stamp call scene).2.store = scene.store ∨
      (callees.answer stamp call scene).2.store =
        (scene.serve callees.library callees.stale stamp.now { freshId := stamp.freshId }
          call).2.store := by
  cases call with
  | sendText device phone text =>
      left
      simp only [answer]
      split <;> rfl
  | sendMedia device phone url kind =>
      left
      simp only [answer]
      split <;> rfl
  | readHistory | captureRules | classify | generate => exact .inl rfl
  | _ => exact .inr rfl

/-- Whatever is answered leaves the store well kept. -/
theorem wellKept_answer (kept : scene.store.WellKept) :
    (callees.answer stamp call scene).2.store.WellKept := by
  rcases callees.store_answer stamp call scene with same | served
  · rwa [same]
  · rw [served]
    exact @Scene.wellKept_serve
      { callees with faults := fun _ => True, clock := fun _ => True } _ _ _ _ kept

/-- Rows keep their ids and their conversations, and the only row that may be added is one of the
call's conversation. -/
theorem stems_answer
    (concerns : call.Concerns conversation)
    (member : row ∈ (callees.answer stamp call scene).2.store.executions) :
    row.Stems scene.store stamp.freshId conversation := by
  rcases callees.store_answer stamp call scene with same | served
  · rw [same] at member
    exact .of_mem member
  · rw [served] at member
    cases call with
    | acquire about =>
        simp only [Scene.serve, Bool.false_eq_true, if_false, Scene.withStore,
          Store.acquireAt] at member
        split at member
        · exact .of_mem member
        · split at member <;> exact .of_mem member
    | createExecution about flow node =>
        obtain rfl := concerns
        simp only [Scene.serve, Scene.withStore, Store.create] at member
        split at member <;> exact .insertActive member
    | advance about flow node waiting =>
        obtain rfl := concerns
        simp only [Scene.serve, Scene.withStore, Store.advance] at member
        split at member
        · exact .updateActive member (fun _ => rfl) fun _ => rfl
        · exact .insertActive member
    | setWaiting about flow waiting =>
        simp only [Scene.serve, Scene.withStore, Store.setWaiting] at member
        split at member
        · exact .updateActive member (fun _ => rfl) fun _ => rfl
        · exact .of_mem member
    | complete about flow => exact .updateActive member (fun _ => rfl) fun _ => rfl
    | setStage id stage => exact .updateById member (fun _ => rfl) fun _ => rfl
    | saveVariables id vars => exact .updateById member (fun _ => rfl) fun _ => rfl
    | _ => exact .of_mem member

end Callees

/-- What is created, or found instead, is a row of its conversation. -/
theorem Store.of_create_eq_ok
    {store : Store}
    {flow node : String}
    {execution : Execution}
    (created : (store.create stamp conversation flow node).1 = .ok execution) :
    ∃ row ∈ (store.create stamp conversation flow node).2.executions,
      row.conversation = conversation ∧ execution = row.toExecution := by
  unfold create at created ⊢
  dsimp only at created ⊢
  split at created
  · rename_i found looked
    cases created
    obtain ⟨row, first, rfl⟩ := Option.map_eq_some_iff.mp looked
    have runs := List.find?_some first
    exact ⟨row, List.mem_of_find?_eq_some first, (ExecutionRow.runsIn_iff.mp runs).1, rfl⟩
  · cases created

/-! ## One call -/

namespace Request.Minding

variable {execution : Execution} {after : Scene} {row : ExecutionRow}

/-- A request owns what it found. -/
theorem owns_of_found
    (kept : after.store.WellKept)
    (member : row ∈ after.store.executions)
    (same : row.conversation = request.conversation) :
    (Charge.tending row.id row.flow).Owns request after := by
  intro other otherMember named
  rw [kept.eq_of_id otherMember member named]
  exact same

/-- What a request names is its own as long as new rows are. -/
theorem names_answer
    (minding : request.Minding scene charge)
    (concerns : call.Concerns request.conversation) :
    request.Owns (callees.answer stamp call scene).2 := by
  cases request with
  | message message => trivial
  | continuation item =>
      intro row member named
      rcases Callees.stems_answer concerns member with ⟨old, oldMember, id_eq, same⟩ | ⟨_, same⟩
      · exact same.symm.trans (minding.names old oldMember (id_eq.trans named))
      · exact same

/-- So is what it is in charge of. -/
theorem owns_answer
    (minding : request.Minding scene charge)
    (concerns : call.Concerns request.conversation) :
    charge.Owns request (callees.answer stamp call scene).2 := by
  cases charge with
  | tending id flow =>
      intro row member named
      rcases Callees.stems_answer concerns member with ⟨old, oldMember, id_eq, same⟩ | ⟨_, same⟩
      · exact same.symm.trans (minding.owns old oldMember (id_eq.trans named))
      · exact same
  | outside | entered | vacant | settled | left => trivial

/-- What a request finds is of its conversation, and after any call it owns all that it may name. -/
theorem answer
    (minding : request.Minding scene charge)
    (allows : charge.Allows request call)
    (concerns : call.Concerns request.conversation) :
    call.Finds request.conversation (callees.answer stamp call scene).1 ∧
      request.Minding (callees.answer stamp call scene).2
        (charge.next call (callees.answer stamp call scene).1) := by
  have names : request.Owns (callees.answer stamp call scene).2 := minding.names_answer concerns
  have owns : charge.Owns request (callees.answer stamp call scene).2 :=
    minding.owns_answer concerns
  have kept : (callees.answer stamp call scene).2.store.WellKept :=
    Callees.wellKept_answer minding.kept
  have ownsCall := minding.owns_call allows
  -- What is found is a row of the store, and is in charge from then on if it runs.
  have found (row : ExecutionRow) (member : row ∈ scene.store.executions)
      (same : row.conversation = request.conversation) :
      (if row.toExecution.isActive then Charge.tending row.id row.flow else charge).Owns request
        scene := by
    split
    · exact owns_of_found minding.kept member same
    · exact minding.owns
  cases call with
  | acquire about =>
      refine ⟨trivial, kept, names, ?_⟩
      generalize (callees.answer stamp (.acquire about) scene).1 = outcome
      rcases outcome with fault | (_ | _)
      · exact owns
      · exact owns
      · trivial
  | release about => exact ⟨trivial, kept, names, trivial⟩
  | activeExecution about =>
      obtain rfl := concerns
      cases looked : scene.store.active? request.conversation with
      | none =>
          simp only [Callees.answer, Scene.serve, looked]
          exact ⟨trivial, minding.kept, minding.names, trivial⟩
      | some execution =>
          obtain ⟨row, member, same, _, rfl⟩ := Store.of_active?_eq_some looked
          simp only [Callees.answer, Scene.serve, looked]
          exact ⟨same, minding.kept, minding.names, owns_of_found minding.kept member same⟩
  | executionById id =>
      cases looked : scene.store.byId? id with
      | none =>
          simp only [Callees.answer, Scene.serve, looked]
          exact ⟨trivial, minding⟩
      | some execution =>
          obtain ⟨row, member, named, rfl⟩ := Store.of_byId?_eq_some looked
          have same := ownsCall row member named
          simp only [Callees.answer, Scene.serve, looked]
          exact ⟨same, minding.kept, minding.names, found row member same⟩
  | latestExecution about flow =>
      obtain rfl := concerns
      cases looked : scene.store.latest? request.conversation flow with
      | none =>
          simp only [Callees.answer, Scene.serve, looked]
          exact ⟨trivial, minding⟩
      | some execution =>
          obtain ⟨row, member, same, _, rfl⟩ := Store.of_latest?_eq_some looked
          simp only [Callees.answer, Scene.serve, looked]
          exact ⟨same, minding.kept, minding.names, found row member same⟩
  | createExecution about flow node =>
      obtain rfl := concerns
      cases created : (scene.store.create stamp request.conversation flow node).1 with
      | error error =>
          refine ⟨?_, kept, names, ?_⟩ <;> simp only [Callees.answer, Scene.serve, created] <;>
            trivial
      | ok execution =>
          obtain ⟨row, member, same, rfl⟩ := Store.of_create_eq_ok created
          refine ⟨?_, kept, names, ?_⟩
          · simp only [Callees.answer, Scene.serve, created]
            exact same
          · simp only [Callees.answer, Scene.serve, created]
            exact owns_of_found kept member same
  | complete about flow => exact ⟨trivial, kept, names, trivial⟩
  | _ => exact ⟨trivial, kept, names, owns⟩

end Request.Minding

end ChatFlow
