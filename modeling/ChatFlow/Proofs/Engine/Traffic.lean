import ChatFlow.Proofs.Delay.Postponing
import ChatFlow.Proofs.Engine.Charge

/-!
# One execution for each conversation

Any number of requests are served at once, call by call, on one store; only the requests of one
conversation come one after the other.  A request whose execution runs finds it running still when
it writes to it, since nobody else is in charge of it.  So no call ever adds a row but for a
conversation in which nothing runs, no conversation has two running executions, in whatever flows,
and no request writes to an execution but to the one that it is in charge of.
-/

namespace ChatFlow

open Process

variable {site : Site} {scene before after : Scene} {request other : Request} {charge : Charge}
  {call : Call} {outcome : call.Outcome} {row : ExecutionRow}

/-- A conversation has one running execution at most, and continuations name executions. -/
structure Scene.Single (scene : Scene) : Prop where
  kept : scene.store.WellKept
  single : ∀ row ∈ scene.store.executions, ∀ other ∈ scene.store.executions,
    row.status = .active → other.status = .active → row.conversation = other.conversation →
    row = other
  named : ∀ item ∈ scene.queued, ∃ row ∈ scene.store.executions, row.id = item.execution ∧
    row.conversation = item.conversation

theorem Scene.single_empty : ({} : Scene).Single :=
  ⟨Store.wellKept_empty, by simp, by simp⟩

/-- The execution of a continuation is there. -/
def Request.Named (scene : Scene) : Request → Prop
  | .message _ => True
  | .continuation item => ∃ row ∈ scene.store.executions, row.id = item.execution ∧
      row.conversation = item.conversation

/-- What can be queued can be found. -/
theorem Scene.Single.named_of_offers
    (single : scene.Single)
    (offered : scene.Offers request) :
    request.Named scene := by
  cases request with
  | message message => trivial
  | continuation item =>
      obtain ⟨queued, member, same⟩ := offered
      rw [same]
      exact single.named queued member

namespace Charge

/-- What a request knows of its charge. -/
def Holds (request : Request) (scene : Scene) : Charge → Prop
  | .entered => request.Named scene
  | .vacant => ∀ row ∈ scene.store.executions, row.conversation = request.conversation →
      row.status ≠ .active
  | .tending id flow => ∃ row ∈ scene.store.executions, row.id = id ∧ row.flow = flow ∧
      row.conversation = request.conversation ∧ row.status = .active
  | .outside | .settled | .left => True

/-- What a call of a request does to executions and continuations. -/
inductive Does (request : Request) (charge : Charge) (before after : Scene) : Prop
  | aside (rows : after.store.executions = before.store.executions)
      (queue : after.queued = before.queued)
  /-- It writes to the execution that the request is in charge of. -/
  | write {row changed : ExecutionRow} (tends : charge = .tending row.id row.flow)
      (member : row ∈ before.store.executions) (active : row.status = .active)
      (same : row.conversation = request.conversation) (id_eq : changed.id = row.id)
      (flow_eq : changed.flow = row.flow)
      (conversation_eq : changed.conversation = row.conversation)
      (rows : after.store.executions = (before.store.replace changed).executions)
      (queue : after.queued = before.queued)
  /-- It adds an execution where nothing runs. -/
  | add {row : ExecutionRow} (vacant : charge = .vacant)
      (idle : ∀ other ∈ before.store.executions, other.conversation = row.conversation →
        other.status ≠ .active)
      (unused : ∀ other ∈ before.store.executions, other.id ≠ row.id)
      (same : row.conversation = request.conversation)
      (rows : after.store.executions = before.store.executions ++ [row])
      (queue : after.queued = before.queued)
  /-- It queues a continuation of the execution that the request is in charge of. -/
  | queue {row : ExecutionRow} {item : Continuation} (member : row ∈ before.store.executions)
      (id_eq : row.id = item.execution) (conversation_eq : row.conversation = item.conversation)
      (rows : after.store.executions = before.store.executions)
      (queue : after.queued = before.queued ++ [item])

/-! ## Calls -/

/-- What a request knows is about executions only. -/
theorem Holds.congr
    (holds : charge.Holds request before)
    (rows : after.store.executions = before.store.executions) :
    charge.Holds request after := by
  cases charge with
  | entered =>
      cases request with
      | message => trivial
      | continuation item =>
          simp only [Holds, Request.Named, rows] at holds ⊢
          exact holds
  | vacant | tending =>
      simp only [Holds, rows] at holds ⊢
      exact holds
  | outside | settled | left => trivial

theorem isAside_of_isAloof (isAloof : call.isAloof = true) : call.isAside = true := by
  cases call with
  | createExecution | advance | setWaiting | complete | setStage | saveVariables | enqueue =>
      cases isAloof
  | _ => rfl

/-- A call that has nothing to do with executions leaves all that a request knows of them. -/
theorem does_of_isAloof
    (holds : charge.Holds request before)
    (isAloof : call.isAloof = true)
    (answered : site.Answers call before outcome after) :
    (Does request charge before after ∧ call.Finds request.conversation outcome) ∧
      (charge.next call outcome).Holds request after := by
  obtain ⟨rows, queue⟩ := answered.of_isAside (isAside_of_isAloof isAloof)
  rw [next_of_isAloof isAloof]
  exact ⟨⟨.aside rows queue, finds_of_isAloof isAloof outcome⟩, holds.congr rows⟩

/-- Whatever a request calls that is in charge of an execution leaves it as it is, or writes to it;
and the request knows of its charge then. -/
theorem does_of_tending
    {id flow : String}
    (single : before.Single)
    (holds : (tending id flow).Holds request before)
    (allows : (tending id flow).Allows request call)
    (answered : site.Answers call before outcome after) :
    Does request (.tending id flow) before after ∧
      ((tending id flow).next call outcome).Holds request after := by
  have holdsStill (rows : after.store.executions = before.store.executions) :
      (tending id flow).Holds request after := holds.congr rows
  obtain ⟨row, member, rfl, rfl, same, active⟩ := holds
  have writes (changed : ExecutionRow)
      (served : after = before.withStore (before.store.replace changed))
      (id_eq : changed.id = row.id) (flow_eq : changed.flow = row.flow)
      (conversation_eq : changed.conversation = row.conversation) :
      Does request (.tending row.id row.flow) before after ∧
        (changed.status = .active → (tending row.id row.flow).Holds request after) := by
    refine ⟨.write rfl member active same id_eq flow_eq conversation_eq ?_ ?_,
      fun stillActive => ?_⟩
    · rw [served]
      rfl
    · rw [served]
      rfl
    · rw [served]
      exact ⟨changed, Store.mem_replace_self member id_eq.symm, id_eq, flow_eq,
        conversation_eq.trans same, stillActive⟩
  by_cases isAside : call.isAside = true
  · obtain ⟨rows, queue⟩ := answered.of_isAside isAside
    refine ⟨.aside rows queue, ?_⟩
    cases call with
    | acquire | activeExecution | executionById | latestExecution => cases allows
    | createExecution | advance | setWaiting | complete | setStage | saveVariables | enqueue =>
        cases isAside
    | release => trivial
    | _ => exact holdsStill rows
  rcases answered.effect with same_scene | ⟨now, choice, _, served⟩
  · have rows : after.store.executions = before.store.executions := by rw [same_scene]
    refine ⟨.aside rows (by rw [same_scene]), ?_⟩
    cases call with
    | createExecution => cases allows
    | complete => trivial
    | advance | setWaiting | setStage | saveVariables | enqueue => exact holdsStill rows
    | _ => exact (isAside rfl).elim
  · cases call with
    | advance conversation inFlow node waiting =>
        obtain ⟨rfl, rfl⟩ := allows
        rw [← same] at served
        obtain ⟨does, holds⟩ := writes (row.moved now node waiting)
          (served.trans (congrArg before.withStore (single.kept.advance_eq member active waiting)))
          rfl rfl rfl
        exact ⟨does, holds active⟩
    | setWaiting conversation inFlow waiting =>
        obtain ⟨rfl, rfl⟩ := allows
        rw [← same] at served
        simp only [Scene.serve, single.kept.setWaiting_eq member active] at served
        obtain ⟨does, holds⟩ := writes _ served rfl rfl rfl
        exact ⟨does, holds active⟩
    | complete conversation inFlow =>
        obtain ⟨rfl, rfl⟩ := allows
        rw [← same] at served
        exact ⟨(writes _
          (served.trans (congrArg before.withStore (single.kept.complete_eq member active)))
          rfl rfl rfl).1, trivial⟩
    | setStage id stage =>
        obtain rfl := allows
        obtain ⟨does, holds⟩ := writes { row with stage, updated := Timestamp.print now }
          (served.trans (congrArg before.withStore (single.kept.updateById_eq member rfl)))
          rfl rfl rfl
        exact ⟨does, holds active⟩
    | saveVariables id vars =>
        obtain rfl := allows
        obtain ⟨does, holds⟩ := writes
          { row with vars := Store.encodeVariables vars, updated := Timestamp.print now }
          (served.trans (congrArg before.withStore (single.kept.updateById_eq member rfl)))
          rfl rfl rfl
        exact ⟨does, holds active⟩
    | enqueue item =>
        obtain ⟨id_eq, _, conversation_eq⟩ := allows
        have rows : after.store.executions = before.store.executions := by
          rw [served]
          rfl
        refine ⟨.queue member id_eq.symm (same.trans conversation_eq.symm) rows ?_, holdsStill rows⟩
        rw [served]
        rfl
    | createExecution => cases allows
    | _ => exact (isAside rfl).elim

/-- Where nothing runs a request may create an execution, and is in charge of it then. -/
theorem does_of_vacant
    (single : before.Single)
    (holds : vacant.Holds request before)
    (allows : vacant.Allows request call)
    (answered : site.Answers call before outcome after) :
    (Does request .vacant before after ∧ call.Finds request.conversation outcome) ∧
      (vacant.next call outcome).Holds request after := by
  by_cases isAloof : call.isAloof = true
  · exact does_of_isAloof holds isAloof answered
  · cases call with
    | createExecution conversation flow node =>
        obtain rfl := allows
        have idle : ∀ row ∈ before.store.executions, row.conversation = request.conversation →
            row.status ≠ .active := holds
        rcases answered.createExecution idle with
          ⟨stamp, _, unused, rfl, created⟩ | ⟨rfl, _, rfl, _⟩
        · have does : Does request .vacant before (before.withStore { before.store with
              executions := before.store.executions ++
                [Store.freshRow stamp request.conversation flow node] }) :=
            .add rfl idle unused rfl rfl rfl
          rcases created with rfl | ⟨_, _, rfl⟩
          · exact ⟨⟨does, rfl⟩, _, List.mem_append_right _ (List.mem_singleton.mpr rfl), rfl, rfl,
              rfl, rfl⟩
          · exact ⟨⟨does, trivial⟩, trivial⟩
        · exact ⟨⟨.aside rfl rfl, trivial⟩, trivial⟩
    | release =>
        obtain ⟨rows, queue⟩ := answered.of_isAside rfl
        exact ⟨⟨.aside rows queue, trivial⟩, trivial⟩
    | acquire | activeExecution | executionById | latestExecution | advance | setWaiting | complete
    | setStage | saveVariables | enqueue => cases allows
    | _ => exact (isAloof rfl).elim

/-- Under the lock a request finds what it is in charge of. -/
theorem does_of_entered
    (single : before.Single)
    (named : request.Named before)
    (allows : entered.Allows request call)
    (answered : site.Answers call before outcome after) :
    (Does request .entered before after ∧ call.Finds request.conversation outcome) ∧
      (entered.next call outcome).Holds request after := by
  by_cases isAloof : call.isAloof = true
  · have holds : entered.Holds request before := named
    exact does_of_isAloof holds isAloof answered
  -- What is found has the conversation of the request, and the request minds it if it runs.
  have found (row : ExecutionRow) (member : row ∈ before.store.executions)
      (same : row.conversation = request.conversation) :
      (if row.toExecution.isActive then tending row.id row.flow else entered).Holds request
        before := by
    split
    · rename_i active
      exact ⟨row, member, rfl, rfl, same, beq_iff_eq.mp active⟩
    · exact named
  cases call with
  | activeExecution conversation =>
      obtain rfl := allows
      obtain ⟨rfl, rfl | ⟨fault, _, rfl⟩⟩ := answered.activeExecution
      · cases looked : after.store.active? request.conversation with
        | none =>
            exact ⟨⟨.aside rfl rfl, trivial⟩, fun row member same =>
              Store.of_active?_eq_none looked member same⟩
        | some execution =>
            obtain ⟨row, member, same, active, rfl⟩ := Store.of_active?_eq_some looked
            exact ⟨⟨.aside rfl rfl, same⟩, row, member, rfl, rfl, same, active⟩
      · exact ⟨⟨.aside rfl rfl, trivial⟩, named⟩
  | executionById id =>
      obtain ⟨item, rfl, rfl⟩ := allows
      obtain ⟨rfl, rfl | ⟨fault, _, rfl⟩⟩ := answered.executionById
      · cases looked : after.store.byId? item.execution with
        | none => exact ⟨⟨.aside rfl rfl, trivial⟩, named⟩
        | some execution =>
            obtain ⟨row, member, id_eq, rfl⟩ := Store.of_byId?_eq_some looked
            obtain ⟨other, otherMember, other_id, same⟩ := named
            obtain rfl := single.kept.eq_of_id member otherMember (id_eq.trans other_id.symm)
            exact ⟨⟨.aside rfl rfl, same⟩, found row member same⟩
      · exact ⟨⟨.aside rfl rfl, trivial⟩, named⟩
  | latestExecution conversation flow =>
      obtain rfl := allows
      obtain ⟨rfl, rfl | ⟨fault, _, rfl⟩⟩ := answered.latestExecution
      · cases looked : after.store.latest? request.conversation flow with
        | none => exact ⟨⟨.aside rfl rfl, trivial⟩, named⟩
        | some execution =>
            obtain ⟨row, member, same, _, rfl⟩ := Store.of_latest?_eq_some looked
            exact ⟨⟨.aside rfl rfl, same⟩, found row member same⟩
      · exact ⟨⟨.aside rfl rfl, trivial⟩, named⟩
  | release =>
      obtain ⟨rows, queue⟩ := answered.of_isAside rfl
      exact ⟨⟨.aside rows queue, trivial⟩, trivial⟩
  | acquire | createExecution | advance | setWaiting | complete | setStage | saveVariables
  | enqueue => cases allows
  | _ => exact (isAloof rfl).elim

/-- Every call of a request does what its charge lets it do. -/
theorem does_of_answers
    (single : before.Single)
    (holds : charge.Holds request before)
    (allows : charge.Allows request call)
    (offered : ∀ conversation, call = .acquire conversation → before.Offers request)
    (answered : site.Answers call before outcome after) :
    (Does request charge before after ∧ call.Finds request.conversation outcome) ∧
      (charge.next call outcome).Holds request after := by
  cases charge with
  | entered => exact does_of_entered single holds allows answered
  | vacant => exact does_of_vacant single holds allows answered
  | tending id flow =>
      obtain ⟨does, holdsThen⟩ := does_of_tending single holds allows answered
      refine ⟨⟨does, ?_⟩, holdsThen⟩
      cases call with
      | activeExecution | executionById | latestExecution | createExecution => cases allows
      | _ => trivial
  | outside =>
      by_cases isAloof : call.isAloof = true
      · exact does_of_isAloof holds isAloof answered
      · cases call with
        | acquire conversation =>
            obtain ⟨rows, queue⟩ := answered.of_isAside rfl
            refine ⟨⟨.aside rows queue, trivial⟩, ?_⟩
            rcases outcome with fault | (_ | _)
            · trivial
            · trivial
            · have named : entered.Holds request before :=
                single.named_of_offers (offered conversation rfl)
              exact named.congr rows
        | release => cases allows.1
        | activeExecution | executionById | latestExecution | createExecution | advance
        | setWaiting | complete | setStage | saveVariables | enqueue => cases allows
        | _ => exact (isAloof rfl).elim
  | settled | left =>
      by_cases isAloof : call.isAloof = true
      · exact does_of_isAloof holds isAloof answered
      · cases call with
        | release =>
            obtain ⟨rows, queue⟩ := answered.of_isAside rfl
            exact ⟨⟨.aside rows queue, trivial⟩, trivial⟩
        | acquire | activeExecution | executionById | latestExecution | createExecution | advance
        | setWaiting | complete | setStage | saveVariables | enqueue => cases allows
        | _ => exact (isAloof rfl).elim

/-! ## What others see of it -/

/-- What is written to is what the request is in charge of. -/
theorem Does.kept_or_tended
    (does : Does request charge before after)
    (single : before.Single)
    (member : row ∈ before.store.executions) :
    row ∈ after.store.executions ∨
      charge = .tending row.id row.flow ∧ row.status = .active ∧
      row.conversation = request.conversation ∧
      ∃ later ∈ after.store.executions, later.id = row.id ∧ later.flow = row.flow ∧
        later.conversation = row.conversation := by
  cases does with
  | aside rows | queue _ _ _ rows =>
      rw [rows]
      exact .inl member
  | @write written changed tends writtenMember active same id_eq flow_eq conversation_eq rows =>
      rw [rows]
      by_cases isIt : row.id = written.id
      · obtain rfl := single.kept.eq_of_id member writtenMember isIt
        exact .inr ⟨tends, active, same, changed, Store.mem_replace_self member id_eq.symm, id_eq,
          flow_eq, conversation_eq⟩
      · exact .inl (Store.mem_replace_of_ne member (by rwa [id_eq]))
  | add _ _ _ _ rows =>
      rw [rows]
      exact .inl (List.mem_append_left _ member)

/-- Executions stay where they are when a request makes a call, and those of other conversations as
they are. -/
theorem Does.mem
    (does : Does request charge before after)
    (single : before.Single)
    (member : row ∈ before.store.executions) :
    ∃ later ∈ after.store.executions, later.id = row.id ∧ later.flow = row.flow ∧
      later.conversation = row.conversation ∧
      (row.conversation ≠ request.conversation → later = row) := by
  rcases does.kept_or_tended single member with
    kept | ⟨_, _, same, later, laterMember, id_eq, flow_eq, conversation_eq⟩
  · exact ⟨row, kept, rfl, rfl, rfl, fun _ => rfl⟩
  · exact ⟨later, laterMember, id_eq, flow_eq, conversation_eq,
      fun different => (different same).elim⟩

/-- What runs in other conversations ran there before. -/
theorem Does.mem_of_ne
    (does : Does request charge before after)
    (member : row ∈ after.store.executions)
    (different : row.conversation ≠ request.conversation) :
    row ∈ before.store.executions := by
  cases does with
  | aside rows | queue _ _ _ rows =>
      rw [rows] at member
      exact member
  | write _ _ _ same id_eq flow_eq conversation_eq rows =>
      rw [rows] at member
      rcases Store.mem_replace member with rfl | ⟨old, _⟩
      · exact (different (conversation_eq.trans same)).elim
      · exact old
  | add _ _ _ same rows =>
      rw [rows] at member
      rcases List.mem_append.mp member with old | added
      · exact old
      · obtain rfl := List.mem_singleton.mp added
        exact (different same).elim

/-- What is added is added by a request that found nothing running. -/
theorem Does.added
    (does : Does request charge before after)
    (member : row ∈ after.store.executions)
    (unused : ∀ old ∈ before.store.executions, old.id ≠ row.id) :
    charge = .vacant ∧ row.conversation = request.conversation ∧
      ∀ old ∈ before.store.executions, old.conversation = row.conversation →
        old.status ≠ .active := by
  cases does with
  | aside rows | queue _ _ _ rows =>
      rw [rows] at member
      exact (unused row member rfl).elim
  | write _ writtenMember _ _ id_eq _ _ rows =>
      rw [rows] at member
      rcases Store.mem_replace member with rfl | ⟨old, _⟩
      · exact (unused _ writtenMember id_eq.symm).elim
      · exact (unused row old rfl).elim
  | add vacant idle _ same rows =>
      rw [rows] at member
      rcases List.mem_append.mp member with old | added
      · exact (unused row old rfl).elim
      · obtain rfl := List.mem_singleton.mp added
        exact ⟨vacant, same, idle⟩

/-- Executions are only written to under the lock. -/
theorem Does.rows_eq
    (does : Does request charge before after)
    (isOutside : charge.isInside = false) :
    after.store.executions = before.store.executions := by
  cases does with
  | aside rows | queue _ _ _ rows => exact rows
  | write tends =>
      rw [tends] at isOutside
      cases isOutside
  | add vacant =>
      rw [vacant] at isOutside
      cases isOutside

/-- A request knows of its charge whatever requests of other conversations do. -/
theorem Holds.elsewhere
    (holds : charge.Holds other before)
    {doing : Charge}
    (does : Does request doing before after)
    (single : before.Single)
    (apart : charge.isInside = true → doing.isInside = true →
      other.conversation ≠ request.conversation) :
    charge.Holds other after := by
  cases isInside : doing.isInside with
  | false => exact holds.congr (does.rows_eq isInside)
  | true =>
  have apart (inside : charge.isInside = true) := apart inside isInside
  cases charge with
  | entered =>
      cases other with
      | message => trivial
      | continuation item =>
          obtain ⟨row, member, id_eq, same⟩ := holds
          obtain ⟨later, laterMember, later_id, _, later_conversation, _⟩ := does.mem single member
          exact ⟨later, laterMember, later_id.trans id_eq, later_conversation.trans same⟩
  | vacant =>
      intro row member same
      refine holds row (does.mem_of_ne member ?_) same
      rw [same]
      exact apart rfl
  | tending id flow =>
      obtain ⟨row, member, id_eq, flow_eq, same, active⟩ := holds
      obtain ⟨later, laterMember, _, _, _, unchanged⟩ := does.mem single member
      rw [unchanged (by rw [same]; exact apart rfl)] at laterMember
      exact ⟨row, laterMember, id_eq, flow_eq, same, active⟩
  | outside | settled | left => trivial

/-- A conversation still has one running execution at most, and what is queued names executions. -/
theorem Does.single
    (does : Does request charge before after)
    (single : before.Single) :
    after.Single := by
  have namedBefore : ∀ item ∈ before.queued, ∃ row ∈ after.store.executions,
      row.id = item.execution ∧ row.conversation = item.conversation := by
    intro item queued
    obtain ⟨row, member, id_eq, same⟩ := single.named item queued
    obtain ⟨later, laterMember, later_id, _, later_conversation, _⟩ := does.mem single member
    exact ⟨later, laterMember, later_id.trans id_eq, later_conversation.trans same⟩
  cases does with
  | aside rows queue =>
      refine ⟨single.kept.of_eq rows, ?_, ?_⟩
      · rw [rows]
        exact single.single
      · rw [queue]
        exact namedBefore
  | @write written changed _ member active same id_eq flow_eq conversation_eq rows queue =>
      refine ⟨(single.kept.replace member active id_eq conversation_eq flow_eq).of_eq rows, ?_, ?_⟩
      · rw [rows]
        intro first firstMember second secondMember firstActive secondActive together
        rcases Store.mem_replace firstMember with rfl | ⟨firstOld, firstElse⟩
        · rcases Store.mem_replace secondMember with rfl | ⟨secondOld, secondElse⟩
          · rfl
          · have isIt := single.single written member second secondOld active secondActive
              (conversation_eq.symm.trans together)
            exact (secondElse (by rw [id_eq, isIt])).elim
        · rcases Store.mem_replace secondMember with rfl | ⟨secondOld, _⟩
          · have isIt := single.single first firstOld written member firstActive active
              (together.trans conversation_eq)
            exact (firstElse (by rw [id_eq, isIt])).elim
          · exact single.single first firstOld second secondOld firstActive secondActive together
      · rw [queue]
        exact namedBefore
  | @add row _ idle unused same rows queue =>
      refine ⟨(single.kept.append unused idle).of_eq rows, ?_, ?_⟩
      · rw [rows]
        intro first firstMember second secondMember firstActive secondActive together
        rcases List.mem_append.mp firstMember with firstOld | firstNew
        · rcases List.mem_append.mp secondMember with secondOld | secondNew
          · exact single.single first firstOld second secondOld firstActive secondActive together
          · obtain rfl := List.mem_singleton.mp secondNew
            exact (idle first firstOld together firstActive).elim
        · obtain rfl := List.mem_singleton.mp firstNew
          rcases List.mem_append.mp secondMember with secondOld | secondNew
          · exact (idle second secondOld together.symm secondActive).elim
          · exact (List.mem_singleton.mp secondNew).symm
      · rw [queue]
        exact namedBefore
  | @queue row item member id_eq conversation_eq rows queue =>
      refine ⟨single.kept.of_eq rows, ?_, ?_⟩
      · rw [rows]
        exact single.single
      · rw [queue]
        intro other queued
        rcases List.mem_append.mp queued with old | new
        · exact namedBefore other old
        · obtain rfl := List.mem_singleton.mp new
          rw [rows]
          exact ⟨row, member, id_eq, conversation_eq⟩

end Charge

/-! ## Many requests at once -/

/-- Requests that are served at once. -/
structure Traffic (ι : Type) where
  scene : Scene
  /-- What is left of each request. -/
  rest : ι → Process Verdict
  /-- What each request is in charge of. -/
  charge : ι → Charge

namespace Traffic

variable {ι : Type} {engine : ι → Engine} {asked : ι → Request} {traffic later : Traffic ι}
  {caller : ι}

/-- Nothing has happened. -/
def start (engine : ι → Engine) (asked : ι → Request) : Traffic ι where
  scene := {}
  rest caller := (engine caller).serve (asked caller)
  charge _ := .outside

section Steps

variable [DecidableEq ι]

/-- A request makes a call.  A continuation must have been queued before it asks for the lock, and
the lock is had by one request of a conversation at a time. -/
inductive Calls (site : Site) (asked : ι → Request) (caller : ι) (before : Traffic ι) :
    Traffic ι → Prop
  | call {call : Call} {next : call.Outcome → Process Verdict} {outcome : call.Outcome}
      {after : Scene}
      (rest_eq : before.rest caller = .step call next)
      (answered : site.Answers call before.scene outcome after)
      (offered : ∀ conversation, call = .acquire conversation → before.scene.Offers (asked caller))
      (serial : (before.charge caller).isInside = false →
        ((before.charge caller).next call outcome).isInside = true →
        ∀ other, other ≠ caller → (asked other).conversation = (asked caller).conversation →
          (before.charge other).isInside = false) :
      Calls site asked caller before
        { scene := after
          rest := Function.update before.rest caller (next outcome)
          charge := Function.update before.charge caller
            ((before.charge caller).next call outcome) }

/-- A request makes a call, or it is cut short and never makes another one. -/
inductive Step (site : Site) (asked : ι → Request) (before : Traffic ι) : Traffic ι → Prop
  | call {after : Traffic ι} {caller : ι} (calls : Calls site asked caller before after) :
      Step site asked before after
  | cut (caller : ι) (fault : Fault) :
      Step site asked before
        { before with
          rest := Function.update before.rest caller (.halt fault)
          charge := Function.update before.charge caller .left }

/-- Any number of calls are made. -/
abbrev Reaches (site : Site) (asked : ι → Request) : Traffic ι → Traffic ι → Prop :=
  Relation.ReflTransGen (Step site asked)

end Steps

/-- Every request minds its charge and knows of it, and those inside are of different
conversations. -/
structure Minded (asked : ι → Request) (traffic : Traffic ι) : Prop where
  single : traffic.scene.Single
  minds : ∀ caller, (traffic.rest caller).Minds (asked caller)
    (fun _ charge => charge.isInside = false) (traffic.charge caller)
  holds : ∀ caller, (traffic.charge caller).Holds (asked caller) traffic.scene
  apart : ∀ first second, (traffic.charge first).isInside = true →
    (traffic.charge second).isInside = true →
    (asked first).conversation = (asked second).conversation → first = second

theorem minded_start : Minded asked (start engine asked) where
  single := Scene.single_empty
  minds caller := (engine caller).minds_serve (asked caller)
  holds _ := trivial
  apart _ _ inside := by cases inside

variable [DecidableEq ι]

/-- A call does what the charge of the request lets it do, and all requests mind theirs still. -/
theorem Minded.calls
    (minded : Minded asked traffic)
    (calls : Calls site asked caller traffic later) :
    Charge.Does (asked caller) (traffic.charge caller) traffic.scene later.scene ∧
      Minded asked later ∧
      ∀ id flow, traffic.charge caller = .tending id flow →
        later.charge caller = .tending id flow ∨ later.charge caller = .settled ∨
          later.charge caller = .left := by
  cases calls with
  | @call call next outcome after rest_eq answered offered serial =>
      have minds := minded.minds caller
      rw [rest_eq] at minds
      obtain ⟨allows, goesOn⟩ := minds
      obtain ⟨⟨does, finds⟩, knows⟩ :=
        Charge.does_of_answers minded.single (minded.holds caller) allows offered answered
      refine ⟨does, ⟨does.single minded.single, ?_, ?_, ?_⟩, ?_⟩
      · intro other
        by_cases same : other = caller
        · subst same
          simpa using goesOn outcome finds
        · simpa [same] using minded.minds other
      · intro other
        by_cases same : other = caller
        · subst same
          simpa using knows
        · simp only [ne_eq, same, not_false_eq_true, Function.update_of_ne]
          exact (minded.holds other).elsewhere does minded.single
            fun inside callerInside together =>
              same (minded.apart other caller inside callerInside together)
      · -- Whoever enters is alone, and whoever is inside was so before.
        have alone (other : ι) (different : other ≠ caller)
            (callerInside : ((traffic.charge caller).next call outcome).isInside = true)
            (otherInside : (traffic.charge other).isInside = true)
            (together : (asked other).conversation = (asked caller).conversation) : False := by
          cases isInside : (traffic.charge caller).isInside with
          | true => exact different (minded.apart other caller otherInside isInside together)
          | false =>
              rw [serial isInside callerInside other different together] at otherInside
              cases otherInside
        intro first second firstInside secondInside together
        by_cases isFirst : first = caller
        · by_cases isSecond : second = caller
          · exact isFirst.trans isSecond.symm
          · subst isFirst
            simp only [Function.update_self, ne_eq, isSecond, not_false_eq_true,
              Function.update_of_ne] at firstInside secondInside
            exact (alone second isSecond firstInside secondInside together.symm).elim
        · by_cases isSecond : second = caller
          · subst isSecond
            simp only [Function.update_self, ne_eq, isFirst, not_false_eq_true,
              Function.update_of_ne] at firstInside secondInside
            exact (alone first isFirst secondInside firstInside together).elim
          · simp only [ne_eq, isFirst, isSecond, not_false_eq_true, Function.update_of_ne]
              at firstInside secondInside
            exact minded.apart first second firstInside secondInside together
      · intro id flow tends
        rw [tends] at allows
        simp only [Function.update_self, tends]
        exact Charge.next_of_tending allows outcome

/-- A request that is cut short is not in charge of anything any more. -/
theorem Minded.cut
    (minded : Minded asked traffic)
    (caller : ι)
    (fault : Fault) :
    Minded asked { traffic with
      rest := Function.update traffic.rest caller (.halt fault)
      charge := Function.update traffic.charge caller .left } := by
  refine ⟨minded.single, ?_, ?_, ?_⟩
  · intro other
    by_cases same : other = caller
    · subst same
      simp [Process.Minds, Charge.isInside]
    · simpa [same] using minded.minds other
  · intro other
    by_cases same : other = caller
    · subst same
      simp [Charge.Holds]
    · simpa [same] using minded.holds other
  · have still (other : ι)
        (inside : (Function.update traffic.charge caller .left other).isInside = true) :
        (traffic.charge other).isInside = true := by
      by_cases same : other = caller
      · subst same
        simp [Charge.isInside] at inside
      · simpa [same] using inside
    intro first second firstInside secondInside together
    exact minded.apart first second (still first firstInside) (still second secondInside) together

/-- However many calls are made, and by whomever, all requests mind their charges. -/
theorem minded_of_reaches
    (reaches : Reaches site asked (start engine asked) traffic) :
    Minded asked traffic := by
  induction reaches with
  | refl => exact minded_start
  | tail _ step inductionHypothesis =>
      cases step with
      | call calls => exact (inductionHypothesis.calls calls).2.1
      | cut caller fault => exact inductionHypothesis.cut caller fault

/-- However many requests are served at once, of whatever conversations and in whatever flows, as
long as those of one conversation hold its lock one after the other: a conversation has one running
execution at most; an execution is only created by a request that found nothing running, and nothing
runs in its conversation then; a request only writes to the running execution that it is in charge
of, and is not in charge of any other one after that; and every turn calls only what may be called
by whoever is in charge of the execution that the turn was started on. -/
theorem one_active_execution
    (reaches : Reaches site asked (start engine asked) traffic) :
    (∀ row ∈ traffic.scene.store.executions, ∀ other ∈ traffic.scene.store.executions,
      row.status = .active → other.status = .active → row.conversation = other.conversation →
      row = other) ∧
    (∀ caller later, Calls site asked caller traffic later →
      (∀ row ∈ later.scene.store.executions,
        (∀ old ∈ traffic.scene.store.executions, old.id ≠ row.id) →
          traffic.charge caller = .vacant ∧ row.conversation = (asked caller).conversation ∧
          ∀ old ∈ traffic.scene.store.executions, old.conversation = row.conversation →
            old.status ≠ .active) ∧
      (∀ old ∈ traffic.scene.store.executions, old ∈ later.scene.store.executions ∨
        traffic.charge caller = .tending old.id old.flow ∧ old.status = .active ∧
        old.conversation = (asked caller).conversation ∧
        ∃ row ∈ later.scene.store.executions, row.id = old.id ∧ row.flow = old.flow ∧
          row.conversation = old.conversation) ∧
      ∀ id flow, traffic.charge caller = .tending id flow →
        later.charge caller = .tending id flow ∨ later.charge caller = .settled ∨
          later.charge caller = .left) ∧
    ∀ (engine : Engine) (graph : Flow.Graph) (execution : Execution) (input : TurnInput)
      (request : Request), execution.conversation = request.conversation →
        (Turn.perform engine graph execution input).Minds request
          (fun _ charge => charge.isInside = true) (.tending execution.id execution.flow) := by
  have minded := minded_of_reaches reaches
  refine ⟨minded.single.single, ?_, fun engine graph execution input request same =>
    Turn.minds_perform same rfl rfl rfl input⟩
  intro caller later calls
  obtain ⟨does, _, tends⟩ := minded.calls calls
  exact ⟨fun row member unused => does.added member unused, fun old member => does.kept_or_tended
    minded.single member, tends⟩

/-! ## One after the other -/

/-- A request may be served when no other one holds a lock. -/
theorem reaches_of_alone
    {rest : Process Verdict}
    {scene : Scene}
    (offered : traffic.scene.Offers (asked caller))
    (alone : ∀ other, other ≠ caller → (traffic.charge other).isInside = false)
    (reaches : Process.Reaches site.Answers (traffic.rest caller, traffic.scene) (rest, scene)) :
    ∃ charge, Reaches site asked traffic
      { scene
        rest := Function.update traffic.rest caller rest
        charge := Function.update traffic.charge caller charge } := by
  have follows (moment : Process Verdict × Scene)
      (reaches : Process.Reaches site.Answers (traffic.rest caller, traffic.scene) moment) :
      traffic.scene.Grows moment.2 ∧ ∃ charge, Reaches site asked traffic
        { scene := moment.2
          rest := Function.update traffic.rest caller moment.1
          charge := Function.update traffic.charge caller charge } := by
    induction reaches with
    | refl => exact ⟨.refl _, traffic.charge caller, by simpa using .refl⟩
    | tail _ step inductionHypothesis =>
        obtain ⟨grown, charge, reached⟩ := inductionHypothesis
        cases step with
        | @call call next middle after outcome answered =>
            have offeredStill : middle.Offers (asked caller) := by
              cases isIt : asked caller with
              | message => trivial
              | continuation item =>
                  rw [isIt] at offered
                  exact grown.offers offered
            have calls := @Calls.call ι _ site asked caller
              { scene := middle
                rest := Function.update traffic.rest caller (.step call next)
                charge := Function.update traffic.charge caller charge }
              call next outcome after (Function.update_self ..) answered (fun _ _ => offeredStill)
              fun _ _ other different _ => by simpa [different] using alone other different
            simp only [Function.update_idem, Function.update_self] at calls
            exact ⟨grown.trans answered.grows, _, reached.tail (.call calls)⟩
  exact (follows _ reaches).2

/-! ## A message and its continuation -/

/-- A message is handled at the greeting's site. -/
def greeted : Except Fault Verdict × Scene :=
  (({} : Engine).serve (.message .ofAna)).run (Site.greeting.answer ⟨0⟩ {}) {}

/-- Who takes up the continuation, and who handles the message. -/
def greetings (later : Bool) : Request :=
  if later then .continuation .ofAna else .message .ofAna

/-- The message may be handled while the continuation waits. -/
theorem reaches_greeted :
    ∃ charge, Reaches Site.greeting greetings (start (fun _ => {}) greetings)
      { scene := greeted.2
        rest := Function.update (start (fun _ => {}) greetings).rest false (orHalt greeted.1)
        charge := Function.update (fun _ => .outside) false charge } :=
  reaches_of_alone trivial (fun _ _ => rfl)
    (ends_of_run (Site.greeting.answer ⟨0⟩ {}) (Site.answers_answer trivial {}) _ _)

theorem one_active_execution_greeted :
    ∃ traffic, Reaches Site.greeting greetings (start (fun _ => {}) greetings) traffic ∧
      traffic.scene.store.executions.map ExecutionRow.status = [.active] ∧
      ∀ row ∈ traffic.scene.store.executions, ∀ other ∈ traffic.scene.store.executions,
        row.status = .active → other.status = .active → row.conversation = other.conversation →
        row = other := by
  have active : greeted.2.store.executions.map ExecutionRow.status = [.active] := by
    decide +kernel
  obtain ⟨charge, reaches⟩ := reaches_greeted
  exact ⟨_, reaches, active, (one_active_execution reaches).1⟩

end Traffic
end ChatFlow
