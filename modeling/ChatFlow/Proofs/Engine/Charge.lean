import ChatFlow.Proofs.Lock.Calls

/-!
# What a request is in charge of

Under the lock of its conversation a request is in charge of one execution at most: of the one that
it finds running, or of the one that it creates when it finds none.  `Charge` follows this from
call to call, whatever the outcomes are, and `Minds` says of a process that it only changes what it
is in charge of.  Every request minds its charge, and is in charge of nothing at its end.
-/

namespace ChatFlow

/-- What a request is in charge of. -/
inductive Charge where
  /-- It does not hold the lock yet. -/
  | outside
  /-- It holds the lock. -/
  | entered
  /-- It has found that nothing runs. -/
  | vacant
  /-- It has found or created a running execution. -/
  | tending (id flow : String)
  /-- It has completed the execution, or could not create one. -/
  | settled
  /-- It does not hold the lock any more. -/
  | left
deriving DecidableEq

/-- Whether a call is neither about locks, nor about executions, nor about continuations. -/
def Call.isAloof : Call → Bool
  | .acquire _ | .release _ | .activeExecution _ | .executionById _ | .latestExecution ..
  | .createExecution .. | .advance .. | .setWaiting .. | .complete .. | .setStage ..
  | .saveVariables .. | .enqueue _ => false
  | _ => true

namespace Charge

/-- Whether a request holds the lock. -/
def isInside : Charge → Bool
  | .outside | .left => false
  | _ => true

/-- What a request is in charge of after a call. -/
def next : Charge → (call : Call) → call.Outcome → Charge
  | _, .acquire _, .ok true => .entered
  | _, .release _, _ => .left
  | _, .activeExecution _, .ok none => .vacant
  | _, .activeExecution _, .ok (some execution) => .tending execution.id execution.flow
  | charge, .executionById _, .ok (some execution) =>
      if execution.isActive then .tending execution.id execution.flow else charge
  | charge, .latestExecution .., .ok (some execution) =>
      if execution.isActive then .tending execution.id execution.flow else charge
  | _, .createExecution .., .ok execution => .tending execution.id execution.flow
  | _, .createExecution .., .error _ => .settled
  | _, .complete .., _ => .settled
  | charge, _, _ => charge

/-- What a request may call, depending on what it is in charge of. -/
def Allows (request : Request) : Charge → Call → Prop
  | .outside, .acquire conversation => conversation = request.conversation
  | .entered, .activeExecution conversation => conversation = request.conversation
  | .entered, .executionById id => ∃ item, request = .continuation item ∧ id = item.execution
  | .entered, .latestExecution conversation _ => conversation = request.conversation
  | .vacant, .createExecution conversation _ _ => conversation = request.conversation
  | .tending _ flow, .advance conversation inFlow _ _
  | .tending _ flow, .setWaiting conversation inFlow _
  | .tending _ flow, .complete conversation inFlow =>
      conversation = request.conversation ∧ inFlow = flow
  | .tending id _, .setStage named _ | .tending id _, .saveVariables named _ => named = id
  | .tending id flow, .enqueue item =>
      item.execution = id ∧ item.flow = flow ∧ item.conversation = request.conversation
  | charge, .release conversation =>
      charge.isInside = true ∧ conversation = request.conversation
  | _, call => call.isAloof = true

end Charge

namespace Process

variable {α β : Type} {request : Request} {charge : Charge}

/-- As long as what it finds is of its conversation, a process calls only what it may call, and at
its end a postcondition holds of its result and its charge. -/
def Minds (request : Request) (post : Except Fault α → Charge → Prop) :
    Process α → Charge → Prop
  | .done value, charge => post (.ok value) charge
  | .halt fault, charge => post (.error fault) charge
  | .step call next, charge =>
      charge.Allows request call ∧ ∀ outcome, call.Finds request.conversation outcome →
        (next outcome).Minds request post (charge.next call outcome)

theorem Minds.andThen
    {middle : Except Fault α → Charge → Prop}
    {post : Except Fault β → Charge → Prop}
    {process : Process α}
    {next : α → Process β}
    (minds : process.Minds request middle charge)
    (rest : ∀ value charge, middle (.ok value) charge → (next value).Minds request post charge)
    (halts : ∀ fault charge, middle (.error fault) charge → post (.error fault) charge) :
    (process.andThen next).Minds request post charge := by
  induction process generalizing charge with
  | done value => exact rest value charge minds
  | halt fault => exact halts fault charge minds
  | step call following inductionHypothesis =>
      refine ⟨minds.1, fun outcome finds => ?_⟩
      exact inductionHypothesis outcome (minds.2 outcome finds)

theorem Minds.weaken
    {post weaker : Except Fault α → Charge → Prop}
    {process : Process α}
    (minds : process.Minds request post charge)
    (implies : ∀ result charge, post result charge → weaker result charge) :
    process.Minds request weaker charge := by
  rw [← andThen_done_right process]
  exact minds.andThen (fun value charge holds => implies (.ok value) charge holds)
    fun fault charge holds => implies (.error fault) charge holds

/-- A process whose faults are made results minds its charge as before. -/
theorem Minds.contain
    {post : Except Fault α → Charge → Prop}
    {process : Process α}
    (minds : process.Minds request post charge) :
    process.contain.Minds request
      (fun result charge => ∃ kept, result = .ok kept ∧ post kept charge) charge := by
  induction process generalizing charge with
  | done value => exact ⟨_, rfl, minds⟩
  | halt fault => exact ⟨_, rfl, minds⟩
  | step call following inductionHypothesis =>
      refine ⟨minds.1, fun outcome finds => ?_⟩
      exact inductionHypothesis outcome (minds.2 outcome finds)

/-- Calls that are allowed and change nothing about the charge may be made in any number. -/
theorem minds_of_within
    {allowed : Call → Prop}
    {post : Except Fault α → Prop}
    {process : Process α}
    (within : process.Within allowed (fun _ _ => True) post)
    (allows : ∀ call, allowed call → charge.Allows request call)
    (stays : ∀ call outcome, allowed call → charge.next call outcome = charge) :
    process.Minds request (fun result after => after = charge ∧ post result) charge := by
  induction process with
  | done value => exact ⟨rfl, within⟩
  | halt fault => exact ⟨rfl, within⟩
  | step call following inductionHypothesis =>
      refine ⟨allows call within.1, fun outcome _ => ?_⟩
      rw [stays call outcome within.1]
      exact inductionHypothesis outcome (within.2 outcome trivial)

end Process

open Process

namespace Charge

variable {request : Request} {charge : Charge} {call : Call}

/-- Aloof calls may be made at any time. -/
theorem allows_of_isAloof (isAloof : call.isAloof = true) : charge.Allows request call := by
  cases call with
  | acquire | release | activeExecution | executionById | latestExecution | createExecution
  | advance | setWaiting | complete | setStage | saveVariables | enqueue => cases isAloof
  | _ => cases charge <;> rfl

/-- They find no execution. -/
theorem finds_of_isAloof
    (isAloof : call.isAloof = true)
    (outcome : call.Outcome) :
    call.Finds request.conversation outcome := by
  cases call with
  | activeExecution | executionById | latestExecution | createExecution => cases isAloof
  | _ => trivial

/-- Whoever is in charge of an execution is in charge of no other one after that. -/
theorem next_of_tending
    {id flow : String}
    (allows : (tending id flow).Allows request call)
    (outcome : call.Outcome) :
    (tending id flow).next call outcome = .tending id flow ∨
      (tending id flow).next call outcome = .settled ∨
      (tending id flow).next call outcome = .left := by
  cases call with
  | acquire | activeExecution | executionById | latestExecution | createExecution => cases allows
  | complete => exact .inr (.inl rfl)
  | release => exact .inr (.inr rfl)
  | _ => exact .inl rfl

/-- Whoever holds the lock may release it. -/
theorem allows_release (inside : charge.isInside = true) :
    charge.Allows request (.release request.conversation) := by
  cases charge with
  | outside | left => cases inside
  | _ => exact ⟨inside, rfl⟩

/-- They change nothing about the charge. -/
theorem next_of_isAloof
    (isAloof : call.isAloof = true)
    (outcome : call.Outcome) :
    charge.next call outcome = charge := by
  cases call with
  | acquire | release | activeExecution | executionById | latestExecution | createExecution
  | advance | setWaiting | complete | setStage | saveVariables | enqueue => cases isAloof
  | _ => rfl

end Charge

namespace Process

variable {α β : Type} {request : Request} {charge : Charge} {call : Call}
  {post : Except Fault α → Charge → Prop}

/-- A call may settle what a request is in charge of, however it goes. -/
theorem minds_call
    {after : Charge}
    {next : call.Outcome → Process α}
    (allows : charge.Allows request call)
    (becomes : ∀ outcome, charge.next call outcome = after)
    (rest : ∀ outcome, (next outcome).Minds request post after) :
    (step call next).Minds request post charge := by
  refine ⟨allows, fun outcome _ => ?_⟩
  rw [becomes]
  exact rest outcome

/-- An aloof call may be made by whatever minds its charge. -/
theorem minds_aloof
    {next : call.Outcome → Process α}
    (isAloof : call.isAloof = true)
    (rest : ∀ outcome, (next outcome).Minds request post charge) :
    (step call next).Minds request post charge :=
  minds_call (Charge.allows_of_isAloof isAloof) (Charge.next_of_isAloof isAloof) rest

/-- So may any number of them. -/
theorem minds_of_isAloof
    {result : Except Fault α → Prop}
    {process : Process α}
    (within : process.Within (fun call => call.isAloof = true) (fun _ _ => True) result) :
    process.Minds request (fun value after => after = charge ∧ result value) charge :=
  minds_of_within within (fun _ isAloof => Charge.allows_of_isAloof isAloof)
    fun _ outcome isAloof => Charge.next_of_isAloof isAloof outcome

end Process

/-! ## Turns -/

namespace Turn

variable {engine : Engine} {graph : Flow.Graph} {node : Flow.Node} {execution : Execution}
  {turn : Turn} {request : Request}

/-- A turn is one of an execution, wherever that stands by now. -/
structure Concerns (execution : Execution) (turn : Turn) : Prop where
  id_eq : turn.execution.id = execution.id
  flow_eq : turn.execution.flow = execution.flow
  conversation_eq : turn.execution.conversation = execution.conversation

/-- What a turn does at a node is in its charge. -/
theorem minds_step
    (concerns : turn.Concerns execution)
    (same : execution.conversation = request.conversation)
    (answering : Bool) :
    (step engine graph node answering turn).Minds request
      (fun result charge => charge = .tending execution.id execution.flow ∧
        ∀ transition after, result = .ok (transition, after) → after.Concerns execution)
      (.tending execution.id execution.flow) := by
  have isAt : turn.At turn.execution := rfl
  have behaves : Behaves engine .anywhere graph turn.execution node
      (fun result => result.1.Fits graph node ∧ result.2.At turn.execution)
      (step engine graph node answering turn) := behaves_step isAt answering
  refine (minds_of_within (behaves.weaken (fun _ allowed => allowed)
    (fun call outcome _ => Site.shows_anywhere call outcome) fun _ yields => yields)
    ?_ ?_).weaken ?_
  · intro call allowed
    cases call with
    | setStage id stage | saveVariables id vars => exact allowed.1.trans concerns.id_eq
    | enqueue item =>
        have follows : item.Follows engine graph Site.anywhere.clock turn.execution node := allowed
        exact ⟨follows.execution_eq.trans concerns.id_eq, follows.flow_eq.trans concerns.flow_eq,
          follows.conversation_eq.trans (concerns.conversation_eq.trans same)⟩
    | acquire | release | resolveFlow | flow | activeExecution | executionById | latestExecution
    | createExecution | advance | setWaiting | complete => exact allowed.elim
    | _ => rfl
  · intro call outcome allowed
    cases call with
    | acquire | release | resolveFlow | flow | activeExecution | executionById | latestExecution
    | createExecution | advance | setWaiting | complete => exact allowed.elim
    | _ => rfl
  · rintro result charge ⟨rfl, yields⟩
    refine ⟨rfl, ?_⟩
    rintro transition after rfl
    have isAtStill : after.At turn.execution := yields.2
    exact ⟨isAtStill.id_eq.trans concerns.id_eq, isAtStill.flow_eq.trans concerns.flow_eq,
      isAtStill.conversation_eq.trans concerns.conversation_eq⟩

/-- A turn has followed a transition, and minds its execution still if it goes on. -/
def Followed (execution : Execution) (transition : Transition) :
    Except Fault Turn → Charge → Prop
  | .ok after, charge => charge.isInside = true ∧ after.Concerns execution ∧
      (transition.goesOn = true → charge = .tending execution.id execution.flow)
  | .error _, charge => charge.isInside = true

theorem minds_follow
    (concerns : turn.Concerns execution)
    (same : execution.conversation = request.conversation)
    (transition : Transition) :
    (turn.follow transition).Minds request (Followed execution transition)
      (.tending execution.id execution.flow) := by
  have within : turn.conversation = request.conversation ∧ turn.execution.flow = execution.flow :=
    ⟨concerns.conversation_eq.trans same, concerns.flow_eq⟩
  have still (after : Turn) (id_eq : after.execution.id = turn.execution.id)
      (flow_eq : after.execution.flow = turn.execution.flow)
      (conversation_eq : after.execution.conversation = turn.execution.conversation) :
      after.Concerns execution :=
    ⟨id_eq.trans concerns.id_eq, flow_eq.trans concerns.flow_eq,
      conversation_eq.trans concerns.conversation_eq⟩
  cases transition with
  | advance | advanceAndWait | wait =>
      refine minds_call within (fun _ => rfl) fun outcome => ?_
      cases outcome with
      | error fault => exact rfl
      | ok value => exact ⟨rfl, still _ rfl rfl rfl, fun _ => rfl⟩
  | scheduled item => exact minds_aloof rfl fun _ => ⟨rfl, still _ rfl rfl rfl, fun _ => rfl⟩
  | complete =>
      refine minds_call within (fun _ => rfl) fun outcome => ?_
      cases outcome with
      | error fault => exact rfl
      | ok value =>
          exact minds_aloof rfl fun _ => ⟨rfl, still _ rfl rfl rfl, fun onward => by cases onward⟩

theorem minds_walk
    (concerns : turn.Concerns execution)
    (same : execution.conversation = request.conversation)
    (hops : Nat)
    (answering : Bool) :
    (walk engine graph hops answering turn).Minds request (fun _ charge => charge.isInside = true)
      (.tending execution.id execution.flow) := by
  induction hops generalizing turn answering with
  | zero => exact minds_aloof rfl fun _ => rfl
  | succ hops inductionHypothesis =>
      unfold walk
      cases graph.require turn.execution.node with
      | error error => exact rfl
      | ok node =>
          refine minds_aloof rfl fun _ => ?_
          have entered : Concerns execution { turn with visited := turn.visited ++ [node.id] } :=
            ⟨concerns.id_eq, concerns.flow_eq, concerns.conversation_eq⟩
          refine (minds_step entered same answering).andThen ?_ ?_
          · rintro ⟨transition, stepped⟩ _ ⟨rfl, concerned⟩
            refine (minds_follow (concerned _ _ rfl) same transition).andThen ?_ fun _ _ holds =>
              holds
            rintro followed charge ⟨inside, concernsStill, goesOn⟩
            split
            · rename_i onward
              rw [goesOn onward]
              exact inductionHypothesis concernsStill false
            · exact inside
          · rintro fault _ ⟨rfl, _⟩
            exact rfl

/-- A turn minds its charge to its end. -/
theorem minds_perform
    (same : execution.conversation = request.conversation)
    {moved : Execution}
    (id_eq : moved.id = execution.id)
    (flow_eq : moved.flow = execution.flow)
    (conversation_eq : moved.conversation = execution.conversation)
    (input : TurnInput) :
    (perform engine graph moved input).Minds request (fun _ charge => charge.isInside = true)
      (.tending execution.id execution.flow) := by
  refine (minds_walk (⟨id_eq, flow_eq, conversation_eq⟩ :
    Concerns execution { execution := moved, input }) same _ _).andThen ?_ fun _ _ holds => holds
  intro turn charge inside
  refine (minds_of_isAloof (within_logInput rfl fun _ => rfl)).andThen ?_ ?_
  · rintro _ _ ⟨rfl, _⟩
    exact inside
  · rintro _ _ ⟨rfl, _⟩
    exact inside

end Turn

/-! ## Requests -/

namespace Engine

variable {engine : Engine} {request : Request} {execution : Execution} {charge : Charge}

/-- A request that performs a turn in its charge. -/
abbrev InCharge (request : Request) (process : Process α) (charge : Charge) : Prop :=
  process.Minds request (fun _ charge => charge.isInside = true) charge

theorem minds_accept
    (same : execution.conversation = request.conversation)
    {moved : Execution}
    (id_eq : moved.id = execution.id)
    (flow_eq : moved.flow = execution.flow)
    (conversation_eq : moved.conversation = execution.conversation)
    (graph : Flow.Graph)
    (input : TurnInput) :
    InCharge request (engine.accept graph moved input)
      (.tending execution.id execution.flow) :=
  minds_aloof rfl fun _ =>
    (Turn.minds_perform same id_eq flow_eq conversation_eq input).andThen
      (fun _ _ holds => holds) fun _ _ holds => holds

theorem minds_interrupt
    {message : InboundMessage}
    (same : execution.conversation = message.conversation)
    (graph : Flow.Graph) :
    InCharge (.message message) (engine.interrupt graph execution message)
      (.tending execution.id execution.flow) := by
  unfold interrupt
  cases graph.require execution.node with
  | error error => exact rfl
  | ok node =>
      simp only [bind_eq_andThen, orFail, andThen_done]
      split
      · exact minds_accept same rfl rfl rfl _ _
      · refine (minds_of_isAloof (within_isOverdue rfl)).andThen ?_ ?_
        · rintro overdue _ ⟨rfl, _⟩
          cases overdue with
          | false => exact minds_aloof rfl fun _ => rfl
          | true =>
              cases graph.nextTarget? node.id with
              | none => exact minds_accept same rfl rfl rfl _ _
              | some target =>
                  refine minds_call ⟨rfl, rfl⟩ (fun _ => rfl) fun outcome => ?_
                  cases outcome with
                  | error fault => exact rfl
                  | ok value => exact minds_accept same rfl rfl rfl _ _
        · rintro fault _ ⟨rfl, _⟩
          exact rfl

/-- A message that finds nothing running creates what it is in charge of. -/
theorem minds_begin (message : InboundMessage) :
    InCharge (.message message) (engine.begin message) .vacant := by
  refine minds_aloof rfl fun outcome => ?_
  rcases outcome with fault | (_ | graph)
  · exact rfl
  · exact rfl
  · refine ⟨rfl, fun outcome finds => ?_⟩
    cases outcome with
    | error fault => exact rfl
    | ok execution => exact minds_accept finds rfl rfl rfl _ _

theorem minds_process (message : InboundMessage) :
    InCharge (.message message) (engine.process message) .entered := by
  refine ⟨rfl, fun outcome finds => ?_⟩
  rcases outcome with fault | (_ | execution)
  · exact rfl
  · exact minds_begin message
  · have same : execution.conversation = message.conversation := finds
    refine minds_aloof rfl fun outcome => ?_
    cases outcome with
    | error fault => exact rfl
    | ok graph =>
        show InCharge _ (ite _ _ _) _
        split
        · exact minds_accept same rfl rfl rfl _ _
        · exact minds_interrupt same graph

/-- A continuation has found the execution that it means, and is in charge of it if it runs. -/
def Found (item : Continuation) : Except Fault (Option Execution) → Charge → Prop
  | .ok (some execution), charge => execution.conversation = item.conversation ∧
      charge = if execution.isActive then .tending execution.id execution.flow else .entered
  | _, charge => charge.isInside = true

theorem minds_executionOf (item : Continuation) :
    (executionOf item).Minds (.continuation item) (Found item) .entered := by
  refine ⟨⟨item, rfl, rfl⟩, fun outcome finds => ?_⟩
  rcases outcome with fault | (_ | execution)
  · exact rfl
  · refine ⟨rfl, fun outcome finds => ?_⟩
    rcases outcome with fault | (_ | execution)
    · exact rfl
    · exact rfl
    · exact ⟨finds, rfl⟩
  · exact ⟨finds, rfl⟩

theorem minds_takeUp (item : Continuation) :
    InCharge (.continuation item) (engine.takeUp item) .entered := by
  refine (minds_executionOf item).andThen ?_ fun _ _ found => found
  rintro (_ | execution) charge found
  · exact found
  · obtain ⟨same, charge_eq⟩ := found
    have inside : charge.isInside = true := by
      rw [charge_eq]
      split <;> rfl
    refine minds_aloof rfl fun outcome => ?_
    cases outcome with
    | error fault => exact inside
    | ok graph =>
        show InCharge _ (ite _ _ _) _
        split
        · rename_i parked
          have active : execution.isActive = true := by
            simp only [isParkedBefore, Bool.and_eq_true] at parked
            exact parked.1.1.1
          rw [charge_eq, if_pos active]
          refine minds_call ⟨rfl, rfl⟩ (fun _ => rfl) fun outcome => ?_
          cases outcome with
          | error fault => exact rfl
          | ok value =>
              refine minds_aloof rfl fun _ => ?_
              exact (Turn.minds_perform same rfl rfl rfl _).andThen (fun _ _ holds => holds)
                fun _ _ holds => holds
        · exact inside

/-- Under the lock a process is in charge, and afterwards of nothing. -/
theorem minds_underLock
    {process : Process α}
    (minds : InCharge request process .entered) :
    (underLock request.conversation process).Minds request (fun _ charge => charge.isInside = false)
      .outside := by
  refine ⟨rfl, fun outcome _ => ?_⟩
  rcases outcome with fault | (_ | _)
  · exact rfl
  · exact rfl
  · show Minds request _ (process.contain.andThen fun result =>
      (release request.conversation).andThen fun _ => .done (some result)) .entered
    refine minds.contain.andThen ?_ ?_
    · rintro result charge ⟨_, _, inside⟩
      have leaves (outcome : Except Fault Unit) :
          charge.next (.release request.conversation) outcome = .left := by
        cases charge <;> rfl
      refine minds_call (Charge.allows_release inside) leaves fun outcome => ?_
      rcases outcome with (error | message) | value <;> exact rfl
    · rintro _ _ ⟨_, ⟨⟩, _⟩

/-- Every request minds its charge, and is in charge of nothing at its end. -/
theorem minds_serve (engine : Engine) (request : Request) :
    (engine.serve request).Minds request (fun _ charge => charge.isInside = false) .outside := by
  cases request with
  | message message =>
      unfold serve handleInbound
      simp only [bind_eq_andThen, andThen_assoc]
      refine (minds_underLock (minds_process message)).andThen ?_ fun _ _ holds => holds
      rintro (_ | (fault | outcome)) charge outside
      · exact minds_aloof rfl fun _ => outside
      · exact outside
      · exact outside
  | continuation item =>
      unfold serve resume
      simp only [bind_eq_andThen, andThen_assoc]
      refine (minds_underLock (minds_takeUp item)).andThen ?_ fun _ _ holds => holds
      rintro (_ | ((error | message) | outcome)) charge outside <;> exact outside

end Engine
end ChatFlow
