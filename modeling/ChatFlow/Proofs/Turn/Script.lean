import ChatFlow.Proofs.Engine.Lookups
import ChatFlow.Proofs.Journal
import ChatFlow.Proofs.Turn.Steps

/-!
# The script of a turn

The marked calls of a turn are those by which it enters a node and those by which it takes an
exit.  On its way a turn follows the script of its route: it enters the node of each leg and takes
the exit of the leg, until one of these calls fails.  A turn that is not cut short has taken all of
its legs, and reports them.
-/

namespace ChatFlow

/-- Whether a call enters a node or takes an exit. -/
def Call.isMark : Call → Bool
  | .advance .. | .setWaiting .. | .complete .. | .publish (.entered ..) => true
  | _ => false

/-- The node that a call enters. -/
def Call.entered? : Call → Option String
  | .publish (.entered _ node _) => some node
  | _ => none

/-- The call that takes an exit. -/
def Exit.call? (conversation : Conversation) (flow : String) : Exit → Option Call
  | .advance target waiting => some (.advance conversation flow target waiting)
  | .wait => some (.setWaiting conversation flow true)
  | .park => none
  | .complete => some (.complete conversation flow)

/-- The marked calls of a leg. -/
def Leg.calls (conversation : Conversation) (flow : String) (leg : Leg) : List Call :=
  .publish (.entered conversation leg.node.id leg.node.kind.text) ::
    (leg.exit.call? conversation flow).toList

/-- Where an execution stands. -/
def Execution.position (execution : Execution) : Position where
  node := execution.node
  last := execution.last
  waiting := execution.waiting
  status := execution.status

open Process

namespace Turn

variable {engine : Engine} {graph : Flow.Graph} {node : Flow.Node} {turn after : Turn}
  {legs : List Leg} {leg : Leg} {script : List Call}

/-- What a turn carries along once it has taken an exit. -/
def take (turn : Turn) : Exit → Turn
  | .advance target waiting => turn.moveTo target waiting
  | .wait => { turn with execution := { turn.execution with waiting := true } }
  | .park => turn
  | .complete => { turn.moveTo "end" turn.execution.waiting with completed := true }

/-- A turn has taken some legs. -/
structure Walked (turn : Turn) (legs : List Leg) (after : Turn) : Prop where
  id_eq : after.execution.id = turn.execution.id
  flow_eq : after.execution.flow = turn.execution.flow
  visited_eq : after.visited = turn.visited ++ legs.map fun leg => leg.node.id
  node_eq : after.execution.node = (turn.execution.position.travel (legs.map Leg.exit)).node
  /-- It is complete when the execution is. -/
  completed_iff : after.completed = true ↔
    (turn.execution.position.travel (legs.map Leg.exit)).status = .completed
  /-- It waits when the execution does.  One that completes at its first node waits as before. -/
  waiting_eq : after.execution.waiting =
    ((turn.execution.position.travel (legs.map Leg.exit)).waiting ||
      (after.completed && turn.execution.waiting && legs.length == 1))
  /-- It has visited as many nodes as it may when every leg goes on. -/
  hopLimit_eq : after.hopLimit = legs.all fun leg => leg.exit.onward?.isSome

/-- At a node a turn makes no marked calls, and leaves the node by the exit that is settled. -/
theorem within_step (answering : Bool) :
    (step engine graph node answering turn).Within (fun request => request.isMark = false)
      (fun _ _ => True)
      (fun result => ∀ settled, result = .ok settled →
        settled.1.exit = graph.exit turn.input.text answering node ∧ Stays turn settled.2) := by
  have behaves : Behaves engine .anywhere graph turn.execution node
      (fun result => (result.1.Fits graph node ∧
        result.1.exit = graph.exit turn.input.text answering node) ∧ Stays turn result.2)
      (step engine graph node answering turn) := behaves_step_exit (.refl turn) answering
  refine behaves.weaken ?_ (fun request outcome _ => Site.shows_anywhere request outcome) ?_
  · intro request allowed
    cases request with
    | advance | setWaiting | complete => exact allowed.elim
    | publish event =>
        cases event with
        | entered => exact allowed.elim
        | _ => rfl
    | _ => rfl
  · rintro _ yields settled rfl
    exact ⟨yields.1.2, yields.2⟩

/-- A turn has taken an exit, and this much is left of its script; or it was cut short. -/
def Took
    (turn : Turn) (exit : Exit) (script : List Call) (left : Option (List Call)) :
    Except Fault Turn → Prop
  | .ok moved => left = some script ∧ ∃ scheduled, moved = { turn.take exit with scheduled }
  | .error _ => True

/-- To follow a transition is to take its exit. -/
theorem scripted_follow (transition : Transition) :
    (turn.follow transition).Scripted Call.isMark (Took turn transition.exit script)
      (some ((transition.exit.call? turn.conversation turn.execution.flow).toList ++ script)) := by
  cases transition with
  | advance | advanceAndWait | wait =>
      simp only [follow, ask, bind_eq_andThen, andThen_step, andThen_done, pure_eq_done]
      refine scripted_step_of_marked rfl fun outcome => ?_
      apply scripted_orHalt
      · simp [Call.Fails, Call.failure?, eq_comm]
      · exact scripted_done ⟨rfl, turn.scheduled, rfl⟩
      · exact fun _ => trivial
  | scheduled item =>
      refine scripted_step_of_not_marked rfl fun _ => ?_
      exact scripted_done ⟨rfl, some item, rfl⟩
  | complete =>
      simp only [follow, publish, ask, bind_eq_andThen, andThen_step, andThen_done, pure_eq_done]
      refine scripted_step_of_marked rfl fun outcome => ?_
      apply scripted_orHalt
      · simp [Call.Fails, Call.failure?, eq_comm]
      · refine scripted_step_of_not_marked rfl fun _ => ?_
        exact scripted_done ⟨rfl, turn.scheduled, rfl⟩
      · exact fun _ => trivial

/-! ## Taking exits -/

theorem At.position_eq
    {execution : Execution}
    (isAt : turn.At execution) :
    turn.execution.position = execution.position := by
  rw [Execution.position, isAt, Execution.position]

@[simp] theorem take_visited (exit : Exit) : (turn.take exit).visited = turn.visited := by
  cases exit <;> rfl

@[simp] theorem take_hopLimit (exit : Exit) : (turn.take exit).hopLimit = turn.hopLimit := by
  cases exit <;> rfl

@[simp] theorem take_input (exit : Exit) : (turn.take exit).input = turn.input := by
  cases exit <;> rfl

@[simp] theorem take_id (exit : Exit) :
    (turn.take exit).execution.id = turn.execution.id := by
  cases exit <;> rfl

@[simp] theorem take_flow (exit : Exit) :
    (turn.take exit).execution.flow = turn.execution.flow := by
  cases exit <;> rfl

@[simp] theorem take_conversation (exit : Exit) :
    (turn.take exit).execution.conversation = turn.execution.conversation := by
  cases exit <;> rfl

theorem take_node
    (active : turn.execution.status = .active)
    (exit : Exit) :
    (turn.take exit).execution.node = (exit.leave turn.execution.position).node := by
  cases exit <;> simp [take, moveTo, Exit.leave, Execution.position, active]

/-- It waits where the execution does, or as before when it is complete. -/
theorem take_waiting
    (active : turn.execution.status = .active)
    (exit : Exit) :
    (turn.take exit).execution.waiting =
      ((exit.leave turn.execution.position).waiting ||
        (decide (exit = .complete) && turn.execution.waiting)) := by
  cases exit <;> simp [take, moveTo, Exit.leave, Execution.position, active]

theorem take_completed (exit : Exit) :
    (turn.take exit).completed = (turn.completed || decide (exit = .complete)) := by
  cases exit <;> simp [take, moveTo]

theorem leave_status_iff
    {position : Position}
    (active : position.status = .active)
    (exit : Exit) :
    (exit.leave position).status = .completed ↔ exit = .complete := by
  cases exit <;> simp [Exit.leave, active]

/-- A turn that goes on is all where the exit leads to. -/
theorem take_position
    {exit : Exit}
    {target : String}
    (active : turn.execution.status = .active)
    (onward : exit.onward? = some target) :
    (turn.take exit).execution.position = exit.leave turn.execution.position ∧
      (turn.take exit).execution.node = target ∧
      (turn.take exit).execution.waiting = false ∧
      (turn.take exit).execution.status = .active ∧
      (turn.take exit).completed = turn.completed := by
  obtain rfl := Exit.eq_advance onward
  simp [take, moveTo, Exit.leave, Execution.position, active]

/-- A turn that does not go on has taken its last leg. -/
theorem Walked.last
    (stays : Stays { turn with visited := turn.visited ++ [leg.node.id] } after)
    (active : turn.execution.status = .active)
    (notCompleted : turn.completed = false)
    (notLimited : turn.hopLimit = false)
    (stops : leg.exit.onward? = none)
    (scheduled : Option Continuation) :
    Walked turn [leg] { after.take leg.exit with scheduled } := by
  have position_eq : after.execution.position = turn.execution.position := stays.isAt.position_eq
  have activeStill : after.execution.status = .active :=
    (congrArg Position.status position_eq).trans active
  have waiting_eq : after.execution.waiting = turn.execution.waiting :=
    congrArg Position.waiting position_eq
  have completed_eq : (after.take leg.exit).completed = decide (leg.exit = .complete) := by
    rw [take_completed, stays.completed_eq, notCompleted, Bool.false_or]
  have travel_eq : turn.execution.position.travel ([leg].map Leg.exit) =
      leg.exit.leave after.execution.position := by
    rw [position_eq]
    rfl
  constructor
  · exact (take_id _).trans stays.isAt.id_eq
  · exact (take_flow _).trans stays.isAt.flow_eq
  · exact (take_visited _).trans stays.visited_eq
  · rw [travel_eq]
    exact take_node activeStill leg.exit
  · rw [travel_eq, leave_status_iff activeStill]
    simp [completed_eq]
  · rw [travel_eq]
    simp [completed_eq, take_waiting activeStill, waiting_eq]
  · simp [stays.hopLimit_eq, notLimited, stops]

/-- A turn that goes on has taken the legs behind as well. -/
theorem Walked.cons
    {target : String}
    {scheduled : Option Continuation}
    {final : Turn}
    (stays : Stays { turn with visited := turn.visited ++ [leg.node.id] } after)
    (active : turn.execution.status = .active)
    (goesOn : leg.exit.onward? = some target)
    (walked : Walked { after.take leg.exit with scheduled } legs final) :
    Walked turn (leg :: legs) final := by
  have position_eq : after.execution.position = turn.execution.position := stays.isAt.position_eq
  have activeStill : after.execution.status = .active :=
    (congrArg Position.status position_eq).trans active
  obtain ⟨moved_eq, _, ready, stillActive, _⟩ := take_position activeStill goesOn
  have travel_eq : turn.execution.position.travel ((leg :: legs).map Leg.exit) =
      (after.take leg.exit).execution.position.travel (legs.map Leg.exit) := by
    rw [moved_eq, position_eq]
    rfl
  constructor
  · exact walked.id_eq.trans ((take_id _).trans stays.isAt.id_eq)
  · exact walked.flow_eq.trans ((take_flow _).trans stays.isAt.flow_eq)
  · rw [walked.visited_eq, take_visited, stays.visited_eq]
    simp
  · rw [travel_eq]
    exact walked.node_eq
  · rw [travel_eq]
    exact walked.completed_iff
  · rw [travel_eq, walked.waiting_eq]
    change (_ || (_ && (after.take leg.exit).execution.waiting && _)) = _
    -- Only a turn with a leg behind can have completed there.
    cases legs with
    | nil =>
        have running : ¬ final.completed = true := by
          rw [walked.completed_iff]
          simp [Position.travel, Execution.position, stillActive]
        simp [running]
    | cons => simp [ready]
  · rw [walked.hopLimit_eq]
    simp [goesOn]

/-! ## Walks -/

/-- A turn has taken all legs, and nothing is left of its script; or it was cut short. -/
def Finishes (turn : Turn) (legs : List Leg) (left : Option (List Call)) :
    Except Fault Turn → Prop
  | .ok after => left = some [] ∧ Walked turn legs after
  | .error _ => True

/-- A walk follows the script of its route. -/
theorem scripted_walk
    (turn : Turn)
    {text id flow : String}
    {conversation : Conversation}
    (given : turn.input.text = text)
    (stands : turn.execution.node = id)
    (inConversation : turn.conversation = conversation)
    (inFlow : turn.execution.flow = flow)
    (active : turn.execution.status = .active)
    (notCompleted : turn.completed = false)
    (notLimited : turn.hopLimit = false)
    (hops : Nat)
    (answering : Bool) :
    (walk engine graph hops answering turn).Scripted Call.isMark
      (Finishes turn (graph.route text hops answering id))
      (some ((graph.route text hops answering id).flatMap (Leg.calls conversation flow))) := by
  induction hops generalizing turn id answering with
  | zero =>
      refine scripted_step_of_not_marked rfl fun _ => ?_
      refine scripted_done ⟨rfl, ?_⟩
      constructor
      all_goals simp [Flow.Graph.route, Position.travel, Execution.position, notCompleted, active]
  | succ hops inductionHypothesis =>
      cases found : graph.node? id with
      | none =>
          have missing :
              graph.require turn.execution.node = .error (.nodeNotFound graph.id id) := by
            simp [Flow.Graph.require, stands, found]
          unfold walk
          rw [missing]
          trivial
      | some node =>
          rw [Flow.Graph.route_succ found, List.flatMap_cons, ← inConversation]
          rw [← stands] at found
          unfold walk
          simp only [Flow.Graph.require_eq_ok found, bind_eq_andThen, orFail, andThen_done]
          refine scripted_step_of_marked rfl fun _ => ⟨?_, fun _ => ?_⟩
          · rintro ⟨_, ⟨⟩⟩
          refine (scripted_of_within (within_step answering)).andThen ?_ fun _ _ _ => trivial
          rintro _ ⟨transition, after⟩ ⟨rfl, settled⟩
          have exit_eq : transition.exit = graph.exit text answering node := by
            rw [← given]
            exact (settled _ rfl).1
          have stays : Stays { turn with visited := turn.visited ++ [node.id] } after :=
            (settled _ rfl).2
          have conversation_eq : after.conversation = turn.conversation :=
            stays.isAt.conversation_eq
          have flow_eq : after.execution.flow = flow := stays.isAt.flow_eq.trans inFlow
          have activeStill : after.execution.status = .active :=
            (congrArg Position.status stays.isAt.position_eq).trans active
          rw [← exit_eq, ← conversation_eq, ← flow_eq]
          refine Scripted.andThen (scripted_follow transition) ?_ fun _ _ _ => trivial
          rintro _ _ ⟨rfl, scheduled, rfl⟩
          rw [Transition.goesOn_eq]
          cases onward : transition.exit.onward? with
          | none =>
              exact scripted_done
                ⟨rfl, Walked.last stays active notCompleted notLimited onward scheduled⟩
          | some target =>
              obtain ⟨_, node_eq, _, movedActive, movedCompleted⟩ :=
                take_position activeStill onward
              have walked := inductionHypothesis
                { after.take transition.exit with scheduled }
                ((congrArg TurnInput.text ((take_input _).trans stays.input_eq)).trans given)
                node_eq ((take_conversation _).trans (conversation_eq.trans inConversation))
                ((take_flow _).trans flow_eq) movedActive
                (movedCompleted.trans (stays.completed_eq.trans notCompleted))
                ((take_hopLimit _).trans (stays.hopLimit_eq.trans notLimited)) false
              rw [conversation_eq, inConversation, flow_eq]
              refine walked.weaken ?_
              rintro _ (_ | final) finishes
              · trivial
              · exact ⟨finishes.1, finishes.2.cons stays active onward⟩

/-! ## Whole turns -/

/-- What a turn of an execution reports of its legs. -/
structure Reports (execution : Execution) (legs : List Leg) (report : TurnReport) : Prop where
  execution_eq : report.execution = execution.id
  flow_eq : report.flow = execution.flow
  visited_eq : report.visited = legs.map fun leg => leg.node.id
  /-- It tells where the exits lead to. -/
  final_eq : report.final = (execution.position.travel (legs.map Leg.exit)).node
  /-- It tells whether the execution is complete. -/
  completed_iff : report.completed = true ↔
    (execution.position.travel (legs.map Leg.exit)).status = .completed
  /-- It tells whether the execution waits, but for one that completes at its first node. -/
  waiting_eq : report.waiting =
    ((execution.position.travel (legs.map Leg.exit)).waiting ||
      (report.completed && execution.waiting && report.visited.length == 1))
  /-- It tells whether every leg goes on. -/
  hopLimit_eq : report.hopLimit = legs.all fun leg => leg.exit.onward?.isSome

theorem Walked.reports
    {execution : Execution}
    {input : TurnInput}
    (walked : Walked { execution, input } legs after) :
    Reports execution legs after.report where
  execution_eq := walked.id_eq
  flow_eq := walked.flow_eq
  visited_eq := walked.visited_eq
  final_eq := walked.node_eq
  completed_iff := walked.completed_iff
  waiting_eq := by
    have visited_eq : after.report.visited = legs.map fun leg => leg.node.id := walked.visited_eq
    rw [visited_eq, List.length_map]
    exact walked.waiting_eq
  hopLimit_eq := walked.hopLimit_eq

/-- A turn has taken all legs, and nothing is left of its script; or it was cut short. -/
def Completes (execution : Execution) (legs : List Leg) (left : Option (List Call)) :
    Except Fault TurnReport → Prop
  | .ok report => left = some [] ∧ Reports execution legs report
  | .error _ => True

/-- The legs of a turn. -/
def way (engine : Engine) (graph : Flow.Graph) (execution : Execution) (input : TurnInput) :
    List Leg :=
  graph.route input.text engine.settings.maxHops input.isReply execution.node

/-- A turn follows the script of its legs. -/
theorem scripted_perform
    {execution : Execution}
    (active : execution.status = .active)
    (input : TurnInput) :
    (perform engine graph execution input).Scripted Call.isMark
      (Completes execution (way engine graph execution input))
      (some ((way engine graph execution input).flatMap
        (Leg.calls execution.conversation execution.flow))) := by
  refine Scripted.andThen
    (scripted_walk { execution, input } rfl rfl rfl rfl active rfl rfl _ input.isReply) ?_
    fun _ _ _ => trivial
  rintro _ after ⟨rfl, walked⟩
  refine (scripted_of_within (within_logInput rfl fun _ => rfl)).andThen ?_ fun _ _ _ => trivial
  rintro _ _ ⟨rfl, _⟩
  exact scripted_done ⟨rfl, walked.reports⟩

end Turn
end ChatFlow
