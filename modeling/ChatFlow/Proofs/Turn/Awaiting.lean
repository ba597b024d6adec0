import ChatFlow.Proofs.Engine.Lookups
import ChatFlow.Proofs.Turn.Legs
import ChatFlow.Proofs.Turn.Moves

/-!
# What a turn waits for

A turn whose last leg parks its execution queues one continuation, which names the execution, leads
along the first edge of the delay, and brings the user's text along.  Any other turn queues none.
-/

namespace ChatFlow

open Process

/-- Where the continuation of a leg leads. -/
def Flow.Graph.target? (graph : Flow.Graph) (leg : Leg) : Option String :=
  match leg.exit with
  | .park => graph.nextTarget? leg.node.id
  | _ => none

/-- Where the continuation of some legs leads. -/
def Flow.Graph.awaited? (graph : Flow.Graph) (legs : List Leg) : Option String :=
  legs.findSome? graph.target?

/-- Queues grow by the continuations that are queued, when these calls go well. -/
theorem Site.Obliges.queued_eq
    {σ : Type}
    {site : Site}
    {manner : Answering σ}
    {request : Call}
    {before after : Transcript σ}
    {outcome : request.Outcome}
    (obliged : site.Obliges manner request before outcome after) :
    after.scene.queued = before.scene.queued ++ request.item?.toList := by
  have answered := obliged.answered
  cases request with
  | enqueue item =>
      rcases answered.inversion with ⟨now, choice, _, _, scene_eq⟩ | ⟨fault, _, fails, _⟩
      · rw [scene_eq]
        rfl
      · exact (obliged.bearable.not_fails rfl ⟨fault, fails⟩).elim
  | createExecution | advance | setWaiting | complete | setStage | saveVariables =>
      rcases answered.effect with same | ⟨now, choice, _, same⟩
      · rw [same]
        exact (List.append_nil _).symm
      · rw [same]
        exact (List.append_nil _).symm
  | _ =>
      rw [(answered.of_isAside rfl).2]
      exact (List.append_nil _).symm

namespace Turn

variable {σ : Type} {site : Site} {manner : Answering σ} {engine : Engine} {graph : Flow.Graph}
  {node : Flow.Node} {turn : Turn} {before : Transcript σ} {queue : List Continuation}
  {answering : Bool}

/-! ## Queues -/

/-- A process that queues nothing leaves the queue alone. -/
theorem safe_of_item?
    {post : Except Fault α → Prop}
    {process : Process α}
    (within : process.Within (fun request => request.item? = none) (fun _ _ => True) post)
    (same : before.scene.queued = queue) :
    process.Safe (site.Obliges manner) (fun after => after.scene.queued = queue)
      (fun result _ => post result) before := by
  refine within.safe ?_ same
  intro request before outcome after silent same obliged
  refine ⟨?_, trivial⟩
  rw [obliged.queued_eq, silent, same]
  exact List.append_nil queue

/-- At a delay a turn queues what it waits for. -/
theorem delay_queues :
    (delay engine graph turn node).Safe (site.Obliges manner) (fun _ => True)
      (fun result after => ∀ transition, result = .ok transition →
        after.scene.queued = before.scene.queued ++ transition.item?.toList)
      before := by
  unfold delay
  cases graph.nextTarget? node.id with
  | none =>
      refine ⟨trivial, ?_⟩
      rintro _ ⟨⟩
      exact (List.append_nil _).symm
  | some target =>
      have silent : (dueAfter (Delay.span engine.settings.defaultDelay node)).Within
          (fun request => request.item? = none) (fun _ _ => True) fun _ => True :=
        within_dueAfter rfl
      have told : (dueAfter (Delay.span engine.settings.defaultDelay node)).Safe
          (site.Obliges manner) (fun _ => True)
          (fun _ after => after.scene.queued = before.scene.queued) before :=
        (safe_of_item? silent rfl).relax (fun _ _ => trivial) fun _ _ same _ => same
      refine told.andThen ?_ (by rintro _ _ _ _ _ ⟨⟩)
      intro due later _ same
      refine ⟨trivial, fun outcome after obliged => ?_⟩
      cases outcome with
      | error _ =>
          refine ⟨trivial, ?_⟩
          rintro _ ⟨⟩
      | ok _ =>
          refine ⟨trivial, ?_⟩
          rintro _ ⟨⟩
          rw [obliged.queued_eq, same]
          rfl

/-- At every node a turn queues what it waits for, and nothing else. -/
theorem step_queues :
    (step engine graph node answering turn).Safe (site.Obliges manner) (fun _ => True)
      (fun result after => ∀ transition stayed, result = .ok (transition, stayed) →
        after.scene.queued = before.scene.queued ++ transition.item?.toList)
      before := by
  by_cases kind : node.kind = .delay
  · unfold step
    simp only [kind]
    refine delay_queues.andThen ?_ (by rintro _ _ _ _ _ _ ⟨⟩)
    intro transition after _ same
    refine ⟨trivial, ?_⟩
    rintro _ _ ⟨⟩
    exact same _ rfl
  · have silent : (step engine graph node answering turn).Within
        (fun request => request.item? = none) _ _ :=
      (within_step_exit answering).weaken ?_ (fun _ _ shown => shown) fun _ settled => settled
    · refine (safe_of_item? silent rfl).relax (fun _ _ => trivial) ?_
      rintro _ after same settled transition stayed rfl
      have fits := (settled _ _ rfl).1
      cases transition with
      | scheduled item => exact (kind fits).elim
      | _ =>
          rw [same]
          exact (List.append_nil _).symm
    · intro request onlyThere
      cases item : request.item? with
      | none => rfl
      | some item => exact (kind (onlyThere (by rw [item]; rfl))).elim

/-- A visit queues what it waits for, and nothing else. -/
theorem visit_queues :
    (visit engine graph node answering turn).Safe (site.Obliges manner) (fun _ => True)
      (fun result after => ∀ transition moved, result = .ok (transition, moved) →
        after.scene.queued = before.scene.queued ++ transition.item?.toList)
      before := by
  refine ⟨trivial, fun _ entered obliged => ?_⟩
  have same : entered.scene.queued = before.scene.queued := by
    rw [obliged.queued_eq]
    exact List.append_nil _
  have steps : (step engine graph node answering
      { turn with visited := turn.visited ++ [node.id] }).Safe (site.Obliges manner) (fun _ => True)
      _ entered := step_queues
  refine steps.andThen ?_ (by rintro _ _ _ _ _ _ ⟨⟩)
  rintro ⟨transition, stayed⟩ stepped _ queues
  rw [← same]
  have follows : (stayed.follow transition).Safe (site.Obliges manner) (fun _ => True)
      (fun _ after => after.scene.queued = stepped.scene.queued) stepped :=
    (safe_of_item? (within_follow transition) rfl).relax (fun _ _ => trivial)
      fun _ _ same _ => same
  refine follows.andThen ?_ (by rintro _ _ _ _ _ _ ⟨⟩)
  intro moved after _ same
  refine ⟨trivial, ?_⟩
  rintro _ _ ⟨⟩
  exact same.trans (queues _ _ rfl)

/-! ## Continuations -/

/-- A turn waits for a continuation after some legs, or for none. -/
def Awaits (graph : Flow.Graph) (turn : Turn) (legs : List Leg) : Option Continuation → Prop
  | none => graph.awaited? legs = none
  | some item => ∃ target due, graph.awaited? legs = some target ∧
      item = turn.continuation target due

theorem Awaits.target_eq
    {legs : List Leg}
    {scheduled : Option Continuation}
    (awaits : Awaits graph turn legs scheduled) :
    scheduled.map Continuation.target = graph.awaited? legs := by
  cases scheduled with
  | none => exact awaits.symm
  | some item =>
      obtain ⟨target, due, awaited, rfl⟩ := awaits
      exact awaited.symm

/-- What a turn carries along, and has queued, after some legs. -/
structure Waits
    (graph : Flow.Graph) (start : Turn) (queue : List Continuation) (legs : List Leg)
    (turn : Turn) (after : Transcript σ) : Prop where
  id_eq : turn.execution.id = start.execution.id
  flow_eq : turn.execution.flow = start.execution.flow
  conversation_eq : turn.conversation = start.conversation
  input_eq : turn.input = start.input
  awaits : Awaits graph start legs turn.scheduled
  /-- It has queued what it waits for. -/
  queued_eq : after.scene.queued = queue ++ turn.scheduled.toList

/-- A turn that goes on waits for nothing. -/
theorem awaited?_eq_none
    {legs : List Leg}
    (goOn : ∀ leg ∈ legs, leg.exit.onward?.isSome = true) :
    graph.awaited? legs = none := by
  rw [Flow.Graph.awaited?, List.findSome?_eq_none_iff]
  intro leg member
  have onward := goOn leg member
  cases exit : leg.exit with
  | park => simp [exit, Exit.onward?] at onward
  | _ => simp [Flow.Graph.target?, exit]

/-- Visits add what they wait for. -/
theorem account_waits (start : Turn) (queue : List Continuation) :
    Account site manner engine graph (Waits graph start queue) where
  visit legs turn before node answering waits goOn found := by
    have silent : turn.scheduled = none := by
      have awaits := waits.awaits
      cases scheduled : turn.scheduled with
      | none => rfl
      | some item =>
          rw [scheduled] at awaits
          obtain ⟨target, _, awaited, _⟩ := awaits
          rw [awaited?_eq_none goOn] at awaited
          cases awaited
    refine (visit_queues.and visit_settles).relax (fun _ _ => trivial) ?_
    rintro _ after _ ⟨queues, settled⟩ transition moved rfl
    obtain ⟨⟨exit_eq, fits, stayed, stays, rfl⟩, resumes⟩ := settled
    constructor
    · exact (take_id _).trans (stays.isAt.id_eq.trans waits.id_eq)
    · exact (take_flow _).trans (stays.isAt.flow_eq.trans waits.flow_eq)
    · exact (take_conversation _).trans (stays.isAt.conversation_eq.trans waits.conversation_eq)
    · exact (take_input _).trans (stays.input_eq.trans waits.input_eq)
    · have awaited_eq : graph.awaited? (legs ++ [{ node, exit := transition.exit }]) =
          graph.target? { node, exit := transition.exit } := by
        rw [Flow.Graph.awaited?, List.findSome?_append]
        have none : legs.findSome? graph.target? = none := awaited?_eq_none goOn
        rw [none, Option.none_or]
        simp
      cases transition with
      | scheduled item =>
          obtain ⟨target, due, next, item_eq⟩ := resumes item rfl
          refine ⟨target, due, ?_, ?_⟩
          · rw [awaited_eq]
            exact next
          · rw [item_eq, continuation, continuation, waits.id_eq, waits.flow_eq,
              waits.conversation_eq, waits.input_eq]
      | _ =>
          change Awaits graph start _ turn.scheduled
          rw [silent]
          exact awaited_eq
    · change after.scene.queued = queue ++ (transition.item?.or turn.scheduled).toList
      rw [queues _ _ rfl, waits.queued_eq, silent, Option.or_none]
      simp
  idle legs turn request before outcome after waits idle obliged := by
    have same : request.item? = none := by
      cases request with
      | enqueue => cases idle
      | _ => rfl
    refine { waits with queued_eq := ?_ }
    rw [obliged.queued_eq, same, waits.queued_eq]
    exact List.append_nil _
  limited _ _ _ waits := { waits with }

/-- A turn that begins waits for nothing. -/
theorem waits_start
    {execution : Execution}
    {input : TurnInput} :
    Waits graph { execution, input } before.scene.queued [] ({ execution, input } : Turn) before :=
  ⟨rfl, rfl, rfl, rfl, rfl, (List.append_nil _).symm⟩

/-- What a turn that is not cut short reports of its continuation, which it has queued. -/
theorem perform_waits
    {execution : Execution}
    {input : TurnInput} :
    (perform engine graph execution input).Safe (site.Obliges manner) (fun _ => True)
      (fun
        | .ok report, after =>
            Awaits graph { execution, input } (way engine graph execution input)
              report.scheduled ∧
            after.scene.queued = before.scene.queued ++ report.scheduled.toList
        | .error fault, _ => Breaks graph engine.settings.maxHops execution.node fault)
      before := by
  refine ((account_waits _ _).perform waits_start).weaken ?_
  rintro (fault | report) after _ ends
  · exact ends
  · obtain ⟨turn, rfl, waits⟩ := ends
    exact ⟨waits.awaits, waits.queued_eq⟩

end Turn
end ChatFlow
