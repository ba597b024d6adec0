import ChatFlow.Proofs.Lock.Calls
import ChatFlow.Proofs.Turn.Renaming

/-!
# Requests under other ids

A request finds its execution, and performs a turn of it.  With other ids it does the same with the
execution of the other id, and all that it calls is about its own conversation, provided that what
it finds is.
-/

namespace ChatFlow
namespace Engine

open Process

variable {naming : Naming} {engine : Engine} {graph : Flow.Graph} {node : Flow.Node}
  {execution : Execution} {conversation : Conversation} {message : InboundMessage}

/-- Two processes that handle a message, but for ids. -/
abbrev HandlesAlike (naming : Naming) (conversation : Conversation)
    (process other : Process InboundOutcome) : Prop :=
  process.Akin naming conversation (fun outcome other => other = outcome.rename naming) other

theorem alike_accept
    (same : execution.conversation = conversation)
    (input : TurnInput) :
    HandlesAlike naming conversation (engine.accept graph execution input)
      (engine.accept graph (execution.rename naming) input) := by
  refine ⟨same, _, rfl, fun _ _ => ?_⟩
  refine (Turn.akin_perform same input).andThen ?_
  rintro report _ rfl
  exact akin_done rfl

theorem alike_skip (reason : SkipReason) :
    HandlesAlike naming conversation (skip conversation reason) (skip conversation reason) :=
  ⟨rfl, _, rfl, fun _ _ => akin_done rfl⟩

theorem akin_isOverdue :
    (engine.isOverdue execution node).Akin naming conversation (· = ·)
      (engine.isOverdue (execution.rename naming) node) := by
  unfold isOverdue
  dsimp only
  split
  · rfl
  · split
    · refine ⟨trivial, _, rfl, fun now _ => ?_⟩
      show Akin _ _ _ (ite (execution.updated.after (engine.patience node) ≤ Instant.latest) _ _)
        (ite (execution.updated.after (engine.patience node) ≤ Instant.latest) _ _)
      by_cases inTime : execution.updated.after (engine.patience node) ≤ Instant.latest
      · rw [if_pos inTime, if_pos inTime]
        exact akin_done rfl
      · rw [if_neg inTime, if_neg inTime]
        rfl
    · exact akin_done rfl

theorem alike_begin :
    HandlesAlike naming message.conversation (engine.begin message) (engine.begin message) := by
  refine ⟨trivial, _, rfl, fun outcome _ => ?_⟩
  refine akin_orHalt fun found => ?_
  cases found with
  | none => exact akin_done rfl
  | some graph =>
      refine ⟨rfl, _, rfl, fun outcome finds => ?_⟩
      cases outcome with
      | error fault => rfl
      | ok execution => exact alike_accept finds _

theorem alike_interrupt
    (same : execution.conversation = message.conversation) :
    HandlesAlike naming message.conversation (engine.interrupt graph execution message)
      (engine.interrupt graph (execution.rename naming) message) := by
  have node_eq : (execution.rename naming).node = execution.node := rfl
  unfold interrupt
  rw [node_eq]
  cases graph.require execution.node with
  | error error => rfl
  | ok node =>
      simp only [bind_eq_andThen, orFail, andThen_done]
      split
      · exact alike_accept same _
      · refine akin_isOverdue.andThen ?_
        rintro overdue _ rfl
        cases overdue with
        | false => exact alike_skip _
        | true =>
            cases graph.nextTarget? node.id with
            | none => exact alike_accept same _
            | some target =>
                refine ⟨rfl, _, rfl, fun outcome _ => ?_⟩
                refine akin_orHalt fun _ => ?_
                exact alike_accept
                  (show ({ execution with node := target, last := some node.id } :
                    Execution).conversation = _ from same) _

theorem alike_process :
    HandlesAlike naming message.conversation (engine.process message) (engine.process message) := by
  refine ⟨rfl, _, rfl, fun outcome finds => ?_⟩
  rcases outcome with fault | (_ | execution)
  · rfl
  · exact alike_begin
  · have same : execution.conversation = message.conversation := finds
    have waiting_eq : (execution.rename naming).waiting = execution.waiting := rfl
    refine ⟨trivial, _, rfl, fun outcome _ => akin_orHalt fun graph => ?_⟩
    rw [waiting_eq]
    split
    · exact alike_accept same _
    · exact alike_interrupt same

/-- Two processes that take up a continuation, but for ids. -/
abbrev TakesUpAlike (naming : Naming) (conversation : Conversation)
    (process other : Process ResumeOutcome) : Prop :=
  process.Akin naming conversation (fun outcome other => other = outcome.rename naming) other

theorem akin_executionOf (item : Continuation) :
    (executionOf item).Akin naming item.conversation
      (fun found other => other = found.map (Execution.rename naming) ∧
        ∀ execution, found = some execution → execution.conversation = item.conversation)
      (executionOf (item.rename naming)) := by
  refine ⟨trivial, _, rfl, fun outcome finds => ?_⟩
  rcases outcome with fault | (_ | execution)
  · rfl
  · refine ⟨rfl, _, rfl, fun outcome finds => ?_⟩
    rcases outcome with fault | (_ | execution)
    · rfl
    · exact akin_done ⟨rfl, by rintro _ ⟨⟩⟩
    · refine akin_done ⟨rfl, ?_⟩
      rintro _ ⟨⟩
      exact finds
  · refine akin_done ⟨rfl, ?_⟩
    rintro _ ⟨⟩
    exact finds

theorem alike_takeUp (item : Continuation) :
    TakesUpAlike naming item.conversation (engine.takeUp item)
      (engine.takeUp (item.rename naming)) := by
  refine (akin_executionOf item).andThen ?_
  rintro (_ | execution) _ ⟨rfl, ofConversation⟩
  · exact akin_done rfl
  · have same := ofConversation execution rfl
    refine ⟨trivial, _, rfl, fun outcome _ => akin_orHalt fun graph => ?_⟩
    have parked_eq : isParkedBefore graph (execution.rename naming) (item.rename naming).target =
        isParkedBefore graph execution item.target := rfl
    dsimp only
    rw [parked_eq]
    split
    · refine ⟨rfl, _, rfl, fun outcome _ => akin_orHalt fun _ => ?_⟩
      refine ⟨rfl, _, rfl, fun _ _ => ?_⟩
      have moved : ({ execution with node := item.target, last := some execution.node } :
        Execution).conversation = item.conversation := same
      refine (Turn.akin_perform moved (.ofPayload item.payload)).andThen ?_
      rintro report _ rfl
      exact akin_done rfl
    · exact akin_done rfl

/-! ## Under the lock -/

theorem akin_release :
    (release conversation).Akin naming conversation (fun _ _ => True) (release conversation) := by
  refine ⟨rfl, _, rfl, fun outcome _ => ?_⟩
  exact akin_orPanic fun _ => akin_done trivial

theorem akin_underLock
    {post : α → β → Prop}
    {process : Process α}
    {other : Process β}
    (akin : process.Akin naming conversation post other) :
    (underLock conversation process).Akin naming conversation (Option.Rel (Agree post))
      (underLock conversation other) := by
  refine ⟨rfl, _, rfl, fun outcome _ => akin_orHalt fun taken => ?_⟩
  cases taken with
  | false => exact akin_done .none
  | true =>
      refine akin.contain.andThen fun performed performedToo agree => ?_
      exact akin_release.andThen fun _ _ _ => akin_done (.some agree)

theorem alike_handleInbound (message : InboundMessage) :
    HandlesAlike naming message.conversation (engine.handleInbound message)
      (engine.handleInbound message) := by
  refine (akin_underLock alike_process).andThen ?_
  rintro _ _ ((rfl | fault) | _)
  · exact akin_done rfl
  · exact akin_done rfl
  · exact alike_skip .busy

theorem alike_resume (item : Continuation) :
    TakesUpAlike naming item.conversation (engine.resume item)
      (engine.resume (item.rename naming)) := by
  refine (akin_underLock (alike_takeUp item)).andThen ?_
  rintro _ _ ((rfl | fault) | _)
  · exact akin_done rfl
  · cases fault <;> rfl
  · exact akin_done rfl

/-- What an engine does does not depend on the ids of executions. -/
theorem akin_serve (engine : Engine) (request : Request) :
    (engine.serve request).Akin naming request.conversation
      (fun verdict other => other = verdict.rename naming)
      (engine.serve (request.rename naming)) := by
  cases request with
  | message message =>
      refine (alike_handleInbound message).andThen ?_
      rintro outcome _ rfl
      exact akin_done rfl
  | continuation item =>
      refine (alike_resume item).andThen ?_
      rintro outcome _ rfl
      exact akin_done rfl

end Engine
end ChatFlow
