import ChatFlow.Proofs.Engine.Lookups
import ChatFlow.Proofs.Engine.Openings
import ChatFlow.Proofs.Turn.Steady

/-!
# What a request does around its turn

Before its turn a request asks and looks things up, and then it announces the turn; after the turn
it releases the lock.  So what holds after every turn that was announced, and is of no concern to
mute calls, holds after every request that reports a turn.
-/

namespace ChatFlow

open Process

/-- What the turn of a request is given. -/
def Request.input : Request → TurnInput
  | .message inbound => .ofMessage inbound false
  | .continuation item => .ofPayload item.payload

namespace Engine

variable {engine : Engine} {graph : Flow.Graph} {execution : Execution} {input : TurnInput}
  {before : List Exchange → Prop} {after : TurnReport → List Exchange → Prop}
  {trace : List Exchange} {exchange : Exchange} {α : Type} {report? : α → Option TurnReport}

/-- Turns lead from what holds before them to what holds after them, and mute calls are of no
matter. -/
structure Conducts
    (engine : Engine) (input : TurnInput) (before : List Exchange → Prop)
    (after : TurnReport → List Exchange → Prop) : Prop where
  /-- Mute calls before the turn are of no matter. -/
  waits : ∀ {trace exchange}, before trace → exchange.request.isMute = true →
    before (trace ++ [exchange])
  /-- Nor are they after it. -/
  leaves : ∀ {report trace exchange}, after report trace → exchange.request.isMute = true →
    after report (trace ++ [exchange])
  /-- A turn that was announced leads from one to the other. -/
  performs : ∀ {trace opening}, before trace → opening.isOpening = true →
    ∀ graph execution isReply,
      (Turn.perform engine graph execution { input with isReply }).Safe recording (fun _ => True)
        (fun result trace => ∀ report, result = .ok report → after report trace)
        (trace ++ [⟨.publish opening, ()⟩])

/-- After a process that reports a turn, what is to hold after the turn does. -/
abbrev Reports
    (after : TurnReport → List Exchange → Prop) (report? : α → Option TurnReport)
    (process : Process α) (trace : List Exchange) : Prop :=
  process.Safe recording (fun _ => True)
    (fun result trace => ∀ outcome report, result = .ok outcome → report? outcome = some report →
      after report trace) trace

theorem reports_halt (fault : Fault) : Reports after report? (.halt fault) trace :=
  ⟨trivial, fun _ _ same => nomatch same⟩

/-- Where no turn is reported there is nothing to be held. -/
theorem reports_done
    {outcome : α}
    (noReport : report? outcome = none) :
    Reports after report? (.done outcome) trace := by
  refine ⟨trivial, fun _ _ same reports => ?_⟩
  cases same
  cases noReport.symm.trans reports

theorem reports_perform
    {opening : Event}
    (conducts : engine.Conducts input before after)
    (holds : before trace)
    (isOpening : opening.isOpening = true)
    (graph : Flow.Graph)
    (execution : Execution)
    (isReply : Bool)
    (outcome : TurnReport → α)
    (reports : ∀ report, report? (outcome report) = some report) :
    Reports after report?
      ((Turn.perform engine graph execution { input with isReply }).andThen fun report =>
        .done (outcome report))
      (trace ++ [⟨.publish opening, ()⟩]) := by
  refine Safe.andThen (conducts.performs holds isOpening graph execution isReply) ?_
    fun _ _ _ _ => nofun
  intro report trace _ held
  refine ⟨trivial, ?_⟩
  rintro _ other ⟨⟩ same
  cases (reports report).symm.trans same
  exact held report rfl

/-! ## Messages -/

theorem reports_accept
    (conducts : engine.Conducts input before after)
    (holds : before trace)
    (graph : Flow.Graph)
    (execution : Execution)
    (isReply : Bool) :
    Reports after InboundOutcome.report? (engine.accept graph execution { input with isReply })
      trace := by
  have isOpening : Event.isOpening
      (.accepted execution.conversation execution.flow execution.id) = true := rfl
  exact safe_recording_step fun _ =>
    reports_perform conducts holds isOpening graph execution isReply
      InboundOutcome.processed fun _ => rfl

theorem reports_interrupt
    {message : InboundMessage}
    (conducts : engine.Conducts (.ofMessage message false) before after)
    (holds : before trace)
    (graph : Flow.Graph)
    (execution : Execution) :
    Reports after InboundOutcome.report? (engine.interrupt graph execution message) trace := by
  unfold interrupt
  cases graph.require execution.node with
  | error error => exact reports_halt _
  | ok node =>
      simp only [bind_eq_andThen, orFail, andThen_done]
      split
      · exact reports_accept conducts holds _ _ false
      · have within : (engine.isOverdue execution node).Within
            (fun request => request.isMute = true) (fun _ _ => True) fun _ => True :=
          within_isOverdue rfl
        refine within.followed conducts.waits holds ?_
          fun fault _ _ => (reports_halt fault).2
        intro overdue trace holds
        cases overdue with
        | false => exact safe_recording_step fun _ => reports_done rfl
        | true =>
            cases graph.nextTarget? node.id with
            | none => exact reports_accept conducts holds _ _ false
            | some target =>
                refine safe_recording_step fun outcome => ?_
                cases outcome with
                | error fault => exact reports_halt _
                | ok value => exact reports_accept conducts (conducts.waits holds rfl) _ _ false

theorem reports_begin
    {message : InboundMessage}
    (conducts : engine.Conducts (.ofMessage message false) before after)
    (holds : before trace) :
    Reports after InboundOutcome.report? (engine.begin message) trace := by
  refine safe_recording_step fun outcome => ?_
  have resolved : before
      (trace ++ [⟨.resolveFlow message.conversation.device message.text, outcome⟩]) :=
    conducts.waits holds rfl
  rcases outcome with fault | (_ | graph)
  · exact reports_halt _
  · exact reports_done rfl
  · refine safe_recording_step fun outcome => ?_
    cases outcome with
    | error fault => exact reports_halt _
    | ok execution => exact reports_accept conducts (conducts.waits resolved rfl) _ _ false

theorem reports_process
    {message : InboundMessage}
    (conducts : engine.Conducts (.ofMessage message false) before after)
    (holds : before trace) :
    Reports after InboundOutcome.report? (engine.process message) trace := by
  refine safe_recording_step fun outcome => ?_
  have looked : before (trace ++ [⟨.activeExecution message.conversation, outcome⟩]) :=
    conducts.waits holds rfl
  rcases outcome with fault | (_ | execution)
  · exact reports_halt _
  · exact reports_begin conducts looked
  · refine safe_recording_step fun outcome => ?_
    have found : before (trace ++ [⟨.activeExecution message.conversation, .ok (some execution)⟩] ++
        [⟨.flow execution.flow, outcome⟩]) :=
      conducts.waits looked rfl
    cases outcome with
    | error fault => exact reports_halt _
    | ok graph =>
        show Reports _ _ (ite _ _ _) _
        split
        · exact reports_accept conducts found graph execution true
        · exact reports_interrupt conducts found graph execution

/-! ## Continuations -/

theorem reports_takeUp
    {item : Continuation}
    (conducts : engine.Conducts (.ofPayload item.payload) before after)
    (holds : before trace) :
    Reports after ResumeOutcome.report? (engine.takeUp item) trace := by
  have within : (executionOf item).Within (fun request => request.isMute = true)
      (fun _ _ => True) fun _ => True := within_executionOf rfl rfl
  refine within.followed conducts.waits holds ?_
    fun fault _ _ => (reports_halt fault).2
  intro found trace holds
  cases found with
  | none => exact reports_done rfl
  | some execution =>
      refine safe_recording_step fun outcome => ?_
      cases outcome with
      | error fault => exact reports_halt _
      | ok graph =>
          show Reports _ _ (ite _ _ _) _
          split
          · refine safe_recording_step fun outcome => ?_
            cases outcome with
            | error fault => exact reports_halt _
            | ok value =>
                have isOpening : Event.isOpening
                    (.resumed item.conversation item.target) = true := rfl
                refine safe_recording_step fun _ =>
                  reports_perform conducts ?_ isOpening graph _ false
                    ResumeOutcome.resumed fun _ => rfl
                exact conducts.waits (conducts.waits holds rfl) rfl
          · exact reports_done rfl

/-! ## Requests -/

/-- Under a lock a process reports what it reports without. -/
theorem reports_underLock
    {process : Process α}
    (conducts : engine.Conducts input before after)
    (starts : before [])
    (reports : ∀ trace, before trace → Reports after report? process trace)
    (conversation : Conversation) :
    (underLock conversation process).Safe recording (fun _ => True)
      (fun result trace => ∀ outcome report, result = .ok (some (.ok outcome)) →
        report? outcome = some report → after report trace) [] := by
  refine safe_recording_step fun outcome => ?_
  have asked : before ([] ++ [⟨.acquire conversation, outcome⟩]) := conducts.waits starts rfl
  rcases outcome with fault | (_ | _)
  · exact ⟨trivial, nofun⟩
  · exact ⟨trivial, nofun⟩
  · show Safe recording _ _ (process.contain.andThen fun result =>
      (release conversation).andThen fun _ => .done (some result)) _
    refine Safe.andThen (reports _ asked).contain ?_ fun _ _ _ _ => nofun
    rintro result trace _ ⟨_, ⟨⟩, held⟩
    refine safe_recording_step fun released => ?_
    have heldStill (outcome : α) (report : TurnReport) (same : result = .ok outcome)
        (reports : report? outcome = some report) :
        after report (trace ++ [⟨.release conversation, released⟩]) :=
      conducts.leaves (held outcome report same reports) rfl
    rcases released with (error | message) | value
    · exact ⟨trivial, fun outcome report same => heldStill outcome report (by simpa using same)⟩
    · exact ⟨trivial, nofun⟩
    · exact ⟨trivial, fun outcome report same => heldStill outcome report (by simpa using same)⟩

/-- What is to hold after the turn of a request does so after the request. -/
theorem reports_serve
    {request : Request}
    (conducts : engine.Conducts request.input before after)
    (starts : before []) :
    Reports after Verdict.report? (engine.serve request) [] := by
  cases request with
  | message message =>
      have conducts : engine.Conducts (.ofMessage message false) before after := conducts
      unfold serve handleInbound
      simp only [bind_eq_andThen, andThen_assoc]
      refine Safe.andThen (reports_underLock conducts starts
        (fun trace holds => reports_process conducts holds) _) ?_
        fun fault _ _ _ => (reports_halt fault).2
      rintro (_ | (fault | outcome)) trace _ held
      · exact safe_recording_step fun _ => reports_done rfl
      · exact reports_done rfl
      · refine ⟨trivial, ?_⟩
        rintro _ report ⟨⟩ reports
        exact held outcome report rfl reports
  | continuation item =>
      have conducts : engine.Conducts (.ofPayload item.payload) before after := conducts
      unfold serve resume
      simp only [bind_eq_andThen, andThen_assoc]
      refine Safe.andThen (reports_underLock conducts starts
        (fun trace holds => reports_takeUp conducts holds) _) ?_
        fun fault _ _ _ => (reports_halt fault).2
      rintro (_ | ((error | message) | outcome)) trace _ held
      · exact reports_done rfl
      · exact reports_halt _
      · exact reports_halt _
      · refine ⟨trivial, ?_⟩
        rintro _ report ⟨⟩ reports
        exact held outcome report rfl reports

end Engine
end ChatFlow
