import ChatFlow.Proofs.Engine.Lookups
import ChatFlow.Proofs.Engine.Requests

/-!
# How engines use locks

An engine serves a request under the lock of its conversation: it asks for the lock first; when it
gets it, it releases it before it ends, whatever its other calls show; and when it does not, it
tells the observers at most, and says that the conversation is busy.  In between, all calls are
plain: they are not about locks, and a continuation that is queued was not tried before.
-/

namespace ChatFlow

/-- The conversation of a request. -/
def Request.conversation : Request → Conversation
  | .message inbound => inbound.conversation
  | .continuation item => item.conversation

/-- What becomes of a request whose conversation is busy. -/
def Request.busy : Request → Verdict
  | .message _ => .message (.skipped .busy)
  | .continuation _ => .continuation .busy

/-- A call is not about locks, and a continuation that it queues was not tried before. -/
def Call.isPlain : Call → Bool
  | .acquire _ | .release _ => false
  | .enqueue item => item.attempt == 0
  | _ => true

namespace Process

variable {α β : Type} {conversation : Conversation}

/-- A process makes no calls about locks. -/
abbrev LockFree (process : Process α) : Prop :=
  process.Within (fun request => request.isLock = false) (fun _ _ => True) fun _ => True

/-- A process makes plain calls only. -/
abbrev Plain (process : Process α) : Prop :=
  process.Within (fun request => request.isPlain = true) (fun _ _ => True) fun _ => True

/-- A process makes calls that are not about locks, then releases a lock, and then makes no more
calls about locks; it does not end before. -/
def Releases (conversation : Conversation) : Process α → Prop
  | .done _ | .halt _ => False
  | .step request next =>
      (request = .release conversation ∧ ∀ outcome, (next outcome).LockFree) ∨
        (request.isLock = false ∧ ∀ outcome, (next outcome).Releases conversation)

/-- A process is done, but for an event that it publishes. -/
def Gives (value : α) (process : Process α) : Prop :=
  process = .done value ∨ ∃ event, process = .step (.publish event) fun _ => .done value

/-- A process asks for a lock first; it releases it once it has it, and gives a value when it is
refused. -/
def Asks (conversation : Conversation) (refusal : α) (process : Process α) : Prop :=
  ∃ next : Except Fault Bool → Process α, process = .step (.acquire conversation) next ∧
    (next (.ok true)).Releases conversation ∧ (next (.ok false)).Gives refusal

/-! ## Processes without calls about locks -/

theorem LockFree.andThen
    {process : Process α}
    {next : α → Process β}
    (lockFree : process.LockFree)
    (rest : ∀ value, (next value).LockFree) :
    (process.andThen next).LockFree :=
  Within.andThen lockFree (fun value _ => rest value) fun _ _ => trivial

/-- Plain calls are not about locks. -/
theorem Plain.lockFree
    {process : Process α}
    (plain : process.Plain) :
    process.LockFree := by
  refine plain.weaken (fun request isPlain => ?_) (fun _ _ _ => trivial) fun _ _ => trivial
  cases request with
  | acquire | release => cases isPlain
  | _ => rfl

theorem lockFree_orPanic (outcome : Except Fault α) : (orPanic outcome).LockFree := by
  rcases outcome with (error | message) | value
  · trivial
  · trivial
  · trivial

theorem Gives.lockFree
    {value : α}
    {process : Process α}
    (gives : process.Gives value) :
    process.LockFree := by
  rcases gives with rfl | ⟨event, rfl⟩
  · trivial
  · exact ⟨rfl, fun _ _ => trivial⟩

/-! ## Processes that make plain calls only -/

theorem Plain.andThen
    {process : Process α}
    {next : α → Process β}
    (plain : process.Plain)
    (rest : ∀ value, (next value).Plain) :
    (process.andThen next).Plain :=
  Within.andThen plain (fun value _ => rest value) fun _ _ => trivial

theorem plain_orHalt (outcome : Except Fault α) : (orHalt outcome).Plain := by
  cases outcome with
  | ok value => trivial
  | error fault => trivial

theorem plain_orFail (outcome : Except Error α) : (orFail outcome).Plain := by
  cases outcome with
  | ok value => trivial
  | error error => trivial

theorem plain_ask
    {request : Call}
    (isPlain : request.isPlain = true) :
    (ask request).Plain :=
  ⟨isPlain, fun _ _ => trivial⟩

/-! ## Processes that release a lock -/

theorem Releases.andThen
    {process : Process α}
    {next : α → Process β}
    (releases : process.Releases conversation)
    (rest : ∀ value, (next value).LockFree) :
    (process.andThen next).Releases conversation := by
  induction process with
  | done value => exact releases.elim
  | halt fault => exact releases.elim
  | step request next inductionHypothesis =>
      rcases releases with ⟨releases, lockFree⟩ | ⟨isLock, releases⟩
      · exact .inl ⟨releases, fun outcome => (lockFree outcome).andThen rest⟩
      · exact .inr ⟨isLock, fun outcome => inductionHypothesis outcome (releases outcome)⟩

/-- A process that is contained before a lock is released never ends before. -/
theorem releases_contain
    {process : Process α}
    {next : Except Fault α → Process β}
    (lockFree : process.LockFree)
    (rest : ∀ result, (next result).Releases conversation) :
    (process.contain.andThen next).Releases conversation := by
  induction process with
  | done value => exact rest (.ok value)
  | halt fault => exact rest (.error fault)
  | step request next inductionHypothesis =>
      exact .inr ⟨lockFree.1, fun outcome =>
        inductionHypothesis outcome (lockFree.2 outcome trivial)⟩

end Process

open Process

/-! ## Turns -/

namespace Turn

/-- At a node a turn makes plain calls only. -/
theorem plain_step
    (engine : Engine)
    (graph : Flow.Graph)
    (node : Flow.Node)
    (answering : Bool)
    (turn : Turn) :
    (step engine graph node answering turn).Plain := by
  have isAt : turn.At turn.execution := rfl
  have behaves : Behaves engine .anywhere graph turn.execution node
      (fun result => result.1.Fits graph node ∧ result.2.At turn.execution)
      (step engine graph node answering turn) := behaves_step isAt answering
  by_cases kind : node.kind = .delay
  · simp only [step, kind]
    exact Plain.andThen (within_delay rfl fun _ fresh => beq_iff_eq.mpr fresh) fun _ => trivial
  · refine behaves.weaken ?_ (fun request outcome _ => Site.shows_anywhere request outcome)
      fun _ _ => trivial
    intro request allowed
    cases request with
    | acquire | release => exact allowed.elim
    | enqueue item => exact (kind allowed.kind).elim
    | _ => rfl

/-- So it does while it follows a transition. -/
theorem plain_follow
    (turn : Turn)
    (transition : Transition) :
    (turn.follow transition).Plain := by
  cases transition with
  | advance node | advanceAndWait node | wait =>
      exact (plain_ask rfl).andThen fun _ => (plain_orHalt _).andThen fun _ => trivial
  | scheduled item => exact (plain_ask rfl).andThen fun _ => trivial
  | complete =>
      exact (plain_ask rfl).andThen fun _ => (plain_orHalt _).andThen fun _ =>
        (plain_ask rfl).andThen fun _ => trivial

/-- So it does on its whole walk. -/
theorem plain_walk
    (engine : Engine)
    (graph : Flow.Graph)
    (hops : Nat)
    (answering : Bool)
    (turn : Turn) :
    (walk engine graph hops answering turn).Plain := by
  induction hops generalizing answering turn with
  | zero => exact (plain_ask rfl).andThen fun _ => trivial
  | succ hops inductionHypothesis =>
      refine (plain_orFail _).andThen fun node => ?_
      refine Plain.andThen ((plain_ask rfl).andThen fun _ => trivial) fun entered => ?_
      refine (plain_step engine graph node answering entered).andThen ?_
      rintro ⟨transition, stepped⟩
      refine (plain_follow stepped transition).andThen fun followed => ?_
      split
      · exact inductionHypothesis false followed
      · trivial

/-- A turn makes plain calls only. -/
theorem plain_perform
    (engine : Engine)
    (graph : Flow.Graph)
    (execution : Execution)
    (input : TurnInput) :
    (perform engine graph execution input).Plain := by
  refine (plain_walk engine graph _ _ _).andThen fun turn => ?_
  exact Plain.andThen (within_logInput rfl fun _ => rfl) fun _ => trivial

end Turn

/-! ## Requests -/

namespace Engine

theorem plain_accept
    (engine : Engine)
    (graph : Flow.Graph)
    (execution : Execution)
    (input : TurnInput) :
    (engine.accept graph execution input).Plain :=
  (plain_ask rfl).andThen fun _ =>
    (Turn.plain_perform engine graph execution input).andThen fun _ => trivial

/-- While its conversation is locked, a message makes plain calls only. -/
theorem plain_process
    (engine : Engine)
    (message : InboundMessage) :
    (engine.process message).Plain := by
  refine (plain_ask rfl).andThen fun _ => (plain_orHalt _).andThen fun active? => ?_
  cases active? with
  | none =>
      refine (plain_ask rfl).andThen fun _ => (plain_orHalt _).andThen fun graph? => ?_
      cases graph? with
      | none => trivial
      | some graph =>
          refine (plain_ask rfl).andThen fun _ => (plain_orHalt _).andThen fun execution => ?_
          exact plain_accept engine graph execution _
  | some execution =>
      refine (plain_ask rfl).andThen fun _ => (plain_orHalt _).andThen fun graph => ?_
      split
      · exact plain_accept engine graph execution _
      · refine (plain_orFail _).andThen fun node => ?_
        dsimp only
        split
        · exact plain_accept engine graph execution _
        · refine Plain.andThen (within_isOverdue rfl) fun overdue => ?_
          split
          · exact (plain_ask rfl).andThen fun _ => trivial
          · split
            · exact plain_accept engine graph execution _
            · refine (plain_ask rfl).andThen fun _ => (plain_orHalt _).andThen fun _ => ?_
              exact plain_accept engine graph _ _

/-- While its conversation is locked, a continuation makes plain calls only. -/
theorem plain_takeUp
    (engine : Engine)
    (item : Continuation) :
    (engine.takeUp item).Plain := by
  refine Plain.andThen (within_executionOf rfl rfl) fun execution? => ?_
  cases execution? with
  | none => trivial
  | some execution =>
      refine (plain_ask rfl).andThen fun _ => (plain_orHalt _).andThen fun graph => ?_
      dsimp only
      split
      · refine (plain_ask rfl).andThen fun _ => (plain_orHalt _).andThen fun _ => ?_
        refine (plain_ask rfl).andThen fun _ => ?_
        exact (Turn.plain_perform engine graph _ _).andThen fun _ => trivial
      · trivial

/-- A process that is performed under a lock asks for it, and releases it when it got it. -/
theorem asks_underLock
    {process : Process α}
    {next : Option (Except Fault α) → Process β}
    {conversation : Conversation}
    {refusal : β}
    (lockFree : process.LockFree)
    (rest : ∀ result, (next (some result)).LockFree)
    (refused : (next none).Gives refusal) :
    ((underLock conversation process).andThen next).Asks conversation refusal := by
  refine ⟨_, rfl, ?_, refused⟩
  have releasing (result : Except Fault α) :
      ((release conversation).andThen fun _ => .done (some result)).Releases conversation := by
    refine .inl ⟨rfl, fun outcome => ?_⟩
    exact LockFree.andThen ((lockFree_orPanic _).andThen fun _ => trivial) fun _ => trivial
  have performed : (process.contain.andThen fun result =>
      (release conversation).andThen fun _ => .done (some result)).Releases conversation :=
    releases_contain lockFree releasing
  refine performed.andThen fun result? => ?_
  cases result? with
  | none => exact refused.lockFree
  | some result => exact rest result

/-- An engine serves a request under the lock of its conversation. -/
theorem asks_serve
    (engine : Engine)
    (request : Request) :
    (engine.serve request).Asks request.conversation request.busy := by
  cases request with
  | message message =>
      simp only [serve]
      rw [handleInbound, bind_eq_andThen, andThen_assoc]
      refine asks_underLock (plain_process engine message).lockFree ?_ (.inr ⟨_, rfl⟩)
      rintro (fault | outcome)
      · trivial
      · trivial
  | continuation item =>
      simp only [serve]
      rw [resume, bind_eq_andThen, andThen_assoc]
      refine asks_underLock (plain_takeUp engine item).lockFree ?_ (.inl rfl)
      rintro ((error | text) | outcome)
      · trivial
      · trivial
      · trivial

end Engine
end ChatFlow
