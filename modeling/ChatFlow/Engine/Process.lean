import ChatFlow.Engine.Call

/-!
# Processes

A process is a tree of calls: it is done, or it halts with a fault, or it makes a call and goes
on with the outcome.  What the calls do is not part of it, so that one process can be run against
any store and any collaborators, can be cut short at any call, and can be interleaved with
others.
-/

namespace ChatFlow

/-- A tree of calls with results of one type at its ends. -/
inductive Process (α : Type) where
  /-- The process is done. -/
  | done (value : α)
  /-- The process halts with a fault. -/
  | halt (fault : Fault)
  /-- The process makes a call and goes on with its outcome. -/
  | step (request : Call) (next : request.Outcome → Process α)

namespace Process

/-- Goes on with the result of a process. -/
def andThen : Process α → (α → Process β) → Process β
  | .done value, next => next value
  | .halt fault, _ => .halt fault
  | .step request rest, next => .step request fun outcome => (rest outcome).andThen next

instance : Monad Process where
  pure := .done
  bind := andThen

/-- Makes one call. -/
def ask (request : Call) : Process request.Outcome :=
  .step request .done

/-- Goes on with a result or halts with its fault. -/
def orHalt : Except Fault α → Process α
  | .ok value => .done value
  | .error fault => .halt fault

/-- Goes on with a result or halts with its error. -/
def orFail : Except Error α → Process α
  | .ok value => .done value
  | .error error => .halt (.error error)

/-- Keeps an error as a value and halts with a panic. -/
def orPanic : Except Fault α → Process (Except Error α)
  | .ok value => .done (.ok value)
  | .error (.error error) => .done (.error error)
  | .error (.panic message) => .halt (.panic message)

/-- Makes any fault of a process its result. -/
def contain : Process α → Process (Except Fault α)
  | .done value => .done (.ok value)
  | .halt fault => .done (.error fault)
  | .step request next => .step request fun outcome => (next outcome).contain

/-- Publishes an event. -/
def publish (event : Event) : Process Unit :=
  ask (.publish event)

/-- Runs a process against collaborators with a common state. -/
def run (answer : (request : Call) → σ → request.Outcome × σ) : Process α → σ → Except Fault α × σ
  | .done value, state => (.ok value, state)
  | .halt fault, state => (.error fault, state)
  | .step request next, state =>
    let (outcome, state) := answer request state
    (next outcome).run answer state

@[simp] theorem pure_eq_done (value : α) : (pure value : Process α) = .done value := rfl

@[simp] theorem bind_eq_andThen (process : Process α) (next : α → Process β) :
    process >>= next = process.andThen next := rfl

@[simp] theorem andThen_done (value : α) (next : α → Process β) :
    (done value).andThen next = next value := rfl

@[simp] theorem andThen_halt (fault : Fault) (next : α → Process β) :
    (halt fault : Process α).andThen next = .halt fault := rfl

@[simp] theorem andThen_step
    (request : Call) (rest : request.Outcome → Process α) (next : α → Process β) :
    (step request rest).andThen next =
      .step request fun outcome => (rest outcome).andThen next := rfl

/-- Going on twice is going on with both. -/
theorem andThen_assoc
    (process : Process α) (first : α → Process β) (second : β → Process γ) :
    (process.andThen first).andThen second =
      process.andThen fun value => (first value).andThen second := by
  induction process with
  | done value => rfl
  | halt fault => rfl
  | step request rest inductionHypothesis =>
    simp only [andThen_step]
    congr 1
    funext outcome
    exact inductionHypothesis outcome

/-- Going on with what one has changes nothing. -/
theorem andThen_done_right (process : Process α) : process.andThen done = process := by
  induction process with
  | done value => rfl
  | halt fault => rfl
  | step request rest inductionHypothesis =>
    simp only [andThen_step]
    congr 1
    funext outcome
    exact inductionHypothesis outcome

/-- A run of two processes in a row is a run of the first and, if it is done, one of the second
from the state that the first one left. -/
theorem run_andThen
    (answer : (request : Call) → σ → request.Outcome × σ) (process : Process α)
    (next : α → Process β) (state : σ) :
    (process.andThen next).run answer state =
      match process.run answer state with
      | (.ok value, state) => (next value).run answer state
      | (.error fault, state) => (.error fault, state) := by
  induction process generalizing state with
  | done value => rfl
  | halt fault => rfl
  | step request rest inductionHypothesis =>
    simp only [andThen_step, run]
    exact inductionHypothesis _ _

end Process

end ChatFlow
