import ChatFlow.Proofs.Process.Safety

/-!
# Traces

A trace is what a process sees of the world: the calls that it made, each with its outcome, in
order.  Whatever else happens at the same time, a process goes the way that its trace tells.
-/

namespace ChatFlow

/-- A call and its outcome. -/
structure Exchange where
  request : Call
  outcome : request.Outcome

namespace Process

variable {σ α : Type} {process rest : Process α} {trace after : List Exchange}
  {exchange : Exchange} {result : Except Fault α}

/-- Calls may have any outcome, and all of them are written down. -/
def recording : Answering (List Exchange) :=
  fun request trace outcome after => after = trace ++ [⟨request, outcome⟩]

/-- Calls are answered as they are, and written down. -/
def recorded (answers : Answering σ) : Answering (σ × List Exchange) :=
  fun request before outcome after =>
    answers request before.1 outcome after.1 ∧ recording request before.2 outcome after.2

/-- What a process sees is told by its trace alone. -/
theorem ends_recording
    {answers : Answering σ}
    {before after : σ × List Exchange}
    (ends : Ends (recorded answers) process before result after) :
    Ends recording process before.2 result after.2 := by
  refine ends.lift (fun moment : Process α × σ × List Exchange => (moment.1, moment.2.2)) ?_
  rintro _ _ ⟨answered⟩
  exact .call answered.2

/-- Answers a call, and writes it down. -/
def record
    (answer : (request : Call) → σ → request.Outcome × σ) (request : Call)
    (before : σ × List Exchange) : request.Outcome × (σ × List Exchange) :=
  let (outcome, after) := answer request before.1
  (outcome, after, before.2 ++ [⟨request, outcome⟩])

/-- A run that is written down is one of the runs. -/
theorem ends_record
    {answers : Answering σ}
    {answer : (request : Call) → σ → request.Outcome × σ}
    (answered : ∀ request state,
      answers request state (answer request state).1 (answer request state).2)
    (process : Process α)
    (before : σ × List Exchange) :
    Ends (recorded answers) process before (process.run (record answer) before).1
      (process.run (record answer) before).2 :=
  ends_of_run (record answer) (fun request before => ⟨answered request before.1, rfl⟩) process
    before

/-- A call may have any outcome. -/
theorem safe_recording_step
    {post : Except Fault α → List Exchange → Prop}
    {request : Call}
    {next : request.Outcome → Process α}
    (rest : ∀ outcome, (next outcome).Safe recording (fun _ => True) post
      (trace ++ [⟨request, outcome⟩])) :
    (step request next).Safe recording (fun _ => True) post trace := by
  refine ⟨trivial, ?_⟩
  rintro outcome _ rfl
  exact rest outcome

/-- What follows a process is safe when it is so wherever the calls of the process, of which nothing
is known but that they are allowed, may have led. -/
theorem Within.followed
    {β : Type}
    {allowed : Call → Prop}
    {keeps : List Exchange → Prop}
    {post : Except Fault β → List Exchange → Prop}
    {next : α → Process β}
    (within : process.Within allowed (fun _ _ => True) fun _ => True)
    (stays : ∀ {trace : List Exchange} {exchange : Exchange}, keeps trace →
      allowed exchange.request → keeps (trace ++ [exchange]))
    (holds : keeps trace)
    (rest : ∀ value trace, keeps trace → (next value).Safe recording (fun _ => True) post trace)
    (halts : ∀ fault trace, keeps trace → post (.error fault) trace) :
    (process.andThen next).Safe recording (fun _ => True) post trace := by
  have safe : process.Safe recording keeps (fun _ _ => True) trace := by
    refine within.safe ?_ holds
    rintro request before outcome _ isAllowed kept rfl
    have stayed : keeps (before ++ [⟨request, outcome⟩]) := stays kept isAllowed
    exact ⟨stayed, trivial⟩
  have left : process.Safe recording (fun _ => True) (fun _ => keeps) trace :=
    safe.relax (fun _ _ => trivial) fun _ _ kept _ => kept
  exact left.andThen (fun value trace _ kept => rest value trace kept)
    fun fault trace _ kept => halts fault trace kept

end Process
end ChatFlow
