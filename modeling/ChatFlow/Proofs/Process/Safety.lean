import ChatFlow.Engine.Process
import Mathlib.Logic.Relation

/-!
# Runs of processes

A process runs against something that answers its calls.  How it answers is a relation, so that a
call may have several outcomes.  `Reaches` follows a process call by call, `Ends` follows it to
its end, and `Safe` says what holds on every way there: an invariant in all states that are
passed, and a postcondition at each end.  The rules for `Safe` follow the shape of a process.
A process *concludes* with a postcondition when, besides, it does come to an end: nothing that it
calls leaves it without an answer.
-/

namespace ChatFlow

/-- How the outcome of a call, and the state after it, may follow from the state before it. -/
abbrev Answering (σ : Type) : Type :=
  (request : Call) → σ → request.Outcome → σ → Prop

namespace Process

variable {σ α β : Type} {answers : Answering σ} {invariant : σ → Prop}

/-- A process makes one call. -/
inductive Step (answers : Answering σ) : Process α × σ → Process α × σ → Prop
  | call {request : Call} {next : request.Outcome → Process α} {state after : σ}
      {outcome : request.Outcome} :
      answers request state outcome after →
      Step answers (.step request next, state) (next outcome, after)

/-- A process makes any number of calls. -/
abbrev Reaches (answers : Answering σ) : Process α × σ → Process α × σ → Prop :=
  Relation.ReflTransGen (Step answers)

/-- A process makes calls until it ends with a result. -/
def Ends
    (answers : Answering σ) (process : Process α) (state : σ) (result : Except Fault α)
    (after : σ) : Prop :=
  Reaches answers (process, state) (orHalt result, after)

/-- What goes on afterwards does not change the calls of a process. -/
theorem reaches_andThen
    {process rest : Process α}
    {state after : σ}
    (next : α → Process β)
    (reaches : Reaches answers (process, state) (rest, after)) :
    Reaches answers (process.andThen next, state) (rest.andThen next, after) := by
  refine reaches.lift (fun moment : Process α × σ => (moment.1.andThen next, moment.2)) ?_
  rintro _ _ ⟨answered⟩
  exact .call answered

/-- A process that is done ends where it is. -/
theorem Ends.of_done
    {value : α}
    {state after : σ}
    {result : Except Fault α}
    (ends : Ends answers (.done value) state result after) :
    result = .ok value ∧ after = state := by
  rcases ends.cases_head with same | ⟨_, ⟨⟩, _⟩
  cases result with
  | ok other =>
      cases same
      exact ⟨rfl, rfl⟩
  | error fault => cases same

/-- A process that halts ends where it is. -/
theorem Ends.of_halt
    {fault : Fault}
    {state after : σ}
    {result : Except Fault α}
    (ends : Ends answers (.halt fault) state result after) :
    result = .error fault ∧ after = state := by
  rcases ends.cases_head with same | ⟨_, ⟨⟩, _⟩
  cases result with
  | ok other => cases same
  | error other =>
      cases same
      exact ⟨rfl, rfl⟩

/-- A process that makes a call ends like what follows the call. -/
theorem Ends.of_step
    {request : Call}
    {next : request.Outcome → Process α}
    {state after : σ}
    {result : Except Fault α}
    (ends : Ends answers (.step request next) state result after) :
    ∃ outcome middle, answers request state outcome middle ∧
      Ends answers (next outcome) middle result after := by
  rcases ends.cases_head with same | ⟨_, ⟨answered⟩, rest⟩
  · cases result <;> cases same
  · exact ⟨_, _, answered, rest⟩

/-- Two processes in a row end where the second one does, unless the first one halts. -/
theorem Ends.andThen_cases
    {process : Process α}
    {next : α → Process β}
    {state after : σ}
    {result : Except Fault β}
    (ends : Ends answers (process.andThen next) state result after) :
    (∃ value middle, Ends answers process state (.ok value) middle ∧
      Ends answers (next value) middle result after) ∨
    ∃ fault, result = .error fault ∧ Ends answers process state (.error fault) after := by
  induction process generalizing state with
  | done value => exact .inl ⟨value, state, .refl, ends⟩
  | halt fault =>
      obtain ⟨rfl, rfl⟩ := ends.of_halt
      exact .inr ⟨fault, rfl, .refl⟩
  | step request rest inductionHypothesis =>
      obtain ⟨outcome, middle, answered, goesOn⟩ := Ends.of_step ends
      rcases inductionHypothesis outcome goesOn with
        ⟨value, there, endsFirst, endsSecond⟩ | ⟨fault, rfl, halts⟩
      · exact .inl ⟨value, there, .head (.call answered) endsFirst, endsSecond⟩
      · exact .inr ⟨fault, rfl, .head (.call answered) halts⟩

/-- A process that goes on with a result without a call ends where the process ends. -/
theorem Ends.of_andThen_done
    {process : Process α}
    {value : α → β}
    {state after : σ}
    {result : Except Fault β}
    (ends : Ends answers (process.andThen fun outcome => .done (value outcome)) state result
      after) :
    ∃ kept, Ends answers process state kept after ∧ result = kept.map value := by
  rcases ends.andThen_cases with ⟨outcome, middle, ended, told⟩ | ⟨fault, rfl, halts⟩
  · obtain ⟨rfl, rfl⟩ := told.of_done
    exact ⟨.ok outcome, ended, rfl⟩
  · exact ⟨.error fault, halts, rfl⟩

/-- A process whose faults are made results ends where the process ends. -/
theorem Ends.of_contain
    {process : Process α}
    {state after : σ}
    {result : Except Fault (Except Fault α)}
    (ends : Ends answers process.contain state result after) :
    ∃ contained, result = .ok contained ∧ Ends answers process state contained after := by
  induction process generalizing state with
  | done value =>
      obtain ⟨rfl, rfl⟩ := ends.of_done
      exact ⟨_, rfl, .refl⟩
  | halt fault =>
      obtain ⟨rfl, rfl⟩ := ends.of_done
      exact ⟨_, rfl, .refl⟩
  | step request next inductionHypothesis =>
      obtain ⟨outcome, middle, answered, rest⟩ := Ends.of_step ends
      obtain ⟨contained, rfl, goesOn⟩ := inductionHypothesis outcome rest
      exact ⟨contained, rfl, .head (.call answered) goesOn⟩

/-- On every way that a process can take, all states satisfy the invariant and every end satisfies
the postcondition. -/
def Safe (answers : Answering σ) (invariant : σ → Prop) (post : Except Fault α → σ → Prop) :
    Process α → σ → Prop
  | .done value, state => invariant state ∧ post (.ok value) state
  | .halt fault, state => invariant state ∧ post (.error fault) state
  | .step request next, state =>
      invariant state ∧ ∀ outcome after, answers request state outcome after →
        (next outcome).Safe answers invariant post after

/-- A safe process begins in a state that satisfies the invariant. -/
theorem Safe.holds
    {post : Except Fault α → σ → Prop}
    {process : Process α}
    {state : σ}
    (safe : process.Safe answers invariant post state) :
    invariant state := by
  cases process with
  | done value => exact safe.1
  | halt fault => exact safe.1
  | step request next => exact safe.1

/-- A call leaves a safe process safe. -/
theorem Safe.step
    {post : Except Fault α → σ → Prop}
    {before after : Process α × σ}
    (safe : before.1.Safe answers invariant post before.2)
    (step : Step answers before after) :
    after.1.Safe answers invariant post after.2 := by
  cases step with
  | call answered => exact safe.2 _ _ answered

/-- Any number of calls leaves a safe process safe. -/
theorem Safe.reaches
    {post : Except Fault α → σ → Prop}
    {before after : Process α × σ}
    (safe : before.1.Safe answers invariant post before.2)
    (reaches : Reaches answers before after) :
    after.1.Safe answers invariant post after.2 := by
  induction reaches with
  | refl => exact safe
  | tail _ step inductionHypothesis => exact inductionHypothesis.step step

/-- The end of a safe process satisfies the postcondition. -/
theorem Safe.ends
    {post : Except Fault α → σ → Prop}
    {process : Process α}
    {state after : σ}
    {result : Except Fault α}
    (safe : process.Safe answers invariant post state)
    (ends : Ends answers process state result after) :
    invariant after ∧ post result after := by
  have final := Safe.reaches (show (process, state).1.Safe answers invariant post state from safe)
    ends
  cases result with
  | ok value => exact final
  | error fault => exact final

/-- Both the invariant and the postcondition of a safe process may be weakened. -/
theorem Safe.relax
    {looser : σ → Prop}
    {post weaker : Except Fault α → σ → Prop}
    {process : Process α}
    {state : σ}
    (safe : process.Safe answers invariant post state)
    (loosens : ∀ after, invariant after → looser after)
    (implies : ∀ result after, invariant after → post result after → weaker result after) :
    process.Safe answers looser weaker state := by
  induction process generalizing state with
  | done value => exact ⟨loosens _ safe.1, implies _ _ safe.1 safe.2⟩
  | halt fault => exact ⟨loosens _ safe.1, implies _ _ safe.1 safe.2⟩
  | step request next inductionHypothesis =>
      refine ⟨loosens _ safe.1, ?_⟩
      intro outcome after answered
      exact inductionHypothesis outcome (safe.2 outcome after answered)

/-- The postcondition of a safe process may be weakened. -/
theorem Safe.weaken
    {post weaker : Except Fault α → σ → Prop}
    {process : Process α}
    {state : σ}
    (safe : process.Safe answers invariant post state)
    (implies : ∀ result after, invariant after → post result after → weaker result after) :
    process.Safe answers invariant weaker state :=
  safe.relax (fun _ holds => holds) implies

/-- A safe process is safe when its calls are answered in fewer ways. -/
theorem Safe.narrow
    {fewer : Answering σ}
    {post : Except Fault α → σ → Prop}
    {process : Process α}
    {state : σ}
    (safe : process.Safe answers invariant post state)
    (narrows : ∀ request state outcome after, fewer request state outcome after →
      answers request state outcome after) :
    process.Safe fewer invariant post state := by
  induction process generalizing state with
  | done value => exact safe
  | halt fault => exact safe
  | step request next inductionHypothesis =>
      refine ⟨safe.1, ?_⟩
      intro outcome after answered
      exact inductionHypothesis outcome (safe.2 outcome after (narrows _ _ _ _ answered))

/-- Two processes in a row are safe when the first one is, and the second one is wherever the
first one leaves off. -/
theorem Safe.andThen
    {middle : Except Fault α → σ → Prop}
    {post : Except Fault β → σ → Prop}
    {process : Process α}
    {next : α → Process β}
    {state : σ}
    (safe : process.Safe answers invariant middle state)
    (rest : ∀ value after, invariant after → middle (.ok value) after →
      (next value).Safe answers invariant post after)
    (halts : ∀ fault after, invariant after → middle (.error fault) after →
      post (.error fault) after) :
    (process.andThen next).Safe answers invariant post state := by
  induction process generalizing state with
  | done value => exact rest value state safe.1 safe.2
  | halt fault => exact ⟨safe.1, halts fault state safe.1 safe.2⟩
  | step request rest inductionHypothesis =>
      refine ⟨safe.1, ?_⟩
      intro outcome after answered
      exact inductionHypothesis outcome (safe.2 outcome after answered)

/-- A process that is safe in two ways is safe in both at once. -/
theorem Safe.and
    {other : σ → Prop}
    {post further : Except Fault α → σ → Prop}
    {process : Process α}
    {state : σ}
    (safe : process.Safe answers invariant post state)
    (also : process.Safe answers other further state) :
    process.Safe answers (fun after => invariant after ∧ other after)
      (fun result after => post result after ∧ further result after) state := by
  induction process generalizing state with
  | done value => exact ⟨⟨safe.1, also.1⟩, safe.2, also.2⟩
  | halt fault => exact ⟨⟨safe.1, also.1⟩, safe.2, also.2⟩
  | step request next inductionHypothesis =>
      refine ⟨⟨safe.1, also.1⟩, ?_⟩
      intro outcome after answered
      exact inductionHypothesis outcome (safe.2 outcome after answered)
        (also.2 outcome after answered)

/-- A process whose faults are made results is as safe as before, and never halts. -/
theorem Safe.contain
    {post : Except Fault α → σ → Prop}
    {process : Process α}
    {state : σ}
    (safe : process.Safe answers invariant post state) :
    process.contain.Safe answers invariant
      (fun result after => ∃ kept, result = .ok kept ∧ post kept after) state := by
  induction process generalizing state with
  | done value => exact ⟨safe.1, _, rfl, safe.2⟩
  | halt fault => exact ⟨safe.1, _, rfl, safe.2⟩
  | step request next inductionHypothesis =>
      refine ⟨safe.1, ?_⟩
      intro outcome after answered
      exact inductionHypothesis outcome (safe.2 outcome after answered)

/-- A run against collaborators that answer in one way only is one of the runs. -/
theorem ends_of_run
    (answer : (request : Call) → σ → request.Outcome × σ)
    (answered : ∀ request state,
      answers request state (answer request state).1 (answer request state).2)
    (process : Process α)
    (state : σ) :
    Ends answers process state (process.run answer state).1 (process.run answer state).2 := by
  induction process generalizing state with
  | done value => exact .refl
  | halt fault => exact .refl
  | step request next inductionHypothesis =>
      exact .head (.call (answered request state)) (inductionHypothesis _ _)

/-- All calls of a run are allowed where they are made. -/
def allows
    (answer : (request : Call) → σ → request.Outcome × σ)
    (allowed : (request : Call) → σ → Bool) : Process α → σ → Bool
  | .done _, _ => true
  | .halt _, _ => true
  | .step request next, state =>
      allowed request state &&
        (next (answer request state).1).allows answer allowed (answer request state).2

/-- A run is one of the runs when collaborators answer so wherever it is allowed, and only allowed
calls are made. -/
theorem ends_of_run_of_allows
    {answer : (request : Call) → σ → request.Outcome × σ}
    {allowed : (request : Call) → σ → Bool}
    (answered : ∀ request state, allowed request state = true →
      answers request state (answer request state).1 (answer request state).2)
    (process : Process α)
    (state : σ)
    (allows : process.allows answer allowed state = true) :
    Ends answers process state (process.run answer state).1 (process.run answer state).2 := by
  induction process generalizing state with
  | done value => exact .refl
  | halt fault => exact .refl
  | step request next inductionHypothesis =>
      rw [Process.allows, Bool.and_eq_true] at allows
      exact .head (.call (answered request state allows.1)) (inductionHypothesis _ _ allows.2)

/-! ## What a process may call -/

/-- Whatever expected outcomes its calls have, a process makes only calls that are allowed and
ends in a way that satisfies the postcondition. -/
def Within
    (allowed : Call → Prop) (expected : (request : Call) → request.Outcome → Prop)
    (post : Except Fault α → Prop) : Process α → Prop
  | .done value => post (.ok value)
  | .halt fault => post (.error fault)
  | .step request next =>
      allowed request ∧ ∀ outcome, expected request outcome →
        (next outcome).Within allowed expected post

variable {allowed : Call → Prop} {expected : (request : Call) → request.Outcome → Prop}

/-- More may be allowed, fewer outcomes may be expected, and the postcondition may be weakened. -/
theorem Within.weaken
    {larger : Call → Prop}
    {narrower : (request : Call) → request.Outcome → Prop}
    {post weaker : Except Fault α → Prop}
    {process : Process α}
    (within : process.Within allowed expected post)
    (allows : ∀ request, allowed request → larger request)
    (narrows : ∀ request outcome, narrower request outcome → expected request outcome)
    (implies : ∀ result, post result → weaker result) :
    process.Within larger narrower weaker := by
  induction process with
  | done value => exact implies _ within
  | halt fault => exact implies _ within
  | step request next inductionHypothesis =>
      refine ⟨allows request within.1, ?_⟩
      intro outcome shown
      exact inductionHypothesis outcome (within.2 outcome (narrows request outcome shown))

/-- Two processes in a row make the calls of both. -/
theorem Within.andThen
    {middle : Except Fault α → Prop}
    {post : Except Fault β → Prop}
    {process : Process α}
    {next : α → Process β}
    (within : process.Within allowed expected middle)
    (rest : ∀ value, middle (.ok value) → (next value).Within allowed expected post)
    (halts : ∀ fault, middle (.error fault) → post (.error fault)) :
    (process.andThen next).Within allowed expected post := by
  induction process with
  | done value => exact rest value within
  | halt fault => exact halts fault within
  | step request rest inductionHypothesis =>
      refine ⟨within.1, ?_⟩
      intro outcome shown
      exact inductionHypothesis outcome (within.2 outcome shown)

/-- A process is done, and does not halt, if its calls have some of the expected outcomes. -/
def CanEnd (expected : (request : Call) → request.Outcome → Prop) : Process α → Prop
  | .done _ => True
  | .halt _ => False
  | .step request next => ∃ outcome, expected request outcome ∧ (next outcome).CanEnd expected

/-- The first of two processes in a row makes calls of both only. -/
theorem Within.of_andThen
    {post : Except Fault β → Prop}
    {process : Process α}
    {next : α → Process β}
    (within : (process.andThen next).Within allowed expected post) :
    process.Within allowed expected fun _ => True := by
  induction process with
  | done value => trivial
  | halt fault => trivial
  | step request rest inductionHypothesis =>
      refine ⟨within.1, ?_⟩
      intro outcome shown
      exact inductionHypothesis outcome (within.2 outcome shown)

/-- So does the second one, wherever the first one can leave off. -/
theorem Within.exists_of_canEnd
    {post : Except Fault β → Prop}
    {process : Process α}
    {next : α → Process β}
    (within : (process.andThen next).Within allowed expected post)
    (canEnd : process.CanEnd expected) :
    ∃ value, (next value).Within allowed expected post := by
  induction process with
  | done value => exact ⟨value, within⟩
  | halt fault => exact canEnd.elim
  | step request rest inductionHypothesis =>
      obtain ⟨outcome, shown, goesOn⟩ := canEnd
      exact inductionHypothesis outcome (within.2 outcome shown) goesOn

/-- Two processes in a row make only allowed calls exactly when each of them does, if the first one
can be done and the calls of the second one do not depend on its result. -/
theorem within_andThen_iff
    {process : Process α}
    {next : α → Process β}
    {restAllowed : Prop}
    (canEnd : process.CanEnd expected)
    (rest : ∀ value, (next value).Within allowed expected (fun _ => True) ↔ restAllowed) :
    (process.andThen next).Within allowed expected (fun _ => True) ↔
      process.Within allowed expected (fun _ => True) ∧ restAllowed := by
  constructor
  · intro within
    obtain ⟨value, goesOn⟩ := within.exists_of_canEnd canEnd
    exact ⟨within.of_andThen, (rest value).mp goesOn⟩
  · rintro ⟨within, goesOn⟩
    exact within.andThen (fun value _ => (rest value).mpr goesOn) fun _ _ => trivial

/-- What is known of a process in two ways is known of it at once. -/
theorem Within.and
    {other : Call → Prop}
    {further : (request : Call) → request.Outcome → Prop}
    {post also : Except Fault α → Prop}
    {process : Process α}
    (within : process.Within allowed expected post)
    (second : process.Within other further also) :
    process.Within (fun request => allowed request ∧ other request)
      (fun request outcome => expected request outcome ∧ further request outcome)
      (fun result => post result ∧ also result) := by
  induction process with
  | done value => exact ⟨within, second⟩
  | halt fault => exact ⟨within, second⟩
  | step request next inductionHypothesis =>
      refine ⟨⟨within.1, second.1⟩, ?_⟩
      rintro outcome ⟨shown, shownToo⟩
      exact inductionHypothesis outcome (within.2 outcome shown) (second.2 outcome shownToo)

/-- A process is safe when every call that it may make keeps the invariant. -/
theorem Within.safe
    {post : Except Fault α → Prop}
    {process : Process α}
    {state : σ}
    (within : process.Within allowed expected post)
    (keeps : ∀ request before outcome after, allowed request → invariant before →
      answers request before outcome after → invariant after ∧ expected request outcome)
    (holds : invariant state) :
    process.Safe answers invariant (fun result _ => post result) state := by
  induction process generalizing state with
  | done value => exact ⟨holds, within⟩
  | halt fault => exact ⟨holds, within⟩
  | step request next inductionHypothesis =>
      refine ⟨holds, ?_⟩
      intro outcome after answered
      obtain ⟨kept, shown⟩ := keeps request _ outcome after within.1 holds answered
      exact inductionHypothesis outcome (within.2 outcome shown) kept

/-! ## Conclusions -/

section Conclusions

variable {process : Process α} {state : σ} {post : Except Fault α → σ → Prop}

/-- A process comes to an end, and satisfies the postcondition wherever it does. -/
def Concludes
    (answers : Answering σ) (post : Except Fault α → σ → Prop) (process : Process α)
    (state : σ) : Prop :=
  (∃ result after, Ends answers process state result after) ∧
    ∀ result after, Ends answers process state result after → post result after

/-- A process that is done concludes where it is. -/
theorem concludes_done
    {value : α}
    (holds : post (.ok value) state) :
    (done value).Concludes answers post state := by
  refine ⟨⟨.ok value, state, .refl⟩, ?_⟩
  intro result after ends
  obtain ⟨rfl, rfl⟩ := ends.of_done
  exact holds

/-- A process that halts concludes where it is. -/
theorem concludes_halt
    {fault : Fault}
    (holds : post (.error fault) state) :
    (halt fault : Process α).Concludes answers post state := by
  refine ⟨⟨.error fault, state, .refl⟩, ?_⟩
  intro result after ends
  obtain ⟨rfl, rfl⟩ := ends.of_halt
  exact holds

/-- A process that makes a call concludes when the call has an outcome, and what follows it
concludes with every outcome. -/
theorem concludes_step
    {request : Call}
    {next : request.Outcome → Process α}
    (answered : ∃ outcome after, answers request state outcome after)
    (rest : ∀ outcome after, answers request state outcome after →
      (next outcome).Concludes answers post after) :
    (step request next).Concludes answers post state := by
  constructor
  · obtain ⟨outcome, middle, answered⟩ := answered
    obtain ⟨⟨result, after, ends⟩, _⟩ := rest outcome middle answered
    exact ⟨result, after, .head (.call answered) ends⟩
  · intro result after ends
    obtain ⟨outcome, middle, answered, ends⟩ := ends.of_step
    exact (rest outcome middle answered).2 result after ends

/-- Two processes in a row conclude when the first one does, and the second one does wherever the
first one leaves off. -/
theorem Concludes.andThen
    {final : Except Fault β → σ → Prop}
    {next : α → Process β}
    (concludes : process.Concludes answers post state)
    (rest : ∀ value after, post (.ok value) after → (next value).Concludes answers final after)
    (halts : ∀ fault after, post (.error fault) after → final (.error fault) after) :
    (process.andThen next).Concludes answers final state := by
  constructor
  · obtain ⟨⟨result, middle, ends⟩, holds⟩ := concludes
    have first := reaches_andThen next ends
    cases result with
    | error fault => exact ⟨.error fault, middle, first⟩
    | ok value =>
        obtain ⟨⟨result, after, second⟩, _⟩ := rest value middle (holds _ _ ends)
        exact ⟨result, after, first.trans second⟩
  · intro result after ends
    rcases ends.andThen_cases with ⟨value, middle, first, second⟩ | ⟨fault, rfl, halted⟩
    · exact (rest value middle (concludes.2 _ _ first)).2 result after second
    · exact halts fault after (concludes.2 _ _ halted)

/-- Making a fault a result does not change the calls of a process. -/
theorem reaches_contain
    {rest : Process α}
    {after : σ}
    (reaches : Reaches answers (process, state) (rest, after)) :
    Reaches answers (process.contain, state) (rest.contain, after) := by
  refine reaches.lift (fun moment : Process α × σ => (moment.1.contain, moment.2)) ?_
  rintro _ _ ⟨answered⟩
  exact .call answered

/-- A process whose faults are made results concludes without one. -/
theorem Concludes.contain
    (concludes : process.Concludes answers post state) :
    process.contain.Concludes answers
      (fun result after => ∃ kept, result = .ok kept ∧ post kept after) state := by
  constructor
  · obtain ⟨⟨result, after, ends⟩, _⟩ := concludes
    have contained := reaches_contain ends
    cases result with
    | ok value => exact ⟨.ok (.ok value), after, contained⟩
    | error fault => exact ⟨.ok (.error fault), after, contained⟩
  · intro result after ends
    obtain ⟨kept, rfl, ended⟩ := ends.of_contain
    exact ⟨kept, rfl, concludes.2 kept after ended⟩

end Conclusions

end Process

end ChatFlow
