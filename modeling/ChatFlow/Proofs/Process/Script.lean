import ChatFlow.Proofs.Scene

/-!
# Processes that follow a script

Some calls of a process are marked.  A process is `Scripted` when these are the calls of a script
in their order, whatever the outcomes of its calls are, and when none of them follows one that
failed.  A process that looks around first, to find out what its script is, does so quietly:
`Till` says that it makes no marked calls till it follows a script.
-/

namespace ChatFlow

/-- A call fails with an outcome. -/
def Call.Fails (request : Call) (outcome : request.Outcome) : Prop :=
  ∃ fault, request.failure? fault = some outcome

namespace Process

variable {σ α β : Type} {marked : Call → Bool} {left : Option (List Call)} {script : List Call}
  {request : Call}

/-- The marked calls of a process are those that are left of a script.  Nothing is left once one of
them fails.  What is left at the end fits the result. -/
def Scripted (marked : Call → Bool) (post : Option (List Call) → Except Fault α → Prop) :
    Process α → Option (List Call) → Prop
  | .done value, left => post left (.ok value)
  | .halt fault, left => post left (.error fault)
  | .step request next, left =>
      if marked request then
        ∃ rest, left = some (request :: rest) ∧ ∀ outcome,
          (request.Fails outcome → (next outcome).Scripted marked post none) ∧
            (¬ request.Fails outcome → (next outcome).Scripted marked post (some rest))
      else ∀ outcome, (next outcome).Scripted marked post left

/-! ## Rules -/

theorem scripted_done
    {post : Option (List Call) → Except Fault α → Prop}
    {value : α}
    (holds : post left (.ok value)) :
    (done value).Scripted marked post left :=
  holds

/-- A marked call is the next one of the script. -/
theorem scripted_step_of_marked
    {post : Option (List Call) → Except Fault α → Prop}
    {next : request.Outcome → Process α}
    (isMarked : marked request = true)
    (rest : ∀ outcome,
      (request.Fails outcome → (next outcome).Scripted marked post none) ∧
        (¬ request.Fails outcome → (next outcome).Scripted marked post (some script))) :
    (step request next).Scripted marked post (some (request :: script)) := by
  rw [Scripted, if_pos isMarked]
  exact ⟨script, rfl, rest⟩

/-- A call that is not marked has nothing to do with the script. -/
theorem scripted_step_of_not_marked
    {post : Option (List Call) → Except Fault α → Prop}
    {next : request.Outcome → Process α}
    (notMarked : marked request = false)
    (rest : ∀ outcome, (next outcome).Scripted marked post left) :
    (step request next).Scripted marked post left := by
  rw [Scripted, if_neg (Bool.eq_false_iff.mp notMarked)]
  exact rest

/-- A process that makes no marked calls leaves the script alone. -/
theorem scripted_of_within
    {post : Except Fault α → Prop}
    {process : Process α}
    (within : process.Within (fun request => marked request = false) (fun _ _ => True) post) :
    process.Scripted marked (fun kept result => kept = left ∧ post result) left := by
  induction process with
  | done value => exact ⟨rfl, within⟩
  | halt fault => exact ⟨rfl, within⟩
  | step request next inductionHypothesis =>
      refine scripted_step_of_not_marked within.1 fun outcome => ?_
      exact inductionHypothesis outcome (within.2 outcome trivial)

/-- What goes on after a process takes up the script where the process leaves it. -/
theorem Scripted.andThen
    {middle : Option (List Call) → Except Fault α → Prop}
    {post : Option (List Call) → Except Fault β → Prop}
    {process : Process α}
    {next : α → Process β}
    (scripted : process.Scripted marked middle left)
    (rest : ∀ left value, middle left (.ok value) → (next value).Scripted marked post left)
    (halts : ∀ left fault, middle left (.error fault) → post left (.error fault)) :
    (process.andThen next).Scripted marked post left := by
  induction process generalizing left with
  | done value => exact rest left value scripted
  | halt fault => exact halts left fault scripted
  | step request following inductionHypothesis =>
      rw [andThen_step]
      cases isMarked : marked request with
      | true =>
          rw [Scripted, if_pos isMarked] at scripted ⊢
          obtain ⟨further, left_eq, follows⟩ := scripted
          refine ⟨further, left_eq, fun outcome => ⟨fun fails => ?_, fun goesWell => ?_⟩⟩
          · exact inductionHypothesis outcome ((follows outcome).1 fails)
          · exact inductionHypothesis outcome ((follows outcome).2 goesWell)
      | false =>
          rw [Scripted, if_neg (Bool.eq_false_iff.mp isMarked)] at scripted
          refine scripted_step_of_not_marked isMarked fun outcome => ?_
          exact inductionHypothesis outcome (scripted outcome)

theorem Scripted.weaken
    {post weaker : Option (List Call) → Except Fault α → Prop}
    {process : Process α}
    (scripted : process.Scripted marked post left)
    (implies : ∀ left result, post left result → weaker left result) :
    process.Scripted marked weaker left := by
  rw [← andThen_done_right process]
  apply scripted.andThen
  · exact fun left value holds => implies left (.ok value) holds
  · exact fun left fault holds => implies left (.error fault) holds

/-- A process whose faults are made results follows the same script. -/
theorem Scripted.contain
    {post : Option (List Call) → Except Fault α → Prop}
    {process : Process α}
    (scripted : process.Scripted marked post left) :
    process.contain.Scripted marked
      (fun left result => ∃ kept, result = .ok kept ∧ post left kept) left := by
  induction process generalizing left with
  | done value => exact ⟨_, rfl, scripted⟩
  | halt fault => exact ⟨_, rfl, scripted⟩
  | step request following inductionHypothesis =>
      rw [Process.contain]
      cases isMarked : marked request with
      | true =>
          rw [Scripted, if_pos isMarked] at scripted ⊢
          obtain ⟨further, left_eq, follows⟩ := scripted
          refine ⟨further, left_eq, fun outcome => ⟨fun fails => ?_, fun goesWell => ?_⟩⟩
          · exact inductionHypothesis outcome ((follows outcome).1 fails)
          · exact inductionHypothesis outcome ((follows outcome).2 goesWell)
      | false =>
          rw [Scripted, if_neg (Bool.eq_false_iff.mp isMarked)] at scripted
          refine scripted_step_of_not_marked isMarked fun outcome => ?_
          exact inductionHypothesis outcome (scripted outcome)

/-- A marked call that must go well is the next one of the script. -/
theorem scripted_orHalt
    {post : Option (List Call) → Except Fault α → Prop}
    {next : Unit → Process α}
    {outcome : Except Fault Unit}
    {failed : Prop}
    (failed_iff : failed ↔ ∃ fault, outcome = .error fault)
    (rest : (next ()).Scripted marked post (some script))
    (halts : ∀ fault, post none (.error fault)) :
    (failed → ((orHalt outcome).andThen next).Scripted marked post none) ∧
      (¬ failed → ((orHalt outcome).andThen next).Scripted marked post (some script)) := by
  cases outcome with
  | ok value =>
      refine ⟨fun fails => ?_, fun _ => rest⟩
      obtain ⟨_, ⟨⟩⟩ := failed_iff.mp fails
  | error fault =>
      refine ⟨fun _ => halts fault, fun goesWell => ?_⟩
      exact (goesWell (failed_iff.mpr ⟨fault, rfl⟩)).elim

/-! ## Looking around first -/

/-- A process is quiet till it has begun: it makes no marked calls, and the states that it passes
have a property.  If it ends before it has begun, its result satisfies a postcondition. -/
def Till
    (marked : Call → Bool) (answers : Answering σ) (quiet : σ → Prop)
    (post : Except Fault α → σ → Prop) (begun : Process α → σ → Prop) : Process α → σ → Prop
  | .done value, state => quiet state ∧ post (.ok value) state ∨ begun (.done value) state
  | .halt fault, state => quiet state ∧ post (.error fault) state ∨ begun (.halt fault) state
  | .step request next, state =>
      (marked request = false ∧ quiet state ∧ ∀ outcome after,
        answers request state outcome after →
          (next outcome).Till marked answers quiet post begun after) ∨
        begun (.step request next) state

variable {answers : Answering σ} {quiet : σ → Prop}

theorem till_of_begun
    {post : Except Fault α → σ → Prop}
    {begun : Process α → σ → Prop}
    {process : Process α}
    {state : σ}
    (begins : begun process state) :
    process.Till marked answers quiet post begun state := by
  cases process with
  | done value => exact .inr begins
  | halt fault => exact .inr begins
  | step request next => exact .inr begins

/-- What follows a process that looks around may look around, too. -/
theorem Till.andThen
    {middle : Except Fault α → σ → Prop}
    {post : Except Fault β → σ → Prop}
    {begun : Process α → σ → Prop}
    {under : Process β → σ → Prop}
    {process : Process α}
    {next : α → Process β}
    {state : σ}
    (till : process.Till marked answers quiet middle begun state)
    (rest : ∀ value after, quiet after → middle (.ok value) after →
      (next value).Till marked answers quiet post under after)
    (halts : ∀ fault after, quiet after → middle (.error fault) after →
      post (.error fault) after)
    (goesOn : ∀ process after, begun process after → under (process.andThen next) after) :
    (process.andThen next).Till marked answers quiet post under state := by
  induction process generalizing state with
  | done value =>
      rcases till with ⟨calm, ends⟩ | begins
      · exact rest value state calm ends
      · exact till_of_begun (goesOn _ state begins)
  | halt fault =>
      rcases till with ⟨calm, ends⟩ | begins
      · exact .inl ⟨calm, halts fault state calm ends⟩
      · exact .inr (goesOn _ state begins)
  | step request following inductionHypothesis =>
      rcases till with ⟨notMarked, calm, follows⟩ | begins
      · refine .inl ⟨notMarked, calm, fun outcome after answered => ?_⟩
        exact inductionHypothesis outcome (follows outcome after answered)
      · exact .inr (goesOn _ state begins)

/-- A process whose faults are made results looks around as before. -/
theorem Till.contain
    {post : Except Fault α → σ → Prop}
    {contained : Except Fault (Except Fault α) → σ → Prop}
    {begun : Process α → σ → Prop}
    {under : Process (Except Fault α) → σ → Prop}
    {process : Process α}
    {state : σ}
    (till : process.Till marked answers quiet post begun state)
    (implies : ∀ result after, post result after → contained (.ok result) after)
    (goesOn : ∀ process after, begun process after → under process.contain after) :
    process.contain.Till marked answers quiet contained under state := by
  induction process generalizing state with
  | done value =>
      rcases till with ⟨calm, ends⟩ | begins
      · exact .inl ⟨calm, implies _ state ends⟩
      · exact .inr (goesOn _ state begins)
  | halt fault =>
      rcases till with ⟨calm, ends⟩ | begins
      · exact .inl ⟨calm, implies _ state ends⟩
      · exact .inr (goesOn _ state begins)
  | step request following inductionHypothesis =>
      rcases till with ⟨notMarked, calm, follows⟩ | begins
      · refine .inl ⟨notMarked, calm, fun outcome after answered => ?_⟩
        exact inductionHypothesis outcome (follows outcome after answered)
      · exact .inr (goesOn _ state begins)

/-- On its way a process looks around till it has begun, and has begun from then on. -/
theorem till_of_reaches
    {post : Except Fault α → σ → Prop}
    {begun : Process α → σ → Prop}
    {before after : Process α × σ}
    (reaches : Reaches answers before after)
    (till : before.1.Till marked answers quiet post begun before.2)
    (lasts : ∀ before after, begun before.1 before.2 → Step answers before after →
      begun after.1 after.2) :
    after.1.Till marked answers quiet post begun after.2 := by
  induction reaches with
  | refl => exact till
  | tail _ step inductionHypothesis =>
      cases step with
      | call answered =>
          rcases inductionHypothesis with ⟨_, _, follows⟩ | begins
          · exact follows _ _ answered
          · exact till_of_begun (lasts _ _ begins (.call answered))

end Process
end ChatFlow
