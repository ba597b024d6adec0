import ChatFlow.Proofs.Journal

/-!
# Transcripts

A turn can do without some of its calls: when they fail with an error, it goes on.  Where only
such calls fail, and only in this way, callees are obliging.  A `Transcript` of a run against
obliging callees holds all calls that were made, whatever became of them, and what the callees
keep in mind from one call to the next.
-/

namespace ChatFlow

open Process

namespace Call

/-- Whether a turn can do without a call. -/
def isSpare : Call → Bool
  | .appendHistory .. | .readHistory .. | .captureRules .. | .sendText .. | .sendMedia ..
  | .classify _ | .generate _ => true
  | _ => false

/-- The continuation that a call queues. -/
def item? : Call → Option Continuation
  | .enqueue item => some item
  | _ => none

/-- A call goes well, or it can be done without and fails with an error. -/
def Bearable (request : Call) (outcome : request.Outcome) : Prop :=
  ∀ fault, request.failure? fault = some outcome →
    request.isSpare = true ∧ ∃ error, fault = .error error

variable {request : Call} {outcome : request.Outcome}

/-- A call that cannot be done without goes well. -/
theorem Bearable.not_fails
    (bearable : request.Bearable outcome)
    (needed : request.isSpare = false) :
    ¬ request.Fails outcome := by
  rintro ⟨fault, fails⟩
  have spare := (bearable fault fails).1
  rw [needed] at spare
  cases spare

/-- The fault that a call shows. -/
def fault? : (request : Call) → request.Outcome → Option Fault
  | .acquire _, .error fault | .release _, .error fault | .resolveFlow .., .error fault
  | .flow _, .error fault | .activeExecution _, .error fault | .executionById _, .error fault
  | .latestExecution .., .error fault | .createExecution .., .error fault
  | .advance .., .error fault | .setWaiting .., .error fault | .complete .., .error fault
  | .setStage .., .error fault | .saveVariables .., .error fault
  | .appendHistory .., .error fault | .readHistory .., .error fault
  | .captureRules .., .error fault | .sendText .., .error fault | .sendMedia .., .error fault
  | .classify _, .error fault | .generate _, .error fault | .enqueue _, .error fault => some fault
  | _, _ => none

/-- Whether an outcome is one that a turn can bear. -/
def bears (request : Call) (outcome : request.Outcome) : Bool :=
  match request.fault? outcome with
  | none => true
  | some (.error _) => request.isSpare
  | some (.panic _) => false

theorem bearable_of_bears (bears : request.bears outcome = true) : request.Bearable outcome := by
  intro fault fails
  have shown : request.fault? outcome = some fault := by
    cases request <;> cases fails <;> rfl
  rw [Call.bears, shown] at bears
  cases fault with
  | error error => exact ⟨bears, error, rfl⟩
  | panic message => cases bears

end Call

/-- A scene, all calls that were made on the way there, and what callees keep in mind. -/
structure Transcript (σ : Type) where
  scene : Scene
  asked : List Call := []
  state : σ

/-- How obliging callees answer at a site, in their own manner. -/
structure Site.Obliges
    (site : Site) (manner : Answering σ) (request : Call) (before : Transcript σ)
    (outcome : request.Outcome) (after : Transcript σ) : Prop where
  answered : site.Answers request before.scene outcome after.scene
  bearable : request.Bearable outcome
  mannered : manner request before.state outcome after.state
  /-- The call was made. -/
  asked_eq : after.asked = before.asked ++ [request]

/-- Calls that a turn can do without write to no row. -/
theorem ExecutionRow.write_of_isSpare
    {row : ExecutionRow}
    {request : Call}
    (spare : request.isSpare = true) :
    row.write request = row := by
  cases request with
  | advance | setWaiting | complete | setStage | saveVariables => cases spare
  | _ => rfl

/-- A row is what the calls made of it that cannot be done without. -/
theorem ExecutionRow.writeAll_filter
    {row : ExecutionRow}
    {calls : List Call} :
    row.writeAll (calls.filter fun request => !request.isSpare) = row.writeAll calls := by
  induction calls generalizing row with
  | nil => rfl
  | cons request calls inductionHypothesis =>
      cases spare : request.isSpare with
      | true =>
          rw [List.filter_cons_of_neg (by simp [spare]), inductionHypothesis, writeAll_cons,
            write_of_isSpare spare]
      | false =>
          rw [List.filter_cons_of_pos (by simp [spare]), writeAll_cons, writeAll_cons,
            inductionHypothesis]

namespace Site

/-- How a call is answered at a time and by a choice, when callees refuse some calls. -/
def answerUnless
    (site : Site) (now : Instant) (choice : Choice) (refuses : Call → Option Error)
    (request : Call) (before : Transcript Unit) : request.Outcome × Transcript Unit :=
  let asked := before.asked ++ [request]
  match (refuses request).bind fun error => request.failure? (.error error) with
  | some outcome => (outcome, { before with asked })
  | none =>
    let (outcome, scene) := site.answer now choice request before.scene
    (outcome, { scene, asked, state := () })

/-- Such callees oblige where what they show can be borne. -/
theorem obliges_answerUnless
    {site : Site}
    {now : Instant}
    {choice : Choice}
    {refuses : Call → Option Error}
    (onClock : site.clock now)
    (shown : ∀ error, site.faults (.error error))
    (request : Call)
    (before : Transcript Unit)
    (bears : request.bears (site.answerUnless now choice refuses request before).1 = true) :
    site.Obliges (fun _ _ _ _ => True) request before
      (site.answerUnless now choice refuses request before).1
      (site.answerUnless now choice refuses request before).2 := by
  have bearable := Call.bearable_of_bears bears
  unfold answerUnless at bearable ⊢
  split
  · rename_i outcome refused
    rw [refused] at bearable
    obtain ⟨error, _, fails⟩ := Option.bind_eq_some_iff.mp refused
    exact ⟨.failed (shown error) fails, bearable, trivial, rfl⟩
  · rename_i notRefused
    rw [notRefused] at bearable
    exact ⟨.well onClock choice, bearable, trivial, rfl⟩

variable {σ : Type} {site : Site} {manner : Answering σ} {row : ExecutionRow}

/-- Callees that oblige answer. -/
theorem ends_of_obliges
    {process : Process α}
    {before after : Transcript σ}
    {result : Except Fault α}
    (ends : Ends (site.Obliges manner) process before result after) :
    Ends site.Answers process before.scene result after.scene := by
  refine ends.lift (fun moment : Process α × Transcript σ => (moment.1, moment.2.scene)) ?_
  rintro _ _ ⟨obliged⟩
  exact .call obliged.answered

/-- A run against obliging callees can be written down, and no call that it needed is missing. -/
theorem exists_notes_of_obliges
    {before after : Process α × Transcript σ}
    (reaches : Reaches (site.Obliges manner) before after) :
    ∃ calls asked,
      Reaches site.Notes (before.1, { scene := before.2.scene })
        (after.1, { scene := after.2.scene, calls }) ∧
      after.2.asked = before.2.asked ++ asked ∧
      (calls.filter fun request => !request.isSpare) =
        asked.filter fun request => !request.isSpare := by
  induction reaches with
  | refl => exact ⟨[], [], .refl, by simp, rfl⟩
  | tail _ step inductionHypothesis =>
      obtain ⟨calls, asked, reached, asked_eq, same⟩ := inductionHypothesis
      cases step with
      | @call request _ middle last outcome obliged =>
          have asked_eq : last.asked = before.2.asked ++ (asked ++ [request]) := by
            rw [obliged.asked_eq, asked_eq, List.append_assoc]
          have same : ((calls ++ [request]).filter fun request => !request.isSpare) =
              (asked ++ [request]).filter fun request => !request.isSpare := by
            rw [List.filter_append, same, List.filter_append]
          have bearable := obliged.bearable
          have answered := obliged.answered
          generalize last.scene = there at answered ⊢
          cases answered with
          | well onClock choice =>
              exact ⟨_, _, reached.tail (.call (.well onClock choice)), asked_eq, same⟩
          | failed shown fails =>
              refine ⟨_, _, reached.tail (.call (.failed shown fails)), asked_eq, ?_⟩
              simpa [(bearable _ fails).1] using same
          | failedLate shown fails onClock choice =>
              exact ⟨_, _, reached.tail (.call (.failedLate shown fails onClock choice)), asked_eq,
                same⟩

/-- On a run against obliging callees a row becomes what the calls make of it. -/
theorem exists_asked_of_obliges
    {before after : Process α × Transcript σ}
    (kept : before.2.scene.store.WellKept)
    (held : before.2.scene.store.Holds row)
    (reaches : Reaches (site.Obliges manner) before after) :
    ∃ asked, after.2.asked = before.2.asked ++ asked ∧ after.2.scene.store.WellKept ∧
      after.2.scene.store.Holds (row.writeAll asked) := by
  obtain ⟨calls, asked, reached, asked_eq, same⟩ := exists_notes_of_obliges reaches
  have held : ({ scene := before.2.scene } : Journal).scene.store.Holds (row.writeAll []) := held
  refine ⟨asked, asked_eq, Notes.wellKept_of_reaches kept reached, ?_⟩
  have holds := Notes.holds_of_reaches held reached
  rwa [← ExecutionRow.writeAll_filter, same, ExecutionRow.writeAll_filter] at holds

end Site
end ChatFlow
