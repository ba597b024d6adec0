import ChatFlow.Ingress.Handling
import ChatFlow.Proofs.Ingress.Ledger
import ChatFlow.Proofs.Lock.Calls
import ChatFlow.Proofs.Process.Trace
import ChatFlow.Proofs.Engine.Serving

/-!
# Turns that workers begin

Workers let an engine handle the messages that they take, call by call, while others work on the
same scene.  A try takes the lock of the conversation first, and only with the lock a turn begins.
From there on the try does not fail any more, whatever its calls show; so a try that failed, and
may be followed by another one, did nothing but ask for the lock.
-/

namespace ChatFlow

open Process

/-- A turn begins with this call: the lock of its conversation was taken. -/
def Exchange.opens : Exchange → Bool
  | ⟨.acquire _, .ok true⟩ => true
  | _ => false

namespace Ingress

/-- A call that a try made, with the scenes before and after it. -/
structure Made extends Exchange where
  before : Scene
  after : Scene

/-- A try of an engine: what is left to do, and the calls that were made. -/
structure Handling where
  rest : Process Unit
  calls : List Made := []

namespace Handling

/-- How often a turn has begun. -/
def turns (handling : Handling) : Nat :=
  handling.calls.countP fun made => made.opens

/-- The next call is made. -/
inductive GoesOn (site : Site) (handling : Handling) (scene : Scene) : Handling → Scene → Prop
  | call (request : Call) {next : request.Outcome → Process Unit} {outcome : request.Outcome}
      {after : Scene} (rest_eq : handling.rest = .step request next)
      (answered : site.Answers request scene outcome after) :
      GoesOn site handling scene
        { rest := next outcome
          calls := handling.calls ++ [{ request, outcome, before := scene, after }] }
        after

end Handling

end Ingress

/-- An engine handles messages at a site. -/
def Engine.handler (engine : Engine) (site : Site) : Ingress.Handler Scene Ingress.Handling where
  begins message handling := handling = { rest := engine.handle message }
  goesOn := Ingress.Handling.GoesOn site
  ends handling verdict :=
    ∃ result, handling.rest = orHalt result ∧ verdict = .ofResult result

/-! ## What a try calls -/

namespace Process

variable {α : Type}

/-- A process begins no turn any more, and does not fail any more. -/
abbrev Commits (process : Process α) : Prop :=
  process.Within (fun request => ∀ outcome, Exchange.opens ⟨request, outcome⟩ = false)
    (fun _ _ => True) fun result => ∀ error, result ≠ .error (.error error)

theorem opens_of_isLock
    {request : Call}
    (isLock : request.isLock = false)
    (outcome : request.Outcome) :
    Exchange.opens ⟨request, outcome⟩ = false := by
  cases request with
  | acquire conversation => cases isLock
  | _ => rfl

/-- A process without calls about locks begins no turn, and does not fail when it is contained. -/
theorem LockFree.commits_contain
    {process : Process α}
    (lockFree : process.LockFree) :
    process.contain.Commits := by
  induction process with
  | done value => exact nofun
  | halt fault => exact nofun
  | step request next inductionHypothesis =>
      exact ⟨opens_of_isLock lockFree.1, fun outcome _ =>
        inductionHypothesis outcome (lockFree.2 outcome trivial)⟩

theorem Commits.andThen
    {β : Type}
    {process : Process α}
    {next : α → Process β}
    (commits : process.Commits)
    (rest : ∀ value, (next value).Commits) :
    (process.andThen next).Commits := by
  refine Within.andThen commits (fun value _ => rest value) fun fault unfailing error same => ?_
  cases same
  exact unfailing error rfl

end Process

namespace Engine

/-- To release a lock begins no turn, and does not fail. -/
theorem commits_release (conversation : Conversation) : (release conversation).Commits := by
  refine ⟨fun _ => rfl, fun outcome _ => ?_⟩
  rcases outcome with (error | reason) | value
  · exact nofun
  · exact nofun
  · exact nofun

/-- A try asks for the lock first.  If that fails, so does the try; otherwise it does not fail any
more, and begins no further turn. -/
theorem handle_eq (engine : Engine) (message : InboundMessage) :
    ∃ next : Except Fault Bool → Process Unit,
      engine.handle message = .step (.acquire message.conversation) next ∧
        (∀ fault, next (.error fault) = .halt fault) ∧ ∀ taken, (next (.ok taken)).Commits := by
  refine ⟨_, rfl, fun _ => rfl, fun taken => ?_⟩
  cases taken with
  | false => exact ⟨fun _ => rfl, fun _ _ => nofun⟩
  | true =>
      have performed : ((engine.process message).contain.andThen fun result =>
          (release message.conversation).andThen fun _ => .done (some result)).Commits :=
        (LockFree.commits_contain (plain_process engine message).lockFree).andThen fun _ =>
          (commits_release _).andThen fun _ => nofun
      refine Commits.andThen (Commits.andThen performed fun result? => ?_) fun _ => nofun
      rcases result? with _ | fault | outcome
      · exact ⟨fun _ => rfl, fun _ _ => nofun⟩
      · exact nofun
      · exact nofun

end Engine

namespace Ingress

/-! ## What a try has done -/

/-- Where a try stands. -/
inductive Handling.Stands (engine : Engine) (message : InboundMessage) (handling : Handling) : Prop
  /-- It has made no call. -/
  | asking (rest_eq : handling.rest = engine.handle message) (calls_eq : handling.calls = [])
  /-- It asked for the lock, which failed. -/
  | failed {made : Made} {fault : Fault} (rest_eq : handling.rest = .halt fault)
      (calls_eq : handling.calls = [made]) (closed : made.opens = false)
      (untouched : made.before.Untouched made.after)
  /-- It got an answer. -/
  | answered (made : Made) (others : List Made) (calls_eq : handling.calls = made :: others)
      (closed : ∀ other ∈ others, other.opens = false) (commits : handling.rest.Commits)

namespace Handling

variable {engine : Engine} {site : Site} {message : InboundMessage} {handling later : Handling}
  {before after : Scene}

/-- Wherever it stands, a try goes on to where it stands. -/
theorem Stands.goesOn
    (stands : handling.Stands engine message)
    (goesOn : handling.GoesOn site before later after) :
    later.Stands engine message := by
  obtain ⟨request, rest_eq, answered⟩ := goesOn
  cases stands with
  | asking asks calls_eq =>
      obtain ⟨next, same, fails, commits⟩ := engine.handle_eq message
      rw [asks, same] at rest_eq
      cases rest_eq
      rename_i outcome
      cases outcome with
      | error fault =>
          refine .failed (fails fault) (by rw [calls_eq]; rfl) rfl ?_
          exact answered.untouched_of_isLock rfl
      | ok taken => exact .answered _ [] (by rw [calls_eq]; rfl) (by simp) (commits taken)
  | failed halts =>
      rw [halts] at rest_eq
      cases rest_eq
  | answered made others calls_eq closed commits =>
      rw [rest_eq] at commits
      refine .answered made _ (by rw [calls_eq]; rfl) ?_ (commits.2 _ trivial)
      intro other member
      rcases List.mem_append.mp member with old | new
      · exact closed other old
      · obtain rfl := List.mem_singleton.mp new
        exact commits.1 _

/-- A try begins at most one turn. -/
theorem Stands.turns_le (stands : handling.Stands engine message) : handling.turns ≤ 1 := by
  unfold turns
  cases stands with
  | asking rest_eq calls_eq =>
      rw [calls_eq]
      exact Nat.zero_le 1
  | failed rest_eq calls_eq =>
      rw [calls_eq]
      exact List.countP_le_length
  | answered made others calls_eq closed commits =>
      rw [calls_eq, List.countP_cons, List.countP_eq_zero.mpr (by simpa using closed)]
      split <;> decide

/-- A try that failed began no turn, and touched nothing. -/
theorem Stands.of_failed
    {error : Error}
    (stands : handling.Stands engine message)
    (ends : (engine.handler site).ends handling (.failed error)) :
    handling.turns = 0 ∧ ∀ made ∈ handling.calls, made.before.Untouched made.after := by
  obtain ⟨result, ended, verdict⟩ := ends
  have fails : result = .error (.error error) := by
    rcases result with (other | reason) | value
    · cases verdict
      rfl
    · cases verdict
    · cases verdict
  subst fails
  cases stands with
  | asking rest_eq calls_eq =>
      obtain ⟨next, same, _⟩ := engine.handle_eq message
      rw [rest_eq, same] at ended
      cases ended
  | failed rest_eq calls_eq closed untouched =>
      rw [turns, calls_eq]
      refine ⟨by simp [closed], fun made member => ?_⟩
      rw [List.mem_singleton.mp member]
      exact untouched
  | answered made others calls_eq closed commits =>
      rw [ended] at commits
      exact (commits error rfl).elim

end Handling

/-! ## What the tries of a message have done -/

namespace Shift

variable {σ τ : Type} {handler : Handler σ τ} {shift : Shift σ τ}
  {settings : IngressSettings}

/-- What holds of every try that has begun, also at its end. -/
structure Throughout (handler : Handler σ τ) (property : InboundMessage → τ → Prop)
    (shift : Shift σ τ) : Prop where
  busy : ∀ held ∈ shift.busy, property held.job.message held.work
  ended : ∀ ended ∈ shift.ended, property ended.job.message ended.work ∧
    handler.ends ended.work ended.verdict

/-- What holds of every try when it begins, and is kept as it goes on, holds throughout. -/
theorem throughout_of_reaches
    {world : σ}
    (property : InboundMessage → τ → Prop)
    (begins : ∀ message work, handler.begins message work → property message work)
    (goesOn : ∀ message work world later after, property message work →
      handler.goesOn work world later after → property message later)
    (reaches : Reaches handler (start settings world) shift) :
    shift.Throughout handler property := by
  induction reaches with
  | refl => exact ⟨nofun, nofun⟩
  | tail _ step inductionHypothesis =>
      obtain ⟨busy, ended⟩ := inductionHypothesis
      cases step with
      | submit message => exact ⟨by simpa using busy, by simpa using ended⟩
      | take work free taken began =>
          refine ⟨fun held member => ?_, ended⟩
          rcases List.mem_append.mp member with old | new
          · exact busy held old
          · obtain rfl := List.mem_singleton.mp new
            exact begins _ _ began
      | work front back busy_eq went =>
          rw [busy_eq] at busy
          have went := goesOn _ _ _ _ _ (busy _ List.mem_append_cons_self) went
          refine ⟨fun held member => ?_, ended⟩
          rcases List.mem_cons.mp (List.perm_middle.mem_iff.mp member) with rfl | other
          · exact went
          · exact busy held (List.perm_middle.mem_iff.mpr (List.mem_cons_of_mem _ other))
      | finish front back busy_eq ends =>
          rw [busy_eq] at busy
          refine ⟨fun held member => ?_, fun try_ member => ?_⟩
          · rw [finish_busy] at member
            exact busy held (List.perm_middle.mem_iff.mpr (List.mem_cons_of_mem _ member))
          · rw [finish_ended] at member
            rcases List.mem_append.mp member with old | new
            · exact ended try_ old
            · obtain rfl := List.mem_singleton.mp new
              exact ⟨busy _ List.mem_append_cons_self, ends⟩
      | leave free told => exact ⟨by simpa using busy, by simpa using ended⟩
      | cancel => exact ⟨busy, ended⟩
      | elsewhere world => exact ⟨busy, ended⟩

/-- Tries that are not followed by another one leave jobs that are somewhere. -/
theorem countP_ended_le
    {chosen : Try τ → Bool}
    (ended : List (EndedTry τ))
    (skips : ∀ other ∈ ended, other.fate = .retried → chosen other.toTry = false)
    (number : Nat) :
    (ended.map EndedTry.toTry).countP
        (fun effort => effort.job.number = number && chosen effort) ≤
      ((ended.filterMap EndedTry.located?).map Prod.fst).countP fun job => job.number = number := by
  induction ended with
  | nil => exact Nat.le_refl 0
  | cons first others inductionHypothesis =>
      have rest := inductionHypothesis fun other member =>
        skips other (List.mem_cons_of_mem _ member)
      by_cases retried : first.fate = .retried
      · rw [List.map_cons, List.countP_cons, List.filterMap_cons,
          EndedTry.located_of_retried retried, skips first List.mem_cons_self retried,
          Bool.and_false]
        exact rest
      · obtain ⟨place, entry⟩ := first.exists_located retried
        rw [List.map_cons, List.countP_cons, List.filterMap_cons, entry, List.map_cons,
          List.countP_cons]
        refine Nat.add_le_add rest ?_
        by_cases same : first.job.number = number
        · rw [if_pos (decide_eq_true same)]
          split <;> decide
        · simp [same]

/-- Of the tries of one message, at most one is not followed by another one. -/
theorem countP_efforts_le
    {most : Nat}
    {chosen : Try τ → Bool}
    (numbered : shift.books.Numbered Job.labels most)
    (skips : ∀ ended ∈ shift.ended, ended.fate = .retried → chosen ended.toTry = false)
    (number : Nat) :
    shift.efforts.countP (fun effort => effort.job.number = number && chosen effort) ≤ 1 := by
  have once : shift.jobs.countP (fun job => job.number = number) ≤ 1 :=
    numbered.count_placed_le number
  have busy : shift.busy.countP (fun effort => effort.job.number = number && chosen effort) ≤
      (shift.busy.map Try.job).countP fun job => job.number = number := by
    rw [List.countP_map]
    exact List.countP_mono_left fun effort _ holds => (Bool.and_eq_true_iff.mp holds).1
  have ended := countP_ended_le shift.ended skips number
  rw [jobs_eq] at once
  simp only [List.countP_append] at once
  rw [efforts, List.countP_append]
  omega

end Shift

/-- No turn is repeated: the tries of an engine begin at most one for each accepted message. -/
structure Shift.Unrepeated (shift : Shift Scene Handling) : Prop where
  /-- A try is about an accepted message. -/
  known : ∀ effort ∈ shift.efforts,
    shift.accepted[effort.job.number]? = some effort.job.message
  /-- At most one try of a message has begun a turn. -/
  once : ∀ number, shift.efforts.countP
    (fun effort => effort.job.number = number && decide (0 < effort.work.turns)) ≤ 1
  /-- No try has begun several. -/
  single : ∀ effort ∈ shift.efforts, effort.work.turns ≤ 1
  /-- A try that failed began none, and no call of it touched anything. -/
  harmless : ∀ ended ∈ shift.ended, ∀ error, ended.verdict = .failed error →
    ended.work.turns = 0 ∧ ∀ made ∈ ended.work.calls, made.before.Untouched made.after

/-- Workers who let an engine handle their messages repeat no turn. -/
theorem unrepeated_of_reaches
    {engine : Engine}
    {site : Site}
    {settings : IngressSettings}
    {scene : Scene}
    {shift : Shift Scene Handling}
    (reaches : Shift.Reaches (engine.handler site) (.start settings scene) shift) :
    shift.Unrepeated := by
  have ordered := Shift.ordered_of_reaches reaches
  have numbered := Shift.numbered_of_reaches reaches
  have throughout := Shift.throughout_of_reaches
    (fun message handling => handling.Stands engine message)
    (fun message handling begun => by
      obtain rfl : handling = { rest := engine.handle message } := begun
      exact .asking rfl rfl)
    (fun _ _ _ _ _ stands goesOn => stands.goesOn goesOn) reaches
  have failed (ended : EndedTry Handling) (member : ended ∈ shift.ended) (error : Error)
      (fails : ended.verdict = .failed error) :
      ended.work.turns = 0 ∧ ∀ made ∈ ended.work.calls, made.before.Untouched made.after := by
    obtain ⟨stands, ends⟩ := throughout.ended ended member
    rw [fails] at ends
    exact stands.of_failed ends
  refine ⟨fun effort member => ?_, fun number => ?_, fun effort member => ?_, failed⟩
  · have taken : effort.job ∈ shift.taken :=
      ordered.tried.mem_iff.mp (List.mem_map_of_mem member)
    exact numbered.known effort.job
      (ordered.entered_perm.mem_iff.mpr (List.mem_append_left _ taken))
  · refine Shift.countP_efforts_le numbered (fun ended member retried => ?_) number
    have tells := ended.pool.tells_settle ended.job ended.verdict
    rw [show (ended.pool.settle ended.job ended.verdict).1 = .retried from retried] at tells
    obtain ⟨⟨error, fails⟩, _⟩ := tells
    rw [(failed ended member error fails).1]
    rfl
  · rcases List.mem_append.mp member with past | busy
    · obtain ⟨ended, found, rfl⟩ := List.mem_map.mp past
      exact (throughout.ended ended found).1.turns_le
    · exact (throughout.busy effort busy).turns_le

/-- The lock of a message cannot be asked for at first; the second try gets it and begins a turn. -/
theorem unrepeated_of_failed_lock :
    ∃ (engine : Engine) (site : Site) (shift : Shift Scene Handling),
      Shift.Reaches (engine.handler site) (.start {} {}) shift ∧
        shift.efforts.map (fun effort => (effort.job.attempt, effort.work.turns)) =
          [(1, 0), (2, 1)] ∧
        shift.Unrepeated := by
  let engine : Engine := {}
  let site : Site := { faults := fun _ => True, clock := fun _ => True }
  let message : InboundMessage := { conversation := ⟨"1", "2"⟩, text := "hi" }
  let request : Call := .acquire message.conversation
  let fault : Fault := .error (.database "")
  have shown : site.faults fault := trivial
  have onClock : site.clock ⟨0⟩ := trivial
  obtain ⟨next, asks, fails, _⟩ := engine.handle_eq message
  let begun : Handling := { rest := engine.handle message }
  let broken : Handling :=
    { rest := next (.error fault)
      calls := [{ request, outcome := .error fault, before := {}, after := {} }] }
  have asked : (engine.handler site).goesOn begun {} broken {} :=
    Handling.GoesOn.call request asks (.failed shown rfl)
  have gaveUp : (engine.handler site).ends broken (.failed (.database "")) :=
    ⟨.error fault, fails fault, rfl⟩
  let Happens := Shift.Reaches (engine.handler site) (.start {} {})
  have taken : Happens
      { pool := { Pool.ofSettings {} with accepted := 1 }, staff := 8, world := {}
        busy := [⟨⟨0, message, 1⟩, begun⟩], accepted := [message]
        entered := [⟨0, message, 1⟩], taken := [⟨0, message, 1⟩] } :=
    (Relation.ReflTransGen.refl.tail (.submit message)).tail
      (.take begun (by decide) rfl rfl)
  have failed := (taken.tail (.work [] [] rfl asked)).tail
    (.finish [] [] rfl gaveUp)
  have retried := failed.tail (.take begun (Nat.zero_lt_succ 7) rfl rfl)
  have granted := retried.tail (.work [] [] rfl
    (Handling.GoesOn.call request asks (.well onClock {})))
  exact ⟨engine, site, _, granted, rfl, unrepeated_of_reaches granted⟩

end Ingress
end ChatFlow
