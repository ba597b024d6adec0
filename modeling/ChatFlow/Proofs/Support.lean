import ChatFlow.Proofs.Engine.Serving
import ChatFlow.Proofs.Transcript

/-!
# Callees that support a turn

Where flows, store and queue do what they are asked for, the calls go well that a turn cannot do
without.  All other calls may fail in any way, and so cut a turn short, but they do not lose what
was stored or queued.
-/

namespace ChatFlow

open Process

/-- How a call is answered at a site where those go well that a turn cannot do without. -/
structure Site.Supports
    (site : Site) (request : Call) (before : Scene) (outcome : request.Outcome) (after : Scene) :
    Prop where
  answered : site.Answers request before outcome after
  well : request.isSpare = false → ∃ now choice, site.clock now ∧
    outcome = (before.serve site.library site.stale now choice request).1 ∧
    after = (before.serve site.library site.stale now choice request).2

/-- Callees that oblige support a turn. -/
theorem Site.Obliges.supports
    {σ : Type}
    {site : Site}
    {manner : Answering σ}
    {request : Call}
    {outcome : request.Outcome}
    {before after : Transcript σ}
    (obliged : site.Obliges manner request before outcome after) :
    site.Supports request before.scene outcome after.scene := by
  refine ⟨obliged.answered, fun needed => ?_⟩
  rcases obliged.answered.inversion with goesWell | ⟨fault, _, fails, _⟩
  · exact goesWell
  · exact (obliged.bearable.not_fails needed ⟨fault, fails⟩).elim

/-- To go well is to support a turn. -/
theorem Site.supports_answer
    {site : Site}
    {now : Instant}
    (onClock : site.clock now)
    (choice : Choice)
    (request : Call)
    (scene : Scene) :
    site.Supports request scene (site.answer now choice request scene).1
      (site.answer now choice request scene).2 :=
  ⟨.well onClock choice, fun _ => ⟨now, choice, onClock, rfl, rfl⟩⟩

namespace Site.Supports

variable {site : Site} {before after : Scene} {conversation : Conversation} {id : String}
  {row : ExecutionRow}

/-! ## Reading -/

theorem activeExecution
    {outcome : Except Fault (Option Execution)}
    (supports : site.Supports (.activeExecution conversation) before outcome after) :
    outcome = .ok (before.store.active? conversation) ∧ after = before := by
  obtain ⟨_, _, _, rfl, rfl⟩ := supports.well rfl
  exact ⟨rfl, rfl⟩

theorem executionById
    {outcome : Except Fault (Option Execution)}
    (supports : site.Supports (.executionById id) before outcome after) :
    outcome = .ok (before.store.byId? id) ∧ after = before := by
  obtain ⟨_, _, _, rfl, rfl⟩ := supports.well rfl
  exact ⟨rfl, rfl⟩

theorem flow
    {outcome : Except Fault Flow.Graph}
    (supports : site.Supports (.flow id) before outcome after) :
    outcome = (site.library.get id).mapError .error ∧ after = before := by
  obtain ⟨_, _, _, rfl, rfl⟩ := supports.well rfl
  exact ⟨rfl, rfl⟩

theorem resolveFlow
    {device input : String}
    {outcome : Except Fault (Option Flow.Graph)}
    (supports : site.Supports (.resolveFlow device input) before outcome after) :
    outcome = (site.library.resolve device input).mapError .error ∧ after = before := by
  obtain ⟨_, _, _, rfl, rfl⟩ := supports.well rfl
  exact ⟨rfl, rfl⟩

/-! ## Locks -/

/-- A lock is taken or is not to be had. -/
theorem acquire
    {outcome : Except Fault Bool}
    (supports : site.Supports (.acquire conversation) before outcome after) :
    ∃ taken, outcome = .ok taken := by
  obtain ⟨_, choice, _, rfl, rfl⟩ := supports.well rfl
  unfold Scene.serve
  split <;> exact ⟨_, rfl⟩

theorem release
    {outcome : Except Fault Unit}
    (supports : site.Supports (.release conversation) before outcome after) :
    outcome = .ok () := by
  obtain ⟨_, _, _, rfl, rfl⟩ := supports.well rfl
  rfl

/-! ## Rows and the queue -/

section Running

variable (kept : before.store.WellKept) (member : row ∈ before.store.executions)
  (active : row.status = .active) (own : row.conversation = conversation) (inFlow : row.flow = id)
include kept member active own inFlow

/-- To move an execution that runs is to replace its row. -/
theorem advance
    {target : String}
    {waiting : Bool}
    {outcome : Except Fault Unit}
    (supports : site.Supports (.advance conversation id target waiting) before outcome after) :
    ∃ now, site.clock now ∧ outcome = .ok () ∧
      after = before.withStore (before.store.replace (row.moved now target waiting)) := by
  subst own inFlow
  obtain ⟨now, choice, onClock, rfl, rfl⟩ := supports.well rfl
  refine ⟨now, onClock, rfl, ?_⟩
  simp only [Scene.serve, kept.advance_eq member active]

theorem setWaiting
    {waiting : Bool}
    {outcome : Except Fault Unit}
    (supports : site.Supports (.setWaiting conversation id waiting) before outcome after) :
    ∃ now, outcome = .ok () ∧ after = before.withStore
      (before.store.replace { row with waiting, updated := Timestamp.print now }) := by
  subst own inFlow
  obtain ⟨now, choice, _, rfl, rfl⟩ := supports.well rfl
  refine ⟨now, ?_⟩
  simp only [Scene.serve, kept.setWaiting_eq member active]
  exact ⟨rfl, trivial⟩

theorem complete
    {outcome : Except Fault Unit}
    (supports : site.Supports (.complete conversation id) before outcome after) :
    ∃ now, outcome = .ok () ∧ after = before.withStore
      (before.store.replace { row with
        status := .completed, last := some row.node, node := "end", waiting := false,
        updated := Timestamp.print now }) := by
  subst own inFlow
  obtain ⟨now, choice, _, rfl, rfl⟩ := supports.well rfl
  refine ⟨now, rfl, ?_⟩
  simp only [Scene.serve, kept.complete_eq member active]

end Running

/-- For an idle conversation an execution is created, unless the id for it is taken. -/
theorem createExecution
    {node : String}
    {outcome : Except Fault Execution}
    (idle : ∀ row ∈ before.store.executions, row.conversation = conversation →
      row.status ≠ .active)
    (supports : site.Supports (.createExecution conversation id node) before outcome after) :
    (∃ stamp : Stamp, site.clock stamp.now ∧
      (∀ row ∈ before.store.executions, row.id ≠ stamp.freshId) ∧
      after = before.withStore { before.store with
        executions := before.store.executions ++ [Store.freshRow stamp conversation id node] } ∧
      outcome = .ok (Store.freshRow stamp conversation id node).toExecution) ∨
    after = before ∧ ∃ fault, outcome = .error fault := by
  obtain ⟨now, choice, onClock, rfl, rfl⟩ := supports.well rfl
  rcases Store.create_of_idle ⟨now, choice.freshId⟩ id node idle with ⟨_, taken⟩ | ⟨unused, added⟩
  · simp only [Scene.serve, taken]
    exact .inr ⟨rfl, _, rfl⟩
  · simp only [Scene.serve, added]
    exact .inl ⟨_, onClock, unused, rfl, rfl⟩

theorem enqueue
    {item : Continuation}
    {outcome : Except Fault Unit}
    (supports : site.Supports (.enqueue item) before outcome after) :
    outcome = .ok () ∧ after = { before with queued := before.queued ++ [item] } := by
  obtain ⟨_, _, _, rfl, rfl⟩ := supports.well rfl
  exact ⟨rfl, rfl⟩

theorem publish
    {event : Event}
    {outcome : Unit}
    (supports : site.Supports (.publish event) before outcome after) :
    after = { before with events := before.events ++ [event] } := by
  obtain ⟨_, _, _, _, rfl⟩ := supports.well rfl
  rfl

end Site.Supports

/-! ## What grows -/

/-- What was queued and published has come behind what was there. -/
structure Scene.Grows (before after : Scene) : Prop where
  queued : before.queued <+: after.queued
  events : before.events <+: after.events

namespace Scene

variable {first second third : Scene}

/-- What was queued from one scene to another. -/
def queuedSince (before after : Scene) : List Continuation :=
  after.queued.drop before.queued.length

/-- What was published from one scene to another. -/
def publishedSince (before after : Scene) : List Event :=
  after.events.drop before.events.length

theorem Grows.refl (scene : Scene) : scene.Grows scene :=
  ⟨List.prefix_refl _, List.prefix_refl _⟩

theorem Grows.trans (before : first.Grows second) (after : second.Grows third) :
    first.Grows third :=
  ⟨before.queued.trans after.queued, before.events.trans after.events⟩

/-- What was published last was published since. -/
theorem Grows.mem_publishedSince
    {event : Event}
    (grown : first.Grows second)
    (told : third.events = second.events ++ [event]) :
    event ∈ first.publishedSince third := by
  rw [publishedSince, told, List.drop_append_of_le_length grown.events.length_le]
  exact List.mem_append_right _ List.mem_cons_self

/-- What was queued last was queued since. -/
theorem Grows.mem_queuedSince
    {item : Continuation}
    (grown : first.Grows second)
    (queued : third.queued = second.queued ++ [item]) :
    item ∈ first.queuedSince third := by
  rw [queuedSince, queued, List.drop_append_of_le_length grown.queued.length_le]
  exact List.mem_append_right _ List.mem_cons_self

/-- What was queued in two steps was queued in the first one, and then in the second one. -/
theorem queuedSince_append
    (grown : first.Grows second)
    (grownToo : second.Grows third) :
    first.queuedSince third = first.queuedSince second ++ second.queuedSince third := by
  obtain ⟨early, early_eq⟩ := grown.queued
  obtain ⟨late, late_eq⟩ := grownToo.queued
  rw [queuedSince, queuedSince, queuedSince, ← late_eq, ← early_eq, List.drop_left, List.drop_left,
    List.append_assoc, List.drop_left]

/-- What was offered is offered as the queue grows. -/
theorem Grows.offers
    {item : Continuation}
    (grown : first.Grows second)
    (offered : first.Offers (.continuation item)) :
    second.Offers (.continuation item) := by
  obtain ⟨queued, member, retries⟩ := offered
  exact ⟨queued, grown.queued.subset member, retries⟩

/-- What comes behind a list in another one comes behind a shorter list in a longer one. -/
theorem mem_drop_of_prefix
    {α : Type}
    {early front late whole : List α}
    {value : α}
    (earlier : early <+: front)
    (later : late <+: whole)
    (member : value ∈ late.drop front.length) :
    value ∈ whole.drop early.length := by
  obtain ⟨further, rfl⟩ := later
  have behind : value ∈ late.drop early.length :=
    List.drop_subset_drop_left late earlier.length_le member
  rw [List.drop_append]
  exact List.mem_append_left _ behind

end Scene

namespace Site

variable {site : Site}

theorem Answers.grows
    {request : Call}
    {before after : Scene}
    {outcome : request.Outcome}
    (answered : site.Answers request before outcome after) :
    before.Grows after := by
  rcases answered.effect with rfl | ⟨now, choice, _, rfl⟩
  · exact .refl _
  · cases request with
    | acquire conversation =>
        unfold Scene.serve
        split
        · exact .refl _
        · exact ⟨List.prefix_refl _, List.prefix_refl _⟩
    | enqueue item => exact ⟨List.prefix_append _ _, List.prefix_refl _⟩
    | publish event => exact ⟨List.prefix_refl _, List.prefix_append _ _⟩
    | _ => exact ⟨List.prefix_refl _, List.prefix_refl _⟩

/-- Whatever a process calls, what was queued and published is still there. -/
theorem grows_of_ends
    {α : Type}
    {process : Process α}
    {before after : Scene}
    {result : Except Fault α}
    (ends : Ends site.Supports process before result after) :
    before.Grows after := by
  induction process generalizing before with
  | done value =>
      obtain ⟨_, rfl⟩ := ends.of_done
      exact .refl _
  | halt fault =>
      obtain ⟨_, rfl⟩ := ends.of_halt
      exact .refl _
  | step request next inductionHypothesis =>
      obtain ⟨outcome, middle, supported, rest⟩ := Ends.of_step ends
      exact supported.answered.grows.trans (inductionHypothesis outcome rest)

/-- What was queued and published is still there at the end of a safe process. -/
theorem safe_grows
    {α : Type}
    {invariant : Scene → Prop}
    {post : Except Fault α → Scene → Prop}
    {process : Process α}
    {start scene : Scene}
    (safe : process.Safe site.Supports invariant post scene)
    (grown : start.Grows scene) :
    process.Safe site.Supports invariant
      (fun result after => post result after ∧ start.Grows after) scene := by
  induction process generalizing scene with
  | done value => exact ⟨safe.1, safe.2, grown⟩
  | halt fault => exact ⟨safe.1, safe.2, grown⟩
  | step request next inductionHypothesis =>
      refine ⟨safe.1, fun outcome after supported => ?_⟩
      exact inductionHypothesis outcome (safe.2 outcome after supported)
        (grown.trans supported.answered.grows)

end Site
end ChatFlow
