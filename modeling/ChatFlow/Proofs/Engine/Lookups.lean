import ChatFlow.Engine.Resume
import ChatFlow.Proofs.Process.Safety

/-!
# Small calls

Parts of a turn, and of what is done before it, make but a call or two, whatever they are answered.
A process that makes only calls of some kind may have such a part in it if these calls are of that
kind.
-/

namespace ChatFlow

open Process

variable {allowed : Call → Prop}

namespace Turn

variable {engine : Engine} {graph : Flow.Graph} {node : Flow.Node} {turn : Turn}

/-- A look at media makes one call at most. -/
theorem within_mediaKind?
    {url : String}
    {hint : Option Media.Kind}
    (classifies : allowed (.classify url)) :
    (mediaKind? engine url hint).Within allowed (fun _ _ => True) fun _ => True := by
  unfold mediaKind?
  split
  · refine ⟨classifies, fun outcome _ => ?_⟩
    rcases outcome with (error | message) | kind <;> trivial
  · trivial

theorem within_recent
    (reads : allowed (.readHistory turn.conversation engine.settings.historyLimit)) :
    (turn.recent engine).Within allowed (fun _ _ => True) fun _ => True := by
  refine ⟨reads, fun outcome _ => ?_⟩
  rcases outcome with (error | message) | entries <;> trivial

/-- The time when a wait is over is told by the clock. -/
theorem within_dueAfter
    {wait : Span}
    (now : allowed .now) :
    (dueAfter wait).Within allowed (fun _ _ => True) fun _ => True := by
  unfold dueAfter
  split
  · refine ⟨now, fun now _ => ?_⟩
    change (ite _ _ _ : Process Instant).Within _ _ _
    split <;> trivial
  · trivial

/-- A delay queues a continuation that was not tried before. -/
theorem within_delay
    (now : allowed .now)
    (enqueues : ∀ item, item.attempt = 0 → allowed (.enqueue item)) :
    (delay engine graph turn node).Within allowed (fun _ _ => True) fun _ => True := by
  unfold delay
  cases graph.nextTarget? node.id with
  | none => trivial
  | some target =>
      refine (within_dueAfter now).andThen (fun due _ => ⟨enqueues _ rfl, fun outcome _ => ?_⟩)
        fun _ _ => trivial
      cases outcome <;> trivial

/-- The text that a turn writes down at its end is written into its conversation. -/
theorem within_logInput
    (now : allowed .now)
    (writes : ∀ entry, allowed (.appendHistory turn.conversation entry)) :
    turn.logInput.Within allowed (fun _ _ => True) fun _ => True := by
  unfold logInput
  split
  · refine ⟨now, fun time _ => ⟨writes _, fun outcome _ => ?_⟩⟩
    rcases outcome with (error | message) | value <;> trivial
  · trivial

end Turn

namespace Engine

variable {engine : Engine} {execution : Execution} {node : Flow.Node} {item : Continuation}

/-- Whether a delay is long over is told by the clock. -/
theorem within_isOverdue (now : allowed .now) :
    (engine.isOverdue execution node).Within allowed (fun _ _ => True) fun _ => True := by
  unfold isOverdue
  dsimp only
  split
  · trivial
  · split
    · refine ⟨now, fun now _ => ?_⟩
      change (ite _ _ _ : Process Bool).Within _ _ _
      split <;> trivial
    · trivial

/-- The execution that a continuation means is looked for by its id, and then by its
conversation. -/
theorem within_executionOf
    (byId : allowed (.executionById item.execution))
    (latest : allowed (.latestExecution item.conversation item.flow)) :
    (executionOf item).Within allowed (fun _ _ => True) fun _ => True := by
  refine ⟨byId, fun outcome _ => ?_⟩
  rcases outcome with fault | (_ | execution)
  · trivial
  · refine ⟨latest, fun outcome _ => ?_⟩
    cases outcome <;> trivial
  · trivial

end Engine
end ChatFlow
