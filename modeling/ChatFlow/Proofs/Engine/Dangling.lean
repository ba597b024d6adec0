import ChatFlow.Proofs.Lock.Rows
import ChatFlow.Proofs.Process.Safety
import ChatFlow.Proofs.Turn.Report

/-!
# Dangling executions

An execution dangles when its flow is not known, or when it stands at a node that its flow does not
have.  A message of its conversation then fails, and a continuation that means it finds the flow
missing or nothing to take up.  Either way nothing but events comes of it, and the conversation is
not locked afterwards.  There is one exception: a turn that may enter no node at all ends at its
hop limit before it looks for the node, and has nothing to complain about.
-/

namespace ChatFlow

open Process

/-- The node where an execution stands, which is an error when there is none. -/
def Flow.Library.nodeOf (library : Flow.Library) (execution : Execution) :
    Except Error Flow.Node :=
  match library.get execution.flow with
  | .ok graph => graph.require execution.node
  | .error error => .error error

/-- The execution that a continuation means: the one that it names or, if there is none, the latest
one of its conversation in its flow. -/
def Store.meant? (store : Store) (item : Continuation) : Option Execution :=
  (store.byId? item.execution).or (store.latest? item.conversation item.flow)

/-- All calls go well, and nobody else writes to the database when a lock is asked for. -/
def Site.Succeeds (site : Site) : Answering Scene :=
  fun request scene outcome after => ∃ now choice, site.clock now ∧ choice.contended = false ∧
    scene.serve site.library site.stale now choice request = (outcome, after)

/-- Nothing happened but that events were published, and a conversation is not locked. -/
structure Scene.Spares (conversation : Conversation) (before after : Scene) : Prop where
  store_eq : after.store = before.store
  sent_eq : after.sent = before.sent
  queued_eq : after.queued = before.queued
  free : after.store.lock? conversation = none

variable {site : Site} {scene : Scene} {engine : Engine} {conversation : Conversation}
  {execution : Execution} {error : Error} {message : InboundMessage} {item : Continuation}
  {now : Instant}

/-- A call goes well at any time. -/
theorem Site.concludes_step
    {request : Call}
    {next : request.Outcome → Process α}
    {post : Except Fault α → Scene → Prop}
    (onClock : site.clock now)
    (rest : ∀ now choice, site.clock now → choice.contended = false →
      (next (scene.serve site.library site.stale now choice request).1).Concludes site.Succeeds post
        (scene.serve site.library site.stale now choice request).2) :
    (step request next).Concludes site.Succeeds post scene := by
  refine Process.concludes_step ⟨_, _, now, {}, onClock, rfl, rfl⟩ ?_
  rintro outcome after ⟨now, choice, onClock, calm, served⟩
  have concludes := rest now choice onClock calm
  rw [served] at concludes
  exact concludes

/-! ## Locks -/

namespace Scene

/-- The scene with one more lock. -/
def locked (scene : Scene) (lock : LockRow) : Scene :=
  scene.withStore { scene.store with locks := scene.store.locks ++ [lock] }

/-- Nothing happened but that events were published. -/
def Hears (before after : Scene) : Prop :=
  after = { before with events := after.events }

/-- To release a lock undoes that it was taken. -/
theorem Hears.spares
    {lock : LockRow}
    {before : Scene}
    (free : scene.store.lock? conversation = none)
    (own : lock.conversation = conversation)
    (hears : (scene.locked lock).Hears before) :
    scene.Spares conversation (before.withStore (before.store.release conversation)) := by
  have others : ∀ row ∈ scene.store.locks, row.conversation ≠ conversation := by
    simpa [Store.lock?] using free
  have kept : scene.store.locks.filter (fun row => row.conversation != conversation) =
      scene.store.locks :=
    List.filter_eq_self.mpr fun row member => bne_iff_ne.mpr (others row member)
  have store_eq : (scene.locked lock).store.release conversation = scene.store := by
    simp [locked, withStore, Store.release, kept, own]
  rw [hears]
  exact ⟨store_eq, rfl, rfl, Store.lock?_release⟩

end Scene

/-- A process that is performed under a free lock concludes as it does there, and then the lock is
released. -/
theorem concludes_underLock
    {process : Process α}
    {inner : LockRow → Except Fault α → Scene → Prop}
    (onClock : site.clock now)
    (free : scene.store.lock? conversation = none)
    (concludes : ∀ lock : LockRow,
      process.Concludes site.Succeeds (inner lock) (scene.locked lock)) :
    (Engine.underLock conversation process).Concludes site.Succeeds
      (fun result after => ∃ lock : LockRow, lock.conversation = conversation ∧
        ∃ kept before, result = .ok (some kept) ∧ inner lock kept before ∧
          after = before.withStore (before.store.release conversation)) scene := by
  refine Site.concludes_step onClock ?_
  intro time choice _ calm
  simp only [Scene.serve, calm, Bool.false_eq_true, if_false, Store.acquireAt_of_free free]
  refine (concludes ⟨conversation, Timestamp.print time⟩).contain.andThen ?_ ?_
  · rintro kept after ⟨_, ⟨⟩, holds⟩
    refine Site.concludes_step onClock ?_
    intro _ _ _ _
    exact concludes_done ⟨_, rfl, kept, after, rfl, holds, rfl⟩
  · rintro _ _ ⟨_, ⟨⟩, _⟩

/-! ## Messages -/

namespace Engine

/-- Whether a message gets as far as to find that an execution dangles: with a known flow, a turn
that begins with a reply does not look for the node when it may enter none. -/
def looks (engine : Engine) (library : Flow.Library) (execution : Execution) : Bool :=
  0 < engine.settings.maxHops || !execution.waiting || !(library.get execution.flow).isOk

/-- A turn that looks for a missing node fails without a call. -/
theorem perform_of_require_error
    {graph : Flow.Graph}
    (looks : 0 < engine.settings.maxHops)
    (missing : graph.require execution.node = .error error)
    (input : TurnInput) :
    Turn.perform engine graph execution input = .halt (.error error) := by
  obtain ⟨hops, enough⟩ := Nat.exists_eq_add_of_lt looks
  rw [Turn.perform, enough]
  simp [Turn.walk, missing, orFail]

/-- Before a message is refused because its execution dangles, events are published at most. -/
theorem concludes_process
    (onClock : site.clock now)
    (active : scene.store.active? message.conversation = some execution)
    (dangles : site.library.nodeOf execution = .error error)
    (looks : engine.looks site.library execution = true) :
    (engine.process message).Concludes site.Succeeds
      (fun result after => result = .error (.error error) ∧ scene.Hears after) scene := by
  refine Site.concludes_step onClock ?_
  intro _ _ _ _
  simp only [Scene.serve, active]
  refine Site.concludes_step onClock ?_
  intro _ _ _ _
  simp only [Scene.serve]
  unfold Flow.Library.nodeOf at dangles
  cases known : site.library.get execution.flow with
  | error missing =>
      rw [known] at dangles
      cases dangles
      exact concludes_halt ⟨rfl, rfl⟩
  | ok graph =>
      have missing : graph.require execution.node = .error error := by
        rw [known] at dangles
        exact dangles
      change ((if execution.waiting then engine.accept graph execution (.ofMessage message true)
        else engine.interrupt graph execution message) : Process InboundOutcome).Concludes _ _ _
      split
      · rename_i waits
        have enough : 0 < engine.settings.maxHops := by
          simpa [Engine.looks, waits, known, Except.isOk, Except.toBool] using looks
        refine Site.concludes_step onClock ?_
        intro _ _ _ _
        rw [perform_of_require_error enough missing]
        exact concludes_halt ⟨rfl, rfl⟩
      · rw [interrupt, missing]
        exact concludes_halt ⟨rfl, rfl⟩

/-- A message of a conversation that is not locked fails when the execution that runs there
dangles. -/
theorem concludes_handleInbound
    (onClock : site.clock now)
    (free : scene.store.lock? message.conversation = none)
    (active : scene.store.active? message.conversation = some execution)
    (dangles : site.library.nodeOf execution = .error error)
    (looks : engine.looks site.library execution = true) :
    (engine.handleInbound message).Concludes site.Succeeds
      (fun result after =>
        result = .ok (.failed error.message) ∧ scene.Spares message.conversation after) scene := by
  refine (concludes_underLock onClock free fun lock =>
    concludes_process onClock active dangles looks).andThen ?_ ?_
  · rintro _ after ⟨lock, own, _, before, ⟨⟩, ⟨rfl, hears⟩, rfl⟩
    exact concludes_done ⟨rfl, hears.spares free own⟩
  · rintro _ _ ⟨_, _, _, _, ⟨⟩, _⟩

/-! ## No hops -/

/-- The turn that ends before it enters a node, of an execution that a message answers. -/
def curbed (execution : Execution) (message : InboundMessage) : Turn :=
  { execution, input := .ofMessage message true, hopLimit := true }

/-- The scene after the user's text was written down, which it is unless it is blank. -/
def noting (scene : Scene) (execution : Execution) (message : InboundMessage) (time : Instant) :
    Scene :=
  if Text.isBlank message.text then scene
  else
    scene.withStore (scene.store.appendHistory execution.conversation
      { user := message.text
        bot := ""
        stage := execution.stage
        displayName := message.displayName
        time })

theorem noting_locked (lock : LockRow) (time : Instant) :
    noting (scene.locked lock) execution message time =
      (noting scene execution message time).locked lock := by
  unfold noting
  split <;> rfl

theorem lock?_noting (time : Instant) :
    (noting scene execution message time).store.lock? conversation =
      scene.store.lock? conversation := by
  unfold noting
  split <;> rfl

/-- A turn that may enter no node writes down the user's text. -/
theorem concludes_perform_of_curbed
    {graph : Flow.Graph}
    (onClock : site.clock now)
    (hopless : engine.settings.maxHops = 0) :
    (Turn.perform engine graph execution (.ofMessage message true)).Concludes site.Succeeds
      (fun result after => result = .ok (curbed execution message).report ∧
        ∃ time, (noting scene execution message time).Hears after) scene := by
  rw [Turn.perform, hopless]
  refine Site.concludes_step onClock ?_
  intro _ _ _ _
  change ((if _ then _ else _ : Process Unit).andThen _).Concludes _ _ _
  simp only [TurnInput.ofMessage, Bool.not_false, Bool.and_self, Bool.true_and]
  cases blank : Text.isBlank message.text with
  | true =>
      refine concludes_done ⟨rfl, now, ?_⟩
      simp only [noting, blank, if_true]
      rfl
  | false =>
      refine Site.concludes_step onClock ?_
      intro time _ _ _
      refine Site.concludes_step onClock ?_
      intro _ _ _ _
      refine concludes_done ⟨rfl, time, ?_⟩
      simp only [noting, blank, Bool.false_eq_true, if_false]
      rfl

/-- The reply to an execution that may enter no node is processed, and nothing but the reply is
written down. -/
theorem concludes_handleInbound_of_curbed
    {graph : Flow.Graph}
    (onClock : site.clock now)
    (free : scene.store.lock? message.conversation = none)
    (active : scene.store.active? message.conversation = some execution)
    (known : site.library.get execution.flow = .ok graph)
    (waits : execution.waiting = true)
    (hopless : engine.settings.maxHops = 0) :
    (engine.handleInbound message).Concludes site.Succeeds
      (fun result after => result = .ok (.processed (curbed execution message).report) ∧
        ∃ time, (noting scene execution message time).Spares message.conversation after)
      scene := by
  have process (lock : LockRow) :
      (engine.process message).Concludes site.Succeeds
        (fun result after => result = .ok (.processed (curbed execution message).report) ∧
          ∃ time, (noting (scene.locked lock) execution message time).Hears after)
        (scene.locked lock) := by
    refine Site.concludes_step onClock ?_
    intro _ _ _ _
    simp only [Scene.serve, show (scene.locked lock).store.active? message.conversation =
      some execution from active]
    refine Site.concludes_step onClock ?_
    intro _ _ _ _
    simp only [Scene.serve, known, waits]
    refine Site.concludes_step onClock ?_
    intro _ _ _ _
    refine (concludes_perform_of_curbed onClock hopless).andThen ?_ ?_
    · rintro _ after ⟨⟨⟩, time, hears⟩
      refine concludes_done ⟨rfl, time, ?_⟩
      rw [Scene.Hears, hears]
      unfold noting
      split <;> rfl
    · rintro _ _ ⟨⟨⟩, _⟩
  refine (concludes_underLock onClock free process).andThen ?_ ?_
  · rintro _ after ⟨lock, own, _, before, ⟨⟩, ⟨rfl, time, hears⟩, rfl⟩
    rw [noting_locked] at hears
    exact concludes_done ⟨rfl, time, hears.spares (by rwa [lock?_noting]) own⟩
  · rintro _ _ ⟨_, _, _, _, ⟨⟩, _⟩

/-! ## Continuations -/

/-- The execution that a continuation means is found, and nothing else happens. -/
theorem concludes_executionOf
    (onClock : site.clock now) :
    (executionOf item).Concludes site.Succeeds
      (fun result after => result = .ok (scene.store.meant? item) ∧ after = scene) scene := by
  refine Site.concludes_step onClock ?_
  intro _ _ _ _
  simp only [Scene.serve, Store.meant?]
  cases scene.store.byId? item.execution with
  | some execution => exact concludes_done ⟨rfl, rfl⟩
  | none =>
      refine Site.concludes_step onClock ?_
      intro _ _ _ _
      exact concludes_done ⟨rfl, rfl⟩

/-- What becomes of a continuation that finds nothing to take up. -/
def leftover (library : Flow.Library) (execution : Execution) : Except Error ResumeOutcome :=
  (library.get execution.flow).map fun _ => .stale

/-- An execution that dangles or is over is not parked before any node. -/
theorem isParkedBefore_eq_false
    {graph : Flow.Graph}
    {target : String}
    (known : site.library.get execution.flow = .ok graph)
    (lost : (∃ error, site.library.nodeOf execution = .error error) ∨
      execution.isActive = false) :
    isParkedBefore graph execution target = false := by
  rcases lost with ⟨error, dangles⟩ | ceased
  · have unplaced : graph.node? execution.node = none := by
      rw [Flow.Library.nodeOf, known] at dangles
      cases found : graph.node? execution.node with
      | none => rfl
      | some node => simp [Flow.Graph.require, found] at dangles
    simp [isParkedBefore, unplaced]
  · simp [isParkedBefore, ceased]

/-- A continuation whose execution dangles or is over leaves everything as it is. -/
theorem concludes_takeUp
    (onClock : site.clock now)
    (meant : scene.store.meant? item = some execution)
    (lost : (∃ error, site.library.nodeOf execution = .error error) ∨
      execution.isActive = false) :
    (engine.takeUp item).Concludes site.Succeeds
      (fun result after =>
        result = (leftover site.library execution).mapError .error ∧ scene.Hears after) scene := by
  refine (concludes_executionOf onClock).andThen ?_ ?_
  · rintro _ _ ⟨⟨⟩, rfl⟩
    rw [meant]
    refine Site.concludes_step onClock ?_
    intro _ _ _ _
    simp only [Scene.serve, leftover]
    cases known : site.library.get execution.flow with
    | error missing => exact concludes_halt ⟨rfl, rfl⟩
    | ok graph =>
        change ((if isParkedBefore graph execution item.target then _
          else .done .stale) : Process ResumeOutcome).Concludes _ _ _
        rw [isParkedBefore_eq_false known lost]
        exact concludes_done ⟨rfl, rfl⟩
  · rintro _ _ ⟨⟨⟩, _⟩

/-- A continuation of a conversation that is not locked is of no consequence when its execution
dangles or is over. -/
theorem concludes_resume
    (onClock : site.clock now)
    (free : scene.store.lock? item.conversation = none)
    (meant : scene.store.meant? item = some execution)
    (lost : (∃ error, site.library.nodeOf execution = .error error) ∨
      execution.isActive = false) :
    (engine.resume item).Concludes site.Succeeds
      (fun result after => result = (leftover site.library execution).mapError .error ∧
        scene.Spares item.conversation after) scene := by
  refine (concludes_underLock onClock free fun lock =>
    concludes_takeUp onClock meant lost).andThen ?_ ?_
  · rintro _ after ⟨lock, own, kept, before, ⟨⟩, ⟨rfl, hears⟩, rfl⟩
    have spares := hears.spares free own
    cases leftover site.library execution with
    | ok outcome => exact concludes_done ⟨rfl, spares⟩
    | error missing => exact concludes_halt ⟨rfl, spares⟩
  · rintro _ _ ⟨_, _, _, _, ⟨⟩, _⟩

/-- While the execution of a conversation dangles, and the conversation is not locked, every
message of it fails and every continuation finds the flow missing or is stale, unless the turn may
enter no node at all: then the reply to an execution that waits is processed.  In each case nothing
is sent or queued, the conversation is not locked afterwards, and nothing is stored, except for the
reply that is processed. -/
theorem spared_of_dangling
    (engine : Engine)
    (onClock : site.clock now)
    (free : scene.store.lock? conversation = none)
    (active : scene.store.active? conversation = some execution)
    (dangles : site.library.nodeOf execution = .error error) :
    (∀ message : InboundMessage, message.conversation = conversation →
      (engine.handleInbound message).Concludes site.Succeeds
        (fun result after =>
          if engine.looks site.library execution then
            result = .ok (.failed error.message) ∧ scene.Spares conversation after
          else
            result = .ok (.processed (curbed execution message).report) ∧
              ∃ time, (noting scene execution message time).Spares conversation after)
        scene) ∧
    ∀ (item : Continuation) (found : Execution), item.conversation = conversation →
      scene.store.meant? item = some found → found = execution ∨ found.isActive = false →
      (engine.resume item).Concludes site.Succeeds
        (fun result after => result = (leftover site.library found).mapError .error ∧
          scene.Spares conversation after)
        scene := by
  constructor
  · rintro message rfl
    split
    · rename_i looks
      exact concludes_handleInbound onClock free active dangles looks
    · rename_i blind
      obtain ⟨hopless, waits, known⟩ : engine.settings.maxHops = 0 ∧ execution.waiting = true ∧
          ∃ graph, site.library.get execution.flow = .ok graph := by
        cases known : site.library.get execution.flow with
        | ok graph => simpa [looks, known, Except.isOk, Except.toBool] using blind
        | error missing => simp [looks, known, Except.isOk, Except.toBool] at blind
      exact concludes_handleInbound_of_curbed onClock free active known.choose_spec waits hopless
  · rintro item found rfl meant (rfl | ceased)
    · exact concludes_resume onClock free meant (.inl ⟨error, dangles⟩)
    · exact concludes_resume onClock free meant (.inr ceased)

/-! ## A ghost -/

/-- The row of an execution that waits at a node that its flow does not have. -/
def ghostRow : ExecutionRow :=
  { ExecutionRow.ofInquiry with node := "ghost" }

/-- A scene with that row. -/
def ghostly : Scene where
  store := { executions := [ghostRow] }

/-- A continuation of that execution. -/
def ghostItem : Continuation where
  execution := "execution"
  flow := "inquiry"
  target := "answer"
  conversation := { phone := "2", device := "1" }
  payload := "go"
  due := ⟨0⟩

/-- The error about its node. -/
def ghostError : Error :=
  .nodeNotFound "inquiry" "ghost"

theorem active?_ghostly :
    ghostly.store.active? ghostRow.conversation = some ghostRow.toExecution := by
  decide +kernel

theorem nodeOf_ghostRow :
    Site.inquiry.library.nodeOf ghostRow.toExecution = .error ghostError := by
  rfl

theorem spared_of_dangling_ghost :
    (({} : Engine).handleInbound (.toInquiry "ok")).Concludes Site.inquiry.Succeeds
        (fun result after =>
          result = .ok (.failed "Node 'ghost' not found in flow inquiry") ∧
            ghostly.Spares ghostRow.conversation after)
        ghostly ∧
      (({} : Engine).resume ghostItem).Concludes Site.inquiry.Succeeds
        (fun result after =>
          result = .ok .stale ∧ ghostly.Spares ghostRow.conversation after)
        ghostly := by
  obtain ⟨messages, continuations⟩ :=
    spared_of_dangling ({} : Engine) (show Site.inquiry.clock ⟨0⟩ from trivial) rfl
      active?_ghostly nodeOf_ghostRow
  refine ⟨messages (.toInquiry "ok") rfl, continuations ghostItem _ rfl rfl (.inl rfl)⟩

/-- How a reply to the ghost is handled when a turn may enter no node. -/
def ghostReply : Except Fault InboundOutcome × Scene :=
  (({ settings := { maxHops := 0 } } : Engine).handleInbound (.toInquiry "ok")).run
    (Site.inquiry.answer ⟨0⟩ {}) ghostly

/-- When a turn may enter no node, a reply to the ghost is processed and written down. -/
theorem processed_ghost :
    ghostly.store.lock? ghostRow.conversation = none ∧
    ghostly.store.active? ghostRow.conversation = some ghostRow.toExecution ∧
    Site.inquiry.library.nodeOf ghostRow.toExecution = .error ghostError ∧
    Ends Site.inquiry.Succeeds
      (({ settings := { maxHops := 0 } } : Engine).handleInbound (.toInquiry "ok")) ghostly
      ghostReply.1 ghostReply.2 ∧
    (∀ text, ghostReply.1 ≠ .ok (.failed text)) ∧
    ghostReply.2.store.history ≠ ghostly.store.history := by
  have processed : ghostReply.1 =
      .ok (.processed (curbed ghostRow.toExecution (.toInquiry "ok")).report) := by
    decide +kernel
  refine ⟨rfl, active?_ghostly, nodeOf_ghostRow, ?_, ?_, by decide +kernel⟩
  · exact ends_of_run _ (fun _ _ => ⟨⟨0⟩, {}, trivial, rfl, rfl⟩) _ _
  · intro text fails
    rw [processed] at fails
    cases fails

end Engine
end ChatFlow
