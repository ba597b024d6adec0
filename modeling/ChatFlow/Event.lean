import ChatFlow.Conversation
import ChatFlow.Time.Span

/-!
# Events

What the engine tells its observers while it processes messages and continuations, and the bus
that hands every event to every subscriber.
-/

namespace ChatFlow

/-- Something that happened in a conversation. -/
inductive Event where
  /-- A message is being processed by an execution of a flow. -/
  | accepted (conversation : Conversation) (flow execution : String)
  /-- A message was not processed. -/
  | skipped (conversation : Conversation) (reason : String)
  /-- A node was entered. -/
  | entered (conversation : Conversation) (node kind : String)
  /-- A message was handed over for delivery. -/
  | dispatched (conversation : Conversation) (node kind : String)
  /-- A message could not be handed over. -/
  | dispatchFailed (conversation : Conversation) (node error : String)
  /-- A continuation was queued. -/
  | delayScheduled (conversation : Conversation) (target : String) (due : Instant)
  /-- A continuation was taken up. -/
  | resumed (conversation : Conversation) (target : String)
  /-- An execution reached its end. -/
  | completed (conversation : Conversation) (execution : String)
  /-- A turn visited as many nodes as it may. -/
  | hopLimit (conversation : Conversation) (node : String) (hops : Nat)
deriving DecidableEq, Inhabited, Repr

/-- A bus: the events that were published, and for each subscriber how many of them it has read
or missed. -/
structure EventBus where
  /-- The events, in order of publication. -/
  published : List Event := []
  /-- For each subscriber the number of events behind it. -/
  cursors : List Nat := []
deriving Inhabited, Repr

namespace EventBus

/-- Publishes an event. -/
def publish (bus : EventBus) (event : Event) : EventBus :=
  { bus with published := bus.published ++ [event] }

/-- Adds a subscriber, who sees later events only; returns its number. -/
def subscribe (bus : EventBus) : Nat × EventBus :=
  (bus.cursors.length, { bus with cursors := bus.cursors ++ [bus.published.length] })

/-- The events that a subscriber has not read yet. -/
def unread (bus : EventBus) (subscriber : Nat) : List Event :=
  match bus.cursors[subscriber]? with
  | some cursor => bus.published.drop cursor
  | none => []

/-- Lets a subscriber read its events. -/
def drain (bus : EventBus) (subscriber : Nat) : List Event × EventBus :=
  (bus.unread subscriber, { bus with cursors := bus.cursors.set subscriber bus.published.length })

/-- Who has read everything has nothing to read. -/
theorem unread_drain_self (bus : EventBus) (subscriber : Nat) :
    (bus.drain subscriber).2.unread subscriber = [] := by
  simp only [drain, unread]
  by_cases known : subscriber < bus.cursors.length
  · simp [known]
  · simp [known]

end EventBus

end ChatFlow
