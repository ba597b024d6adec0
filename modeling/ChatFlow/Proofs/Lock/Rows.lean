import ChatFlow.Proofs.Scene
import ChatFlow.Proofs.Time.Timestamp

/-!
# Locks in the store

A lock is taken when there is none, or when the one that is there is too old; it is put down with
the time at which it was taken.  The allowed age is what it is meant to be as long as it fits a
signed word in milliseconds; otherwise it is shorter, and may even be negative.
-/

namespace ChatFlow

/-! ## The allowed age -/

/-- No number is read as one that needs more than sixty-three bits. -/
theorem Word.signed_lt (n : Nat) : signed n < signedCount := by
  have bound : n % count < count := Nat.mod_lt _ (by decide)
  have twice : count = signedCount + signedCount := by decide
  change (ite (n % count < signedCount) _ _ : Int) < signedCount
  split <;> omega

/-- The milliseconds of some seconds. -/
theorem Span.millis_ofSeconds (seconds : Nat) : (ofSeconds seconds).millis = seconds * 1000 := by
  simp only [millis, ofSeconds, nanosPerSecond, nanosPerMilli]
  omega

namespace Store

/-- The allowed age is the word that is left of the milliseconds. -/
theorem allowedAge_ofSeconds (seconds : Nat) :
    allowedAge (Span.ofSeconds seconds) = Word.signed (seconds * 1000) * nanosPerMilli := by
  rw [allowedAge, Span.millis_ofSeconds]

/-- The allowed age is as long as it is meant to be exactly when it fits a signed word in
milliseconds. -/
theorem le_allowedAge_iff (seconds : Nat) :
    ((Span.ofSeconds seconds).nanos : Int) ≤ allowedAge (Span.ofSeconds seconds) ↔
      seconds * 1000 < Word.signedCount := by
  have nanos : (Span.ofSeconds seconds).nanos = seconds * 1000 * nanosPerMilli := by
    simp only [Span.ofSeconds, nanosPerSecond, nanosPerMilli]
    omega
  rw [allowedAge_ofSeconds, nanos]
  constructor
  · intro bounded
    have signed := Word.signed_lt (seconds * 1000)
    simp only [nanosPerMilli] at bounded
    omega
  · intro fits
    rw [Word.signed_of_lt _ fits]
    exact Int.le_of_eq (Int.natCast_mul _ _)

variable {store : Store} {conversation other : Conversation} {now : Instant} {stale : Span}
  {row : LockRow}

/-- The lock of a conversation is one of the locks. -/
theorem lock?_congr
    {before after : Store}
    (locks : after.locks = before.locks) :
    after.lock? conversation = before.lock? conversation := by
  rw [lock?, locks, lock?]

/-! ## Taking a lock -/

/-- A lock is that of its conversation. -/
theorem conversation_of_lock?
    (held : store.lock? conversation = some row) :
    row.conversation = conversation := by
  simpa using List.find?_some held

/-- A lock that is not too old is not taken. -/
theorem acquireAt_of_young
    (held : store.lock? conversation = some row)
    (young : now.since (Timestamp.parse row.since) ≤ allowedAge stale) :
    store.acquireAt conversation now stale = (false, store) := by
  simp [acquireAt, held, young]

/-- A lock that nobody holds is put down. -/
theorem acquireAt_of_free
    (free : store.lock? conversation = none) :
    store.acquireAt conversation now stale =
      (true, { store with
        locks := store.locks ++ [{ conversation, since := Timestamp.print now }] }) := by
  simp [acquireAt, free]

/-- A lock that is too old is taken over. -/
theorem acquireAt_of_old
    (held : store.lock? conversation = some row)
    (old : allowedAge stale < now.since (Timestamp.parse row.since)) :
    store.acquireAt conversation now stale =
      (true, { store with
        locks := store.locks.map fun row =>
          if row.conversation = conversation then { row with since := Timestamp.print now }
          else row }) := by
  simp [acquireAt, held, Int.not_le.mpr old]

/-- A lock that is not taken stays as it is. -/
theorem acquireAt_of_refused
    (refused : (store.acquireAt conversation now stale).1 = false) :
    store.acquireAt conversation now stale = (false, store) := by
  cases held : store.lock? conversation with
  | none => simp [acquireAt_of_free held] at refused
  | some row =>
      refine acquireAt_of_young held (Int.not_lt.mp fun old => ?_)
      simp [acquireAt_of_old held old] at refused

/-- A lock is found as it was changed. -/
theorem lock?_map
    {change : LockRow → LockRow}
    (keeps : ∀ row, (change row).conversation = row.conversation) :
    ({ store with locks := store.locks.map change }).lock? conversation =
      (store.lock? conversation).map change := by
  simp only [lock?, List.find?_map]
  congr 2
  funext row
  simp [keeps]

/-- A lock that is taken was free or too old, and carries the time; other locks are as before. -/
theorem lock?_acquireAt
    (taken : (store.acquireAt conversation now stale).1 = true) :
    (∀ row, store.lock? conversation = some row →
        allowedAge stale < now.since (Timestamp.parse row.since)) ∧
      (store.acquireAt conversation now stale).2.lock? conversation =
        some { conversation, since := Timestamp.print now } ∧
      ∀ other, other ≠ conversation →
        (store.acquireAt conversation now stale).2.lock? other = store.lock? other := by
  cases held : store.lock? conversation with
  | none =>
      rw [acquireAt_of_free held]
      unfold lock? at held ⊢
      refine ⟨nofun, ?_, ?_⟩
      · simp [List.find?_append, held]
      · intro other different
        simp [List.find?_append, different.symm]
  | some row =>
      have old : allowedAge stale < now.since (Timestamp.parse row.since) := by
        refine Int.not_le.mp fun young => ?_
        rw [acquireAt_of_young held young] at taken
        cases taken
      have keeps (row : LockRow) :
          (if row.conversation = conversation then
              { row with since := Timestamp.print now } else row).conversation =
            row.conversation := by
        split <;> rfl
      rw [acquireAt_of_old held old]
      refine ⟨?_, ?_, ?_⟩
      · rintro _ ⟨⟩
        exact old
      · rw [lock?_map keeps, held]
        simp [conversation_of_lock? held]
      · intro other different
        rw [lock?_map keeps]
        cases found : store.lock? other with
        | none => rfl
        | some row => simp [conversation_of_lock? found, different]

/-! ## Releasing a lock -/

/-- A lock that is released is gone. -/
theorem lock?_release : (store.release conversation).lock? conversation = none := by
  simp [lock?, release]

/-- The locks of other conversations are not released. -/
theorem lock?_release_of_ne
    (different : other ≠ conversation) :
    (store.release conversation).lock? other = store.lock? other := by
  unfold lock? release
  rw [List.find?_filter]
  congr 1
  funext row
  by_cases same : row.conversation = other
  · simp [same, different]
  · simp [same]

end Store

/-- A call that is not about locks leaves them alone. -/
theorem Site.Answers.locks_eq
    {site : Site}
    {request : Call}
    {scene after : Scene}
    {outcome : request.Outcome}
    (answered : site.Answers request scene outcome after)
    (lockFree : request.isLock = false) :
    after.store.locks = scene.store.locks := by
  have served (now : Instant) (choice : Choice) :
      (scene.serve site.library site.stale now choice request).2.store.locks =
        scene.store.locks := by
    cases request with
    | acquire | release => cases lockFree
    | createExecution conversation flow node =>
        simp only [Scene.serve, Scene.withStore, Store.create, Store.insertActive]
        split <;> split <;> rfl
    | advance conversation flow node waiting =>
        simp only [Scene.serve, Scene.withStore, Store.advance, Store.insertActive]
        split
        · rfl
        · split <;> rfl
    | setWaiting conversation flow waiting =>
        simp only [Scene.serve, Scene.withStore, Store.setWaiting]
        split <;> rfl
    | _ => rfl
  cases answered with
  | well onClock choice => exact served _ choice
  | failed => rfl
  | failedLate shown fails onClock choice => exact served _ choice

end ChatFlow
