import ChatFlow.Proofs.Lock.Rows
import ChatFlow.Proofs.Time.Timestamp
import ChatFlow.Settings
import ChatFlow.Store.Database

/-!
# The age at which a lock is taken over

A lock should be taken over when it is older than the seconds that are set for it, to the
nanosecond.  It is, as long as these seconds fit a signed word in milliseconds.  Beyond that the
word that is left of them decides: as a length of time it is too short, unless it is still longer
than all the years that can be stored; and the least word is no length of time, so that every
attempt to take a lock gives up.
-/

namespace ChatFlow
namespace Database

/-- What it means that the lock of a conversation is granted at a time: it carries the time, and
nothing else has changed. -/
structure Grants (database : Database) (conversation : Conversation) (now : Instant)
    (result : Except Fault Bool × Database) : Prop where
  taken : result.1 = .ok true
  lock : result.2.store.lock? conversation = some { conversation, since := Timestamp.print now }
  others : ∀ other, other ≠ conversation →
    result.2.store.lock? other = database.store.lock? other
  rest : result.2 =
    { database with store := { database.store with locks := result.2.store.locks } }

/-- By these settings a lock is granted exactly when there is none or it is older than the seconds
that are set; otherwise it is refused and nothing changes.  The times are those of the years 0 to
9999, and no other program holds the database. -/
def TakesOverExactly (settings : EngineSettings) : Prop :=
  ∀ (database : Database) (conversation : Conversation) (now : Instant), database.held = false →
    now.IsStored →
    (database.store.lock? conversation = none →
      database.Grants conversation now
        (database.acquireAt conversation now settings.lockStaleAfter)) ∧
    ∀ since : Instant, since.IsStored →
      database.store.lock? conversation = some { conversation, since := Timestamp.print since } →
      ((settings.lockStaleSecs * nanosPerSecond : Nat) < now.since since →
        database.Grants conversation now
          (database.acquireAt conversation now settings.lockStaleAfter)) ∧
      (now.since since ≤ (settings.lockStaleSecs * nanosPerSecond : Nat) →
        database.acquireAt conversation now settings.lockStaleAfter = (.ok false, database))

/-- The milliseconds of the years 0 to 9999. -/
def storableMillis : Int := 315569520000000

variable {database : Database} {conversation : Conversation} {now since : Instant} {stale : Span}

/-! ## What becomes of an attempt -/

/-- An attempt gives up when the allowed age is no length of time. -/
theorem acquireAt_of_untold
    (unheld : database.held = false)
    (untold : Store.tellsAge stale = false) :
    database.acquireAt conversation now stale =
      (.error (.panic "TimeDelta::milliseconds out of bounds"), database) := by
  simp [acquireAt, unheld, untold]

/-- Otherwise the attempt is one on the store. -/
theorem acquireAt_of_told
    (unheld : database.held = false)
    (told : Store.tellsAge stale = true) :
    database.acquireAt conversation now stale =
      (.ok (database.store.acquireAt conversation now stale).1,
        { database with store := (database.store.acquireAt conversation now stale).2 }) := by
  simp [acquireAt, unheld, told]

/-- A lock that the store gives out is granted. -/
theorem grants_of_taken
    (unheld : database.held = false)
    (told : Store.tellsAge stale = true)
    (taken : (database.store.acquireAt conversation now stale).1 = true) :
    database.Grants conversation now (database.acquireAt conversation now stale) := by
  obtain ⟨_, lock, others⟩ := Store.lock?_acquireAt taken
  rw [acquireAt_of_told unheld told]
  refine ⟨congrArg Except.ok taken, lock, others, ?_⟩
  cases held : database.store.lock? conversation with
  | none => simp [Store.acquireAt_of_free held]
  | some row => simp [Store.acquireAt_of_old held ((Store.lock?_acquireAt taken).1 row held)]

/-- A lock that is older than allowed is granted. -/
theorem grants_of_old
    (unheld : database.held = false)
    (told : Store.tellsAge stale = true)
    (stored : since.IsStored)
    (held : database.store.lock? conversation =
      some { conversation, since := Timestamp.print since })
    (old : Store.allowedAge stale < now.since since) :
    database.Grants conversation now (database.acquireAt conversation now stale) := by
  refine grants_of_taken unheld told ?_
  rw [Store.acquireAt_of_old held (by rwa [Timestamp.parse_print stored])]

/-- A lock that is not older than allowed is refused. -/
theorem acquireAt_of_young
    (unheld : database.held = false)
    (told : Store.tellsAge stale = true)
    (stored : since.IsStored)
    (held : database.store.lock? conversation =
      some { conversation, since := Timestamp.print since })
    (young : now.since since ≤ Store.allowedAge stale) :
    database.acquireAt conversation now stale = (.ok false, database) := by
  rw [acquireAt_of_told unheld told,
    Store.acquireAt_of_young held (by rwa [Timestamp.parse_print stored])]

/-! ## Ages -/

/-- A time of the years 0 to 9999 lies after another one by less than these years. -/
theorem since_lt
    (nowStored : now.IsStored)
    (sinceStored : since.IsStored) :
    now.since since < storableMillis * nanosPerMilli := by
  have upper : now.nanos ≤ 253402300799999999999 := (Instant.isStored_iff.mp nowStored).2
  have lower : -62167219200000000000 ≤ since.nanos := (Instant.isStored_iff.mp sinceStored).1
  simp only [Instant.since, storableMillis, nanosPerMilli]
  omega

/-- Seconds are told when the word that is left of their milliseconds is not the least one. -/
theorem tellsAge_ofSeconds (seconds : Nat) :
    Store.tellsAge (Span.ofSeconds seconds) = true ↔
      Word.signed (seconds * 1000) ≠ -Word.signedCount := by
  simp only [Store.tellsAge, Span.millis_ofSeconds, decide_eq_true_eq]

/-- Seconds that fit a signed word in milliseconds are told, and to the nanosecond. -/
theorem told_of_fits
    {seconds : Nat}
    (fits : seconds * 1000 < Word.signedCount) :
    Store.tellsAge (Span.ofSeconds seconds) = true ∧
      Store.allowedAge (Span.ofSeconds seconds) = (seconds * nanosPerSecond : Nat) := by
  rw [tellsAge_ofSeconds, Store.allowedAge_ofSeconds, Word.signed_of_lt _ fits]
  simp only [nanosPerMilli, nanosPerSecond, Word.signedCount]
  omega

/-- Where the word that is left of the seconds is too short, there is a time at which a lock of the
first moment of all is older than the word but not older than the seconds. -/
theorem exists_between
    {seconds : Nat}
    (overflow : Word.signedCount ≤ seconds * 1000)
    (short : Word.signed (seconds * 1000) < storableMillis) :
    ∃ now : Instant, now.IsStored ∧
      Store.allowedAge (Span.ofSeconds seconds) < now.since Instant.yearZero ∧
      now.since Instant.yearZero ≤ (seconds * nanosPerSecond : Nat) := by
  obtain ⟨age, nonnegative, above, below⟩ : ∃ age : Int, 0 ≤ age ∧
      Word.signed (seconds * 1000) * nanosPerMilli < age ∧
      age < storableMillis * nanosPerMilli := by
    refine ⟨max 0 (Word.signed (seconds * 1000) * nanosPerMilli + 1), Int.le_max_left _ _, ?_, ?_⟩ <;>
      simp only [storableMillis, nanosPerMilli] at short ⊢ <;> omega
  have age_eq : (⟨Instant.yearZero.nanos + age⟩ : Instant).since Instant.yearZero = age := by
    simp only [Instant.since]
    omega
  simp only [storableMillis, nanosPerMilli] at below
  refine ⟨⟨Instant.yearZero.nanos + age⟩, ?_, ?_, ?_⟩
  · rw [Instant.isStored_iff]
    change -62167219200000000000 ≤ -62167219200000000000 + age ∧
      -62167219200000000000 + age ≤ 253402300799999999999
    omega
  · rwa [age_eq, Store.allowedAge_ofSeconds]
  · rw [age_eq]
    simp only [nanosPerSecond, Word.signedCount] at overflow ⊢
    omega

/-! ## The threshold -/

/-- Where the seconds do not fit, and the word that is left of them is shorter than the years that
can be stored, some attempt gives up or takes a lock over too early. -/
theorem not_takesOverExactly
    {settings : EngineSettings}
    (overflow : Word.signedCount ≤ settings.lockStaleSecs * 1000)
    (short : Word.signed (settings.lockStaleSecs * 1000) < storableMillis) :
    ¬ TakesOverExactly settings := by
  intro exactly
  cases told : Store.tellsAge settings.lockStaleAfter with
  | false =>
      have taken := ((exactly {} ⟨"", ""⟩ ⟨0⟩ rfl (by decide)).1 rfl).taken
      rw [acquireAt_of_untold rfl told] at taken
      cases taken
  | true =>
      obtain ⟨now, nowStored, old, young⟩ := exists_between overflow short
      let database : Database :=
        { store := { locks := [⟨⟨"", ""⟩, Timestamp.print Instant.yearZero⟩] } }
      have zeroStored : Instant.yearZero.IsStored := by decide
      have held : database.store.lock? ⟨"", ""⟩ =
          some ⟨⟨"", ""⟩, Timestamp.print Instant.yearZero⟩ := rfl
      have refused := ((exactly database ⟨"", ""⟩ now rfl nowStored).2 _ zeroStored held).2 young
      have taken : (database.acquireAt ⟨"", ""⟩ now settings.lockStaleAfter).1 = .ok true :=
        (grants_of_old rfl told zeroStored held old).taken
      rw [refused] at taken
      cases taken

/-- Where the seconds fit, or neither they nor the word that is left of them is ever exceeded, locks
are taken over exactly as set. -/
theorem takesOverExactly
    {settings : EngineSettings}
    (told : Store.tellsAge settings.lockStaleAfter = true)
    (same : ∀ now since : Instant, now.IsStored → since.IsStored →
      ((settings.lockStaleSecs * nanosPerSecond : Nat) < now.since since ↔
        Store.allowedAge settings.lockStaleAfter < now.since since)) :
    TakesOverExactly settings := by
  intro database conversation now unheld nowStored
  refine ⟨fun free => grants_of_taken unheld told (by rw [Store.acquireAt_of_free free]),
    fun since stored held => ⟨fun old => ?_, fun young => ?_⟩⟩
  · exact grants_of_old unheld told stored held ((same now since nowStored stored).mp old)
  · refine acquireAt_of_young unheld told stored held (Int.not_lt.mp fun old => ?_)
    exact Int.not_lt.mpr young ((same now since nowStored stored).mpr old)

/-- Locks are taken over exactly as set when the seconds fit a signed word in milliseconds, or the
word that is left of them is as long as the years that can be stored, and by no other settings. -/
theorem takesOverExactly_iff (settings : EngineSettings) :
    TakesOverExactly settings ↔
      settings.lockStaleSecs * 1000 < Word.signedCount ∨
        storableMillis ≤ Word.signed (settings.lockStaleSecs * 1000) := by
  by_cases fits : settings.lockStaleSecs * 1000 < Word.signedCount
  · obtain ⟨told, allowed_eq⟩ := told_of_fits fits
    refine iff_of_true (takesOverExactly told fun now since _ _ => ?_) (.inl fits)
    rw [EngineSettings.lockStaleAfter, allowed_eq]
  · have overflow := Nat.not_lt.mp fits
    rw [or_iff_right fits]
    refine ⟨fun exactly => Int.not_lt.mp fun short => not_takesOverExactly overflow short exactly,
      fun long => takesOverExactly ?_ fun now since nowStored sinceStored => ?_⟩
    · rw [EngineSettings.lockStaleAfter, tellsAge_ofSeconds]
      simp only [storableMillis, Word.signedCount] at long ⊢
      omega
    · -- No lock is as old as either of them.
      have age_lt := since_lt nowStored sinceStored
      rw [EngineSettings.lockStaleAfter, Store.allowedAge_ofSeconds]
      simp only [storableMillis, nanosPerMilli, nanosPerSecond, Word.signedCount]
        at age_lt long overflow ⊢
      omega

/-- Thirty seconds are exactly thirty seconds. -/
theorem takesOverExactly_thirty : TakesOverExactly { lockStaleSecs := 30 } :=
  (takesOverExactly_iff _).mpr (.inl (by decide))

/-- With the most seconds that can be set, a lock is taken over at the moment at which it was
taken; with other ones, no lock can be taken. -/
theorem not_takesOverExactly_never :
    let database : Database := { store := { locks := [⟨⟨"p1", "d1"⟩, Timestamp.print ⟨0⟩⟩] } }
    let most : EngineSettings := { lockStaleSecs := 9223372036854775807 }
    let untold : EngineSettings := { lockStaleSecs := 1152921504606846976 }
    (database.acquireAt ⟨"p1", "d1"⟩ ⟨0⟩ most.lockStaleAfter).1 = .ok true ∧
      ({} : Database).acquireAt ⟨"p1", "d1"⟩ ⟨0⟩ untold.lockStaleAfter =
        (.error (.panic "TimeDelta::milliseconds out of bounds"), {}) ∧
      ¬ TakesOverExactly most ∧ ¬ TakesOverExactly untold := by
  refine ⟨rfl, acquireAt_of_untold rfl (by decide), ?_, ?_⟩
  · exact not_takesOverExactly (by decide) (by decide)
  · exact not_takesOverExactly (by decide) (by decide)

end Database
end ChatFlow
