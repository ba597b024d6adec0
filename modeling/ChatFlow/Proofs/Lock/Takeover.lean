import ChatFlow.Proofs.Lock.Rows
import Mathlib.Logic.Function.Basic
import Mathlib.Logic.Relation

/-!
# Locks that are taken over

Any number of processors ask for the lock of one conversation and release what they got.  The
store does not know whose lock it keeps, so the owner is followed beside it.  Who got the lock not
long ago is its owner, unless another processor has released it: the release of a processor that
has lost its lock to another one removes the lock of that other one, and the next processor that
asks gets it.
-/

namespace ChatFlow

/-- Processors that ask for a lock and release it. -/
structure Contest (ι : Type) where
  store : Store
  time : Instant
  /-- When each processor took the lock that it has not released. -/
  since : ι → Option Instant
  /-- Who put down the lock that is in the store. -/
  owner : Option ι
  /-- Whose lock was released by another processor. -/
  robbed : ι → Bool

namespace Contest

variable {ι : Type} [DecidableEq ι] {clock : Instant → Prop} {stale : Span}
  {conversation other : Conversation} {contest before after : Contest ι} {who : ι}
  {store : Store} {time since : Instant} {allowed : Int}

/-- Nobody has asked yet; there may be a lock from before. -/
def start (store : Store) (time : Instant) : Contest ι where
  store
  time
  since _ := none
  owner := none
  robbed _ := false

/-- A processor asks for the lock. -/
def ask (contest : Contest ι) (stale : Span) (conversation : Conversation) (who : ι) :
    Contest ι :=
  match contest.store.acquireAt conversation contest.time stale with
  | (false, _) => contest
  | (true, store) =>
    { contest with
      store
      since := Function.update contest.since who (some contest.time)
      owner := some who
      robbed := Function.update contest.robbed who false }

/-- A processor releases the lock, whoever put it down. -/
def release (contest : Contest ι) (conversation : Conversation) (who : ι) : Contest ι :=
  { contest with
    store := contest.store.release conversation
    since := Function.update contest.since who none
    owner := none
    robbed := fun other =>
      contest.robbed other || decide (contest.owner = some other ∧ other ≠ who) }

/-- What happens next.  Only who got the lock releases it; everything else that happens in the
store leaves the lock of the conversation alone. -/
inductive Step (clock : Instant → Prop) (stale : Span) (conversation : Conversation)
    (contest : Contest ι) : Contest ι → Prop
  | wait {later : Instant} (forth : contest.time ≤ later) (onClock : clock later) :
      Step clock stale conversation contest { contest with time := later }
  | aside {store : Store}
      (lock_eq : store.lock? conversation = contest.store.lock? conversation) :
      Step clock stale conversation contest { contest with store }
  | ask (who : ι) : Step clock stale conversation contest (contest.ask stale conversation who)
  | release {who : ι} {since : Instant} (got : contest.since who = some since) :
      Step clock stale conversation contest (contest.release conversation who)

/-- A contest comes about from another one. -/
def Reaches (clock : Instant → Prop) (stale : Span) (conversation : Conversation) :
    Contest ι → Contest ι → Prop :=
  Relation.ReflTransGen (Step clock stale conversation)

/-- The processor got the lock no longer ago than allowed, and has not released it. -/
def Holds (contest : Contest ι) (allowed : Int) (who : ι) : Prop :=
  ∃ since, contest.since who = some since ∧ contest.time.since since ≤ allowed

/-! ## Asking and releasing -/

/-- Who does not get the lock changes nothing. -/
theorem ask_of_refused
    (refused : (contest.store.acquireAt conversation contest.time stale).1 = false) :
    contest.ask stale conversation who = contest := by
  rw [ask, Store.acquireAt_of_refused refused]

/-- Who gets the lock owns it from now on. -/
theorem ask_of_taken
    (taken : (contest.store.acquireAt conversation contest.time stale).1 = true) :
    contest.ask stale conversation who =
      { contest with
        store := (contest.store.acquireAt conversation contest.time stale).2
        since := Function.update contest.since who (some contest.time)
        owner := some who
        robbed := Function.update contest.robbed who false } := by
  rcases result : contest.store.acquireAt conversation contest.time stale with ⟨_ | _, store⟩
  · rw [result] at taken
    cases taken
  · rw [ask, result]

/-- Asking for the lock of another conversation leaves this one alone. -/
theorem aside_acquireAt
    (different : conversation ≠ other) :
    Step clock stale conversation contest
      { contest with store := (contest.store.acquireAt other contest.time stale).2 } := by
  apply Step.aside
  cases taken : (contest.store.acquireAt other contest.time stale).1 with
  | false => rw [Store.acquireAt_of_refused taken]
  | true => exact (Store.lock?_acquireAt taken).2.2 _ different

/-- Releasing the lock of another conversation leaves this one alone. -/
theorem aside_release
    (different : conversation ≠ other) :
    Step clock stale conversation contest
      { contest with store := contest.store.release other } :=
  .aside (Store.lock?_release_of_ne different)

/-! ## The owner -/

/-- What holds at every moment: the lock of the owner is there, and who got the lock and was not
robbed is the owner, or got it too long ago. -/
structure Kept (stale : Span) (conversation : Conversation) (contest : Contest ι) : Prop where
  timeStored : contest.time.IsStored
  stored : ∀ {who since}, contest.since who = some since → since.IsStored
  row : ∀ {who}, contest.owner = some who → ∃ since, contest.since who = some since ∧
    contest.store.lock? conversation = some { conversation, since := Timestamp.print since }
  alone : ∀ {who since}, contest.since who = some since → contest.robbed who = false →
    contest.owner = some who ∨ Store.allowedAge stale < contest.time.since since

omit [DecidableEq ι] in
/-- Whose lock is taken over got it too long ago. -/
theorem Kept.old_of_taken
    (kept : Kept stale conversation contest)
    (taken : (contest.store.acquireAt conversation contest.time stale).1 = true)
    (got : contest.since who = some since)
    (spared : contest.robbed who = false) :
    Store.allowedAge stale < contest.time.since since := by
  rcases kept.alone got spared with owns | old
  · obtain ⟨since', got', held⟩ := kept.row owns
    have old := (Store.lock?_acquireAt taken).1 _ held
    obtain rfl : since' = since := by
      rw [got] at got'
      exact (Option.some.inj got').symm
    rwa [Timestamp.parse_print (kept.stored got)] at old
  · exact old

theorem Kept.ask
    (kept : Kept stale conversation contest)
    (who : ι) :
    Kept stale conversation (contest.ask stale conversation who) := by
  cases taken : (contest.store.acquireAt conversation contest.time stale).1 with
  | false => rwa [ask_of_refused taken]
  | true =>
      rw [ask_of_taken taken]
      constructor
      · exact kept.timeStored
      · intro other since got
        by_cases same : other = who
        · obtain rfl : contest.time = since := by simpa [same] using got
          exact kept.timeStored
        · exact kept.stored (by simpa [same] using got)
      · rintro _ ⟨⟩
        exact ⟨contest.time, by simp, (Store.lock?_acquireAt taken).2.1⟩
      · intro other since got spared
        by_cases same : other = who
        · simp [same]
        · right
          exact kept.old_of_taken taken (by simpa [same] using got) (by simpa [same] using spared)

theorem Kept.release
    (kept : Kept stale conversation contest)
    (who : ι) :
    Kept stale conversation (contest.release conversation who) := by
  have got_of {other : ι} {since : Instant}
      (got : (contest.release conversation who).since other = some since) :
      other ≠ who ∧ contest.since other = some since := by
    by_cases same : other = who
    · simp [Contest.release, same] at got
    · simpa [Contest.release, same] using got
  constructor
  · exact kept.timeStored
  · intro other since got
    exact kept.stored (got_of got).2
  · nofun
  · intro other since got spared
    obtain ⟨different, got⟩ := got_of got
    simp only [Contest.release, Bool.or_eq_false_iff, decide_eq_false_iff_not, not_and] at spared
    right
    -- The owner is robbed, so who was spared was not the owner.
    rcases kept.alone got spared.1 with owns | old
    · exact absurd different (spared.2 owns)
    · exact old

theorem Kept.step
    (stored : ∀ now, clock now → now.IsStored)
    (kept : Kept stale conversation before)
    (step : Step clock stale conversation before after) :
    Kept stale conversation after := by
  cases step with
  | @wait later forth onClock =>
      refine { kept with timeStored := stored later onClock, alone := ?_ }
      intro who since got spared
      have forth : before.time.nanos ≤ later.nanos := forth
      refine (kept.alone got spared).imp_right fun old => ?_
      simp only [Instant.since] at old ⊢
      omega
  | aside lock_eq =>
      refine { kept with row := ?_ }
      intro who owns
      rw [lock_eq]
      exact kept.row owns
  | ask who => exact kept.ask who
  | release got => exact kept.release _

end Contest
end ChatFlow
