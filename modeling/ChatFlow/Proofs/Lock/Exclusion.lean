import ChatFlow.Proofs.Lock.Crowd

/-!
# One call at a time

As long as the allowed age of locks fits a signed word in milliseconds and the stored times can be
read back, the calls of a conversation are served one at a time.  Where it does not fit, two calls
can be inside at once.
-/

namespace ChatFlow
namespace Crowd

open Process

variable {ι : Type} [DecidableEq ι] {site : Site} {engine : ι → Engine} {request : ι → Request}
  {crowd before after : Crowd ι} {caller first second : ι} {time later : Instant} {scene : Scene}
  {conversation : Conversation}

/-! ## Entering -/

/-- Who may take the lock can come in. -/
theorem exists_enter
    {refusal : Verdict}
    (asks : (before.rest caller).Asks conversation refusal)
    (taken : (before.scene.store.acquireAt conversation before.time site.stale).1 = true) :
    ∃ after, before.Calls site caller after ∧
      after.phase = Function.update before.phase caller (.inside before.time) ∧
      after.scene = before.scene.withStore
        (before.scene.store.acquireAt conversation before.time site.stale).2 ∧
      after.time = before.time ∧
      ∀ other, other ≠ caller → after.rest other = before.rest other := by
  obtain ⟨rest, rest_eq, _⟩ := asks
  have served : before.scene.serve site.library site.stale before.time {}
      (.acquire conversation) = (.ok true, before.scene.withStore
        (before.scene.store.acquireAt conversation before.time site.stale).2) := by
    simp [Scene.serve, taken]
  have well : (site.moment before.time).Answers (.acquire conversation) before.scene
      (before.scene.serve site.library site.stale before.time {} (.acquire conversation)).1
      (before.scene.serve site.library site.stale before.time {} (.acquire conversation)).2 :=
    .well rfl {}
  rw [served] at well
  have granted : site.Grants before.time (.acquire conversation) before.scene (.ok true)
      (before.scene.withStore
        (before.scene.store.acquireAt conversation before.time site.stale).2) :=
    ⟨well, fun _ => ⟨{}, by rw [served], by rw [served]⟩⟩
  refine ⟨_, .call rest_eq granted, rfl, rfl, rfl, ?_⟩
  intro other different
  exact Function.update_of_ne different _ _

/-- Where the allowed age is shorter than meant, two calls can be inside at once: the second one
takes the lock over while the first one may still hold it. -/
theorem exists_two_inside
    (different : second ≠ first)
    (same : (request second).conversation = (request first).conversation)
    (free : scene.store.lock? (request first).conversation = none)
    (onClock : site.clock later)
    (forth : 0 ≤ later.nanos)
    (inTime : later.nanos ≤ site.stale.nanos)
    (old : Store.allowedAge site.stale < later.nanos) :
    ∃ crowd, Reaches site (start engine request ⟨0⟩ scene) crowd ∧
      crowd.phase first = .inside ⟨0⟩ ∧ crowd.phase second = .inside later := by
  have taken : ((start engine request ⟨0⟩ scene).scene.store.acquireAt
      (request first).conversation (start engine request ⟨0⟩ scene).time site.stale).1 = true := by
    change (scene.store.acquireAt _ _ _).1 = true
    rw [Store.acquireAt_of_free free]
  obtain ⟨entered, calls, phase_eq, scene_eq, time_eq, rests⟩ :=
    exists_enter ((engine first).asks_serve (request first)) taken
  obtain ⟨_, held, _⟩ := Store.lock?_acquireAt taken
  have waits : Step site entered { entered with time := later } := by
    refine .wait ?_ onClock ?_
    · rw [time_eq]
      exact forth
    · intro caller since inside
      rw [phase_eq] at inside
      by_cases isFirst : caller = first
      · rw [isFirst, Function.update_self] at inside
        cases inside
        change later.nanos ≤ 0 + site.stale.nanos
        omega
      · rw [Function.update_of_ne isFirst] at inside
        cases inside
  have takenOver : (entered.scene.store.acquireAt (request second).conversation later
      site.stale).1 = true := by
    rw [scene_eq, same]
    refine congrArg Prod.fst (Store.acquireAt_of_old held ?_)
    have readable : Timestamp.parse (Timestamp.print ⟨0⟩) = ⟨0⟩ :=
      Timestamp.parse_print (by decide)
    change _ < later.nanos - (Timestamp.parse (Timestamp.print ⟨0⟩)).nanos
    rw [readable]
    change _ < later.nanos - 0
    omega
  have asks : (entered.rest second).Asks (request second).conversation (request second).busy := by
    rw [rests second different]
    exact (engine second).asks_serve (request second)
  obtain ⟨crowd, callsThen, phaseThen_eq, _⟩ : ∃ after,
      Calls site second { entered with time := later } after ∧
      after.phase = Function.update entered.phase second (.inside later) ∧ _ :=
    exists_enter asks takenOver
  refine ⟨crowd, ((Relation.ReflTransGen.single (.call calls)).tail waits).tail (.call callsThen),
    ?_, ?_⟩
  · rw [phaseThen_eq, Function.update_of_ne different.symm, phase_eq, Function.update_self]
    rfl
  · rw [phaseThen_eq, Function.update_self]

/-- Two calls can be inside at once whenever the allowed age does not fit a signed word in
milliseconds, as long as no attempt to take the lock gives up on what is left of it. -/
theorem exists_two_inside_of_overflow
    {seconds : Nat}
    (stale_eq : site.stale = Span.ofSeconds seconds)
    (overflow : Word.signedCount ≤ seconds * 1000)
    (always : ∀ now, site.clock now)
    (different : second ≠ first)
    (same : (request second).conversation = (request first).conversation)
    (free : scene.store.lock? (request first).conversation = none) :
    ∃ crowd later, Reaches site (start engine request ⟨0⟩ scene) crowd ∧
      crowd.phase first = .inside ⟨0⟩ ∧ crowd.phase second = .inside later := by
  have short : Store.allowedAge site.stale < site.stale.nanos := by
    rw [stale_eq]
    refine Int.not_le.mp fun accurate => ?_
    have fits := (Store.le_allowedAge_iff seconds).mp accurate
    omega
  let later : Instant := ⟨max 0 (Store.allowedAge site.stale + 1)⟩
  have forth : 0 ≤ later.nanos := Int.le_max_left _ _
  have old : Store.allowedAge site.stale < later.nanos :=
    Int.lt_of_lt_of_le (Int.lt_succ _) (Int.le_max_right _ _)
  have inTime : later.nanos ≤ site.stale.nanos := by
    refine Int.max_le.mpr ⟨?_, short⟩
    omega
  obtain ⟨crowd, reaches, firstInside, secondInside⟩ :=
    exists_two_inside different same free (always later) forth inTime old
  exact ⟨crowd, later, reaches, firstInside, secondInside⟩

/-! ## Exclusion -/

/-- Who asks while another one is inside is refused. -/
theorem Guarded.refused_of_inside
    {other : ι}
    {since : Instant}
    (guarded : Guarded site request before)
    (accurate : (site.stale.nanos : Int) ≤ Store.allowedAge site.stale)
    (calls : before.Calls site caller after)
    (asking : before.phase caller = .asking)
    (inside : before.phase other = .inside since)
    (same : (request other).conversation = (request caller).conversation) :
    after.phase caller = .refused := by
  obtain ⟨passes, _⟩ := guarded.passes calls
  rw [asking] at passes
  generalize after.phase caller = phase, after.scene = scene at passes
  cases passes with
  | refuse => rfl
  | enter taken => exact (guarded.not_inside accurate taken inside same).elim

/-- Who is refused changes nothing but the events. -/
theorem Guarded.scene_of_refused
    (guarded : Guarded site request before)
    (calls : before.Calls site caller after)
    (refused : after.phase caller = .refused) :
    after.scene = { before.scene with events := after.scene.events } := by
  obtain ⟨passes, _⟩ := guarded.passes calls
  rw [refused] at passes
  generalize before.phase caller = phase, after.scene = scene at passes
  cases passes with
  | refuse => rfl
  | tell => rfl

/-- Who leaves removes the lock. -/
theorem Guarded.leaves
    {since : Instant}
    (guarded : Guarded site request before)
    (calls : before.Calls site caller after)
    (inside : before.phase caller = .inside since) :
    after.phase caller = .inside since ∨ after.phase caller = .left ∧
      after.scene.store.lock? (request caller).conversation = none := by
  obtain ⟨passes, _⟩ := guarded.passes calls
  rw [inside] at passes
  generalize after.phase caller = phase, after.scene = scene at passes
  cases passes with
  | work => exact .inl rfl
  | leave => exact .inr ⟨rfl, Store.lock?_release⟩

/-- However the calls of a crowd take turns, no two that are about the same conversation are inside
at once.  Who asks while another one is inside is refused; who is refused changes nothing but the
events and answers that the conversation is busy; who is inside does not end there, and removes the
lock on leaving. -/
theorem one_at_a_time
    {seconds : Nat}
    (stale_eq : site.stale = Span.ofSeconds seconds)
    (fits : seconds * 1000 < Word.signedCount)
    (readable : ∀ now, site.clock now → now.IsStored)
    (onClock : site.clock time)
    (reaches : Reaches site (start engine request time scene) crowd) :
    (∀ first second since later, crowd.phase first = .inside since →
      crowd.phase second = .inside later →
      (request first).conversation = (request second).conversation → first = second) ∧
    (∀ caller other since after, crowd.Calls site caller after → crowd.phase caller = .asking →
      crowd.phase other = .inside since →
      (request other).conversation = (request caller).conversation →
      after.phase caller = .refused) ∧
    (∀ caller after, crowd.Calls site caller after → after.phase caller = .refused →
      after.scene = { crowd.scene with events := after.scene.events }) ∧
    (∀ caller, crowd.phase caller = .refused →
      (crowd.rest caller).Gives (request caller).busy) ∧
    (∀ caller since after, crowd.Calls site caller after → crowd.phase caller = .inside since →
      after.phase caller = .inside since ∨ after.phase caller = .left ∧
        after.scene.store.lock? (request caller).conversation = none) ∧
    ∀ caller result, crowd.rest caller = orHalt result →
      crowd.phase caller = .refused ∨ crowd.phase caller = .left := by
  have accurate : (site.stale.nanos : Int) ≤ Store.allowedAge site.stale := by
    rw [stale_eq]
    exact (Store.le_allowedAge_iff seconds).mpr fits
  have guarded : Guarded site request crowd :=
    (guarded_start onClock).reaches accurate readable reaches
  exact ⟨guarded.alone,
    fun _ _ _ _ calls asking inside same =>
      guarded.refused_of_inside accurate calls asking inside same,
    fun _ _ => guarded.scene_of_refused,
    fun _ => guarded.gives_of_refused,
    fun _ _ _ => guarded.leaves,
    fun _ _ => guarded.of_ended⟩

end Crowd

/-- A site where nothing fails and time stands still. -/
def Site.still (seconds : Nat) : Site where
  stale := Span.ofSeconds seconds
  faults _ := False
  clock now := now = ⟨0⟩

/-- Two messages to one conversation. -/
def Request.twin (_ : Bool) : Request :=
  .message { conversation := { phone := "2", device := "1" }, text := "go" }

namespace Crowd

/-- Of two messages the second one is refused while the first one is inside. -/
theorem one_at_a_time_twin :
    ∃ crowd : Crowd Bool,
      Reaches (.still 30) (start (fun _ => {}) Request.twin ⟨0⟩ {}) crowd ∧
      crowd.phase false = .inside ⟨0⟩ ∧
      ∀ after, crowd.Calls (.still 30) true after → after.phase true = .refused := by
  obtain ⟨crowd, calls, phase_eq, _⟩ : ∃ after,
      Calls (.still 30) false (start (fun _ => {}) Request.twin ⟨0⟩ {}) after ∧
      after.phase = Function.update (fun _ => .asking) false (.inside ⟨0⟩) ∧ _ :=
    exists_enter (Engine.asks_serve {} (Request.twin false)) rfl
  have readable (now : Instant) (onClock : (Site.still 30).clock now) : now.IsStored := by
    rw [show now = ⟨0⟩ from onClock]
    decide
  have reaches : Reaches (.still 30) (start (fun _ => {}) Request.twin ⟨0⟩ {}) crowd :=
    .single (.call calls)
  have inside : crowd.phase false = .inside ⟨0⟩ := by
    rw [phase_eq, Function.update_self]
  have asking : crowd.phase true = .asking := by
    rw [phase_eq, Function.update_of_ne (by decide)]
  have facts := one_at_a_time rfl (by decide) readable rfl reaches
  exact ⟨crowd, reaches, inside, fun after callsThen =>
    facts.2.1 true false ⟨0⟩ after callsThen asking inside rfl⟩

/-- When the allowed age does not fit a signed word in milliseconds, both messages are inside at
once. -/
theorem two_inside_twin :
    ∃ crowd : Crowd Bool,
      Reaches (.still 9223372036854775807) (start (fun _ => {}) Request.twin ⟨0⟩ {}) crowd ∧
      crowd.phase false = .inside ⟨0⟩ ∧ crowd.phase true = .inside ⟨0⟩ :=
  exists_two_inside (by decide) rfl rfl rfl (by decide) (by decide) (by decide)

end Crowd
end ChatFlow
