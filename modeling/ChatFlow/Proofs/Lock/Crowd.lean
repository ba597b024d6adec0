import ChatFlow.Proofs.Lock.Calls
import ChatFlow.Proofs.Lock.Rows

/-!
# Many calls at once

Any number of engines serve requests over one store.  Each makes its calls when it likes, and
between any two of them others may make theirs.  A call stands somewhere towards the lock of its
conversation: it has not asked for it, it was refused, it is inside, or it has left.  What is left
of it fits that phase, and whoever is inside is so alone, under a lock that carries the time at
which it came in.
-/

namespace ChatFlow

open Process

/-- Where a call stands towards the lock of its conversation. -/
inductive Phase where
  /-- It has not asked for the lock. -/
  | asking
  /-- It did not get the lock. -/
  | refused
  /-- It got the lock at some time and has not released it. -/
  | inside (since : Instant)
  /-- It has released the lock. -/
  | left
deriving DecidableEq

namespace Phase

/-- The phase after a call at a time. -/
def next (phase : Phase) (now : Instant) : (request : Call) → request.Outcome → Phase
  | .acquire _, .ok true => .inside now
  | .acquire _, .ok false => .refused
  | .release _, _ => .left
  | _, _ => phase

/-- What is left of a process fits its phase. -/
def Fits (phase : Phase) (conversation : Conversation) (refusal : Verdict)
    (rest : Process Verdict) : Prop :=
  match phase with
  | .asking => rest.Asks conversation refusal
  | .refused => rest.Gives refusal
  | .inside _ => rest.Releases conversation
  | .left => rest.LockFree

/-- A call that is not about locks changes no phase. -/
theorem next_of_isLock
    {phase : Phase}
    {now : Instant}
    {request : Call}
    {outcome : request.Outcome}
    (isLock : request.isLock = false) :
    phase.next now request outcome = phase := by
  cases request with
  | acquire | release => cases isLock
  | _ => rfl

end Phase

/-- How calls are answered at a time: those about locks go well, and the others may fail. -/
def Site.Grants
    (site : Site) (now : Instant) (request : Call) (scene : Scene) (outcome : request.Outcome)
    (after : Scene) : Prop :=
  (site.moment now).Answers request scene outcome after ∧
    (request.isLock = true → ∃ choice,
      outcome = (scene.serve site.library site.stale now choice request).1 ∧
        after = (scene.serve site.library site.stale now choice request).2)

/-- How a call changes the scene, and where the caller stands before and after. -/
inductive Phase.Passes (site : Site) (conversation : Conversation) (now : Instant)
    (before : Scene) : Scene → Phase → Phase → Prop
  /-- It does not get the lock, and nothing happens. -/
  | refuse : Passes site conversation now before before .asking .refused
  /-- It gets the lock. -/
  | enter (taken : (before.store.acquireAt conversation now site.stale).1 = true) :
      Passes site conversation now before
        (before.withStore (before.store.acquireAt conversation now site.stale).2)
        .asking (.inside now)
  /-- It says that it was refused. -/
  | tell {event : Event} :
      Passes site conversation now before { before with events := before.events ++ [event] }
        .refused .refused
  /-- It works under the lock. -/
  | work {after : Scene} {since : Instant} (locks : after.store.locks = before.store.locks) :
      Passes site conversation now before after (.inside since) (.inside since)
  /-- It releases the lock. -/
  | leave {since : Instant} :
      Passes site conversation now before (before.withStore (before.store.release conversation))
        (.inside since) .left
  /-- It comes to its end. -/
  | finish {after : Scene} (locks : after.store.locks = before.store.locks) :
      Passes site conversation now before after .left .left

/-- A call for a lock is refused or takes the lock. -/
theorem Scene.serve_acquire
    (scene : Scene)
    (library : Flow.Library)
    (stale : Span)
    (now : Instant)
    (choice : Choice)
    (conversation : Conversation) :
    scene.serve library stale now choice (.acquire conversation) = (.ok false, scene) ∨
      (scene.store.acquireAt conversation now stale).1 = true ∧
        scene.serve library stale now choice (.acquire conversation) =
          (.ok true, scene.withStore (scene.store.acquireAt conversation now stale).2) := by
  cases contended : choice.contended with
  | true =>
      left
      simp only [serve, contended, if_true]
  | false =>
      cases taken : (scene.store.acquireAt conversation now stale).1 with
      | true =>
          right
          refine ⟨rfl, ?_⟩
          rw [← taken]
          simp [serve, contended]
      | false =>
          left
          simp [serve, contended, Store.acquireAt_of_refused taken, withStore]

/-- From a phase that fits, a call leads to a phase that fits. -/
theorem Phase.Fits.passes
    {site : Site}
    {phase : Phase}
    {conversation : Conversation}
    {refusal : Verdict}
    {request : Call}
    {rest : request.Outcome → Process Verdict}
    {now : Instant}
    {scene after : Scene}
    {outcome : request.Outcome}
    (fits : phase.Fits conversation refusal (.step request rest))
    (granted : site.Grants now request scene outcome after) :
    Passes site conversation now scene after phase (phase.next now request outcome) ∧
      (phase.next now request outcome).Fits conversation refusal (rest outcome) := by
  cases phase with
  | asking =>
      obtain ⟨other, same, releases, gives⟩ := fits
      cases same
      obtain ⟨choice, rfl, rfl⟩ := granted.2 rfl
      rcases Scene.serve_acquire scene site.library site.stale now choice conversation with
        refused | ⟨taken, served⟩
      · rw [refused]
        exact ⟨.refuse, gives⟩
      · rw [served]
        exact ⟨.enter taken, releases⟩
  | refused =>
      rcases fits with same | ⟨event, same⟩
      · cases same
      · cases same
        have told : after = { scene with events := scene.events ++ [event] } := by
          rcases granted.1.inversion with ⟨_, _, _, _, told⟩ | ⟨_, _, ⟨⟩, _⟩
          exact told
        subst told
        exact ⟨.tell, .inl rfl⟩
  | inside since =>
      rcases fits with ⟨rfl, lockFree⟩ | ⟨isLock, releases⟩
      · obtain ⟨choice, rfl, rfl⟩ := granted.2 rfl
        exact ⟨.leave, lockFree _⟩
      · rw [next_of_isLock isLock]
        exact ⟨.work (granted.1.locks_eq isLock), releases outcome⟩
  | left =>
      rw [next_of_isLock fits.1]
      exact ⟨.finish (granted.1.locks_eq fits.1), fits.2 outcome trivial⟩

/-- Calls that are served at once. -/
structure Crowd (ι : Type) where
  /-- The time. -/
  time : Instant
  /-- The scene. -/
  scene : Scene
  /-- What is left of each call. -/
  rest : ι → Process Verdict
  /-- Where each call stands. -/
  phase : ι → Phase

namespace Crowd

variable {ι : Type} {site : Site} {engine : ι → Engine} {request : ι → Request}
  {crowd before after : Crowd ι} {caller : ι} {now : Instant}

/-- A crowd in which nobody has made a call. -/
def start
    (engine : ι → Engine) (request : ι → Request) (time : Instant) (scene : Scene) : Crowd ι where
  time := time
  scene := scene
  rest caller := (engine caller).serve (request caller)
  phase _ := .asking

/-- Every call stands where it should, and whoever is inside is so alone, under a lock that
carries the time at which it came in. -/
structure Guarded (site : Site) (request : ι → Request) (crowd : Crowd ι) : Prop where
  /-- What is left of each call fits its phase. -/
  fits : ∀ caller, (crowd.phase caller).Fits (request caller).conversation (request caller).busy
    (crowd.rest caller)
  /-- Whoever is inside holds a lock. -/
  held : ∀ caller since, crowd.phase caller = .inside since →
    crowd.scene.store.lock? (request caller).conversation =
      some { conversation := (request caller).conversation, since := Timestamp.print since }
  /-- The lock can be read. -/
  stored : ∀ caller since, crowd.phase caller = .inside since → since.IsStored
  /-- The lock is not too old. -/
  young : ∀ caller since, crowd.phase caller = .inside since →
    crowd.time ≤ since.after site.stale
  /-- Nobody else is inside. -/
  alone : ∀ first second since later, crowd.phase first = .inside since →
    crowd.phase second = .inside later →
    (request first).conversation = (request second).conversation → first = second
  /-- The clock can show the time. -/
  onClock : site.clock crowd.time

/-- At the start the crowd is guarded. -/
theorem guarded_start
    {time : Instant}
    {scene : Scene}
    (onClock : site.clock time) :
    Guarded site request (.start engine request time scene) where
  fits caller := (engine caller).asks_serve (request caller)
  held := nofun
  stored := nofun
  young := nofun
  alone := nofun
  onClock := onClock

/-- While somebody is inside, nobody else takes the lock. -/
theorem Guarded.not_inside
    {conversation : Conversation}
    {since : Instant}
    (guarded : Guarded site request before)
    (accurate : (site.stale.nanos : Int) ≤ Store.allowedAge site.stale)
    (taken : (before.scene.store.acquireAt conversation before.time site.stale).1 = true)
    (inside : before.phase caller = .inside since) :
    (request caller).conversation ≠ conversation := by
  rintro rfl
  have old := (Store.lock?_acquireAt taken).1 _ (guarded.held caller since inside)
  rw [Timestamp.parse_print (guarded.stored caller since inside)] at old
  have young : before.time.nanos ≤ since.nanos + site.stale.nanos :=
    guarded.young caller since inside
  change _ < before.time.nanos - since.nanos at old
  omega

/-- Who is refused answers that the conversation is busy. -/
theorem Guarded.gives_of_refused
    (guarded : Guarded site request crowd)
    (refused : crowd.phase caller = .refused) :
    (crowd.rest caller).Gives (request caller).busy := by
  have gives := guarded.fits caller
  rw [refused] at gives
  exact gives

/-- Who has come to an end was refused or has left. -/
theorem Guarded.of_ended
    {result : Except Fault Verdict}
    (guarded : Guarded site request crowd)
    (ended : crowd.rest caller = orHalt result) :
    crowd.phase caller = .refused ∨ crowd.phase caller = .left := by
  have fits := guarded.fits caller
  rw [ended] at fits
  generalize crowd.phase caller = phase at fits
  cases phase with
  | refused => exact .inl rfl
  | left => exact .inr rfl
  | asking =>
      obtain ⟨_, same, _⟩ := fits
      cases result with
      | ok value => cases same
      | error fault => cases same
  | inside since =>
      cases result with
      | ok value => exact fits.elim
      | error fault => exact fits.elim

/-- The crowd stays guarded while nobody comes in and no lock of those inside changes. -/
theorem Guarded.keep
    (guarded : Guarded site request before)
    (fits : ∀ caller, (after.phase caller).Fits (request caller).conversation
      (request caller).busy (after.rest caller))
    (sameTime : after.time = before.time)
    (stays : ∀ caller since, after.phase caller = .inside since →
      before.phase caller = .inside since ∧
        after.scene.store.lock? (request caller).conversation =
          before.scene.store.lock? (request caller).conversation) :
    Guarded site request after where
  fits := fits
  held caller since inside := by
    obtain ⟨wasInside, sameLock⟩ := stays caller since inside
    rw [sameLock]
    exact guarded.held caller since wasInside
  stored caller since inside := guarded.stored caller since (stays caller since inside).1
  young caller since inside := by
    rw [sameTime]
    exact guarded.young caller since (stays caller since inside).1
  alone first second since later firstInside secondInside same :=
    guarded.alone first second since later (stays first since firstInside).1
      (stays second later secondInside).1 same
  onClock := by
    rw [sameTime]
    exact guarded.onClock

/-- The crowd stays guarded when somebody takes the lock and comes in. -/
theorem Guarded.enter
    (guarded : Guarded site request before)
    (accurate : (site.stale.nanos : Int) ≤ Store.allowedAge site.stale)
    (readable : ∀ now, site.clock now → now.IsStored)
    (taken : (before.scene.store.acquireAt (request caller).conversation before.time
      site.stale).1 = true)
    (fits : ∀ caller, (after.phase caller).Fits (request caller).conversation
      (request caller).busy (after.rest caller))
    (sameTime : after.time = before.time)
    (came : after.phase caller = .inside before.time)
    (found : after.scene = before.scene.withStore
      (before.scene.store.acquireAt (request caller).conversation before.time site.stale).2)
    (others : ∀ other, other ≠ caller → after.phase other = before.phase other) :
    Guarded site request after := by
  obtain ⟨_, lock, otherLocks⟩ := Store.lock?_acquireAt taken
  have unmoved {other : ι} {since : Instant} (different : other ≠ caller)
      (inside : after.phase other = .inside since) : before.phase other = .inside since := by
    rw [← others other different]
    exact inside
  have apart {other : ι} {since : Instant} (different : other ≠ caller)
      (inside : after.phase other = .inside since) :
      (request other).conversation ≠ (request caller).conversation :=
    guarded.not_inside accurate taken (unmoved different inside)
  have since_eq {since : Instant} (inside : after.phase caller = .inside since) :
      since = before.time :=
    (Phase.inside.inj (came.symm.trans inside)).symm
  refine ⟨fits, ?_, ?_, ?_, ?_, ?_⟩
  · intro other since inside
    rw [found]
    by_cases same : other = caller
    · subst same
      rw [since_eq inside]
      exact lock
    · exact (otherLocks _ (apart same inside)).trans
        (guarded.held other since (unmoved same inside))
  · intro other since inside
    by_cases same : other = caller
    · subst same
      rw [since_eq inside]
      exact readable _ guarded.onClock
    · exact guarded.stored other since (unmoved same inside)
  · intro other since inside
    rw [sameTime]
    by_cases same : other = caller
    · subst same
      rw [since_eq inside]
      exact Instant.le_after _ _
    · exact guarded.young other since (unmoved same inside)
  · intro first second since later firstInside secondInside sameConversation
    by_cases isFirst : first = caller
    · by_cases isSecond : second = caller
      · exact isFirst.trans isSecond.symm
      · subst isFirst
        exact (apart isSecond secondInside sameConversation.symm).elim
    · by_cases isSecond : second = caller
      · subst isSecond
        exact (apart isFirst firstInside sameConversation).elim
      · exact guarded.alone first second since later (unmoved isFirst firstInside)
          (unmoved isSecond secondInside) sameConversation
  · rw [sameTime]
    exact guarded.onClock

variable [DecidableEq ι]

/-- A caller makes its next call. -/
inductive Calls (site : Site) (caller : ι) (before : Crowd ι) : Crowd ι → Prop
  | call {request : Call} {rest : request.Outcome → Process Verdict} {outcome : request.Outcome}
      {after : Scene} (rest_eq : before.rest caller = .step request rest)
      (granted : site.Grants before.time request before.scene outcome after) :
      Calls site caller before
        { before with
          scene := after
          rest := Function.update before.rest caller (rest outcome)
          phase := Function.update before.phase caller
            ((before.phase caller).next before.time request outcome) }

/-- A caller makes a call, or time passes; no lock is held for longer than it may be. -/
inductive Step (site : Site) (before : Crowd ι) : Crowd ι → Prop
  | call {after : Crowd ι} {caller : ι} (calls : before.Calls site caller after) :
      Step site before after
  | wait {now : Instant} (later : before.time ≤ now) (onClock : site.clock now)
      (inTime : ∀ caller since, before.phase caller = .inside since →
        now ≤ since.after site.stale) :
      Step site before { before with time := now }

/-- Any number of calls are made while time passes. -/
abbrev Reaches (site : Site) : Crowd ι → Crowd ι → Prop :=
  Relation.ReflTransGen (Step site)

/-- How a call goes in a guarded crowd: the caller passes from its phase to a phase that what is
left of it fits, and the others stay where they are. -/
theorem Guarded.passes
    (guarded : Guarded site request before)
    (calls : before.Calls site caller after) :
    Phase.Passes site (request caller).conversation before.time before.scene after.scene
        (before.phase caller) (after.phase caller) ∧
      (after.phase caller).Fits (request caller).conversation (request caller).busy
        (after.rest caller) ∧
      (∀ other, other ≠ caller → after.phase other = before.phase other ∧
        after.rest other = before.rest other) ∧
      after.time = before.time := by
  cases calls with
  | call rest_eq granted =>
      have fits := guarded.fits caller
      rw [rest_eq] at fits
      obtain ⟨passes, fitsThen⟩ := fits.passes granted
      refine ⟨?_, ?_, ?_, rfl⟩
      · simpa using passes
      · simpa using fitsThen
      · intro other different
        simp [different]

/-- A call leaves the crowd guarded. -/
theorem Guarded.call
    (guarded : Guarded site request before)
    (accurate : (site.stale.nanos : Int) ≤ Store.allowedAge site.stale)
    (readable : ∀ now, site.clock now → now.IsStored)
    (calls : before.Calls site caller after) :
    Guarded site request after := by
  obtain ⟨passes, fits, others, sameTime⟩ := guarded.passes calls
  have fitsAll (other : ι) : (after.phase other).Fits (request other).conversation
      (request other).busy (after.rest other) := by
    by_cases same : other = caller
    · rw [same]
      exact fits
    · rw [(others other same).1, (others other same).2]
      exact guarded.fits other
  have unmoved {other : ι} {since : Instant} (different : other ≠ caller)
      (inside : after.phase other = .inside since) : before.phase other = .inside since := by
    rw [← (others other different).1]
    exact inside
  have notCaller {other : ι} {since : Instant} {phase : Phase} (stands : after.phase caller = phase)
      (outside : ∀ since, phase ≠ .inside since) (inside : after.phase other = .inside since) :
      other ≠ caller := by
    rintro rfl
    exact outside since (stands.symm.trans inside)
  generalize stands : before.phase caller = phase at passes
  generalize standsThen : after.phase caller = phaseThen at passes
  generalize found : after.scene = scene at passes
  cases passes with
  | refuse =>
      refine guarded.keep fitsAll sameTime fun other since inside => ?_
      exact ⟨unmoved (notCaller standsThen nofun inside) inside, by rw [found]⟩
  | enter taken =>
      exact guarded.enter accurate readable taken fitsAll sameTime standsThen found
        fun other different => (others other different).1
  | tell =>
      refine guarded.keep fitsAll sameTime fun other since inside => ?_
      exact ⟨unmoved (notCaller standsThen nofun inside) inside, by rw [found]⟩
  | work locks =>
      refine guarded.keep fitsAll sameTime fun other since inside => ?_
      refine ⟨?_, by rw [found]; exact Store.lock?_congr locks⟩
      by_cases same : other = caller
      · subst same
        rw [standsThen] at inside
        cases inside
        exact stands
      · exact unmoved same inside
  | leave =>
      refine guarded.keep fitsAll sameTime fun other since inside => ?_
      have different := notCaller standsThen nofun inside
      have wasInside := unmoved different inside
      refine ⟨wasInside, ?_⟩
      rw [found]
      refine Store.lock?_release_of_ne fun same => ?_
      exact different (guarded.alone other caller _ _ wasInside stands same)
  | finish locks =>
      refine guarded.keep fitsAll sameTime fun other since inside => ?_
      exact ⟨unmoved (notCaller standsThen nofun inside) inside,
        by rw [found]; exact Store.lock?_congr locks⟩

/-- A crowd stays guarded. -/
theorem Guarded.reaches
    (guarded : Guarded site request before)
    (accurate : (site.stale.nanos : Int) ≤ Store.allowedAge site.stale)
    (readable : ∀ now, site.clock now → now.IsStored)
    (reaches : Reaches site before after) :
    Guarded site request after := by
  induction reaches with
  | refl => exact guarded
  | tail _ step inductionHypothesis =>
      cases step with
      | call calls => exact inductionHypothesis.call accurate readable calls
      | wait later onClock inTime =>
          exact { inductionHypothesis with young := inTime, onClock := onClock }

end Crowd
end ChatFlow
