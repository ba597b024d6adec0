import ChatFlow.Ingress.Pool
import Mathlib.Logic.Relation

/-!
# Workers at a queue

Any number of workers serve one queue.  Messages are submitted, workers take them and try to handle
them, and all of this happens in any order.  A `Shift` is what there is at one moment, with a diary:
what was accepted, what came into the queue, what was taken from it, and which tries have ended.
-/

namespace ChatFlow
namespace Ingress

/-! ## Pools -/

namespace Pool

/-- A message is refused by a pool that is cancelled or closed, or that has no free slot, and
otherwise stands behind the others. -/
theorem submit_cases (pool : Pool) (message : InboundMessage) :
    (pool.cancelled || pool.closed) = true ∧ pool.submit message = .error .poolClosed ∨
    (pool.cancelled || pool.closed) = false ∧ pool.capacity ≤ pool.queue.length ∧
      pool.submit message = .error .queueFull ∨
    (pool.cancelled || pool.closed) = false ∧ pool.queue.length < pool.capacity ∧
      pool.submit message = .ok { pool with
        queue := pool.queue ++ [{ number := pool.accepted, message, attempt := 1 }]
        accepted := pool.accepted + 1 } := by
  cases cancelled : pool.cancelled with
  | true => exact .inl ⟨rfl, by simp [submit, cancelled]⟩
  | false =>
      cases closed : pool.closed with
      | true => exact .inl ⟨rfl, by simp [submit, closed]⟩
      | false =>
          right
          rcases Nat.lt_or_ge pool.queue.length pool.capacity with free | full
          · refine .inr ⟨rfl, free, ?_⟩
            simp [submit, push?, cancelled, closed, Nat.not_le.mpr free]
          · exact .inl ⟨rfl, full, by simp [submit, push?, cancelled, closed, full]⟩

/-- A try that failed is followed by another one if there are tries left and a free slot; in all
other cases the pool stays as it is. -/
theorem settle_cases (pool : Pool) (job : Job) (verdict : Verdict) :
    (∃ error, verdict = .failed error ∧ job.attempt < pool.maxAttempts ∧ pool.closed = false ∧
      pool.queue.length < pool.capacity ∧
      pool.settle job verdict = (.retried, { pool with
        queue := pool.queue ++ [{ job with attempt := job.attempt + 1 }] })) ∨
    (pool.settle job verdict).1 ≠ .retried ∧ (pool.settle job verdict).2 = pool := by
  cases verdict with
  | done | panicked reason => exact .inr ⟨nofun, rfl⟩
  | failed error =>
      by_cases left : job.attempt < pool.maxAttempts
      · by_cases full : pool.closed || pool.capacity ≤ pool.queue.length
        · exact .inr (by simp [settle, left, push?, full])
        · refine .inl ⟨error, rfl, left, ?_, ?_, by simp [settle, left, push?, full]⟩
          · simp_all
          · simp_all
      · exact .inr (by simp [settle, left])

/-- What a fate says about the try that led to it. -/
def Tells (pool : Pool) (job : Job) (verdict : Verdict) : Fate → Prop
  | .finished => verdict = .done
  | .retried => (∃ error, verdict = .failed error) ∧ job.attempt < pool.maxAttempts
  | .givenUp => (∃ error, verdict = .failed error) ∧ pool.maxAttempts ≤ job.attempt
  | .dropped =>
      (∃ error, verdict = .failed error) ∧ job.attempt < pool.maxAttempts ∧
        (pool.closed = true ∨ pool.capacity ≤ pool.queue.length)
  | .lost => ∃ reason, verdict = .panicked reason

/-- What becomes of a message is told by the verdict, the tries that are left and the slots. -/
theorem tells_settle (pool : Pool) (job : Job) (verdict : Verdict) :
    pool.Tells job verdict (pool.settle job verdict).1 := by
  cases verdict with
  | done => rfl
  | panicked reason => exact ⟨reason, rfl⟩
  | failed error =>
      by_cases left : job.attempt < pool.maxAttempts
      · by_cases full : pool.closed = true ∨ pool.capacity ≤ pool.queue.length
        · simp [settle, left, push?, full, Tells]
        · simp [settle, left, push?, full, Tells]
      · simp [settle, left, Tells, Nat.le_of_not_lt left]

/-- A pool has the bounds that some settings ask for. -/
structure Obeys (pool : Pool) (settings : IngressSettings) : Prop where
  capacity_eq : pool.capacity = max settings.queueCapacity 1
  maxAttempts_eq : pool.maxAttempts = max settings.maxAttempts 1

end Pool

/-! ## Shifts -/

/-- How messages are handled: each try has a state of its own, and works on a world that it shares
with others. -/
structure Handler (σ τ : Type) where
  /-- A try to handle a message may begin so. -/
  begins : InboundMessage → τ → Prop
  /-- A try may go on so, and change the world. -/
  goesOn : τ → σ → τ → σ → Prop
  /-- A try may end so. -/
  ends : τ → Verdict → Prop

/-- A try to handle a message. -/
structure Try (τ : Type) where
  job : Job
  /-- The state of the handler. -/
  work : τ

/-- A try that has ended. -/
structure EndedTry (τ : Type) extends Try τ where
  verdict : Verdict
  /-- The pool at that moment. -/
  pool : Pool

/-- What became of the message. -/
def EndedTry.fate {τ : Type} (ended : EndedTry τ) : Fate :=
  (ended.pool.settle ended.job ended.verdict).1

/-- The workers of a pool at one moment, and the diary of what has happened so far. -/
structure Shift (σ τ : Type) where
  pool : Pool
  /-- The number of workers that are left. -/
  staff : Nat
  /-- What those of them do who have something to do. -/
  busy : List (Try τ) := []
  /-- What handlers work on. -/
  world : σ
  /-- The messages that were accepted, in this order. -/
  accepted : List InboundMessage := []
  /-- The jobs that came into the queue, in this order. -/
  entered : List Job := []
  /-- The jobs that were taken from the queue, in this order. -/
  taken : List Job := []
  /-- The tries that have ended, in this order. -/
  ended : List (EndedTry τ) := []
  /-- The jobs that waited when the last worker left. -/
  abandoned : List Job := []

namespace Shift

variable {σ τ : Type} {handler : Handler σ τ} {shift before after : Shift σ τ} {job : Job}

/-- The workers begin. -/
def start (settings : IngressSettings) (world : σ) : Shift σ τ where
  pool := .ofSettings settings
  staff := max settings.workers 1
  world := world

/-- The pool has changed; what stands behind the others came into the queue. -/
def update (shift : Shift σ τ) (pool : Pool) : Shift σ τ :=
  { shift with
    pool
    entered := shift.entered ++ pool.queue.drop shift.pool.queue.length }

/-- A message is submitted. -/
def submit (shift : Shift σ τ) (message : InboundMessage) : Except Error Unit × Shift σ τ :=
  match shift.pool.submit message with
  | .ok pool => (.ok (), { shift.update pool with accepted := shift.accepted ++ [message] })
  | .error error => (.error error, shift)

/-- A worker leaves for good; with the last one the pool is closed, and what waits is lost. -/
def dismiss (shift : Shift σ τ) : Shift σ τ :=
  if shift.staff ≤ 1 then
    { shift with
      staff := 0
      pool := shift.pool.close
      abandoned := shift.abandoned ++ shift.pool.queue }
  else { shift with staff := shift.staff - 1 }

@[simp] theorem dismiss_busy (shift : Shift σ τ) : shift.dismiss.busy = shift.busy := by
  unfold dismiss
  split <;> rfl

@[simp] theorem dismiss_ended (shift : Shift σ τ) : shift.dismiss.ended = shift.ended := by
  unfold dismiss
  split <;> rfl

@[simp] theorem dismiss_accepted (shift : Shift σ τ) :
    shift.dismiss.accepted = shift.accepted := by
  unfold dismiss
  split <;> rfl

@[simp] theorem dismiss_entered (shift : Shift σ τ) : shift.dismiss.entered = shift.entered := by
  unfold dismiss
  split <;> rfl

@[simp] theorem submit_busy (shift : Shift σ τ) (message : InboundMessage) :
    (shift.submit message).2.busy = shift.busy := by
  unfold submit
  split <;> rfl

@[simp] theorem submit_ended (shift : Shift σ τ) (message : InboundMessage) :
    (shift.submit message).2.ended = shift.ended := by
  unfold submit
  split <;> rfl

/-- A worker goes to work on the job that it took. -/
def take (shift : Shift σ τ) (job : Job) (pool : Pool) (work : τ) : Shift σ τ :=
  { shift with pool, busy := shift.busy ++ [{ job, work }], taken := shift.taken ++ [job] }

/-- A try has ended, and the pool decides what becomes of the job. -/
def settle (shift : Shift σ τ) (others : List (Try τ)) (held : Try τ) (verdict : Verdict) :
    Shift σ τ :=
  { shift.update (shift.pool.settle held.job verdict).2 with
    busy := others
    ended := shift.ended ++ [({ toTry := held, verdict, pool := shift.pool } : EndedTry τ)] }

/-- A worker is done with a try, while the others go on with theirs; if it gave up all of its work,
it leaves. -/
def finish (shift : Shift σ τ) (others : List (Try τ)) (held : Try τ) (verdict : Verdict) :
    Shift σ τ :=
  match verdict with
  | .panicked _ => (shift.settle others held verdict).dismiss
  | .done | .failed _ => shift.settle others held verdict

@[simp] theorem finish_busy
    (shift : Shift σ τ) (others : List (Try τ)) (held : Try τ) (verdict : Verdict) :
    (shift.finish others held verdict).busy = others := by
  cases verdict with
  | done | failed error => rfl
  | panicked reason => exact dismiss_busy _

@[simp] theorem finish_ended
    (shift : Shift σ τ) (others : List (Try τ)) (held : Try τ) (verdict : Verdict) :
    (shift.finish others held verdict).ended =
      shift.ended ++ [({ toTry := held, verdict, pool := shift.pool } : EndedTry τ)] := by
  cases verdict with
  | done | failed error => rfl
  | panicked reason => exact dismiss_ended _

/-- What may happen next. -/
inductive Step (handler : Handler σ τ) (shift : Shift σ τ) : Shift σ τ → Prop
  /-- A message is submitted. -/
  | submit (message : InboundMessage) : Step handler shift (shift.submit message).2
  /-- A worker takes the first message that waits. -/
  | take {job : Job} {pool : Pool} (work : τ) (free : shift.busy.length < shift.staff)
      (taken : shift.pool.take? = some (job, pool)) (begins : handler.begins job.message work) :
      Step handler shift (shift.take job pool work)
  /-- A worker goes on with a try. -/
  | work (front back : List (Try τ)) {held : Try τ} {work : τ} {world : σ}
      (busy_eq : shift.busy = front ++ held :: back)
      (goesOn : handler.goesOn held.work shift.world work world) :
      Step handler shift { shift with busy := front ++ { held with work } :: back, world }
  /-- A worker is done with a try. -/
  | finish (front back : List (Try τ)) {held : Try τ} {verdict : Verdict}
      (busy_eq : shift.busy = front ++ held :: back) (ends : handler.ends held.work verdict) :
      Step handler shift (shift.finish (front ++ back) held verdict)
  /-- A worker with nothing to do finds that the pool is cancelled, and leaves. -/
  | leave (free : shift.busy.length < shift.staff) (told : shift.pool.cancelled = true) :
      Step handler shift shift.dismiss
  /-- The pool is cancelled. -/
  | cancel : Step handler shift { shift with pool := shift.pool.cancel }
  /-- Others change the world. -/
  | elsewhere (world : σ) : Step handler shift { shift with world }

/-- What may happen in the course of time. -/
abbrev Reaches (handler : Handler σ τ) : Shift σ τ → Shift σ τ → Prop :=
  Relation.ReflTransGen (Step handler)

/-! ## Shifts in order -/

/-- The tries that were begun: those that have ended, and those of the workers. -/
def efforts (shift : Shift σ τ) : List (Try τ) :=
  shift.ended.map EndedTry.toTry ++ shift.busy

/-- Somebody gave up all of their work. -/
def Panicked (shift : Shift σ τ) : Prop :=
  ∃ ended ∈ shift.ended, ∃ reason, ended.verdict = .panicked reason

/-- The queue, the workers and the diary fit together. -/
structure Ordered (settings : IngressSettings) (shift : Shift σ τ) : Prop where
  obeys : shift.pool.Obeys settings
  /-- The pool counts the accepted messages. -/
  counted : shift.pool.accepted = shift.accepted.length
  /-- The queue is not too long. -/
  fits : shift.pool.queue.length ≤ shift.pool.capacity
  /-- Who has something to do is there. -/
  staffed : shift.busy.length ≤ shift.staff
  /-- The pool is closed when nobody is there. -/
  closed_iff : shift.pool.closed = true ↔ shift.staff = 0
  /-- Somebody leaves only when the pool is cancelled, or gives up all work. -/
  reason : shift.pool.closed = true → shift.pool.cancelled = true ∨ shift.Panicked
  /-- What came into the queue was taken in this order, was abandoned or waits. -/
  entered_eq : shift.entered = shift.taken ++ shift.abandoned ++ shift.pool.queue
  /-- Nothing waits in a closed queue, and nothing is abandoned before. -/
  parted : if shift.pool.closed then shift.pool.queue = [] else shift.abandoned = []
  /-- Each job that was taken was tried once. -/
  tried : (shift.efforts.map Try.job).Perm shift.taken
  /-- Each try ended while a worker was there and the queue was not too long. -/
  recorded : ∀ ended ∈ shift.ended, ended.pool.Obeys settings ∧ ended.pool.closed = false ∧
    ended.pool.queue.length ≤ ended.pool.capacity

variable {settings : IngressSettings}

theorem ordered_start (settings : IngressSettings) (world : σ) :
    (Shift.start settings world : Shift σ τ).Ordered settings where
  obeys := ⟨rfl, rfl⟩
  counted := rfl
  fits := Nat.zero_le _
  staffed := Nat.zero_le _
  closed_iff := by simp [start, Pool.ofSettings]
  reason := nofun
  entered_eq := rfl
  parted := rfl
  tried := .refl _
  recorded := nofun

/-- While somebody is there, the pool is open and nothing was abandoned. -/
theorem Ordered.of_staffed (ordered : shift.Ordered settings) (staffed : 0 < shift.staff) :
    shift.pool.closed = false ∧ shift.abandoned = [] := by
  have closed : shift.pool.closed = false := by
    refine Bool.eq_false_iff.mpr fun closed => ?_
    exact Nat.ne_of_gt staffed (ordered.closed_iff.mp closed)
  have parted := ordered.parted
  rw [closed] at parted
  exact ⟨closed, parted⟩

theorem Ordered.submit
    (ordered : shift.Ordered settings)
    (message : InboundMessage) :
    (shift.submit message).2.Ordered settings := by
  rcases shift.pool.submit_cases message with ⟨_, same⟩ | ⟨_, _, same⟩ | ⟨isOpen, free, same⟩
  · rw [Shift.submit, same]
    exact ordered
  · rw [Shift.submit, same]
    exact ordered
  · have closed : shift.pool.closed = false := (Bool.or_eq_false_iff.mp isOpen).2
    have parted := ordered.parted
    rw [closed] at parted
    rw [Shift.submit, same]
    exact
      { obeys := ⟨ordered.obeys.capacity_eq, ordered.obeys.maxAttempts_eq⟩
        counted := by simp [update, ordered.counted]
        fits := by simpa [update] using Nat.succ_le_of_lt free
        staffed := ordered.staffed
        closed_iff := ordered.closed_iff
        reason := ordered.reason
        entered_eq := by simp [update, ordered.entered_eq]
        parted := by simpa [update, closed] using parted
        tried := ordered.tried
        recorded := ordered.recorded }

theorem Ordered.take
    {pool : Pool}
    (ordered : shift.Ordered settings)
    (free : shift.busy.length < shift.staff)
    (taken : shift.pool.take? = some (job, pool))
    (work : τ) :
    (shift.take job pool work).Ordered settings := by
  obtain ⟨closed, none⟩ := ordered.of_staffed (Nat.zero_lt_of_lt free)
  unfold Pool.take? at taken
  split at taken
  · cases taken
  · rename_i first queue queue_eq
    cases taken
    have fits := ordered.fits
    have entered_eq := ordered.entered_eq
    rw [queue_eq] at fits entered_eq
    exact
      { obeys := ⟨ordered.obeys.capacity_eq, ordered.obeys.maxAttempts_eq⟩
        counted := ordered.counted
        fits := Nat.le_of_succ_le fits
        staffed := by simpa [Shift.take] using Nat.succ_le_of_lt free
        closed_iff := ordered.closed_iff
        reason := ordered.reason
        entered_eq := by simp [Shift.take, entered_eq, none]
        parted := by simpa [Shift.take, closed] using none
        tried := by
          simpa [efforts, Shift.take] using ordered.tried.append_right [job]
        recorded := ordered.recorded }

/-- When a try has ended there is one worker more with nothing to do. -/
theorem Ordered.settle
    {front back : List (Try τ)}
    {held : Try τ}
    (ordered : shift.Ordered settings)
    (busy_eq : shift.busy = front ++ held :: back)
    (verdict : Verdict) :
    (shift.settle (front ++ back) held verdict).Ordered settings ∧
      (front ++ back).length < shift.staff := by
  have staffed := ordered.staffed
  simp only [busy_eq, List.length_append, List.length_cons] at staffed
  have free : (front ++ back).length < shift.staff := by
    rw [List.length_append]
    omega
  obtain ⟨closed, none⟩ := ordered.of_staffed (Nat.zero_lt_of_lt free)
  have recorded (ended : EndedTry τ)
      (member : ended ∈ shift.ended ++ [{ toTry := held, verdict, pool := shift.pool }]) :
      ended.pool.Obeys settings ∧ ended.pool.closed = false ∧
        ended.pool.queue.length ≤ ended.pool.capacity := by
    rcases List.mem_append.mp member with old | new
    · exact ordered.recorded ended old
    · obtain rfl := List.mem_singleton.mp new
      exact ⟨ordered.obeys, closed, ordered.fits⟩
  have tried : ((shift.settle (front ++ back) held verdict).efforts.map Try.job).Perm
      shift.taken := by
    refine (List.Perm.map _ ?_).trans ordered.tried
    simp only [efforts, Shift.settle, busy_eq, List.map_append, List.map_cons, List.map_nil,
      List.append_assoc, List.singleton_append]
    exact (List.perm_middle.symm).append_left _
  have reason : shift.pool.closed = true → shift.pool.cancelled = true ∨
      (shift.settle (front ++ back) held verdict).Panicked := by
    rw [closed]
    exact nofun
  refine ⟨?_, free⟩
  rcases shift.pool.settle_cases held.job verdict with
    ⟨error, rfl, left, _, room, same⟩ | ⟨final, same⟩
  · rw [Shift.settle, same] at *
    exact
      { obeys := ⟨ordered.obeys.capacity_eq, ordered.obeys.maxAttempts_eq⟩
        counted := ordered.counted
        fits := by simpa [update] using Nat.succ_le_of_lt room
        staffed := Nat.le_of_lt free
        closed_iff := ordered.closed_iff
        reason := reason
        entered_eq := by simp [update, ordered.entered_eq]
        parted := by simpa [update, closed] using none
        tried := tried
        recorded := recorded }
  · rw [Shift.settle, same] at *
    exact
      { obeys := ordered.obeys
        counted := ordered.counted
        fits := ordered.fits
        staffed := Nat.le_of_lt free
        closed_iff := ordered.closed_iff
        reason := reason
        entered_eq := by simp [update, ordered.entered_eq]
        parted := ordered.parted
        tried := tried
        recorded := recorded }

theorem Ordered.dismiss
    (ordered : shift.Ordered settings)
    (free : shift.busy.length < shift.staff)
    (reason : shift.pool.cancelled = true ∨ shift.Panicked) :
    shift.dismiss.Ordered settings := by
  obtain ⟨closed, none⟩ := ordered.of_staffed (Nat.zero_lt_of_lt free)
  unfold Shift.dismiss
  split
  · exact
      { obeys := ⟨ordered.obeys.capacity_eq, ordered.obeys.maxAttempts_eq⟩
        counted := ordered.counted
        fits := Nat.zero_le _
        staffed := by
          show shift.busy.length ≤ 0
          omega
        closed_iff := ⟨fun _ => rfl, fun _ => rfl⟩
        reason := fun _ => reason
        entered_eq := by simp [Pool.close, ordered.entered_eq, none]
        parted := by simp [Pool.close]
        tried := ordered.tried
        recorded := ordered.recorded }
  · rename_i others
    exact
      { ordered with
        staffed := by
          show shift.busy.length ≤ shift.staff - 1
          omega
        closed_iff := by
          show shift.pool.closed = true ↔ shift.staff - 1 = 0
          rw [closed]
          exact ⟨nofun, fun gone => by omega⟩ }

theorem Ordered.finish
    {front back : List (Try τ)}
    {held : Try τ}
    (ordered : shift.Ordered settings)
    (busy_eq : shift.busy = front ++ held :: back)
    (verdict : Verdict) :
    (shift.finish (front ++ back) held verdict).Ordered settings := by
  obtain ⟨settled, free⟩ := ordered.settle busy_eq verdict
  cases verdict with
  | done | failed error => exact settled
  | panicked reason =>
      refine settled.dismiss free (.inr ?_)
      exact ⟨_, List.mem_append.mpr (.inr (List.mem_singleton_self _)), reason, rfl⟩
/-- Whatever happens next, the shift stays in order. -/
theorem Ordered.step
    (ordered : before.Ordered settings)
    (step : Step handler before after) :
    after.Ordered settings := by
  cases step with
  | submit message => exact ordered.submit message
  | take work free taken begins => exact ordered.take free taken work
  | work front back busy_eq goesOn =>
      have staffed := ordered.staffed
      simp only [busy_eq, List.length_append, List.length_cons] at staffed
      have tried := ordered.tried
      simp only [efforts, busy_eq, List.map_append, List.map_cons] at tried
      exact
        { ordered with
          staffed := by simpa using staffed
          tried := by simpa [efforts] using tried }
  | finish front back busy_eq ends => exact ordered.finish busy_eq _
  | leave free told => exact ordered.dismiss free (.inl told)
  | cancel =>
      exact
        { ordered with
          obeys := ⟨ordered.obeys.capacity_eq, ordered.obeys.maxAttempts_eq⟩
          reason := fun _ => .inl rfl }
  | elsewhere world => exact { ordered with }
/-- A shift stays in order. -/
theorem ordered_of_reaches
    {world : σ}
    (reaches : Reaches handler (start settings world) shift) :
    shift.Ordered settings := by
  induction reaches with
  | refl => exact ordered_start settings world
  | tail _ step inductionHypothesis => exact inductionHypothesis.step step

end Shift
end Ingress
end ChatFlow
