import ChatFlow.Proofs.Books
import ChatFlow.Proofs.Ingress.Shift

/-!
# Where the messages are

Every accepted message is in one place at each moment: it waits, a worker has it, or it was done
with in one of several ways.  The jobs are the slips of the books: a job comes in when a message is
accepted, and another one when it is to be tried once more.
-/

namespace ChatFlow
namespace Ingress

/-- Where a message can be. -/
inductive Place where
  /-- It waits in the queue. -/
  | waiting
  /-- A worker has it. -/
  | held
  /-- It was handled. -/
  | finished
  /-- It had no tries left. -/
  | givenUp
  /-- It found no free slot for its next try. -/
  | dropped
  /-- It went down with its worker. -/
  | lost
  /-- It waited when the last worker left. -/
  | abandoned
deriving DecidableEq

/-- Where a message is after a try, unless it waits for the next one. -/
def Fate.place? : Fate → Option Place
  | .finished => some .finished
  | .retried => none
  | .givenUp => some .givenUp
  | .dropped => some .dropped
  | .lost => some .lost

namespace EndedTry

variable {τ : Type}

/-- The job and where it is, unless it is followed by the next try. -/
def located? (ended : EndedTry τ) : Option (Job × Place) :=
  ended.fate.place?.map fun place => (ended.job, place)

theorem located_of_retried {ended : EndedTry τ} (retried : ended.fate = .retried) :
    ended.located? = none := by
  rw [located?, retried]
  rfl

theorem exists_located (ended : EndedTry τ) (final : ended.fate ≠ .retried) :
    ∃ place, ended.located? = some (ended.job, place) := by
  unfold located?
  cases fate : ended.fate with
  | retried => exact (final fate).elim
  | _ => exact ⟨_, rfl⟩

end EndedTry

/-- A job is a slip for its message. -/
def Job.labels : Labels Job InboundMessage where
  number := Job.number
  subject := Job.message
  rank := Job.attempt

/-- A handler whose tries end in any way. -/
def Handler.anyhow : Handler Unit Unit where
  begins _ _ := True
  goesOn _ _ _ _ := True
  ends _ _ := True

namespace Shift

variable {σ τ : Type} {handler : Handler σ τ} {shift before after : Shift σ τ} {job : Job}

/-- Where the jobs are: each that waits, that a worker has, whose last try has ended, or that was
abandoned. -/
def places (shift : Shift σ τ) : List (Job × Place) :=
  shift.pool.queue.map (fun job => (job, .waiting)) ++
    shift.busy.map (fun held => (held.job, .held)) ++
    shift.ended.filterMap EndedTry.located? ++
    shift.abandoned.map fun job => (job, .abandoned)

/-- The jobs that are somewhere. -/
def jobs (shift : Shift σ τ) : List Job :=
  shift.places.map Prod.fst

/-- The books of a shift. -/
def books (shift : Shift σ τ) : Books Job InboundMessage where
  placed := shift.jobs
  entered := shift.entered
  accepted := shift.accepted

/-- What a step does to the books. -/
abbrev Turnover (before after : Shift σ τ) : Prop :=
  before.books.Turnover Job.labels before.pool.maxAttempts after.books

/-! ## What happens to the jobs -/

theorem jobs_eq (shift : Shift σ τ) :
    shift.jobs = shift.pool.queue ++ shift.busy.map Try.job ++
      (shift.ended.filterMap EndedTry.located?).map Prod.fst ++ shift.abandoned := by
  simp [jobs, places, Function.comp_def]

/-- When a worker leaves, jobs that wait may be abandoned. -/
theorem jobs_dismiss (shift : Shift σ τ) : shift.dismiss.jobs.Perm shift.jobs := by
  unfold dismiss
  split
  · simp only [jobs_eq, Pool.close, List.nil_append, List.perm_iff_count, List.count_append]
    omega
  · exact .refl _

theorem Turnover.dismiss (turnover : before.Turnover after) : before.Turnover after.dismiss := by
  have placed := after.jobs_dismiss
  have entered_eq := after.dismiss_entered
  have accepted_eq := after.dismiss_accepted
  cases turnover with
  | none jobs entered accepted =>
      exact .none (placed.trans jobs) (entered_eq.trans entered) (accepted_eq.trans accepted)
  | arrival job number rank jobs entered accepted =>
      exact .arrival job number rank (placed.trans jobs) (entered_eq.trans entered)
        (accepted_eq.trans accepted)
  | replaced job next others number subject rank left was jobs entered accepted =>
      exact .replaced job next others number subject rank left was (placed.trans jobs)
        (entered_eq.trans entered) (accepted_eq.trans accepted)

/-- An accepted message arrives. -/
theorem turnover_submit
    (counted : shift.pool.accepted = shift.accepted.length)
    (message : InboundMessage) :
    shift.Turnover (shift.submit message).2 := by
  rcases shift.pool.submit_cases message with ⟨_, same⟩ | ⟨_, _, same⟩ | ⟨_, _, same⟩
  · rw [submit, same]
    exact .none (.refl _) rfl rfl
  · rw [submit, same]
    exact .none (.refl _) rfl rfl
  · rw [submit, same]
    refine .arrival ⟨shift.pool.accepted, message, 1⟩ counted rfl ?_ ?_ rfl
    · simp only [books, jobs_eq, update, List.perm_iff_count, List.count_append, List.count_cons,
        List.count_nil]
      omega
    · simp [books, update]

/-- What was taken is held. -/
theorem turnover_take
    {pool : Pool}
    {work : τ}
    (taken : shift.pool.take? = some (job, pool)) :
    shift.Turnover (shift.take job pool work) := by
  unfold Pool.take? at taken
  split at taken
  · cases taken
  · rename_i queue_eq
    cases taken
    refine .none ?_ rfl rfl
    simp only [books, jobs_eq, take, queue_eq, List.map_append, List.map_cons, List.map_nil,
      List.perm_iff_count, List.count_append, List.count_cons, List.count_nil]
    omega

/-- A job whose try has ended is where its fate leads it, or is followed by the next one. -/
theorem turnover_settle
    {front back : List (Try τ)}
    {held : Try τ}
    (busy_eq : shift.busy = front ++ held :: back)
    (verdict : Verdict) :
    shift.Turnover (shift.settle (front ++ back) held verdict) := by
  rcases shift.pool.settle_cases held.job verdict with
    ⟨error, rfl, left, _, _, same⟩ | ⟨final, same⟩
  · have entry : ({ toTry := held, verdict := .failed error, pool := shift.pool } :
        EndedTry τ).located? = Option.none :=
      EndedTry.located_of_retried (by rw [EndedTry.fate, same])
    refine .replaced held.job { held.job with attempt := held.job.attempt + 1 }
      (shift.pool.queue ++ (front ++ back).map Try.job ++
        (shift.ended.filterMap EndedTry.located?).map Prod.fst ++ shift.abandoned)
      rfl rfl rfl left ?_ ?_ ?_ rfl
    · simp only [books, jobs_eq, busy_eq, List.map_append, List.map_cons, List.perm_iff_count,
        List.count_append, List.count_cons]
      omega
    · simp only [books, jobs_eq, settle, update, same, List.filterMap_append, List.filterMap_cons,
        List.filterMap_nil, entry, List.append_nil, List.perm_iff_count, List.count_append,
        List.count_cons, List.count_nil]
      omega
    · simp [books, settle, update, same]
  · obtain ⟨place, entry⟩ := EndedTry.exists_located ⟨held, verdict, shift.pool⟩ final
    refine .none ?_ ?_ rfl
    · simp only [books, jobs_eq, settle, update, same, busy_eq, List.filterMap_append,
        List.filterMap_cons, List.filterMap_nil, entry, List.map_append, List.map_cons,
        List.map_nil, List.perm_iff_count, List.count_append, List.count_cons, List.count_nil]
      omega
    · simp [books, settle, update, same]

/-- Whatever happens next, the jobs turn over. -/
theorem Step.turnover
    (counted : before.pool.accepted = before.accepted.length)
    (step : Step handler before after) :
    before.Turnover after := by
  cases step with
  | submit message => exact turnover_submit counted message
  | take work free taken begins => exact turnover_take taken
  | work front back busy_eq goesOn =>
      refine .none ?_ rfl rfl
      simp only [books, jobs_eq, busy_eq, List.map_append, List.map_cons]
      exact .refl _
  | finish front back busy_eq ends =>
      rename_i verdict
      cases verdict with
      | done | failed error => exact turnover_settle busy_eq _
      | panicked reason => exact (turnover_settle busy_eq _).dismiss
  | leave free told => exact Turnover.dismiss (.none (.refl _) rfl rfl)
  | cancel => exact .none (.refl _) rfl rfl
  | elsewhere world => exact .none (.refl _) rfl rfl

variable {settings : IngressSettings}

/-- The jobs stay numbered. -/
theorem numbered_of_reaches
    {world : σ}
    (reaches : Reaches handler (start settings world) shift) :
    shift.books.Numbered Job.labels (max settings.maxAttempts 1) := by
  induction reaches with
  | refl => exact Books.numbered_empty
  | tail earlier step inductionHypothesis =>
      have ordered := ordered_of_reaches earlier
      have turnover := step.turnover ordered.counted
      rw [Turnover, ordered.obeys.maxAttempts_eq] at turnover
      exact inductionHypothesis.turnover (by omega) turnover

/-! ## Why the jobs are where they are -/

/-- Where a message is: its jobs and their places. -/
def placesOf (shift : Shift σ τ) (number : Nat) : List (Job × Place) :=
  shift.places.filter fun entry => entry.1.number = number

/-- How often a worker took a message, to try to handle it. -/
def tries (shift : Shift σ τ) (number : Nat) : Nat :=
  Job.labels.count number shift.taken

/-- Why a message is where it is, when nobody has given up all of their work. -/
def Explains (settings : IngressSettings) (shift : Shift σ τ) (job : Job) : Place → Prop
  | .waiting => shift.tries job.number + 1 = job.attempt
  | .held => shift.tries job.number = job.attempt
  | .finished => ∃ ended ∈ shift.ended, ended.job = job ∧ ended.verdict = .done
  | .givenUp =>
      shift.tries job.number = max settings.maxAttempts 1 ∧
        ∃ ended ∈ shift.ended, ended.job = job ∧ ∃ error, ended.verdict = .failed error
  | .dropped =>
      shift.tries job.number < max settings.maxAttempts 1 ∧
        ∃ ended ∈ shift.ended, ended.job = job ∧ (∃ error, ended.verdict = .failed error) ∧
          ended.pool.queue.length = max settings.queueCapacity 1
  | .lost => False
  | .abandoned => shift.pool.cancelled = true ∧ shift.staff = 0

/-- The jobs that wait for a worker, or waited for one when the last one left. -/
def waiting (shift : Shift σ τ) : List Job :=
  shift.abandoned ++ shift.pool.queue

/-- The jobs that a worker has, or had for the last time. -/
def gone (shift : Shift σ τ) : List Job :=
  shift.busy.map Try.job ++ (shift.ended.filterMap EndedTry.located?).map Prod.fst

theorem jobs_perm (shift : Shift σ τ) : shift.jobs.Perm (shift.waiting ++ shift.gone) := by
  simp only [jobs_eq, waiting, gone, List.perm_iff_count, List.count_append]
  omega

theorem Ordered.entered_perm (ordered : shift.Ordered settings) :
    shift.entered.Perm (shift.taken ++ shift.waiting) := by
  rw [ordered.entered_eq, List.append_assoc]
  exact .refl _

/-- What was done with was so for a reason. -/
theorem explains_of_ended
    {ended : EndedTry τ}
    {place : Place}
    (ordered : shift.Ordered settings)
    (calm : ¬ shift.Panicked)
    (member : ended ∈ shift.ended)
    (entry : ended.located? = some (job, place))
    (tries : shift.tries job.number = job.attempt)
    (within : job.attempt ≤ max settings.maxAttempts 1) :
    shift.Explains settings job place := by
  obtain ⟨obeys, closed, fits⟩ := ordered.recorded ended member
  have tells := ended.pool.tells_settle ended.job ended.verdict
  change ended.pool.Tells ended.job ended.verdict ended.fate at tells
  unfold EndedTry.located? at entry
  generalize ended.fate = fate at tells entry
  cases fate with
  | finished =>
      cases entry
      exact ⟨ended, member, rfl, tells⟩
  | retried => cases entry
  | givenUp =>
      cases entry
      have most := obeys.maxAttempts_eq
      refine ⟨?_, ended, member, rfl, tells.1⟩
      have spent := tells.2
      omega
  | dropped =>
      cases entry
      have most := obeys.maxAttempts_eq
      have capacity := obeys.capacity_eq
      have left := tells.2.1
      have full := tells.2.2.resolve_left (by simp [closed])
      exact ⟨by omega, ended, member, rfl, tells.1, by omega⟩
  | lost =>
      cases entry
      exact calm ⟨ended, member, tells⟩

/-- What is somewhere is there for a reason. -/
theorem explains_of_mem
    {place : Place}
    (ordered : shift.Ordered settings)
    (numbered : shift.books.Numbered Job.labels (max settings.maxAttempts 1))
    (calm : ¬ shift.Panicked)
    (member : (job, place) ∈ shift.places) :
    shift.Explains settings job place := by
  have placed : job ∈ shift.jobs := List.mem_map_of_mem (f := Prod.fst) member
  have tries_of_gone (gone : job ∈ shift.gone) : shift.tries job.number = job.attempt :=
    numbered.count_taken_of_elsewhere ordered.entered_perm shift.jobs_perm gone
  simp only [places, List.mem_append, List.mem_map, Prod.mk.injEq, List.mem_filterMap] at member
  rcases member with ((⟨_, waits, rfl, rfl⟩ | ⟨held, busy, rfl, rfl⟩) | ⟨ended, member, entry⟩) |
    ⟨_, left, rfl, rfl⟩
  · exact numbered.count_taken_of_waiting ordered.entered_perm shift.jobs_perm
      (List.mem_append_right _ waits)
  · exact tries_of_gone (List.mem_append_left _ (List.mem_map_of_mem busy))
  · refine explains_of_ended ordered calm member entry (tries_of_gone ?_)
      (numbered.within job placed)
    refine List.mem_append_right _ (List.mem_map.mpr ⟨(job, place), ?_, rfl⟩)
    exact List.mem_filterMap.mpr ⟨ended, member, entry⟩
  · have closed : shift.pool.closed = true := by
      by_contra isOpen
      have parted := ordered.parted
      rw [if_neg isOpen] at parted
      rw [parted] at left
      exact List.not_mem_nil left
    exact ⟨(ordered.reason closed).resolve_right calm, ordered.closed_iff.mp closed⟩

/-! ## The ledger -/

/-- The books of a shift are right. -/
structure Accounted (settings : IngressSettings) (shift : Shift σ τ) : Prop where
  /-- The queue never holds more than it may. -/
  fits : shift.pool.queue.length ≤ max settings.queueCapacity 1
  /-- The pool is closed when no worker is left. -/
  closed_iff : shift.pool.closed = true ↔ shift.staff = 0
  /-- A message is accepted when the pool is not cancelled, somebody is there and a slot is free. -/
  accepts : ∀ message, (shift.submit message).1 = .ok () ↔
    shift.pool.cancelled = false ∧ shift.pool.closed = false ∧
      shift.pool.queue.length < max settings.queueCapacity 1
  /-- An accepted message stands behind the others. -/
  enters : ∀ message, (shift.submit message).1 = .ok () →
    (shift.submit message).2.pool.queue =
      shift.pool.queue ++ [{ number := shift.accepted.length, message, attempt := 1 }] ∧
    (shift.submit message).2.accepted = shift.accepted ++ [message]
  /-- A refused message changes nothing, and is told why. -/
  refuses : ∀ message error, (shift.submit message).1 = .error error →
    (shift.submit message).2 = shift ∧
      error = if shift.pool.cancelled || shift.pool.closed then .poolClosed else .queueFull
  /-- An accepted message is in one place, for a reason. -/
  placed : ∀ number message, shift.accepted[number]? = some message →
    ∃ job place, shift.placesOf number = [(job, place)] ∧ job.number = number ∧
      job.message = message ∧ shift.Explains settings job place
  /-- Nothing else is anywhere. -/
  known : ∀ job place, (job, place) ∈ shift.places →
    shift.accepted[job.number]? = some job.message
  /-- Each job that was taken was tried once. -/
  tried : (shift.efforts.map Try.job).Perm shift.taken
  /-- No message is tried too often. -/
  bounded : ∀ number, shift.tries number ≤ max settings.maxAttempts 1
  /-- No message is with two workers at once. -/
  alone : (shift.busy.map fun held => held.job.number).Nodup
  /-- What came into the queue was taken in this order, was abandoned or waits. -/
  inOrder : shift.entered = shift.taken ++ shift.abandoned ++ shift.pool.queue

/-- A message is accepted exactly when the pool is not shut and has a free slot. -/
theorem Ordered.submit_cases
    (ordered : shift.Ordered settings)
    (message : InboundMessage) :
    (shift.pool.cancelled || shift.pool.closed) = true ∧
      shift.submit message = (.error .poolClosed, shift) ∨
    (shift.pool.cancelled || shift.pool.closed) = false ∧
      max settings.queueCapacity 1 ≤ shift.pool.queue.length ∧
      shift.submit message = (.error .queueFull, shift) ∨
    (shift.pool.cancelled || shift.pool.closed) = false ∧
      shift.pool.queue.length < max settings.queueCapacity 1 ∧
      (shift.submit message).1 = .ok () ∧
      (shift.submit message).2.pool.queue =
        shift.pool.queue ++ [{ number := shift.accepted.length, message, attempt := 1 }] ∧
      (shift.submit message).2.accepted = shift.accepted ++ [message] := by
  rw [← ordered.obeys.capacity_eq]
  rcases shift.pool.submit_cases message with
    ⟨shut, same⟩ | ⟨isOpen, full, same⟩ | ⟨isOpen, free, same⟩
  · exact .inl ⟨shut, by rw [Shift.submit, same]⟩
  · exact .inr (.inl ⟨isOpen, full, by rw [Shift.submit, same]⟩)
  · refine .inr (.inr ⟨isOpen, free, ?_⟩)
    rw [Shift.submit, same, ← ordered.counted]
    exact ⟨rfl, rfl, rfl⟩

/-- In the course of time, while nobody gives up all of their work, the books are right. -/
theorem ledger
    {world : σ}
    (reaches : Reaches handler (start settings world) shift)
    (calm : ¬ shift.Panicked) :
    shift.Accounted settings := by
  have ordered := ordered_of_reaches reaches
  have numbered := numbered_of_reaches reaches
  constructor
  · rw [← ordered.obeys.capacity_eq]
    exact ordered.fits
  · exact ordered.closed_iff
  · intro message
    rcases ordered.submit_cases message with
      ⟨shut, same⟩ | ⟨isOpen, full, same⟩ | ⟨isOpen, free, same, _⟩
    · rw [same]
      refine ⟨nofun, fun ⟨notCancelled, notClosed, _⟩ => ?_⟩
      rw [notCancelled, notClosed] at shut
      cases shut
    · rw [same]
      exact ⟨nofun, fun ⟨_, _, free⟩ => (Nat.not_lt.mpr full free).elim⟩
    · rw [same]
      exact ⟨fun _ => ⟨(Bool.or_eq_false_iff.mp isOpen).1, (Bool.or_eq_false_iff.mp isOpen).2,
        free⟩, fun _ => rfl⟩
  · intro message accepted
    rcases ordered.submit_cases message with ⟨_, same⟩ | ⟨_, _, same⟩ | ⟨_, _, _, entered⟩
    · rw [same] at accepted
      cases accepted
    · rw [same] at accepted
      cases accepted
    · exact entered
  · intro message error refused
    rcases ordered.submit_cases message with
      ⟨shut, same⟩ | ⟨isOpen, _, same⟩ | ⟨_, _, accepted, _⟩
    · rw [same] at refused ⊢
      cases refused
      exact ⟨rfl, by rw [if_pos shut]⟩
    · rw [same] at refused ⊢
      cases refused
      exact ⟨rfl, by rw [isOpen]; rfl⟩
    · rw [accepted] at refused
      cases refused
  · intro number message accepted
    obtain ⟨job, place, alone, member, number_eq, message_eq⟩ :=
      numbered.exists_place (rfl : shift.books.placed = shift.places.map Prod.fst) accepted
    exact ⟨job, place, alone, number_eq, message_eq,
      explains_of_mem ordered numbered calm member⟩
  · intro job place member
    exact numbered.known job (numbered.came job (List.mem_map_of_mem (f := Prod.fst) member))
  · exact ordered.tried
  · exact numbered.count_taken_le ordered.entered_perm
  · have nodup : (shift.jobs.map Job.number).Nodup := numbered.nodup
    rw [jobs_eq, List.append_assoc, List.append_assoc, List.map_append, List.map_append] at nodup
    have busy := (List.nodup_append.mp (List.nodup_append.mp nodup).2.1).1
    rwa [List.map_map] at busy
  · exact ordered.entered_eq

/-- A message loses its slot to another one, which fails once and then waits when the workers
leave. -/
theorem ledger_of_lost_slot :
    ∃ (settings : IngressSettings) (shift : Shift Unit Unit),
      Reaches Handler.anyhow (start settings ()) shift ∧ ¬ shift.Panicked ∧
        shift.places.map (fun entry => (entry.1.number, entry.1.attempt, entry.2)) =
          [(0, 1, .dropped), (1, 2, .abandoned)] ∧
        shift.Accounted settings := by
  let settings : IngressSettings := { workers := 2, queueCapacity := 1, maxAttempts := 2 }
  let message : InboundMessage := { conversation := ⟨"1", "2"⟩, text := "hi" }
  let Happens := Reaches Handler.anyhow (start settings ())
  have submit {shift : Shift Unit Unit} (earlier : Happens shift) :
      Happens (shift.submit message).2 :=
    earlier.tail (.submit message)
  have take {shift : Shift Unit Unit} {job : Job} {pool : Pool} (earlier : Happens shift)
      (free : shift.busy.length < shift.staff) (taken : shift.pool.take? = some (job, pool)) :
      Happens (shift.take job pool ()) :=
    earlier.tail (.take () free taken trivial)
  have fail {shift : Shift Unit Unit} {held : Try Unit} (earlier : Happens shift)
      (busy_eq : shift.busy = [held]) :
      Happens (shift.finish [] held (.failed .queueFull)) :=
    earlier.tail (.finish [] [] busy_eq trivial)
  let pool : Pool := { capacity := 1, maxAttempts := 2, accepted := 2 }
  let first : EndedTry Unit :=
    { job := ⟨0, message, 1⟩, work := (), verdict := .failed .queueFull
      pool := { pool with queue := [⟨1, message, 1⟩] } }
  let second : EndedTry Unit :=
    { job := ⟨1, message, 1⟩, work := (), verdict := .failed .queueFull, pool }
  have dropped : Happens
      { pool := first.pool, staff := 2, world := (), accepted := [message, message]
        entered := [⟨0, message, 1⟩, ⟨1, message, 1⟩], taken := [⟨0, message, 1⟩]
        ended := [first] } :=
    fail (submit (take (submit .refl) (by decide) rfl)) rfl
  have retried := fail (take dropped (by decide) rfl) rfl
  have abandoned : Happens
      { pool := { pool with cancelled := true, closed := true }, staff := 0, world := ()
        accepted := [message, message]
        entered := [⟨0, message, 1⟩, ⟨1, message, 1⟩, ⟨1, message, 2⟩]
        taken := [⟨0, message, 1⟩, ⟨1, message, 1⟩]
        ended := [first, second], abandoned := [⟨1, message, 2⟩] } :=
    ((retried.tail .cancel).tail (.leave (by decide) rfl)).tail (.leave (by decide) rfl)
  refine ⟨settings, _, abandoned, ?_, rfl, ledger abandoned ?_⟩
  all_goals simp [Panicked, first, second]

end Shift
end Ingress
end ChatFlow
