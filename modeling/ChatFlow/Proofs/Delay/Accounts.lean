import ChatFlow.Proofs.Delay.Ledger

/-!
# Why the continuations are where they are

How often a continuation was delivered and how often it was refused follows from its ticket.  When
its delivery is over and it is not queued again, it is done with, or else the delivery broke off:
the lock or the queue did, or it could not be told when to try again.
-/

namespace ChatFlow

open Process

namespace Delay
namespace Post

variable {engine : Engine} {post : Post} {ticket : Ticket}

/-! ## Refusals -/

/-- The tickets that were refused when they were last tried, and were not taken back. -/
def spent (post : Post) : List Ticket :=
  (post.laden.filter Courier.isRefused).map Courier.ticket ++
    (post.filed.filter Filed.isRefused).map Filed.ticket

/-- A continuation that was not refused was not taken back. -/
theorem Ordered.laden_filter (ordered : post.Ordered engine) :
    post.laden.filter (fun courier => !courier.isRefused) =
      post.couriers.filter fun courier => !courier.isRefused := by
  rw [laden, List.filter_filter]
  refine List.filter_congr fun courier member => ?_
  cases relieved : courier.relieved with
  | false => rw [Bool.not_false, Bool.and_true]
  | true =>
      have knows := (ordered.sound courier member).knows
      cases stage_eq : courier.stage with
      | trying rest =>
          rw [stage_eq] at knows
          cases relieved.symm.trans knows.1
      | concluding tried rest =>
          rw [stage_eq, relieved] at knows
          have isRefused : courier.isRefused = true := by
            simp only [Courier.isRefused, stage_eq, Concludes.refusal knows, decide_true]
          rw [isRefused]
          rfl

/-- A ticket waits, or a courier has it, or its delivery is over. -/
theorem tickets_perm (post : Post) :
    post.tickets.Perm
      (post.queue ++ (post.laden.map Courier.ticket ++ post.filed.map Filed.ticket)) := by
  rw [tickets_eq, List.append_assoc]

/-- A ticket waits, was not refused, or is spent. -/
theorem Ordered.tickets_parted (ordered : post.Ordered engine) :
    post.tickets.Perm ((post.queue ++ post.unrefused) ++ post.spent) := by
  have couriers := ((List.filter_append_perm Courier.isRefused post.laden).symm).map Courier.ticket
  have filed := ((List.filter_append_perm Filed.isRefused post.filed).symm).map Filed.ticket
  rw [List.map_append] at couriers filed
  rw [tickets_eq, unrefused, spent, ← ordered.laden_filter, List.perm_iff_count]
  intro ticket
  have one := couriers.count_eq ticket
  have two := filed.count_eq ticket
  simp only [List.count_append] at one two ⊢
  omega

/-- What came into the queue was refused, waits, or was not refused. -/
theorem Ordered.entered_parted (ordered : post.Ordered engine) :
    post.entered.Perm (post.refused ++ (post.queue ++ post.unrefused)) := by
  refine (ordered.entered.trans (ordered.refused.append_right _)).trans ?_
  rw [List.append_assoc]
  exact List.perm_append_comm.append_left _

/-! ## Why the continuations are where they are -/

/-- Where a continuation is: its tickets and their places. -/
def placesOf (post : Post) (number : Nat) : List (Ticket × Place) :=
  post.places.filter fun entry => entry.1.number = number

/-- How often a delivery of a continuation was begun. -/
def deliveries (post : Post) (number : Nat) : Nat :=
  Ticket.labels.count number post.begun

/-- How often a continuation was refused when it was tried. -/
def refusals (post : Post) (number : Nat) : Nat :=
  Ticket.labels.count number post.refused

/-- What waits was refused as often as it was tried before. -/
theorem counts_of_queued
    (ordered : post.Ordered engine)
    (numbered : post.books.Numbered Ticket.labels (max engine.settings.resumeMaxAttempts 1))
    (waits : ticket ∈ post.queue) :
    post.deliveries ticket.number = ticket.item.attempt ∧
      post.refusals ticket.number = ticket.item.attempt := by
  constructor
  · exact Nat.succ.inj (numbered.count_taken_of_waiting ordered.entered post.tickets_perm waits)
  · exact Nat.succ.inj (numbered.count_taken_of_waiting ordered.entered_parted
      ordered.tickets_parted (List.mem_append_left _ waits))

/-- What does not wait was tried once more than before, and perhaps it was refused. -/
theorem counts_of_delivered
    (isRefused : Bool)
    (ordered : post.Ordered engine)
    (numbered : post.books.Numbered Ticket.labels (max engine.settings.resumeMaxAttempts 1))
    (there : ticket ∈ post.laden.map Courier.ticket ++ post.filed.map Filed.ticket)
    (told : ticket ∈ if isRefused then post.spent else post.unrefused) :
    post.deliveries ticket.number = ticket.item.attempt + 1 ∧
      post.refusals ticket.number = ticket.item.attempt + if isRefused then 1 else 0 := by
  refine ⟨numbered.count_taken_of_elsewhere ordered.entered post.tickets_perm there, ?_⟩
  cases isRefused with
  | false =>
      exact Nat.succ.inj (numbered.count_taken_of_waiting ordered.entered_parted
        ordered.tickets_parted (List.mem_append_right _ told))
  | true =>
      exact numbered.count_taken_of_elsewhere ordered.entered_parted ordered.tickets_parted told

end Post

namespace Filed

/-- A continuation is done with. -/
inductive Finished (engine : Engine) (refusals : Nat) (filed : Filed) : Prop
  /-- It was taken up. -/
  | resumed {report : TurnReport} (tried_eq : filed.tried = .ok (.resumed report))
  /-- The execution does not wait for it. -/
  | stale (tried_eq : filed.tried = .ok .stale)
  /-- There is no such execution. -/
  | missing (tried_eq : filed.tried = .ok .missing)
  /-- Something else than the store failed. -/
  | failed {error : Error} (tried_eq : filed.tried = .error (.error error))
      (other : ∀ text, error ≠ .database text)
  /-- It was refused, and the queue did not take it back. -/
  | declined {retry : Continuation} {error : Error} (refusal : Engine.IsRefusal filed.tried)
      (asked : ⟨.enqueue retry, .error (.error error)⟩ ∈ filed.calls)
  /-- It was refused as often as it may be. -/
  | givenUp (refusal : Engine.IsRefusal filed.tried)
      (spent : max engine.settings.resumeMaxAttempts 1 ≤ refusals)

/-- A delivery broke off. -/
inductive BrokeOff (engine : Engine) (filed : Filed) : Prop
  /-- What keeps locks gave up all of its work. -/
  | lock (broke : Broke filed.calls)
  /-- So did the queue, when it was to take the continuation back. -/
  | queue {retry : Continuation} {reason : String} (refusal : Engine.IsRefusal filed.tried)
      (asked : ⟨.enqueue retry, .error (.panic reason)⟩ ∈ filed.calls)
  /-- The continuation was refused, and it could not be told when to try it again. -/
  | untellable {now : Instant} (refusal : Engine.IsRefusal filed.tried)
      (asked : ⟨.now, now⟩ ∈ filed.calls) (untellable : engine.settings.retryAt? now = none)

/-- A continuation that was tried and was not refused is done with, if the try did not break off. -/
theorem finished_of_unrefused
    {engine : Engine}
    {refusals : Nat}
    {filed : Filed}
    (notRefused : ¬ Engine.IsRefusal filed.tried)
    (calm : ∀ reason, filed.tried ≠ .error (.panic reason)) :
    filed.Finished engine refusals := by
  cases tried_eq : filed.tried with
  | ok outcome =>
      cases outcome with
      | resumed report => exact .resumed tried_eq
      | stale => exact .stale tried_eq
      | missing => exact .missing tried_eq
      | busy =>
          rw [tried_eq] at notRefused
          exact (notRefused trivial).elim
  | error fault =>
      cases fault with
      | panic reason => exact (calm reason tried_eq).elim
      | error error =>
          refine .failed tried_eq fun text database => ?_
          rw [tried_eq, database] at notRefused
          exact notRefused trivial

/-- When a delivery is over and the continuation was not taken back, it is done with, or else the
delivery broke off. -/
theorem finished_or_brokeOff
    {engine : Engine}
    {refusals : Nat}
    {filed : Filed}
    (knows : Concludes engine filed.ticket.item filed.tried filed.calls false (orHalt filed.result))
    (small : filed.ticket.item.attempt + 1 < Word.shortCount)
    (counted : Engine.IsRefusal filed.tried → refusals = filed.ticket.item.attempt + 1) :
    filed.result = .ok () ∧ filed.Finished engine refusals ∨
      (∃ reason, filed.result = .error (.panic reason)) ∧ filed.BrokeOff engine := by
  have halts (result : Except Fault Unit) (same : orHalt result = orHalt filed.result) :
      filed.result = result := by
    cases told : filed.result with
    | ok _ =>
        rw [told] at same
        cases result with
        | ok _ => rfl
        | error _ => cases same
    | error _ =>
        rw [told] at same
        cases result with
        | ok _ => cases same
        | error _ =>
            cases same
            rfl
  generalize rest_eq : orHalt filed.result = rest at knows
  cases knows with
  | begun honest =>
      rcases engine.conclude_cases filed.ticket.item filed.tried with
        ⟨refusal, same⟩ | ⟨_, reason, tried_eq, same⟩ | ⟨notRefused, calm, same⟩
      · rcases engine.requeue_cases filed.ticket.item small with ⟨spent, gives⟩ | ⟨_, _, gives, _⟩
        · refine .inl ⟨halts (.ok ()) (by rw [rest_eq, same, gives]; rfl), ?_⟩
          exact .givenUp refusal (by rw [counted refusal]; omega)
        · rw [same, gives] at rest_eq
          cases told : filed.result <;> rw [told] at rest_eq <;> cases rest_eq
      · exact .inr ⟨⟨reason, halts (.error _) (by rw [rest_eq, same]; rfl)⟩,
          .lock (honest reason tried_eq)⟩
      · exact .inl ⟨halts (.ok ()) (by rw [rest_eq, same]; rfl),
          finished_of_unrefused notRefused calm⟩
  | due => cases told : filed.result <;> rw [told] at rest_eq <;> cases rest_eq
  | untellable refusal asked untellable =>
      exact .inr ⟨⟨_, halts (.error _) rest_eq.symm⟩, .untellable refusal asked untellable⟩
  | declined refusal asked =>
      exact .inl ⟨halts (.ok ()) rest_eq.symm, .declined refusal asked⟩
  | broken refusal asked =>
      exact .inr ⟨⟨_, halts (.error _) rest_eq.symm⟩, .queue refusal asked⟩

end Filed

namespace Post

variable {engine : Engine} {post : Post} {ticket : Ticket}

/-- Why a continuation is where it is. -/
def Explains (engine : Engine) (post : Post) (ticket : Ticket) : Place → Prop
  | .queued =>
      post.deliveries ticket.number = ticket.item.attempt ∧
        post.refusals ticket.number = ticket.item.attempt
  | .underway courier =>
      courier ∈ post.couriers ∧ courier.ticket = ticket ∧
        post.deliveries ticket.number = ticket.item.attempt + 1 ∧
        post.refusals ticket.number = ticket.item.attempt + if courier.isRefused then 1 else 0
  | .filed filed =>
      filed ∈ post.filed ∧ filed.ticket = ticket ∧
        post.deliveries ticket.number = ticket.item.attempt + 1 ∧
        post.refusals ticket.number = ticket.item.attempt + (if filed.isRefused then 1 else 0) ∧
        (filed.result = .ok () ∧ filed.Finished engine (post.refusals ticket.number) ∨
          (∃ reason, filed.result = .error (.panic reason)) ∧ filed.BrokeOff engine)

/-- What is somewhere is there for a reason. -/
theorem explains_of_mem
    {place : Place}
    (narrow : engine.settings.resumeMaxAttempts < Word.shortCount)
    (ordered : post.Ordered engine)
    (numbered : post.books.Numbered Ticket.labels (max engine.settings.resumeMaxAttempts 1))
    (member : (ticket, place) ∈ post.places) :
    post.Explains engine ticket place := by
  simp only [places, List.mem_append, List.mem_map, Prod.mk.injEq] at member
  rcases member with (⟨_, waits, rfl, rfl⟩ | ⟨courier, laden, rfl, rfl⟩) | ⟨filed, member, rfl, rfl⟩
  · exact counts_of_queued ordered numbered waits
  · refine ⟨(List.mem_filter.mp laden).1, rfl, ?_⟩
    refine counts_of_delivered courier.isRefused ordered numbered
      (List.mem_append_left _ (List.mem_map_of_mem laden)) ?_
    cases isRefused : courier.isRefused with
    | false =>
        refine List.mem_append_left _ (List.mem_map_of_mem ?_)
        exact List.mem_filter.mpr ⟨(List.mem_filter.mp laden).1, by rw [isRefused]; rfl⟩
    | true =>
        refine List.mem_append_left _ (List.mem_map_of_mem ?_)
        exact List.mem_filter.mpr ⟨laden, isRefused⟩
  · have counts := counts_of_delivered filed.isRefused ordered numbered
      (List.mem_append_right _ (List.mem_map_of_mem member)) (by
        cases isRefused : filed.isRefused with
        | false =>
            refine List.mem_append_right _ (List.mem_map_of_mem ?_)
            exact List.mem_filter.mpr ⟨member, by rw [isRefused]; rfl⟩
        | true =>
            refine List.mem_append_right _ (List.mem_map_of_mem ?_)
            exact List.mem_filter.mpr ⟨member, isRefused⟩)
    refine ⟨member, rfl, counts.1, counts.2,
      Filed.finished_or_brokeOff (ordered.settled filed member) ?_ fun refusal => ?_⟩
    · have placed : filed.ticket ∈ post.books.placed := by
        simp only [books, tickets_eq, List.mem_append]
        exact .inr (List.mem_map_of_mem member)
      have within := numbered.within _ placed
      simp only [Ticket.labels, Word.shortCount] at within narrow ⊢
      omega
    · rw [counts.2, Filed.isRefused, decide_eq_true refusal]
      rfl

/-! ## The ledger -/

/-- The books of a post are right. -/
structure Accounted (engine : Engine) (post : Post) : Prop where
  /-- A scheduled continuation is in one place, for a reason. -/
  placed : ∀ number item, post.scheduled[number]? = some item →
    ∃ ticket place, post.placesOf number = [(ticket, place)] ∧ ticket.number = number ∧
      ticket.item.Retries item ∧ post.Explains engine ticket place
  /-- What came into the queue was scheduled, and is as it was but for its time and its number of
  tries. -/
  known : ∀ ticket ∈ post.entered, ∃ item, post.scheduled[ticket.number]? = some item ∧
    ticket.item.Retries item
  /-- What is somewhere came into the queue. -/
  came : ∀ ticket place, (ticket, place) ∈ post.places → ticket ∈ post.entered
  /-- Each time a continuation comes into the queue, it was tried once more. -/
  counted : ∀ number, (post.entered.filter fun ticket => ticket.number = number).map
    (fun ticket => ticket.item.attempt) = List.range (Ticket.labels.count number post.entered)
  /-- No continuation is delivered too often. -/
  bounded : ∀ number, post.deliveries number ≤ max engine.settings.resumeMaxAttempts 1
  /-- The number of tries does not wrap. -/
  unwrapped : ∀ ticket ∈ post.entered,
    (ticket.item.attempt + 1) % Word.shortCount = ticket.item.attempt + 1

/-! ## Continuations that are refused -/

section

variable {now : Instant}

end

end Post
end Delay
end ChatFlow
