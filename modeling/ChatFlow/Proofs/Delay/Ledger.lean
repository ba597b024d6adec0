import ChatFlow.Proofs.Books
import ChatFlow.Proofs.Delay.Couriers

/-!
# Where the continuations are

Every scheduled continuation is in one place at each moment: it waits in the queue, a courier has
it, or its delivery is over.  The tickets are the slips of the books: one comes in when a
continuation is scheduled, and another one when the queue takes it back.
-/

namespace ChatFlow

open Process

/-- A continuation without its time and its number of tries. -/
def Continuation.core (item : Continuation) : Continuation :=
  { item with due := ⟨0⟩, attempt := 0 }

namespace Delay

/-- Where a continuation can be. -/
inductive Place where
  /-- It waits in the queue. -/
  | queued
  /-- A courier has it. -/
  | underway (courier : Courier)
  /-- Its delivery is over. -/
  | filed (filed : Filed)

/-- A ticket is a slip for its continuation. -/
def Ticket.labels : Labels Ticket Continuation where
  number := Ticket.number
  subject ticket := ticket.item.core
  rank ticket := ticket.item.attempt + 1

/-- Whether the continuation was refused. -/
def Courier.isRefused (courier : Courier) : Bool :=
  match courier.stage with
  | .trying _ => false
  | .concluding tried _ => decide (Engine.IsRefusal tried)

/-- Whether the continuation was refused. -/
def Filed.isRefused (filed : Filed) : Bool :=
  decide (Engine.IsRefusal filed.tried)

namespace Post

/-- The couriers from whom the queue did not take the continuation back. -/
def laden (post : Post) : List Courier :=
  post.couriers.filter fun courier => !courier.relieved

/-- Where the tickets are. -/
def places (post : Post) : List (Ticket × Place) :=
  post.queue.map (fun ticket => (ticket, .queued)) ++
    post.laden.map (fun courier => (courier.ticket, .underway courier)) ++
    post.filed.map fun filed => (filed.ticket, .filed filed)

/-- The tickets that are somewhere. -/
def tickets (post : Post) : List Ticket :=
  post.places.map Prod.fst

/-- The books of a post. -/
def books (post : Post) : Books Ticket Continuation where
  placed := post.tickets
  entered := post.entered
  accepted := post.scheduled.map Continuation.core

/-- The tickets whose tries did not come to nothing, or not yet. -/
def unrefused (post : Post) : List Ticket :=
  (post.couriers.filter fun courier => !courier.isRefused).map Courier.ticket ++
    (post.filed.filter fun filed => !filed.isRefused).map Filed.ticket

/-- The queue, the couriers and the diary fit together. -/
structure Ordered (engine : Engine) (post : Post) : Prop where
  /-- Couriers know what their calls have shown. -/
  sound : ∀ courier ∈ post.couriers, courier.Sound engine
  /-- So they did when their deliveries were over. -/
  settled : ∀ filed ∈ post.filed, Concludes engine filed.ticket.item filed.tried filed.calls false
    (orHalt filed.result)
  /-- What came into the queue was taken or waits. -/
  entered : post.entered.Perm (post.begun ++ post.queue)
  /-- What was taken was refused, or was not. -/
  refused : post.begun.Perm (post.refused ++ post.unrefused)

variable {engine : Engine} {post before after : Post} {item : Continuation} {ticket : Ticket}
  {courier next : Courier} {front back : List Courier}

/-- What a step does to the books. -/
abbrev Turnover (engine : Engine) (before after : Post) : Prop :=
  before.books.Turnover Ticket.labels (max engine.settings.resumeMaxAttempts 1) after.books

/-! ## What happens to the tickets -/

theorem tickets_eq (post : Post) :
    post.tickets = post.queue ++ post.laden.map Courier.ticket ++ post.filed.map Filed.ticket := by
  simp [tickets, places, Function.comp_def]

/-- A courier who goes on has what he had. -/
theorem Turnover.replace
    (turnover : before.Turnover engine after)
    (couriers_eq : after.couriers = front ++ courier :: back)
    (ticket_eq : next.ticket = courier.ticket)
    (same : next.relieved = courier.relieved) :
    before.Turnover engine { after with couriers := front ++ next :: back } := by
  have books_eq : Post.books { after with couriers := front ++ next :: back } = after.books := by
    simp only [books, tickets_eq, laden, couriers_eq, List.filter_append, List.filter_cons, same,
      List.map_append]
    split
    · rw [List.map_cons, List.map_cons, ticket_eq]
    · rfl
  rw [Turnover, books_eq]
  exact turnover

/-- A ticket for a scheduled continuation arrives. -/
theorem turnover_schedule (fresh : item.attempt = 0) :
    post.Turnover engine (post.schedule item) := by
  refine .arrival ⟨post.scheduled.length, item⟩ ?_ ?_ ?_ rfl ?_
  · simp [books, Ticket.labels]
  · simp [Ticket.labels, fresh]
  · simp only [books, tickets_eq, laden, schedule, enter, List.perm_iff_count, List.count_append,
      List.count_cons, List.count_nil]
    omega
  · simp [books, schedule, enter, Ticket.labels]

theorem takeIn_couriers (post : Post) (queued? : Option Continuation) :
    (post.takeIn queued?).couriers = post.couriers := by
  cases queued? <;> rfl

theorem takeBack_couriers (post : Post) (number : Nat) (queued? : Option Continuation) :
    (post.takeBack number queued?).couriers = post.couriers := by
  cases queued? <;> rfl

/-- So does a ticket for what a try puts into the queue. -/
theorem turnover_takeIn
    {queued? : Option Continuation}
    (fresh : ∀ queued, queued? = some queued → queued.attempt = 0) :
    post.Turnover engine (post.takeIn queued?) := by
  cases queued? with
  | none => exact .none (.refl _) rfl rfl
  | some queued => exact turnover_schedule (fresh queued rfl)

/-- What is taken is held. -/
theorem turnover_take
    {front back : List Ticket}
    {stage : Stage}
    (queue_eq : post.queue = front ++ ticket :: back) :
    post.Turnover engine { post with
      queue := front ++ back
      couriers := post.couriers ++ [{ ticket, stage }]
      begun := post.begun ++ [ticket] } := by
  refine .none ?_ rfl rfl
  simp only [books, tickets_eq, laden, queue_eq, List.filter_append, List.filter_cons,
    List.filter_nil, Bool.not_false, if_true, List.map_append, List.map_cons, List.map_nil,
    List.perm_iff_count, List.count_append, List.count_cons, List.count_nil]
  omega

/-- The ticket of a courier is replaced by the one that goes back to the queue. -/
theorem turnover_takeBack
    {queued? : Option Continuation}
    (couriers_eq : post.couriers = front ++ courier :: back)
    (fresh : courier.relieved = false)
    (ticket_eq : next.ticket = courier.ticket)
    (relieved_eq : next.relieved = (courier.relieved || queued?.isSome))
    (gives : ∀ queued, queued? = some queued →
      courier.ticket.item.attempt + 1 < engine.settings.resumeMaxAttempts ∧ ∃ due, queued =
        { courier.ticket.item with attempt := courier.ticket.item.attempt + 1, due }) :
    post.Turnover engine { post.takeBack courier.ticket.number queued? with
      couriers := front ++ next :: back } := by
  cases queued? with
  | none =>
      refine Turnover.replace (.none (.refl _) rfl rfl) couriers_eq ticket_eq ?_
      rw [relieved_eq, Option.isSome_none, Bool.or_false]
  | some queued =>
      obtain ⟨left, due, same⟩ := gives queued rfl
      rw [Option.isSome_some, Bool.or_true] at relieved_eq
      refine .replaced courier.ticket { number := courier.ticket.number, item := queued }
        (post.queue ++ ((front ++ back).filter fun courier => !courier.relieved).map
          Courier.ticket ++ post.filed.map Filed.ticket)
        rfl (same ▸ rfl) (same ▸ rfl) ?_ ?_ ?_ rfl rfl
      · simp only [Ticket.labels]
        omega
      · simp only [books, tickets_eq, laden, couriers_eq, List.filter_append, List.filter_cons,
          fresh, Bool.not_false, if_true, List.map_append, List.map_cons, List.perm_iff_count,
          List.count_append, List.count_cons]
        omega
      · simp only [books, tickets_eq, laden, takeBack, enter, List.filter_append,
          List.filter_cons, relieved_eq, Bool.not_true, Bool.false_eq_true, if_false,
          List.map_append, List.perm_iff_count, List.count_append, List.count_cons,
          List.count_nil]
        omega

/-- A delivery that is over is filed, unless the queue took the continuation back. -/
theorem turnover_finish
    {tried : Except Fault ResumeOutcome}
    {result : Except Fault Unit}
    (couriers_eq : post.couriers = front ++ courier :: back) :
    post.Turnover engine { post with
      couriers := front ++ back
      filed :=
        if courier.relieved then post.filed
        else post.filed ++ [{ courier with tried, result }] } := by
  refine .none ?_ rfl rfl
  cases relieved : courier.relieved with
  | false =>
      simp only [books, tickets_eq, laden, couriers_eq, List.filter_append, List.filter_cons,
        relieved, Bool.not_false, Bool.false_eq_true, if_true, if_false, List.map_append,
        List.map_cons, List.map_nil, List.perm_iff_count, List.count_append, List.count_cons,
        List.count_nil]
      omega
  | true =>
      simp only [books, tickets_eq, laden, couriers_eq, List.filter_append, List.filter_cons,
        relieved, Bool.not_true, Bool.false_eq_true, if_true, if_false]
      exact .refl _

/-- Whatever happens next, the tickets turn over. -/
theorem Step.turnover
    (sound : ∀ courier ∈ before.couriers, courier.Sound engine)
    (step : Step engine before after) :
    before.Turnover engine after := by
  have known {front back : List Courier} {courier : Courier}
      (couriers_eq : before.couriers = front ++ courier :: back) : courier.Sound engine :=
    sound courier (couriers_eq ▸ List.mem_append_right _ List.mem_cons_self)
  cases step with
  | schedule item fresh => exact turnover_schedule fresh
  | take front back queue_eq => exact turnover_take queue_eq
  | call front back outcome couriers_eq stage_eq =>
      obtain ⟨_, _, fresh⟩ := (known couriers_eq).call stage_eq outcome
      exact (show Turnover _ _ _ from turnover_takeIn fresh).replace
        ((takeIn_couriers _ _).trans couriers_eq) rfl rfl
  | tried front back couriers_eq stage_eq =>
      exact Turnover.replace (.none (.refl _) rfl rfl) couriers_eq rfl rfl
  | conclude front back outcome couriers_eq stage_eq =>
      obtain ⟨_, fresh, gives⟩ := (known couriers_eq).conclude stage_eq outcome
      exact turnover_takeBack couriers_eq fresh rfl rfl gives
  | finish front back result couriers_eq stage_eq => exact turnover_finish couriers_eq

/-! ## How the diary is kept -/

/-- What comes into the queue waits there. -/
theorem entered_enter (entered : post.entered.Perm (post.begun ++ post.queue)) :
    (post.enter ticket).entered.Perm ((post.enter ticket).begun ++ (post.enter ticket).queue) := by
  simp only [enter, ← List.append_assoc]
  exact entered.append_right _

theorem ordered_empty : Ordered engine {} where
  sound _ member := (List.not_mem_nil member).elim
  settled _ member := (List.not_mem_nil member).elim
  entered := .refl _
  refused := .refl _

/-- Couriers know what they know when one of them goes on. -/
theorem Ordered.sound_replace
    (ordered : post.Ordered engine)
    (couriers_eq : post.couriers = front ++ courier :: back)
    (goesOn : next.Sound engine) :
    ∀ other ∈ front ++ next :: back, other.Sound engine := by
  have sound := ordered.sound
  rw [couriers_eq] at sound
  intro other member
  rcases List.mem_append.mp member with old | new
  · exact sound other (List.mem_append_left _ old)
  · rcases List.mem_cons.mp new with rfl | old
    · exact goesOn
    · exact sound other (List.mem_append_right _ (List.mem_cons_of_mem _ old))

/-- A courier goes on, and the diary is kept. -/
theorem Ordered.replace
    (ordered : post.Ordered engine)
    (couriers_eq : post.couriers = front ++ courier :: back)
    (goesOn : next.Sound engine)
    (ticket_eq : next.ticket = courier.ticket)
    (same : next.isRefused = courier.isRefused) :
    Ordered engine { post with couriers := front ++ next :: back } where
  sound := ordered.sound_replace couriers_eq goesOn
  settled := ordered.settled
  entered := ordered.entered
  refused := by
    have refused := ordered.refused
    simp only [unrefused, couriers_eq, List.filter_append, List.filter_cons,
      List.map_append] at refused
    simp only [unrefused, List.filter_append, List.filter_cons, same, List.map_append]
    split at refused
    · rw [if_pos ‹_›]
      simpa only [List.map_cons, ticket_eq] using refused
    · rw [if_neg ‹_›]
      exact refused

/-- What comes into the queue leaves the rest of the diary alone. -/
theorem Ordered.enter (ordered : post.Ordered engine) : (post.enter ticket).Ordered engine :=
  ⟨ordered.sound, ordered.settled, entered_enter ordered.entered, ordered.refused⟩

theorem Ordered.schedule (ordered : post.Ordered engine) : (post.schedule item).Ordered engine :=
  let entered := ordered.enter
  ⟨entered.sound, entered.settled, entered.entered, entered.refused⟩

/-- A courier takes a continuation. -/
theorem Ordered.take
    {front back : List Ticket}
    (ordered : post.Ordered engine)
    (queue_eq : post.queue = front ++ ticket :: back)
    (small : ticket.item.attempt + 1 < Word.shortCount) :
    Ordered engine { post with
      queue := front ++ back
      couriers := post.couriers ++
        [{ ticket, stage := .trying (engine.resume ticket.item).contain }]
      begun := post.begun ++ [ticket] } where
  sound courier member := by
    rcases List.mem_append.mp member with old | new
    · exact ordered.sound courier old
    · obtain rfl := List.mem_singleton.mp new
      exact Courier.sound_take small
  settled := ordered.settled
  entered := by
    have entered := ordered.entered
    simp only [queue_eq, List.perm_iff_count, List.count_append, List.count_cons,
      List.count_nil] at entered ⊢
    intro other
    rw [entered other]
    omega
  refused := by
    have refused := ordered.refused
    simp only [unrefused, Courier.isRefused, List.filter_append, List.filter_cons,
      List.filter_nil, Bool.not_false, if_true, List.map_append, List.map_cons, List.map_nil,
      List.perm_iff_count, List.count_append, List.count_cons, List.count_nil] at refused ⊢
    intro other
    rw [refused other]
    omega

theorem Ordered.takeIn
    (ordered : post.Ordered engine)
    (queued? : Option Continuation) :
    (post.takeIn queued?).Ordered engine := by
  cases queued? with
  | none => exact ordered
  | some queued => exact ordered.schedule

theorem Ordered.takeBack
    (ordered : post.Ordered engine)
    (number : Nat)
    (queued? : Option Continuation) :
    (post.takeBack number queued?).Ordered engine := by
  cases queued? with
  | none => exact ordered
  | some queued => exact ordered.enter

/-- When a continuation was tried, it is noted whether it was refused. -/
theorem Ordered.tried
    {result : Except Fault ResumeOutcome}
    (ordered : post.Ordered engine)
    (couriers_eq : post.couriers = front ++ courier :: back)
    (stage_eq : courier.stage = .trying (.done result))
    (goesOn : Courier.Sound engine { courier with
      stage := .concluding result (engine.conclude courier.ticket.item result) }) :
    Ordered engine { post with
      couriers := front ++ { courier with
        stage := .concluding result (engine.conclude courier.ticket.item result) } :: back
      refused :=
        if Engine.IsRefusal result then post.refused ++ [courier.ticket] else post.refused } where
  sound := ordered.sound_replace couriers_eq goesOn
  settled := ordered.settled
  entered := ordered.entered
  refused := by
    have refused := ordered.refused
    have waited : courier.isRefused = false := by simp only [Courier.isRefused, stage_eq]
    simp only [unrefused, couriers_eq, List.filter_append, List.filter_cons, waited,
      Bool.not_false, if_true, List.map_append, List.map_cons, List.perm_iff_count,
      List.count_append, List.count_cons] at refused
    have told : Courier.isRefused { courier with
        stage := .concluding result (engine.conclude courier.ticket.item result) } =
          decide (Engine.IsRefusal result) := rfl
    by_cases refusal : Engine.IsRefusal result
    · simp only [unrefused, told, refusal, decide_true, Bool.not_true, Bool.false_eq_true,
        if_true, if_false, List.filter_append, List.filter_cons, List.map_append,
        List.perm_iff_count, List.count_append, List.count_cons, List.count_nil]
      intro other
      rw [refused other]
      omega
    · simp only [unrefused, told, refusal, decide_false, Bool.not_false, if_true, if_false,
        List.filter_append, List.filter_cons, List.map_append, List.map_cons,
        List.perm_iff_count, List.count_append, List.count_cons]
      exact refused

/-- When a delivery is over, it is filed with what is known. -/
theorem Ordered.finish
    {tried : Except Fault ResumeOutcome}
    {result : Except Fault Unit}
    (ordered : post.Ordered engine)
    (couriers_eq : post.couriers = front ++ courier :: back)
    (stage_eq : courier.stage = .concluding tried (orHalt result))
    (knows : Concludes engine courier.ticket.item tried courier.calls courier.relieved
      (orHalt result)) :
    Ordered engine { post with
      couriers := front ++ back
      filed :=
        if courier.relieved then post.filed
        else post.filed ++ [{ courier with tried, result }] } where
  sound other member := by
    refine ordered.sound other ?_
    rw [couriers_eq]
    exact (List.mem_append.mp member).elim (List.mem_append_left _)
      fun old => List.mem_append_right _ (List.mem_cons_of_mem _ old)
  settled := by
    dsimp only
    cases relieved : courier.relieved with
    | true => exact ordered.settled
    | false =>
        intro filed member
        rcases List.mem_append.mp member with old | new
        · exact ordered.settled filed old
        · obtain rfl := List.mem_singleton.mp new
          rw [relieved] at knows
          exact knows
  entered := ordered.entered
  refused := by
    have refused := ordered.refused
    have isRefused : courier.isRefused = decide (Engine.IsRefusal tried) := by
      simp only [Courier.isRefused, stage_eq]
    simp only [unrefused, couriers_eq, List.filter_append, List.filter_cons, isRefused,
      List.map_append] at refused
    cases relieved : courier.relieved with
    | false =>
        simp only [unrefused, Filed.isRefused, Bool.false_eq_true, if_false, List.filter_append,
          List.filter_cons, List.filter_nil, List.map_append] at refused ⊢
        split at refused
        · rw [if_pos ‹_›]
          simp only [List.map_cons, List.map_nil, List.perm_iff_count, List.count_append,
            List.count_cons, List.count_nil] at refused ⊢
          intro other
          rw [refused other]
          omega
        · rw [if_neg ‹_›, List.map_nil, List.append_nil]
          exact refused
    | true =>
        -- What the queue took back was refused, so that the courier leaves no trace.
        rw [relieved] at knows
        simp only [knows.refusal, decide_true, Bool.not_true, Bool.false_eq_true,
          if_false] at refused
        simpa only [unrefused, if_true, List.filter_append, List.map_append] using refused

/-- Whatever happens next, the diary is kept. -/
theorem Ordered.step
    (ordered : before.Ordered engine)
    (small : ∀ ticket ∈ before.queue, ticket.item.attempt + 1 < Word.shortCount)
    (step : Step engine before after) :
    after.Ordered engine := by
  have known {front back : List Courier} {courier : Courier}
      (couriers_eq : before.couriers = front ++ courier :: back) : courier.Sound engine :=
    ordered.sound courier (couriers_eq ▸ List.mem_append_right _ List.mem_cons_self)
  cases step with
  | schedule item fresh =>
      exact ordered.schedule
  | take front back queue_eq =>
      exact ordered.take queue_eq (small _ (queue_eq ▸ by simp))
  | call front back outcome couriers_eq stage_eq =>
      obtain ⟨goesOn, _, _⟩ := (known couriers_eq).call stage_eq outcome
      refine (ordered.takeIn _).replace ((takeIn_couriers _ _).trans couriers_eq) goesOn rfl ?_
      simp only [Courier.isRefused, stage_eq]
  | tried front back couriers_eq stage_eq =>
      obtain ⟨goesOn, _⟩ := (known couriers_eq).told stage_eq
      exact ordered.tried couriers_eq stage_eq goesOn
  | conclude front back outcome couriers_eq stage_eq =>
      obtain ⟨goesOn, _, _⟩ := (known couriers_eq).conclude stage_eq outcome
      refine (ordered.takeBack _ _).replace ((takeBack_couriers _ _ _).trans couriers_eq) goesOn
        rfl ?_
      simp only [Courier.isRefused, stage_eq]
  | finish front back result couriers_eq stage_eq =>
      have knows := (known couriers_eq).knows
      rw [stage_eq] at knows
      exact ordered.finish couriers_eq stage_eq knows

/-- The tickets stay numbered, and the diary is kept. -/
theorem numbered_of_reaches
    (narrow : engine.settings.resumeMaxAttempts < Word.shortCount)
    (reaches : Reaches engine {} post) :
    post.Ordered engine ∧
      post.books.Numbered Ticket.labels (max engine.settings.resumeMaxAttempts 1) := by
  induction reaches with
  | refl => exact ⟨ordered_empty, Books.numbered_empty⟩
  | tail _ step inductionHypothesis =>
      obtain ⟨ordered, numbered⟩ := inductionHypothesis
      refine ⟨ordered.step (fun ticket waits => ?_) step,
        numbered.turnover (by omega) (step.turnover ordered.sound)⟩
      have within := numbered.within ticket (by
        simp only [books, tickets_eq, List.mem_append]
        exact .inl (.inl waits))
      simp only [Ticket.labels, Word.shortCount] at within narrow ⊢
      omega

end Post
end Delay
end ChatFlow
