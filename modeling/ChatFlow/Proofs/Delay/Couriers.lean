import ChatFlow.Proofs.Delay.Pending
import ChatFlow.Proofs.Lock.Calls
import ChatFlow.Proofs.Process.Trace

/-!
# Couriers

Continuations wait in a queue until couriers take them, each to try one and then to conclude.  Their
calls may have any outcome, and all that they do may be interleaved in any way.  The queue takes in
what is scheduled, and takes back what it is given to be tried again.  What a courier still has to
do, and what he knows, follows from the calls that he made.
-/

namespace ChatFlow

open Process

/-! ## When to try again -/

/-- When a continuation that is refused now is tried again, if that can be told. -/
def EngineSettings.retryAt? (settings : EngineSettings) (now : Instant) : Option Instant :=
  let seconds := Word.signed settings.resumeRetrySecs
  let due := now.shiftMillis (seconds * 1000)
  if seconds.natAbs ≤ (Word.signedCount - 1) / 1000 ∧ Instant.earliest ≤ due ∧
    due ≤ Instant.latest then some due
  else none

namespace Engine

/-- To find out when to try again is to read the clock, and to halt if it cannot be told. -/
theorem retryTime_eq (settings : EngineSettings) :
    ∃ next : Instant → Process Instant, retryTime settings = .step .now next ∧ ∀ now,
      (∃ due, settings.retryAt? now = some due ∧ next now = .done due) ∨
        settings.retryAt? now = none ∧ ∃ text, next now = .halt (.panic text) := by
  refine ⟨_, rfl, fun now => ?_⟩
  unfold EngineSettings.retryAt?
  dsimp only [andThen_done]
  by_cases tellable :
      (Word.signed settings.resumeRetrySecs).natAbs ≤ (Word.signedCount - 1) / 1000 ∧
      Instant.earliest ≤ now.shiftMillis (Word.signed settings.resumeRetrySecs * 1000) ∧
      now.shiftMillis (Word.signed settings.resumeRetrySecs * 1000) ≤ Instant.latest
  · refine .inl ⟨_, if_pos tellable, ?_⟩
    rw [if_neg (Nat.not_lt.mpr tellable.1), if_pos tellable.2]
    rfl
  · refine .inr ⟨if_neg tellable, ?_⟩
    split
    · exact ⟨_, rfl⟩
    · rename_i short
      split
      · rename_i inRange
        exact (tellable ⟨Nat.le_of_not_lt short, inRange⟩).elim
      · exact ⟨_, rfl⟩

instance : DecidablePred IsRefusal
  | .ok .busy | .error (.error (.database _)) => .isTrue trivial
  | .ok (.resumed _) | .ok .stale | .ok .missing | .error (.panic _)
  | .error (.error (.flowNotFound _)) | .error (.error (.invalidFlow ..))
  | .error (.error (.nodeNotFound ..)) | .error (.error (.executionNotFound _))
  | .error (.error (.dispatch ..)) | .error (.error (.mediaValidation ..))
  | .error (.error (.aiRequest _)) | .error (.error (.aiParse _))
  | .error (.error (.scheduler _)) | .error (.error .queueFull) | .error (.error .poolClosed)
  | .error (.error (.config _)) | .error (.error (.configNotFound _)) | .error (.error (.io _))
  | .error (.error (.json _)) => .isFalse id

/-- What is done with a continuation that was tried: nothing, unless it was refused or the try
broke off. -/
theorem conclude_cases (engine : Engine) (item : Continuation)
    (tried : Except Fault ResumeOutcome) :
    IsRefusal tried ∧ engine.conclude item tried = engine.requeue item ∨
    ¬ IsRefusal tried ∧ (∃ reason, tried = .error (.panic reason) ∧
      engine.conclude item tried = .halt (.panic reason)) ∨
    ¬ IsRefusal tried ∧ (∀ reason, tried ≠ .error (.panic reason)) ∧
      engine.conclude item tried = .done () := by
  rcases tried with (error | reason) | outcome
  · cases error with
    | database text => exact .inl ⟨trivial, rfl⟩
    | _ => exact .inr (.inr ⟨id, nofun, rfl⟩)
  · exact .inr (.inl ⟨id, reason, rfl, rfl⟩)
  · cases outcome with
    | busy => exact .inl ⟨trivial, rfl⟩
    | _ => exact .inr (.inr ⟨id, nofun, rfl⟩)

/-- A refused continuation that has tries left is queued again at another time, if that can be told;
one that has none is left alone. -/
theorem requeue_cases (engine : Engine) (item : Continuation)
    (small : item.attempt + 1 < Word.shortCount) :
    (engine.settings.resumeMaxAttempts ≤ item.attempt + 1 ∧ engine.requeue item = .done ()) ∨
    (item.attempt + 1 < engine.settings.resumeMaxAttempts ∧
      ∃ next : Instant → Process Unit, engine.requeue item = .step .now next ∧ ∀ now,
        (∃ due, engine.settings.retryAt? now = some due ∧
          next now = .step (.enqueue { item with attempt := item.attempt + 1, due })
            fun outcome => (orPanic outcome).andThen fun _ => .done ()) ∨
        (engine.settings.retryAt? now = none ∧ ∃ text, next now = .halt (.panic text))) := by
  unfold requeue
  rw [Nat.mod_eq_of_lt small]
  dsimp only
  split
  · rename_i left
    obtain ⟨next, asks, told⟩ := retryTime_eq engine.settings
    refine .inr ⟨left, fun now => (next now).andThen fun due =>
      (ask (.enqueue { item with attempt := item.attempt + 1, due })).andThen fun outcome =>
        (orPanic outcome).andThen fun _ => .done (), by rw [asks]; rfl, fun now => ?_⟩
    rcases told now with ⟨due, tellable, same⟩ | ⟨untellable, text, same⟩
    · refine .inl ⟨due, tellable, ?_⟩
      dsimp only
      rw [same]
      rfl
    · refine .inr ⟨untellable, text, ?_⟩
      dsimp only
      rw [same]
      rfl
  · rename_i spent
    exact .inl ⟨Nat.le_of_not_lt spent, rfl⟩

end Engine

/-! ## Tries -/

/-- What keeps a lock gave up all of its work at a call. -/
def Exchange.Breaks (exchange : Exchange) : Prop :=
  exchange.request.isLock = true ∧
    ∃ reason, exchange.request.failure? (.panic reason) = some exchange.outcome

/-- What keeps locks gave up all of its work at one of some calls. -/
def Broke (trace : List Exchange) : Prop :=
  ∃ exchange ∈ trace, exchange.Breaks

/-- What was queued by some calls was not tried before. -/
def Tame (trace : List Exchange) : Prop :=
  ∀ exchange ∈ trace, ∀ item, exchange.request = .enqueue item → item.attempt = 0

variable {trace : List Exchange} {request : Call} {outcome : request.Outcome}

theorem tame_nil : Tame [] :=
  fun _ member => (List.not_mem_nil member).elim

theorem Tame.concat
    (tame : Tame trace)
    (fresh : ∀ item, request = .enqueue item → item.attempt = 0) :
    Tame (trace ++ [⟨request, outcome⟩]) := by
  intro exchange member
  rcases List.mem_append.mp member with old | new
  · exact tame exchange old
  · obtain rfl := List.mem_singleton.mp new
    exact fresh

theorem broke_concat (breaks : Exchange.Breaks ⟨request, outcome⟩) :
    Broke (trace ++ [⟨request, outcome⟩]) :=
  ⟨_, List.mem_append_right _ (List.mem_singleton_self _), breaks⟩

/-- Plain calls stay tame. -/
theorem Process.Plain.safe
    {α : Type}
    {process : Process α}
    (plain : process.Plain)
    (tame : Tame trace) :
    process.Safe recording Tame (fun _ _ => True) trace := by
  refine Within.safe plain ?_ tame
  rintro request before outcome _ isPlain tame rfl
  refine ⟨tame.concat fun item same => ?_, trivial⟩
  subst same
  exact eq_of_beq isPlain

/-- A process breaks off only when what keeps locks gave up all of its work. -/
def Honest {α : Type} (result : Except Fault α) (trace : List Exchange) : Prop :=
  ∀ reason, result = .error (.panic reason) → Broke trace

theorem honest_ok {α : Type} (value : α) : Honest (.ok value : Except Fault α) trace := by
  rintro _ ⟨⟩

theorem honest_error {α : Type} (error : Error) :
    Honest (.error (.error error) : Except Fault α) trace := by
  rintro _ ⟨⟩

theorem Honest.of_error
    {α β : Type}
    {fault : Fault}
    (honest : Honest (.error fault : Except Fault α) trace) :
    Honest (.error fault : Except Fault β) trace := by
  rintro reason same
  cases same
  exact honest reason rfl

namespace Engine

/-- To release a lock breaks off only when the lock does. -/
theorem safe_release
    (conversation : Conversation)
    (tame : Tame trace) :
    (release conversation).Safe recording Tame Honest trace := by
  refine ⟨tame, ?_⟩
  rintro outcome _ rfl
  have stays : Tame (trace ++ [⟨.release conversation, outcome⟩]) := tame.concat nofun
  rcases outcome with (error | text) | value
  · exact ⟨stays, honest_ok _⟩
  · exact ⟨stays, fun _ _ => broke_concat ⟨rfl, text, rfl⟩⟩
  · exact ⟨stays, honest_ok _⟩

/-- What is done under a lock breaks off only when the lock does. -/
theorem safe_underLock
    {α : Type}
    {process : Process α}
    (plain : process.Plain)
    (conversation : Conversation) :
    (underLock conversation process).Safe recording Tame Honest [] := by
  refine ⟨tame_nil, ?_⟩
  rintro outcome _ rfl
  have tame : Tame ([] ++ [⟨.acquire conversation, outcome⟩]) := tame_nil.concat nofun
  rcases outcome with fault | taken
  · refine ⟨tame, fun reason same => ?_⟩
    cases same
    exact broke_concat ⟨rfl, reason, rfl⟩
  · cases taken with
    | false => exact ⟨tame, honest_ok _⟩
    | true =>
        refine (plain.safe tame).contain.andThen ?_ ?_
        · intro result after tame _
          refine (safe_release conversation tame).andThen ?_ fun _ _ _ => Honest.of_error
          exact fun _ _ tame _ => ⟨tame, honest_ok _⟩
        · rintro fault after _ ⟨kept, same, _⟩
          cases same

/-- To take up a continuation breaks off only when the lock does, and queues only what was not tried
before. -/
theorem safe_resume (engine : Engine) (item : Continuation) :
    (engine.resume item).Safe recording Tame Honest [] := by
  rw [resume, bind_eq_andThen]
  refine (safe_underLock (plain_takeUp engine item) item.conversation).andThen ?_
    fun _ _ _ => Honest.of_error
  intro result? after tame _
  rcases result? with _ | (error | text) | outcome
  · exact ⟨tame, honest_ok _⟩
  · exact ⟨tame, honest_error _⟩
  · exact ⟨tame, honest_error _⟩
  · exact ⟨tame, honest_ok _⟩

end Engine

/-! ## Couriers -/

namespace Delay

/-- A continuation, with its number among those that were scheduled. -/
structure Ticket where
  number : Nat
  item : Continuation
deriving DecidableEq

/-- How far a courier has come. -/
inductive Stage where
  /-- He tries the continuation. -/
  | trying (rest : Process (Except Fault ResumeOutcome))
  /-- He has tried it, and concludes. -/
  | concluding (tried : Except Fault ResumeOutcome) (rest : Process Unit)

/-- He delivers a continuation. -/
structure Courier where
  ticket : Ticket
  stage : Stage
  /-- The calls that he made. -/
  calls : List Exchange := []
  /-- Whether the queue took the continuation back. -/
  relieved : Bool := false

/-- A delivery that is over, after which the continuation is not queued. -/
structure Filed where
  ticket : Ticket
  tried : Except Fault ResumeOutcome
  /-- The calls that were made. -/
  calls : List Exchange
  result : Except Fault Unit

/-- The queue and the couriers at one moment, and the diary of what has happened so far. -/
structure Post where
  queue : List Ticket := []
  couriers : List Courier := []
  filed : List Filed := []
  /-- The continuations that were scheduled, in this order. -/
  scheduled : List Continuation := []
  /-- The tickets that came into the queue, in this order. -/
  entered : List Ticket := []
  /-- The tickets whose deliveries were begun, in this order. -/
  begun : List Ticket := []
  /-- The tickets that were refused when they were tried, in this order. -/
  refused : List Ticket := []

/-- What a call puts into the queue. -/
def queued? : (request : Call) → request.Outcome → Option Continuation
  | .enqueue item, .ok () => some item
  | _, _ => none

namespace Post

/-- A ticket comes into the queue. -/
def enter (post : Post) (ticket : Ticket) : Post :=
  { post with queue := post.queue ++ [ticket], entered := post.entered ++ [ticket] }

/-- A continuation is scheduled. -/
def schedule (post : Post) (item : Continuation) : Post :=
  { post.enter { number := post.scheduled.length, item } with
    scheduled := post.scheduled ++ [item] }

/-- The queue takes in what a try puts into it. -/
def takeIn (post : Post) : Option Continuation → Post
  | some item => post.schedule item
  | none => post

/-- The queue takes back a continuation with a number. -/
def takeBack (post : Post) (number : Nat) : Option Continuation → Post
  | some item => post.enter { number, item }
  | none => post

/-- What may happen next. -/
inductive Step (engine : Engine) (post : Post) : Post → Prop
  /-- A continuation is scheduled. -/
  | schedule (item : Continuation) (fresh : item.attempt = 0) :
      Step engine post (post.schedule item)
  /-- A courier takes a continuation, to deliver it. -/
  | take (front back : List Ticket) {ticket : Ticket}
      (queue_eq : post.queue = front ++ ticket :: back) :
      Step engine post { post with
        queue := front ++ back
        couriers := post.couriers ++
          [{ ticket, stage := .trying (engine.resume ticket.item).contain }]
        begun := post.begun ++ [ticket] }
  /-- A courier makes a call to try a continuation. -/
  | call (front back : List Courier) {courier : Courier} {request : Call}
      {next : request.Outcome → Process (Except Fault ResumeOutcome)} (outcome : request.Outcome)
      (couriers_eq : post.couriers = front ++ courier :: back)
      (stage_eq : courier.stage = .trying (.step request next)) :
      Step engine post { post.takeIn (queued? request outcome) with
        couriers := front ++ { courier with
          stage := .trying (next outcome)
          calls := courier.calls ++ [⟨request, outcome⟩] } :: back }
  /-- A courier has tried a continuation. -/
  | tried (front back : List Courier) {courier : Courier} {result : Except Fault ResumeOutcome}
      (couriers_eq : post.couriers = front ++ courier :: back)
      (stage_eq : courier.stage = .trying (.done result)) :
      Step engine post { post with
        couriers := front ++ { courier with
          stage := .concluding result (engine.conclude courier.ticket.item result) } :: back
        refused :=
          if Engine.IsRefusal result then post.refused ++ [courier.ticket] else post.refused }
  /-- A courier makes a call to conclude. -/
  | conclude (front back : List Courier) {courier : Courier} {tried : Except Fault ResumeOutcome}
      {request : Call} {next : request.Outcome → Process Unit} (outcome : request.Outcome)
      (couriers_eq : post.couriers = front ++ courier :: back)
      (stage_eq : courier.stage = .concluding tried (.step request next)) :
      Step engine post { post.takeBack courier.ticket.number (queued? request outcome) with
        couriers := front ++ { courier with
          stage := .concluding tried (next outcome)
          calls := courier.calls ++ [⟨request, outcome⟩]
          relieved := courier.relieved || (queued? request outcome).isSome } :: back }
  /-- A delivery is over. -/
  | finish (front back : List Courier) {courier : Courier} {tried : Except Fault ResumeOutcome}
      (result : Except Fault Unit)
      (couriers_eq : post.couriers = front ++ courier :: back)
      (stage_eq : courier.stage = .concluding tried (orHalt result)) :
      Step engine post { post with
        couriers := front ++ back
        filed :=
          if courier.relieved then post.filed
          else post.filed ++ [{ courier with tried, result }] }

/-- What may happen in the course of time. -/
abbrev Reaches (engine : Engine) : Post → Post → Prop :=
  Relation.ReflTransGen (Step engine)

end Post

/-- What a courier sees who has tried a continuation: what is left to do, after which calls, and
whether the queue took the continuation back. -/
inductive Concludes (engine : Engine) (item : Continuation) (tried : Except Fault ResumeOutcome)
    (calls : List Exchange) : Bool → Process Unit → Prop
  /-- He has made no call to conclude. -/
  | begun (honest : Honest tried calls) :
      Concludes engine item tried calls false (engine.conclude item tried)
  /-- He knows when the continuation is tried again. -/
  | due {due : Instant} (refusal : Engine.IsRefusal tried)
      (left : item.attempt + 1 < engine.settings.resumeMaxAttempts) :
      Concludes engine item tried calls false
        (.step (.enqueue { item with attempt := item.attempt + 1, due }) fun outcome =>
          (orPanic outcome).andThen fun _ => .done ())
  /-- It cannot be told when that is. -/
  | untellable {now : Instant} {text : String} (refusal : Engine.IsRefusal tried)
      (asked : ⟨.now, now⟩ ∈ calls) (untellable : engine.settings.retryAt? now = none) :
      Concludes engine item tried calls false (.halt (.panic text))
  /-- The queue took the continuation back. -/
  | relieved (refusal : Engine.IsRefusal tried) : Concludes engine item tried calls true (.done ())
  /-- The queue did not take it back. -/
  | declined {retry : Continuation} {error : Error} (refusal : Engine.IsRefusal tried)
      (asked : ⟨.enqueue retry, .error (.error error)⟩ ∈ calls) :
      Concludes engine item tried calls false (.done ())
  /-- The queue gave up all of its work. -/
  | broken {retry : Continuation} {reason : String} (refusal : Engine.IsRefusal tried)
      (asked : ⟨.enqueue retry, .error (.panic reason)⟩ ∈ calls) :
      Concludes engine item tried calls false (.halt (.panic reason))

/-- A courier knows what his calls have shown. -/
structure Courier.Sound (engine : Engine) (courier : Courier) : Prop where
  /-- The number of tries does not wrap. -/
  small : courier.ticket.item.attempt + 1 < Word.shortCount
  knows : match courier.stage with
    | .trying rest => courier.relieved = false ∧ rest.Safe recording Tame
        (fun result calls => ∃ tried, result = .ok tried ∧ Honest tried calls) courier.calls
    | .concluding tried rest =>
        Concludes engine courier.ticket.item tried courier.calls courier.relieved rest

variable {engine : Engine} {item : Continuation} {tried : Except Fault ResumeOutcome}
  {calls : List Exchange} {relieved : Bool} {request : Call}

/-- What a courier gives back to the queue is a continuation that has tries left, as it was but for
its time and with one try more. -/
theorem Concludes.call
    {next : request.Outcome → Process Unit}
    (concludes : Concludes engine item tried calls relieved (.step request next))
    (small : item.attempt + 1 < Word.shortCount)
    (outcome : request.Outcome) :
    relieved = false ∧
    Concludes engine item tried (calls ++ [⟨request, outcome⟩]) (queued? request outcome).isSome
      (next outcome) ∧
    ∀ queued, queued? request outcome = some queued →
      item.attempt + 1 < engine.settings.resumeMaxAttempts ∧
        ∃ due, queued = { item with attempt := item.attempt + 1, due } := by
  have made : (⟨request, outcome⟩ : Exchange) ∈ calls ++ [⟨request, outcome⟩] :=
    List.mem_append_right _ (List.mem_singleton_self _)
  generalize rest_eq : Process.step request next = rest at concludes
  cases concludes with
  | begun honest =>
      rcases engine.conclude_cases item tried with
        ⟨refusal, same⟩ | ⟨_, reason, _, same⟩ | ⟨_, _, same⟩
      · rw [same] at rest_eq
        rcases engine.requeue_cases item small with ⟨_, same⟩ | ⟨left, told, same, tells⟩
        · rw [same] at rest_eq
          cases rest_eq
        · rw [same] at rest_eq
          cases rest_eq
          refine ⟨rfl, ?_, nofun⟩
          rcases tells outcome with ⟨due, _, same⟩ | ⟨untellable, text, same⟩
          · rw [same]
            exact .due refusal left
          · rw [same]
            exact .untellable refusal made untellable
      · rw [same] at rest_eq
        cases rest_eq
      · rw [same] at rest_eq
        cases rest_eq
  | due refusal left =>
      cases rest_eq
      rcases outcome with (error | reason) | taken
      · exact ⟨rfl, .declined refusal made, nofun⟩
      · exact ⟨rfl, .broken refusal made, nofun⟩
      · refine ⟨rfl, .relieved refusal, fun queued same => ?_⟩
        cases same
        exact ⟨left, _, rfl⟩
  | untellable => cases rest_eq
  | relieved => cases rest_eq
  | declined => cases rest_eq
  | broken => cases rest_eq

/-- What the queue took back was refused. -/
theorem Concludes.refusal
    {rest : Process Unit}
    (concludes : Concludes engine item tried calls true rest) :
    Engine.IsRefusal tried := by
  cases concludes with
  | relieved refusal => exact refusal

/-- What a courier puts into the queue when he tries a continuation was not tried before. -/
theorem attempt_of_queued
    {outcome : request.Outcome}
    {queued : Continuation}
    (tame : Tame (calls ++ [⟨request, outcome⟩]))
    (same : queued? request outcome = some queued) :
    queued.attempt = 0 := by
  refine tame _ (List.mem_append_right _ (List.mem_singleton_self _)) queued ?_
  unfold queued? at same
  split at same
  · cases same
    rfl
  · cases same

namespace Courier

variable {courier : Courier}

/-- A courier who begins knows nothing. -/
theorem sound_take
    {ticket : Ticket}
    (small : ticket.item.attempt + 1 < Word.shortCount) :
    Sound engine { ticket, stage := .trying (engine.resume ticket.item).contain } where
  small := small
  knows := ⟨rfl, (engine.safe_resume ticket.item).contain⟩

/-- A call to try a continuation shows what it shows. -/
theorem Sound.call
    {next : request.Outcome → Process (Except Fault ResumeOutcome)}
    (sound : courier.Sound engine)
    (stage_eq : courier.stage = .trying (.step request next))
    (outcome : request.Outcome) :
    Sound engine { courier with
      stage := .trying (next outcome)
      calls := courier.calls ++ [⟨request, outcome⟩] } ∧
    courier.relieved = false ∧
    ∀ queued, queued? request outcome = some queued → queued.attempt = 0 := by
  have knows := sound.knows
  rw [stage_eq] at knows
  have safe := knows.2.2 outcome _ rfl
  exact ⟨⟨sound.small, knows.1, safe⟩, knows.1, fun queued => attempt_of_queued safe.holds⟩

/-- A continuation was tried. -/
theorem Sound.told
    (sound : courier.Sound engine)
    (stage_eq : courier.stage = .trying (.done tried)) :
    Sound engine { courier with
      stage := .concluding tried (engine.conclude courier.ticket.item tried) } ∧
    courier.relieved = false := by
  have knows := sound.knows
  rw [stage_eq] at knows
  obtain ⟨fresh, _, kept, same, honest⟩ := knows
  cases same
  refine ⟨⟨sound.small, ?_⟩, fresh⟩
  show Concludes _ _ _ _ courier.relieved _
  rw [fresh]
  exact .begun honest

/-- A call to conclude shows what it shows. -/
theorem Sound.conclude
    {next : request.Outcome → Process Unit}
    (sound : courier.Sound engine)
    (stage_eq : courier.stage = .concluding tried (.step request next))
    (outcome : request.Outcome) :
    Sound engine { courier with
      stage := .concluding tried (next outcome)
      calls := courier.calls ++ [⟨request, outcome⟩]
      relieved := courier.relieved || (queued? request outcome).isSome } ∧
    courier.relieved = false ∧
    ∀ queued, queued? request outcome = some queued →
      courier.ticket.item.attempt + 1 < engine.settings.resumeMaxAttempts ∧
        ∃ due, queued =
          { courier.ticket.item with attempt := courier.ticket.item.attempt + 1, due } := by
  have knows := sound.knows
  rw [stage_eq] at knows
  obtain ⟨fresh, concludes, gives⟩ := Concludes.call knows sound.small outcome
  refine ⟨⟨sound.small, ?_⟩, fresh, gives⟩
  show Concludes _ _ _ _ (courier.relieved || _) _
  rw [fresh]
  exact concludes

end Courier
end Delay
end ChatFlow
