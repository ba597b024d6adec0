import ChatFlow.Proofs.Process.Renaming
import ChatFlow.Proofs.Turn.Recital

/-!
# Turns before different audiences

What a turn sends is heard by an audience, to whom it also tells its events, and who keeps the
history.  Everything else that a turn calls belongs to its surroundings.  Two processes `Echo` each
other when they try to send the same and ask the surroundings the same, whatever either of them
hears from its audience.  Turns before two audiences do so: they differ only in how many messages
were handed over, and in whether the history was written.
-/

namespace ChatFlow

/-! ## Performances -/

/-- How everything is answered that a turn calls, but for what it sends, for the history and for its
events. -/
structure Surroundings (σ : Type) where
  answer : (request : Call) → σ → request.Outcome × σ
  /-- Nobody minds that the clock is read. -/
  now_still : ∀ state, (answer .now state).2 = state
  /-- The text generator gives one answer after the other, whatever it is asked. -/
  replies : ∀ request other state, answer (.generate request) state = answer (.generate other) state

/-- How an audience answers.  It may show errors. -/
structure Audience (τ : Type) where
  /-- What becomes of a message. -/
  hear : Rehearsal.Sent → τ → Except Error Unit × τ
  /-- What becomes of a history entry. -/
  write : Conversation → HistoryEntry → τ → Except Error Unit × τ
  /-- The latest history entries. -/
  read : Conversation → Nat → τ → Except Error (List HistoryEntry) × τ
  /-- It takes notice of an event. -/
  learn : Event → τ → τ

/-- The surroundings and the audience at one moment, and what has happened so far. -/
structure Performance (σ τ : Type) where
  state : σ
  audience : τ
  /-- What was tried to be sent, in this order. -/
  tried : List Rehearsal.Sent := []
  /-- What the text generator answered, in this order. -/
  heard : List String := []

namespace Performance

variable {σ τ υ : Type}

/-- What two performances before different audiences have in common. -/
structure Alike (first : Performance σ τ) (second : Performance σ υ) : Prop where
  state_eq : second.state = first.state
  tried_eq : second.tried = first.tried
  heard_eq : second.heard = first.heard

theorem Alike.symm
    {first : Performance σ τ}
    {second : Performance σ υ}
    (alike : first.Alike second) :
    second.Alike first :=
  ⟨alike.state_eq.symm, alike.tried_eq.symm, alike.heard_eq.symm⟩

theorem Alike.trans
    {ρ : Type}
    {first : Performance σ τ}
    {second : Performance σ υ}
    {third : Performance σ ρ}
    (alike : first.Alike second)
    (further : second.Alike third) :
    first.Alike third :=
  ⟨further.state_eq.trans alike.state_eq, further.tried_eq.trans alike.tried_eq,
    further.heard_eq.trans alike.heard_eq⟩

/-- Something is tried to be sent. -/
def attempt (before : Performance σ τ) (audience : Audience τ) (line : Rehearsal.Sent) :
    Except Fault Unit × Performance σ τ :=
  let (result, there) := audience.hear line before.audience
  (result.mapError .error, { before with audience := there, tried := before.tried ++ [line] })

end Performance

namespace Call

/-- Whether a call is no business of the surroundings. -/
def isPrivate : Call → Bool
  | .appendHistory .. | .readHistory .. | .publish _ | .now => true
  | _ => false

/-- Whether a call is no business of the audience. -/
def isShared : Call → Bool
  | .sendText .. | .sendMedia .. | .appendHistory .. | .readHistory .. | .publish _ => false
  | _ => true

/-- The callee does not give up all of its work. -/
def Calm (request : Call) (outcome : request.Outcome) : Prop :=
  ∀ reason, request.failure? (.panic reason) ≠ some outcome

end Call

/-- How a call is answered in surroundings and before an audience. -/
def Surroundings.respond {σ τ : Type} (surroundings : Surroundings σ) (audience : Audience τ) :
    (request : Call) → Performance σ τ → request.Outcome × Performance σ τ
  | .sendText device phone text, before =>
      before.attempt audience { device, phone, media := none, body := text }
  | .sendMedia device phone url kind, before =>
      before.attempt audience { device, phone, media := some kind, body := url }
  | .appendHistory conversation entry, before =>
      let (result, there) := audience.write conversation entry before.audience
      (result.mapError .error, { before with audience := there })
  | .readHistory conversation limit, before =>
      let (result, there) := audience.read conversation limit before.audience
      (result.mapError .error, { before with audience := there })
  | .publish event, before => ((), { before with audience := audience.learn event before.audience })
  | .generate request, before =>
      let (outcome, state) := surroundings.answer (.generate request) before.state
      (outcome, { before with state, heard := before.heard ++ outcome.toOption.toList })
  | request, before =>
      let (outcome, state) := surroundings.answer request before.state
      (outcome, { before with state })

namespace Surroundings

variable {σ τ υ : Type} (surroundings : Surroundings σ) (audience : Audience τ)
  (other : Audience υ) {request : Call} {before : Performance σ τ} {there : Performance σ υ}

/-- What shows errors only never panics. -/
theorem mapError_ne_panic {α : Type} (result : Except Error α) (reason : String) :
    some (.error (.panic reason)) ≠ some (result.mapError Fault.error) := by
  cases result <;> nofun

/-- What is no business of the surroundings leaves everything else as it is. -/
theorem respond_private
    (before : Performance σ τ)
    (isPrivate : request.isPrivate = true) :
    before.Alike (surroundings.respond audience request before).2 ∧
      request.Calm (surroundings.respond audience request before).1 := by
  cases request with
  | appendHistory | readHistory => exact ⟨⟨rfl, rfl, rfl⟩, mapError_ne_panic _⟩
  | publish event => exact ⟨⟨rfl, rfl, rfl⟩, nofun⟩
  | now => exact ⟨⟨surroundings.now_still _, rfl, rfl⟩, nofun⟩
  | _ => cases isPrivate

/-- What is no business of the audience is answered in the same way. -/
theorem respond_shared
    (alike : before.Alike there)
    (isShared : request.isShared = true) :
    (surroundings.respond other request there).1 =
      (surroundings.respond audience request before).1 ∧
    (surroundings.respond audience request before).2.Alike
      (surroundings.respond other request there).2 := by
  obtain ⟨state_eq, tried_eq, heard_eq⟩ := alike
  cases request with
  | sendText | sendMedia | appendHistory | readHistory | publish => cases isShared
  | _ =>
      simp only [respond, state_eq]
      exact ⟨trivial, rfl, tried_eq, by simp only [heard_eq]⟩

/-- The text generator answers in the same way whatever it is asked. -/
theorem respond_generate
    (alike : before.Alike there)
    (first second : AiRequest) :
    (surroundings.respond other (.generate second) there).1 =
      (surroundings.respond audience (.generate first) before).1 ∧
    (surroundings.respond audience (.generate first) before).2.Alike
      (surroundings.respond other (.generate second) there).2 := by
  obtain ⟨state_eq, tried_eq, heard_eq⟩ := alike
  simp only [respond, state_eq, surroundings.replies second first]
  exact ⟨trivial, rfl, tried_eq, by simp only [heard_eq]⟩

/-- What becomes of a message has no part in what was tried. -/
theorem respond_line
    (alike : before.Alike there)
    (sends : request.line?.isSome = true) :
    (surroundings.respond audience request before).2.Alike
      (surroundings.respond other request there).2 ∧
    request.Calm (surroundings.respond audience request before).1 ∧
    request.Calm (surroundings.respond other request there).1 := by
  obtain ⟨state_eq, tried_eq, heard_eq⟩ := alike
  cases request with
  | sendText | sendMedia =>
      refine ⟨⟨state_eq, ?_, heard_eq⟩, mapError_ne_panic _, mapError_ne_panic _⟩
      simp only [respond, Performance.attempt, tried_eq]
  | _ => cases sends

end Surroundings

/-! ## Echoes -/

namespace Process

variable {α β γ δ : Type} {post : α → β → Prop} {after : γ → δ → Prop} {process : Process α}
  {other : Process β}

/-- Two processes try to send the same and ask the surroundings the same, whatever their audiences
answer.  Each does what is no business of the surroundings when it likes to. -/
inductive Echoes (post : α → β → Prop) : Process α → Process β → Prop
  | done {value : α} {result : β} (holds : post value result) :
      Echoes post (.done value) (.done result)
  | halt (fault : Fault) : Echoes post (.halt fault) (.halt fault)
  /-- The first one does something that is no business of the surroundings. -/
  | former {request : Call} {next : request.Outcome → Process α} {other : Process β}
      (isPrivate : request.isPrivate = true)
      (goesOn : ∀ outcome, request.Calm outcome → Echoes post (next outcome) other) :
      Echoes post (.step request next) other
  /-- The second one does. -/
  | latter {request : Call} {process : Process α} {next : request.Outcome → Process β}
      (isPrivate : request.isPrivate = true)
      (goesOn : ∀ outcome, request.Calm outcome → Echoes post process (next outcome)) :
      Echoes post process (.step request next)
  /-- Both try to send something. -/
  | line {request : Call} {next : request.Outcome → Process α}
      {following : request.Outcome → Process β} (sends : request.line?.isSome = true)
      (goesOn : ∀ outcome heard, request.Calm outcome → request.Calm heard →
        Echoes post (next outcome) (following heard)) :
      Echoes post (.step request next) (.step request following)
  /-- Both ask the surroundings something. -/
  | shared {request : Call} {next : request.Outcome → Process α}
      {following : request.Outcome → Process β} (isShared : request.isShared = true)
      (goesOn : ∀ outcome, Echoes post (next outcome) (following outcome)) :
      Echoes post (.step request next) (.step request following)
  /-- Both ask the text generator, be it for something else. -/
  | generate (first second : AiRequest) {next : Except Fault String → Process α}
      {following : Except Fault String → Process β}
      (goesOn : ∀ outcome, Echoes post (next outcome) (following outcome)) :
      Echoes post (.step (.generate first) next) (.step (.generate second) following)

/-- Whatever their audiences answer, processes that echo each other try to send the same, leave the
surroundings in the same state, and end in the same way. -/
theorem Echoes.agree
    {σ τ υ : Type}
    {surroundings : Surroundings σ}
    {audience : Audience τ}
    {otherAudience : Audience υ}
    (echoes : Echoes post process other)
    {before : Performance σ τ}
    {there : Performance σ υ}
    (alike : before.Alike there) :
    Agree post (process.run (surroundings.respond audience) before).1
      (other.run (surroundings.respond otherAudience) there).1 ∧
    (process.run (surroundings.respond audience) before).2.Alike
      (other.run (surroundings.respond otherAudience) there).2 := by
  induction echoes generalizing before there with
  | done holds => exact ⟨.ok holds, alike⟩
  | halt fault => exact ⟨.error fault, alike⟩
  | former isPrivate goesOn inductionHypothesis =>
      obtain ⟨still, calm⟩ := surroundings.respond_private audience before isPrivate
      exact inductionHypothesis _ calm (still.symm.trans alike)
  | latter isPrivate goesOn inductionHypothesis =>
      obtain ⟨still, calm⟩ := surroundings.respond_private otherAudience there isPrivate
      exact inductionHypothesis _ calm (alike.trans still)
  | line sends goesOn inductionHypothesis =>
      obtain ⟨alike, calm, calmToo⟩ :=
        surroundings.respond_line audience otherAudience alike sends
      exact inductionHypothesis _ _ calm calmToo alike
  | shared isShared goesOn inductionHypothesis =>
      obtain ⟨same, alike⟩ := surroundings.respond_shared audience otherAudience alike isShared
      unfold run
      dsimp only
      rw [same]
      exact inductionHypothesis _ alike
  | generate first second goesOn inductionHypothesis =>
      obtain ⟨same, alike⟩ :=
        surroundings.respond_generate audience otherAudience alike first second
      unfold run
      dsimp only
      rw [same]
      exact inductionHypothesis _ alike

/-- Processes in a row echo each other when their parts do. -/
theorem Echoes.andThen
    {next : α → Process γ}
    {following : β → Process δ}
    (echoes : Echoes post process other)
    (rest : ∀ value result, post value result → Echoes after (next value) (following result)) :
    Echoes after (process.andThen next) (other.andThen following) := by
  induction echoes with
  | done holds => exact rest _ _ holds
  | halt fault => exact .halt fault
  | former isPrivate _ inductionHypothesis => exact .former isPrivate inductionHypothesis
  | latter isPrivate _ inductionHypothesis => exact .latter isPrivate inductionHypothesis
  | line sends _ inductionHypothesis => exact .line sends inductionHypothesis
  | shared isShared _ inductionHypothesis => exact .shared isShared inductionHypothesis
  | generate first second _ inductionHypothesis =>
      exact .generate first second inductionHypothesis

/-- A process that is no business of the surroundings, and how it ends. -/
abbrev Private (kept : α → Prop) (process : Process α) : Prop :=
  process.Within (fun request => request.isPrivate = true) Call.Calm
    (fun result => ∃ value, result = .ok value ∧ kept value)

/-- The first process may do such things before it echoes the second one. -/
theorem Echoes.after_former
    {kept : α → Prop}
    {next : α → Process γ}
    {second : Process δ}
    (isPrivate : process.Private kept)
    (rest : ∀ value, kept value → Echoes after (next value) second) :
    Echoes after (process.andThen next) second := by
  induction process with
  | done value =>
      obtain ⟨_, ⟨⟩, holds⟩ := isPrivate
      exact rest value holds
  | halt fault =>
      obtain ⟨_, ⟨⟩, _⟩ := isPrivate
  | step request following inductionHypothesis =>
      exact .former isPrivate.1 fun outcome calm =>
        inductionHypothesis outcome (isPrivate.2 outcome calm)

/-- So may the second one. -/
theorem Echoes.after_latter
    {kept : β → Prop}
    {first : Process γ}
    {next : β → Process δ}
    (isPrivate : other.Private kept)
    (rest : ∀ value, kept value → Echoes after first (next value)) :
    Echoes after first (other.andThen next) := by
  induction other with
  | done value =>
      obtain ⟨_, ⟨⟩, holds⟩ := isPrivate
      exact rest value holds
  | halt fault =>
      obtain ⟨_, ⟨⟩, _⟩ := isPrivate
  | step request following inductionHypothesis =>
      exact .latter isPrivate.1 fun outcome calm =>
        inductionHypothesis outcome (isPrivate.2 outcome calm)

/-- Both go on with a result, or halt with its fault. -/
theorem echoes_orHalt
    {outcome : Except Fault α}
    {next : α → Process γ}
    {following : α → Process δ}
    (rest : ∀ value, Echoes after (next value) (following value)) :
    Echoes after ((orHalt outcome).andThen next) ((orHalt outcome).andThen following) := by
  cases outcome with
  | ok value => exact rest value
  | error fault => exact .halt fault

/-- Both keep an error as a value, or panic. -/
theorem echoes_orPanic
    {outcome : Except Fault α}
    {next : Except Error α → Process γ}
    {following : Except Error α → Process δ}
    (rest : ∀ result, Echoes after (next result) (following result)) :
    Echoes after ((orPanic outcome).andThen next) ((orPanic outcome).andThen following) := by
  rcases outcome with (error | reason) | value
  · exact rest (.error error)
  · exact .halt (.panic reason)
  · exact rest (.ok value)

/-- An outcome that is no panic is kept as a value. -/
theorem exists_orPanic_eq
    {outcome : Except Fault α}
    (calm : ∀ reason, some (.error (.panic reason)) ≠ some outcome) :
    ∃ result, orPanic outcome = .done result := by
  rcases outcome with (error | reason) | value
  · exact ⟨_, rfl⟩
  · exact (calm reason rfl).elim
  · exact ⟨_, rfl⟩

end Process

namespace Turn

open Process

variable {engine : Engine} {graph : Flow.Graph} {node : Flow.Node} {turn other : Turn}

/-- Two turns are the same, but for how many messages were handed over and for whether they wrote to
the history. -/
def Resembles (turn other : Turn) : Prop :=
  ∃ recorded dispatched, other = { turn with recorded, dispatched }

theorem Resembles.refl (turn : Turn) : turn.Resembles turn :=
  ⟨_, _, rfl⟩

theorem Resembles.symm (resembles : turn.Resembles other) : other.Resembles turn := by
  obtain ⟨_, _, rfl⟩ := resembles
  exact ⟨_, _, rfl⟩

theorem Resembles.trans
    {third : Turn}
    (resembles : turn.Resembles other)
    (further : other.Resembles third) :
    turn.Resembles third := by
  obtain ⟨_, _, rfl⟩ := resembles
  obtain ⟨_, _, rfl⟩ := further
  exact ⟨_, _, rfl⟩

theorem Resembles.render_eq (resembles : turn.Resembles other) : other.render = turn.render := by
  obtain ⟨_, _, rfl⟩ := resembles
  rfl

/-! ## Output -/

theorem private_logExchange (user bot : String) :
    (turn.logExchange user bot).Private fun _ => True := by
  refine ⟨rfl, fun time _ => ⟨rfl, fun outcome calm => ?_⟩⟩
  obtain ⟨result, told⟩ := exists_orPanic_eq calm
  simp only [andThen_done, bind_eq_andThen, told]
  exact ⟨(), rfl, trivial⟩

theorem private_logInput : turn.logInput.Private fun _ => True := by
  unfold logInput
  split
  · exact private_logExchange _ _
  · exact ⟨(), rfl, trivial⟩

/-- What becomes of a message is no business of the surroundings. -/
theorem private_settle (kind body : String) (outcome : Except Error Unit) :
    (turn.settle node kind body outcome).Private turn.Resembles := by
  cases outcome with
  | error error => exact ⟨rfl, fun _ _ => ⟨turn, rfl, .refl turn⟩⟩
  | ok value =>
      refine ⟨rfl, fun _ _ => ?_⟩
      have writes (counted : Turn) (user : String) : (counted.logExchange user body).Within _ _ _ :=
        private_logExchange user body
      refine (writes { turn with dispatched := turn.dispatched + 1 } _).andThen ?_ ?_
      · exact fun _ _ => ⟨_, rfl, _, _, rfl⟩
      · rintro _ ⟨_, ⟨⟩, _⟩

/-- Whatever becomes of a message that two turns send, they go on in the same way. -/
theorem echoes_send
    {request : Call}
    {next following : request.Outcome → Process Turn}
    (sends : request.line?.isSome = true)
    (settles : ∀ outcome, request.Calm outcome → (next outcome).Private turn.Resembles)
    (settlesToo : ∀ outcome, request.Calm outcome → (following outcome).Private turn.Resembles) :
    Echoes Resembles (.step request next) (.step request following) := by
  refine .line sends fun outcome heard calm calmToo => ?_
  rw [← andThen_done_right (next outcome), ← andThen_done_right (following heard)]
  refine .after_former (settles outcome calm) fun settled resembles => ?_
  refine .after_latter (settlesToo heard calmToo) fun settledToo resemblesToo => ?_
  exact .done (resembles.symm.trans resemblesToo)

theorem private_settled
    {outcome : Except Fault Unit}
    (resembles : turn.Resembles other)
    (calm : ∀ reason, some (.error (.panic reason)) ≠ some outcome)
    (kind body : String) :
    ((orPanic outcome).andThen fun result => other.settle node kind body result).Private
      turn.Resembles := by
  obtain ⟨result, told⟩ := exists_orPanic_eq calm
  rw [told]
  refine (private_settle kind body result).weaken (fun _ isPrivate => isPrivate)
    (fun _ _ calm => calm) ?_
  rintro _ ⟨settled, rfl, further⟩
  exact ⟨settled, rfl, resembles.trans further⟩

theorem echoes_sendText
    (resembles : turn.Resembles other)
    (text : String) :
    Echoes Resembles (turn.sendText node text) (other.sendText node text) := by
  have same := resembles
  obtain ⟨recorded, dispatched, rfl⟩ := same
  exact echoes_send rfl (fun _ calm => private_settled (.refl turn) calm "text" text)
    fun _ calm => private_settled resembles calm "text" text

theorem echoes_mediaKind? (url : String) (hint : Option Media.Kind) :
    Echoes (· = ·) (mediaKind? engine url hint) (mediaKind? engine url hint) := by
  unfold mediaKind?
  split
  · refine .shared rfl fun outcome => ?_
    exact echoes_orPanic fun result => .done rfl
  · exact .done rfl

theorem echoes_sendMedia
    (resembles : turn.Resembles other)
    (url : String)
    (hint : Option Media.Kind) :
    Echoes Resembles (sendMedia engine turn node url hint)
      (sendMedia engine other node url hint) := by
  refine (echoes_mediaKind? url hint).andThen ?_
  rintro (_ | kind) _ rfl
  · exact echoes_sendText resembles _
  · have same := resembles
    obtain ⟨recorded, dispatched, rfl⟩ := same
    exact echoes_send rfl (fun _ calm => private_settled (.refl turn) calm kind.name url)
      fun _ calm => private_settled resembles calm kind.name url

theorem echoes_sendItem
    (resembles : turn.Resembles other)
    (item : ReplyItem) :
    Echoes Resembles (sendItem engine turn node item) (sendItem engine other node item) := by
  unfold sendItem
  split
  · exact echoes_sendText resembles _
  · exact echoes_sendMedia resembles _ _

theorem echoes_sendFurther
    (resembles : turn.Resembles other)
    (items : List ReplyItem) :
    Echoes Resembles (sendFurther engine node items turn)
      (sendFurther engine node items other) := by
  induction items generalizing turn other with
  | nil => exact .done resembles
  | cons item rest inductionHypothesis =>
      have goesOn : Echoes Resembles
          ((sendItem engine turn node item).andThen (sendFurther engine node rest))
          ((sendItem engine other node item).andThen (sendFurther engine node rest)) :=
        (echoes_sendItem resembles item).andThen fun _ _ resembles =>
          inductionHypothesis resembles
      unfold sendFurther
      dsimp only
      split
      · exact goesOn
      · exact .shared rfl fun _ => goesOn

theorem echoes_sendItems
    (resembles : turn.Resembles other)
    (items : List ReplyItem) :
    Echoes Resembles (sendItems engine node items turn) (sendItems engine node items other) := by
  cases items with
  | nil => exact .done resembles
  | cons item rest =>
      exact (echoes_sendItem resembles item).andThen fun _ _ resembles =>
        echoes_sendFurther resembles rest

/-! ## Nodes -/

theorem echoes_talk (resembles : turn.Resembles other) :
    Echoes Resembles (turn.talk node) (other.talk node) := by
  unfold talk
  rw [resembles.render_eq]
  split
  · exact echoes_sendText resembles _
  · exact .done resembles

theorem echoes_sendCaption (resembles : turn.Resembles other) :
    Echoes Resembles (turn.sendCaption node) (other.sendCaption node) := by
  unfold sendCaption
  rw [resembles.render_eq]
  split
  · exact echoes_sendText resembles _
  · exact .done resembles

theorem echoes_showMedia (resembles : turn.Resembles other) :
    Echoes Resembles (showMedia engine turn node) (showMedia engine other node) := by
  unfold showMedia
  rw [resembles.render_eq]
  split
  · exact (echoes_sendMedia resembles _ _).andThen fun _ _ resembles => echoes_sendCaption resembles
  · exact .done resembles

theorem echoes_setStage
    (resembles : turn.Resembles other)
    (stage : String) :
    Echoes Resembles (turn.setStage stage) (other.setStage stage) := by
  obtain ⟨_, _, rfl⟩ := resembles
  exact .shared rfl fun outcome => echoes_orHalt fun _ => .done ⟨_, _, rfl⟩

theorem echoes_captureFields
    (resembles : turn.Resembles other)
    (stage : String) :
    Echoes Resembles (captureFields engine turn stage) (captureFields engine other stage) := by
  obtain ⟨recorded, dispatched, rfl⟩ := resembles
  have still : Echoes Resembles (.done turn) (.done { turn with recorded, dispatched }) :=
    .done ⟨_, _, rfl⟩
  unfold captureFields
  split
  · exact still
  · refine .shared rfl fun outcome => echoes_orPanic fun result => ?_
    cases result with
    | error _ => exact still
    | ok rules =>
        dsimp only
        split
        · exact .shared rfl fun outcome => echoes_orHalt fun _ => .done ⟨_, _, rfl⟩
        · exact still

theorem echoes_enterStage (resembles : turn.Resembles other) :
    Echoes Resembles (enterStage engine turn node) (enterStage engine other node) := by
  unfold enterStage
  rw [resembles.render_eq]
  cases stageTemplate? node with
  | none => exact .done resembles
  | some template =>
      dsimp only
      generalize turn.render (Text.trim template) = stage
      refine (echoes_setStage resembles stage).andThen fun _ _ resembles => ?_
      split
      · exact .done resembles
      · exact echoes_captureFields resembles stage

theorem echoes_dueAfter (wait : Span) : Echoes (· = ·) (dueAfter wait) (dueAfter wait) := by
  unfold dueAfter
  split
  · refine .shared rfl fun now => ?_
    show Echoes _ (ite (now.after wait ≤ Instant.latest) _ _)
      (ite (now.after wait ≤ Instant.latest) _ _)
    by_cases inTime : now.after wait ≤ Instant.latest
    · rw [if_pos inTime]
      exact .done rfl
    · rw [if_neg inTime]
      exact .halt _
  · exact .halt _

theorem echoes_delay (resembles : turn.Resembles other) :
    Echoes (· = ·) (delay engine graph turn node) (delay engine graph other node) := by
  obtain ⟨_, _, rfl⟩ := resembles
  unfold delay
  cases graph.nextTarget? node.id with
  | none => exact .done rfl
  | some target =>
      refine (echoes_dueAfter _).andThen ?_
      rintro due _ rfl
      exact .shared rfl fun outcome => echoes_orHalt fun _ => .done rfl

/-- To read the history is no business of the surroundings. -/
theorem private_recent : (turn.recent engine).Private fun _ => True := by
  refine ⟨rfl, fun outcome calm => ?_⟩
  obtain ⟨result, told⟩ := exists_orPanic_eq calm
  simp only [andThen_done, bind_eq_andThen, told]
  cases result with
  | ok entries => exact ⟨_, rfl, trivial⟩
  | error error => exact ⟨_, rfl, trivial⟩

theorem echoes_obey
    (resembles : turn.Resembles other)
    (raw : String) :
    Echoes Resembles (obey engine turn node raw) (obey engine other node raw) := by
  unfold obey
  cases Reply.ofText raw with
  | error fault =>
      dsimp only
      split
      · exact .done resembles
      · exact echoes_sendText resembles _
  | ok reply =>
      dsimp only
      cases reply.stage with
      | none => exact echoes_sendItems resembles reply.items
      | some stage =>
          exact (echoes_setStage resembles stage).andThen fun _ _ resembles =>
            echoes_sendItems resembles reply.items

/-- Whatever history the text generator sees, it gives the same answer. -/
theorem echoes_consult (resembles : turn.Resembles other) :
    Echoes Resembles (consult engine turn node) (consult engine other node) := by
  unfold consult
  split
  · exact .done resembles
  · refine .after_former private_recent fun history _ => ?_
    refine .after_latter private_recent fun otherHistory _ => ?_
    refine .generate _ _ fun outcome => echoes_orPanic fun result => ?_
    cases result with
    | ok raw => exact echoes_obey resembles raw
    | error error => exact .done resembles

/-- What a turn does at a node, and where it goes on, does not depend on its audience. -/
theorem echoes_step
    (resembles : turn.Resembles other)
    (answering : Bool) :
    Echoes (fun result other => other.1 = result.1 ∧ result.2.Resembles other.2)
      (step engine graph node answering turn) (step engine graph node answering other) := by
  have paired {transition : Transition} {process other : Process Turn}
      (echoes : Echoes Resembles process other) :
      Echoes (fun result other => other.1 = result.1 ∧ result.2.Resembles other.2)
        (process.andThen fun after => .done (transition, after))
        (other.andThen fun after => .done (transition, after)) :=
    echoes.andThen fun _ _ resembles => .done ⟨rfl, resembles⟩
  unfold step
  cases node.kind with
  | start | manual | unknown text => exact .done ⟨rfl, resembles⟩
  | message => exact paired (echoes_talk resembles)
  | image | audio | video => exact paired (echoes_showMedia resembles)
  | stage => exact paired (echoes_enterStage resembles)
  | delay =>
      refine (echoes_delay resembles).andThen ?_
      rintro transition _ rfl
      exact .done ⟨rfl, resembles⟩
  | condition =>
      refine .done ⟨?_, resembles⟩
      obtain ⟨_, _, rfl⟩ := resembles
      rfl
  | userReply | waitingReplyTimes => exact .done ⟨rfl, resembles⟩
  | aiPrompt | advancedAiPrompt | prompt => exact paired (echoes_consult resembles)
  | «end» => exact .done ⟨rfl, resembles⟩

/-! ## The walk -/

theorem echoes_follow
    (resembles : turn.Resembles other)
    (transition : Transition) :
    Echoes Resembles (turn.follow transition) (other.follow transition) := by
  obtain ⟨_, _, rfl⟩ := resembles
  cases transition with
  | advance | advanceAndWait | wait =>
      exact .shared rfl fun outcome => echoes_orHalt fun _ => .done ⟨_, _, rfl⟩
  | scheduled item =>
      exact .former rfl fun _ _ => .latter rfl fun _ _ => .done ⟨_, _, rfl⟩
  | complete =>
      refine .shared rfl fun outcome => echoes_orHalt fun _ => ?_
      exact .former rfl fun _ _ => .latter rfl fun _ _ => .done ⟨_, _, rfl⟩

theorem echoes_walk
    (resembles : turn.Resembles other)
    (hops : Nat)
    (answering : Bool) :
    Echoes Resembles (walk engine graph hops answering turn)
      (walk engine graph hops answering other) := by
  induction hops generalizing turn other answering with
  | zero =>
      obtain ⟨_, _, rfl⟩ := resembles
      exact .former rfl fun _ _ => .latter rfl fun _ _ => .done ⟨_, _, rfl⟩
  | succ hops inductionHypothesis =>
      obtain ⟨recorded, dispatched, rfl⟩ := resembles
      unfold walk
      cases graph.require turn.execution.node with
      | error error => exact .halt _
      | ok node =>
          refine .former rfl fun _ _ => .latter rfl fun _ _ => ?_
          refine (echoes_step ⟨recorded, dispatched, rfl⟩ answering).andThen ?_
          rintro ⟨transition, stepped⟩ ⟨_, steppedToo⟩ ⟨rfl, resembles⟩
          refine (echoes_follow resembles _).andThen fun _ _ resembles => ?_
          dsimp only
          split
          · exact inductionHypothesis resembles false
          · exact .done resembles

/-- A turn of an execution does the same before any audience, and reports the same, but for how many
messages were handed over. -/
theorem echoes_perform
    (execution : Execution)
    (input : TurnInput) :
    Echoes (fun report other => ∃ dispatched, other = { report with dispatched })
      (perform engine graph execution input) (perform engine graph execution input) := by
  refine (echoes_walk (.refl _) _ _).andThen fun turn other resembles => ?_
  refine .after_former private_logInput fun _ _ => .after_latter private_logInput fun _ _ => ?_
  obtain ⟨_, _, rfl⟩ := resembles
  exact .done ⟨_, rfl⟩

end Turn
end ChatFlow
