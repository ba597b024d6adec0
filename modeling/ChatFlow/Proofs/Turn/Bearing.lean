import ChatFlow.Proofs.Transcript
import ChatFlow.Proofs.Turn.Steps

/-!
# What a turn can bear

A turn goes on when a call fails that it can do without.  So whatever bearable outcomes its calls
have, what a turn does at a node ends well, unless the wait of a delay cannot be told.  At a delay
it ends with a continuation along the first edge, which names the execution and brings the user's
text along.
-/

namespace ChatFlow

/-- The continuation of a turn at a node, once a time has come. -/
def Turn.continuation (turn : Turn) (target : String) (due : Instant) : Continuation where
  execution := turn.execution.id
  flow := turn.execution.flow
  target
  conversation := turn.conversation
  payload := turn.input.text
  due

/-- The continuation that a transition waits for. -/
def Transition.item? : Transition → Option Continuation
  | .scheduled item => some item
  | _ => none

/-- A continuation is the one of a turn that goes on along the first edge of a node. -/
def Continuation.Resumes
    (item : Continuation) (graph : Flow.Graph) (node : Flow.Node) (turn : Turn) : Prop :=
  ∃ target due, graph.nextTarget? node.id = some target ∧ item = turn.continuation target due

namespace Turn

/-- Whatever bearable outcomes its calls have, a process ends with a result that has a property,
unless a wait cannot be told. -/
abbrev Bears (property : α → Prop) (process : Process α) : Prop :=
  process.Within (fun _ => True) Call.Bearable fun
    | .ok value => property value
    | .error fault => ∃ text, fault = .error (.scheduler text)

variable {engine : Engine} {graph : Flow.Graph} {node : Flow.Node} {turn : Turn}

/-! ## Rules -/

theorem bears_done
    {property : α → Prop}
    {value : α}
    (holds : property value) :
    Bears property (.done value) :=
  holds

/-- Two processes in a row bear what both do. -/
theorem Bears.andThen
    {first : α → Prop}
    {second : β → Prop}
    {process : Process α}
    {next : α → Process β}
    (bears : Bears first process)
    (rest : ∀ value, first value → Bears second (next value)) :
    Bears second (process.andThen next) :=
  Process.Within.andThen bears rest fun _ halts => halts

/-- A call is made, and its outcome is borne. -/
theorem bears_step
    {property : α → Prop}
    {request : Call}
    {next : request.Outcome → Process α}
    (rest : ∀ outcome, request.Bearable outcome → Bears property (next outcome)) :
    Bears property (.step request next) :=
  ⟨trivial, rest⟩

/-- An outcome that is an error at worst is turned into a result. -/
theorem bears_orPanic
    {outcome : Except Fault α}
    (bearable : ∀ fault, outcome = .error fault → ∃ error, fault = .error error) :
    Bears (fun _ => True) (Process.orPanic outcome) := by
  cases outcome with
  | ok value => trivial
  | error fault =>
      obtain ⟨error, rfl⟩ := bearable fault rfl
      trivial

/-- An outcome that is no fault is turned into a result. -/
theorem bears_orHalt
    {outcome : Except Fault α}
    (goesWell : ∀ fault, outcome ≠ .error fault) :
    Bears (fun _ => True) (Process.orHalt outcome) := by
  cases outcome with
  | ok value => trivial
  | error fault => exact (goesWell fault rfl).elim

/-- What a call that can be done without shows is an error at worst. -/
theorem exists_error_of_bearable
    {request : Call}
    {outcome : request.Outcome}
    {fault : Fault}
    (bearable : request.Bearable outcome)
    (fails : request.failure? fault = some outcome) :
    ∃ error, fault = .error error :=
  (bearable fault fails).2

/-! ## Output -/

theorem bears_logExchange (user bot : String) :
    Bears (fun _ => True) (turn.logExchange user bot) := by
  refine bears_step fun time _ => bears_step fun outcome bearable => ?_
  refine (bears_orPanic fun fault failed =>
    exists_error_of_bearable bearable (by rw [failed]; rfl)).andThen ?_
  exact fun _ _ => trivial

theorem bears_settle (sender : Flow.Node) (kind body : String) (outcome : Except Error Unit) :
    Bears (fun _ => True) (turn.settle sender kind body outcome) := by
  cases outcome with
  | ok _ =>
      refine bears_step fun _ _ => (bears_logExchange _ _).andThen ?_
      exact fun _ _ => trivial
  | error _ => exact bears_step fun _ _ => trivial

theorem bears_sendText (sender : Flow.Node) (text : String) :
    Bears (fun _ => True) (turn.sendText sender text) := by
  refine bears_step fun outcome bearable => ?_
  refine (bears_orPanic fun fault failed =>
    exists_error_of_bearable bearable (by rw [failed]; rfl)).andThen ?_
  exact fun result _ => bears_settle sender "text" text result

theorem bears_mediaKind? (url : String) (hint : Option Media.Kind) :
    Bears (fun _ => True) (mediaKind? engine url hint) := by
  unfold mediaKind?
  split
  · refine bears_step fun outcome bearable => ?_
    refine (bears_orPanic fun fault failed =>
      exists_error_of_bearable bearable (by rw [failed]; rfl)).andThen ?_
    exact fun _ _ => trivial
  · trivial

theorem bears_sendMedia (sender : Flow.Node) (url : String) (hint : Option Media.Kind) :
    Bears (fun _ => True) (sendMedia engine turn sender url hint) := by
  refine (bears_mediaKind? url hint).andThen ?_
  intro kind? _
  cases kind? with
  | some kind =>
      refine bears_step fun outcome bearable => ?_
      refine (bears_orPanic fun fault failed =>
        exists_error_of_bearable bearable (by rw [failed]; rfl)).andThen ?_
      exact fun result _ => bears_settle sender kind.name url result
  | none => exact bears_sendText sender _

theorem bears_sendItem (sender : Flow.Node) (item : ReplyItem) :
    Bears (fun _ => True) (sendItem engine turn sender item) := by
  unfold sendItem
  split
  · exact bears_sendText sender _
  · exact bears_sendMedia sender _ _

theorem bears_sendFurther (sender : Flow.Node) (items : List ReplyItem) :
    Bears (fun _ => True) (sendFurther engine sender items turn) := by
  induction items generalizing turn with
  | nil => trivial
  | cons item rest inductionHypothesis =>
      have goesOn : Bears (fun _ => True)
          ((sendItem engine turn sender item).andThen (sendFurther engine sender rest)) :=
        (bears_sendItem sender item).andThen fun _ _ => inductionHypothesis
      unfold sendFurther
      dsimp only
      split
      · exact goesOn
      · exact bears_step fun _ _ => goesOn

theorem bears_sendItems (sender : Flow.Node) (items : List ReplyItem) :
    Bears (fun _ => True) (sendItems engine sender items turn) := by
  cases items with
  | nil => trivial
  | cons item rest =>
      refine (bears_sendItem sender item).andThen ?_
      exact fun _ _ => bears_sendFurther sender rest

/-! ## Nodes -/

theorem bears_talk (sender : Flow.Node) : Bears (fun _ => True) (turn.talk sender) := by
  unfold talk
  split
  · exact bears_sendText sender _
  · trivial

theorem bears_sendCaption (sender : Flow.Node) :
    Bears (fun _ => True) (turn.sendCaption sender) := by
  unfold sendCaption
  split
  · exact bears_sendText sender _
  · trivial

theorem bears_showMedia (sender : Flow.Node) :
    Bears (fun _ => True) (showMedia engine turn sender) := by
  unfold showMedia
  split
  · exact (bears_sendMedia sender _ _).andThen fun _ _ => bears_sendCaption sender
  · trivial

theorem bears_setStage (stage : String) : Bears (fun _ => True) (turn.setStage stage) := by
  refine bears_step fun outcome bearable => ?_
  refine (bears_orHalt fun fault failed => ?_).andThen fun _ _ => trivial
  exact bearable.not_fails rfl ⟨fault, by rw [failed]; rfl⟩

theorem bears_captureFields (stage : String) :
    Bears (fun _ => True) (captureFields engine turn stage) := by
  unfold captureFields
  split
  · trivial
  · refine bears_step fun outcome bearable => ?_
    refine (bears_orPanic fun fault failed =>
      exists_error_of_bearable bearable (by rw [failed]; rfl)).andThen ?_
    intro result _
    cases result with
    | error _ => trivial
    | ok rules =>
        dsimp only
        split
        · refine bears_step fun outcome bearable => ?_
          refine (bears_orHalt fun fault failed => ?_).andThen fun _ _ => trivial
          exact bearable.not_fails rfl ⟨fault, by rw [failed]; rfl⟩
        · trivial

theorem bears_enterStage (sender : Flow.Node) :
    Bears (fun _ => True) (enterStage engine turn sender) := by
  unfold enterStage
  cases stageTemplate? sender with
  | none => trivial
  | some template =>
      dsimp only
      generalize turn.render (Text.trim template) = stage
      refine (bears_setStage stage).andThen ?_
      intro after _
      split
      · trivial
      · exact bears_captureFields stage

theorem bears_recent : Bears (fun _ => True) (turn.recent engine) := by
  refine bears_step fun outcome bearable => ?_
  refine (bears_orPanic fun fault failed =>
    exists_error_of_bearable bearable (by rw [failed]; rfl)).andThen ?_
  intro result _
  cases result <;> trivial

theorem bears_obey (sender : Flow.Node) (raw : String) :
    Bears (fun _ => True) (obey engine turn sender raw) := by
  unfold obey
  cases Reply.ofText raw with
  | error _ =>
      dsimp only
      split
      · trivial
      · exact bears_sendText sender _
  | ok reply =>
      dsimp only
      cases reply.stage with
      | none => exact bears_sendItems sender reply.items
      | some stage =>
          exact (bears_setStage stage).andThen fun _ _ => bears_sendItems sender reply.items

theorem bears_consult (sender : Flow.Node) :
    Bears (fun _ => True) (consult engine turn sender) := by
  unfold consult
  split
  · trivial
  · refine bears_recent.andThen fun history _ => bears_step fun outcome bearable => ?_
    refine (bears_orPanic fun fault failed =>
      exists_error_of_bearable bearable (by rw [failed]; rfl)).andThen ?_
    intro result _
    cases result with
    | ok raw => exact bears_obey sender raw
    | error _ => trivial

theorem bears_dueAfter (wait : Span) : Bears (fun _ => True) (dueAfter wait) := by
  unfold dueAfter
  split
  · refine bears_step fun now _ => ?_
    show Bears _ (ite _ _ _)
    split
    · trivial
    · exact ⟨_, rfl⟩
  · exact ⟨_, rfl⟩

theorem bears_delay :
    Bears (fun transition => ∀ item ∈ transition.item?, item.Resumes graph node turn)
      (delay engine graph turn node) := by
  unfold delay
  cases next : graph.nextTarget? node.id with
  | none => exact bears_done nofun
  | some target =>
      refine (bears_dueAfter _).andThen fun due _ => bears_step fun outcome bearable => ?_
      refine (bears_orHalt fun fault failed => ?_).andThen fun _ _ => bears_done ?_
      · exact bearable.not_fails rfl ⟨fault, by rw [failed]; rfl⟩
      · rintro _ ⟨rfl⟩
        exact ⟨target, due, next, rfl⟩

theorem item?_along (id : String) : (Transition.along graph id).item? = none := by
  unfold Transition.along
  split <;> rfl

theorem item?_afterTalk (stopsAt : Flow.NodeKind → Bool) (id : String) :
    (Transition.afterTalk stopsAt graph id).item? = none := by
  unfold Transition.afterTalk
  split
  · rfl
  · split <;> rfl

theorem item?_branch : (branch graph turn node).item? = none := by
  unfold branch
  split <;> rfl

/-- What a turn does at a node ends well, unless the wait of a delay cannot be told.  The
continuation for which it waits then is its own. -/
theorem bears_step_item (answering : Bool) :
    Bears (fun result => ∀ item ∈ result.1.item?, item.Resumes graph node turn)
      (step engine graph node answering turn) := by
  have silent {transition : Transition} {after : Turn} (none : transition.item? = none) :
      ∀ item ∈ (transition, after).1.item?, item.Resumes graph node turn := by
    rw [none]
    nofun
  have paired {transition : Transition} {process : Process Turn}
      (none : transition.item? = none)
      (bears : Bears (fun _ => True) process) :
      Bears (fun result => ∀ item ∈ result.1.item?, item.Resumes graph node turn)
        (process.andThen fun after => .done (transition, after)) :=
    bears.andThen fun after _ => bears_done (silent none)
  unfold step
  cases node.kind with
  | start | manual | unknown => exact bears_done (silent (item?_along _))
  | message => exact paired (item?_afterTalk _ _) (bears_talk node)
  | image | audio | video => exact paired (item?_afterTalk _ _) (bears_showMedia node)
  | stage => exact paired (item?_along _) (bears_enterStage node)
  | delay => exact bears_delay.andThen fun transition resumes => bears_done resumes
  | condition => exact bears_done (silent item?_branch)
  | userReply | waitingReplyTimes =>
      cases answering with
      | true => exact bears_done (silent (item?_along _))
      | false => exact bears_done (silent rfl)
  | aiPrompt | advancedAiPrompt | prompt =>
      exact paired (item?_afterTalk _ _) (bears_consult node)
  | «end» => exact bears_done (silent rfl)

end Turn
end ChatFlow
