import ChatFlow.Proofs.Scene
import ChatFlow.Proofs.Turn.Route

/-!
# What a turn does at a node

While a turn is at a node it sends, asks, reads and logs as it likes, but of the store it touches
only the stage and the captured fields of its own execution, and the only continuation that it
queues is the one of the delay where it is.  Where it goes on is one of its node's edges, and the
flow and the user's text settle which.  All this is read off the definitions function by function,
for every outcome of every call.
-/

namespace ChatFlow

/-- Every wait that begins at a time of the clock ends at a time that can be told. -/
def Engine.CanWait (engine : Engine) (clock : Instant → Prop) : Prop :=
  ∀ node, Delay.span engine.settings.defaultDelay node ≤ Span.longest ∧
    ∀ now, clock now → now.after (Delay.span engine.settings.defaultDelay node) ≤ Instant.latest

/-- Waits can be told when the default wait is at most the longest one, and that ends in time. -/
theorem Engine.canWait_of_le
    {engine : Engine}
    {clock : Instant → Prop}
    (short : engine.settings.defaultDelay ≤ Delay.longest)
    (early : ∀ now, clock now → now.after Delay.longest ≤ Instant.latest) :
    engine.CanWait clock := by
  intro node
  have bounded : Delay.span engine.settings.defaultDelay node ≤ Delay.longest := by
    rcases Delay.span_eq_default_or_le engine.settings.defaultDelay node with same | bounded
    · rw [same]
      exact short
    · exact bounded
  refine ⟨Nat.le_trans bounded (by decide), ?_⟩
  intro now onClock
  have latest := early now onClock
  change now.nanos + ((Delay.span engine.settings.defaultDelay node).nanos : Int) ≤ _
  change now.nanos + (Delay.longest.nanos : Int) ≤ _ at latest
  change (Delay.span engine.settings.defaultDelay node).nanos ≤ _ at bounded
  omega

namespace Site

/-- An outcome that callees can show. -/
def Shows (site : Site) : (request : Call) → request.Outcome → Prop
  | .now, time => site.clock time
  | request, outcome => ∀ fault, request.failure? fault = some outcome → site.faults fault

/-- A site where everything can happen at any time. -/
def anywhere : Site where
  faults _ := True
  clock _ := True

theorem shows_anywhere (request : Call) (outcome : request.Outcome) :
    anywhere.Shows request outcome := by
  cases request with
  | now => trivial
  | _ => exact fun _ _ => trivial

/-- A fault with which a turn halts: it was shown by a callee, or a wait cannot be told. -/
def Halts (site : Site) (engine : Engine) (fault : Fault) : Prop :=
  site.faults fault ∨ (∃ text, fault = .error (.scheduler text)) ∧ ¬ engine.CanWait site.clock

/-- A result that has a property, or a fault with which a turn halts. -/
def Yields (site : Site) (engine : Engine) (property : α → Prop) : Except Fault α → Prop
  | .ok value => property value
  | .error fault => site.Halts engine fault

end Site

/-- The continuation that is queued at a delay where an execution stands. -/
structure Continuation.Follows
    (item : Continuation) (engine : Engine) (graph : Flow.Graph) (clock : Instant → Prop)
    (execution : Execution) (node : Flow.Node) : Prop where
  /-- The node is a delay. -/
  kind : node.kind = .delay
  /-- The continuation leads along the first edge of the delay. -/
  target : graph.nextTarget? node.id = some item.target
  /-- It names the execution. -/
  execution_eq : item.execution = execution.id
  /-- It names the flow. -/
  flow_eq : item.flow = execution.flow
  /-- It names the conversation. -/
  conversation_eq : item.conversation = execution.conversation
  /-- It is due when the wait is over. -/
  due : ∃ now, clock now ∧ item.due = now.after (Delay.span engine.settings.defaultDelay node)

namespace Turn

/-- A turn of an execution, of which it may have changed the stage and the captured fields. -/
def At (execution : Execution) (turn : Turn) : Prop :=
  turn.execution =
    { execution with stage := turn.execution.stage, vars := turn.execution.vars }

/-- What a turn carries along while it is at a node: it may write to the history and hand over
messages, and of its execution change the stage and the captured fields. -/
structure Stays (base turn : Turn) : Prop where
  /-- Its execution stays where it is. -/
  isAt : turn.At base.execution
  /-- It was given the same. -/
  input_eq : turn.input = base.input
  /-- It entered no other node. -/
  visited_eq : turn.visited = base.visited
  /-- It is no more complete than before. -/
  completed_eq : turn.completed = base.completed
  /-- It has no other continuation. -/
  scheduled_eq : turn.scheduled = base.scheduled
  /-- It is as far from its hop limit. -/
  hopLimit_eq : turn.hopLimit = base.hopLimit

/-- What a turn of an execution may call while it is at a node. -/
def StepCall
    (engine : Engine) (graph : Flow.Graph) (clock : Instant → Prop) (execution : Execution)
    (node : Flow.Node) : Call → Prop
  | .setStage id _ | .saveVariables id _ => id = execution.id ∧ node.kind ≠ .delay
  | .enqueue item => item.Follows engine graph clock execution node
  | .acquire _ | .release _ | .resolveFlow .. | .flow _ | .activeExecution _ | .executionById _
  | .latestExecution .. | .createExecution .. | .advance .. | .setWaiting .. | .complete ..
  | .publish (.entered ..) => False
  | _ => True

/-- Whatever its calls show, a process calls only what a turn may call while it is at a node, and
it yields a result with a property. -/
abbrev Behaves
    (engine : Engine) (site : Site) (graph : Flow.Graph) (execution : Execution)
    (node : Flow.Node) (property : α → Prop) (process : Process α) : Prop :=
  process.Within (StepCall engine graph site.clock execution node) site.Shows
    (site.Yields engine property)

variable {engine : Engine} {site : Site} {graph : Flow.Graph} {execution : Execution}
  {node : Flow.Node} {base turn : Turn}

theorem At.id_eq (isAt : turn.At execution) : turn.execution.id = execution.id := by
  rw [isAt]

theorem At.flow_eq (isAt : turn.At execution) : turn.execution.flow = execution.flow := by
  rw [isAt]

theorem At.node_eq (isAt : turn.At execution) : turn.execution.node = execution.node := by
  rw [isAt]

theorem At.conversation_eq (isAt : turn.At execution) :
    turn.conversation = execution.conversation := by
  rw [conversation, isAt]

theorem Stays.refl (turn : Turn) : Stays turn turn :=
  ⟨rfl, rfl, rfl, rfl, rfl, rfl⟩

/-! ## Rules -/

/-- Nothing is called by what is done. -/
theorem behaves_done
    {property : α → Prop}
    {value : α}
    (holds : property value) :
    Behaves engine site graph execution node property (.done value) :=
  holds

/-- Two processes in a row behave when both do. -/
theorem Behaves.andThen
    {first : α → Prop}
    {second : β → Prop}
    {process : Process α}
    {next : α → Process β}
    (behaves : Behaves engine site graph execution node first process)
    (rest : ∀ value, first value → Behaves engine site graph execution node second (next value)) :
    Behaves engine site graph execution node second (process.andThen next) :=
  Process.Within.andThen behaves rest fun _ halts => halts

/-- To tell what became of a message behaves. -/
theorem behaves_publish
    {event : Event}
    (allowed : StepCall engine graph site.clock execution node (.publish event)) :
    Behaves engine site graph execution node (fun _ => True) (Process.publish event) :=
  ⟨allowed, fun _ _ => trivial⟩

/-- An outcome whose fault was shown is turned into a result. -/
theorem behaves_orHalt
    {outcome : Except Fault α}
    (shown : ∀ fault, outcome = .error fault → site.faults fault) :
    Behaves engine site graph execution node (fun _ => True) (Process.orHalt outcome) := by
  cases outcome with
  | ok value => trivial
  | error fault => exact .inl (shown fault rfl)

/-- An outcome whose panic was shown is turned into a result. -/
theorem behaves_orPanic
    {outcome : Except Fault α}
    (shown : ∀ fault, outcome = .error fault → site.faults fault) :
    Behaves engine site graph execution node (fun _ => True) (Process.orPanic outcome) := by
  cases outcome with
  | ok value => trivial
  | error fault =>
      cases fault with
      | error error => trivial
      | panic message => exact .inl (shown _ rfl)

/-! ## Output -/

/-- To write an exchange down, a turn looks at the clock and adds to the history. -/
theorem within_logExchange (user bot : String) :
    (turn.logExchange user bot).Within
      (fun request =>
        request = .now ∨ ∃ conversation entry, request = .appendHistory conversation entry)
      site.Shows (site.Yields engine fun _ => True) := by
  refine ⟨.inl rfl, fun time _ => ⟨.inr ⟨_, _, rfl⟩, fun outcome shown => ?_⟩⟩
  cases outcome with
  | ok _ => trivial
  | error fault =>
      cases fault with
      | error _ => trivial
      | panic _ => exact .inl (shown _ rfl)

theorem behaves_logExchange (user bot : String) :
    Behaves engine site graph execution node (fun _ => True) (turn.logExchange user bot) := by
  refine (within_logExchange user bot).weaken ?_ (fun _ _ shown => shown) fun _ yields => yields
  rintro request (rfl | ⟨_, _, rfl⟩) <;> trivial

theorem behaves_logOutput
    (stays : Stays base turn)
    (bot : String) :
    Behaves engine site graph base.execution node (Stays base) (turn.logOutput bot) := by
  refine (behaves_logExchange _ _).andThen ?_
  intro _ _
  exact behaves_done { stays with }

theorem behaves_settle
    (stays : Stays base turn)
    (sender : Flow.Node)
    (kind body : String)
    (outcome : Except Error Unit) :
    Behaves engine site graph base.execution node (Stays base)
      (turn.settle sender kind body outcome) := by
  cases outcome with
  | ok _ =>
      refine (behaves_publish (by trivial)).andThen ?_
      intro _ _
      refine behaves_logOutput ?_ body
      exact { stays with }
  | error error =>
      refine (behaves_publish (by trivial)).andThen ?_
      intro _ _
      exact behaves_done stays

theorem behaves_sendText
    (stays : Stays base turn)
    (sender : Flow.Node)
    (text : String) :
    Behaves engine site graph base.execution node (Stays base) (turn.sendText sender text) := by
  refine ⟨trivial, fun outcome shown => ?_⟩
  refine (behaves_orPanic fun fault failed => shown fault (by rw [failed]; rfl)).andThen ?_
  intro result _
  exact behaves_settle stays sender "text" text result

theorem behaves_mediaKind? (url : String) (hint : Option Media.Kind) :
    Behaves engine site graph execution node (fun _ => True) (mediaKind? engine url hint) := by
  unfold mediaKind?
  split
  · refine ⟨trivial, fun outcome shown => ?_⟩
    refine (behaves_orPanic fun fault failed => shown fault (by rw [failed]; rfl)).andThen ?_
    intro _ _
    exact behaves_done trivial
  · exact behaves_done trivial

theorem behaves_sendMedia
    (stays : Stays base turn)
    (sender : Flow.Node)
    (url : String)
    (hint : Option Media.Kind) :
    Behaves engine site graph base.execution node (Stays base)
      (sendMedia engine turn sender url hint) := by
  refine (behaves_mediaKind? url hint).andThen ?_
  intro kind? _
  cases kind? with
  | some kind =>
      refine ⟨trivial, fun outcome shown => ?_⟩
      refine (behaves_orPanic fun fault failed => shown fault (by rw [failed]; rfl)).andThen ?_
      intro result _
      exact behaves_settle stays sender kind.name url result
  | none => exact behaves_sendText stays sender _

theorem behaves_sendItem
    (stays : Stays base turn)
    (sender : Flow.Node)
    (item : ReplyItem) :
    Behaves engine site graph base.execution node (Stays base)
      (sendItem engine turn sender item) := by
  unfold sendItem
  split
  · exact behaves_sendText stays sender _
  · exact behaves_sendMedia stays sender _ _

theorem behaves_sendFurther
    (stays : Stays base turn)
    (sender : Flow.Node)
    (items : List ReplyItem) :
    Behaves engine site graph base.execution node (Stays base)
      (sendFurther engine sender items turn) := by
  induction items generalizing turn with
  | nil => exact behaves_done stays
  | cons item rest inductionHypothesis =>
      have goesOn : Behaves engine site graph base.execution node (Stays base)
          ((sendItem engine turn sender item).andThen (sendFurther engine sender rest)) :=
        (behaves_sendItem stays sender item).andThen fun _ stays => inductionHypothesis stays
      unfold sendFurther
      dsimp only
      split
      · exact goesOn
      · exact ⟨trivial, fun _ _ => goesOn⟩

theorem behaves_sendItems
    (stays : Stays base turn)
    (sender : Flow.Node)
    (items : List ReplyItem) :
    Behaves engine site graph base.execution node (Stays base)
      (sendItems engine sender items turn) := by
  cases items with
  | nil => exact behaves_done stays
  | cons item rest =>
      refine (behaves_sendItem stays sender item).andThen ?_
      intro after stays
      exact behaves_sendFurther stays sender rest

/-! ## Nodes -/

theorem behaves_talk (stays : Stays base turn) (sender : Flow.Node) :
    Behaves engine site graph base.execution node (Stays base) (turn.talk sender) := by
  unfold talk
  split
  · exact behaves_sendText stays sender _
  · exact behaves_done stays

theorem behaves_sendCaption (stays : Stays base turn) (sender : Flow.Node) :
    Behaves engine site graph base.execution node (Stays base) (turn.sendCaption sender) := by
  unfold sendCaption
  split
  · exact behaves_sendText stays sender _
  · exact behaves_done stays

theorem behaves_showMedia (stays : Stays base turn) (sender : Flow.Node) :
    Behaves engine site graph base.execution node (Stays base) (showMedia engine turn sender) := by
  unfold showMedia
  split
  · refine (behaves_sendMedia stays sender _ _).andThen ?_
    intro after stays
    exact behaves_sendCaption stays sender
  · exact behaves_done stays

theorem behaves_setStage
    (stays : Stays base turn)
    (passed : node.kind ≠ .delay)
    (stage : String) :
    Behaves engine site graph base.execution node (Stays base) (turn.setStage stage) := by
  refine ⟨⟨stays.isAt.id_eq, passed⟩, fun outcome shown => ?_⟩
  refine (behaves_orHalt fun fault failed => shown fault (by rw [failed]; rfl)).andThen ?_
  intro _ _
  refine behaves_done { stays with isAt := ?_ }
  show ({ turn.execution with stage := some stage } : Execution) = _
  rw [stays.isAt]

theorem behaves_captureFields
    (stays : Stays base turn)
    (passed : node.kind ≠ .delay)
    (stage : String) :
    Behaves engine site graph base.execution node (Stays base)
      (captureFields engine turn stage) := by
  unfold captureFields
  split
  · exact behaves_done stays
  · refine ⟨trivial, fun outcome shown => ?_⟩
    refine (behaves_orPanic fun fault failed => shown fault (by rw [failed]; rfl)).andThen ?_
    intro result _
    cases result with
    | error _ => exact behaves_done stays
    | ok rules =>
        dsimp only
        split
        · refine ⟨⟨stays.isAt.id_eq, passed⟩, fun outcome shown => ?_⟩
          refine (behaves_orHalt fun fault failed => shown fault (by rw [failed]; rfl)).andThen ?_
          intro _ _
          refine behaves_done { stays with isAt := ?_ }
          show ({ turn.execution with vars := _ } : Execution) = _
          rw [stays.isAt]
        · exact behaves_done stays

theorem behaves_enterStage
    (stays : Stays base turn)
    (passed : node.kind ≠ .delay)
    (sender : Flow.Node) :
    Behaves engine site graph base.execution node (Stays base)
      (enterStage engine turn sender) := by
  unfold enterStage
  cases stageTemplate? sender with
  | none => exact behaves_done stays
  | some template =>
      dsimp only
      generalize turn.render (Text.trim template) = stage
      refine (behaves_setStage stays passed stage).andThen ?_
      intro after stays
      split
      · exact behaves_done stays
      · exact behaves_captureFields stays passed stage

theorem behaves_dueAfter :
    Behaves engine site graph execution node
      (fun due => ∃ now, site.clock now ∧
        due = now.after (Delay.span engine.settings.defaultDelay node))
      (dueAfter (Delay.span engine.settings.defaultDelay node)) := by
  unfold dueAfter
  split
  · refine ⟨trivial, fun now onClock => ?_⟩
    show Behaves engine site graph execution node _ (ite _ _ _)
    split
    · exact behaves_done ⟨now, onClock, rfl⟩
    · rename_i beyond
      exact .inr ⟨⟨_, rfl⟩, fun canWait => beyond ((canWait node).2 now onClock)⟩
  · rename_i tooLong
    exact .inr ⟨⟨_, rfl⟩, fun canWait => tooLong (canWait node).1⟩

theorem behaves_recent :
    Behaves engine site graph execution node (fun _ => True) (turn.recent engine) := by
  refine ⟨trivial, fun outcome shown => ?_⟩
  refine (behaves_orPanic fun fault failed => shown fault (by rw [failed]; rfl)).andThen ?_
  intro result _
  cases result with
  | ok entries => exact behaves_done trivial
  | error _ => exact behaves_done trivial

theorem behaves_obey
    (stays : Stays base turn)
    (passed : node.kind ≠ .delay)
    (sender : Flow.Node)
    (raw : String) :
    Behaves engine site graph base.execution node (Stays base) (obey engine turn sender raw) := by
  unfold obey
  cases Reply.ofText raw with
  | error _ =>
      dsimp only
      split
      · exact behaves_done stays
      · exact behaves_sendText stays sender _
  | ok reply =>
      dsimp only
      cases reply.stage with
      | none => exact behaves_sendItems stays sender reply.items
      | some stage =>
          refine (behaves_setStage stays passed stage).andThen ?_
          intro after stays
          exact behaves_sendItems stays sender reply.items

theorem behaves_consult
    (stays : Stays base turn)
    (passed : node.kind ≠ .delay)
    (sender : Flow.Node) :
    Behaves engine site graph base.execution node (Stays base) (consult engine turn sender) := by
  unfold consult
  split
  · exact behaves_done stays
  · refine behaves_recent.andThen ?_
    intro history _
    refine ⟨trivial, fun outcome shown => ?_⟩
    refine (behaves_orPanic fun fault failed => shown fault (by rw [failed]; rfl)).andThen ?_
    intro result _
    cases result with
    | ok raw => exact behaves_obey stays passed sender raw
    | error _ => exact behaves_done stays

end Turn

/-! ## Where a turn goes on -/

/-- A transition along the edges of a node. -/
def Transition.Fits (graph : Flow.Graph) (node : Flow.Node) : Transition → Prop
  | .advance next => graph.hasEdge node.id next = true ∧ node.kind ≠ .delay
  | .advanceAndWait next =>
      graph.hasEdge node.id next = true ∧ node.kind ≠ .delay ∧ ¬ graph.IsDelay next
  | .wait => node.kind ≠ .delay
  | .scheduled _ => node.kind = .delay
  | .complete => node.kind = .delay → graph.nextTarget? node.id = none

namespace Transition

variable {graph : Flow.Graph} {node : Flow.Node}

theorem fits_along (passed : node.kind ≠ .delay) : (along graph node.id).Fits graph node := by
  unfold along
  cases next : graph.nextTarget? node.id with
  | some target => exact ⟨Flow.Graph.hasEdge_of_nextTarget? next, passed⟩
  | none => exact fun _ => next

theorem fits_afterTalk
    {stopsAt : Flow.NodeKind → Bool}
    (skipsDelays : stopsAt .delay = false)
    (passed : node.kind ≠ .delay) :
    (afterTalk stopsAt graph node.id).Fits graph node := by
  unfold afterTalk
  cases found : graph.nextNode? node.id with
  | none => exact fun _ => Flow.Graph.nextTarget?_eq_none found
  | some next =>
      obtain ⟨first, named⟩ := Flow.Graph.of_nextNode? found
      have edge := Flow.Graph.hasEdge_of_nextTarget? first
      dsimp only
      split
      · rename_i stops
        refine ⟨edge, passed, ?_⟩
        rw [Flow.Graph.isDelay_iff named]
        intro isDelay
        rw [isDelay, skipsDelays] at stops
        cases stops
      · exact ⟨edge, passed⟩

end Transition

namespace Turn

variable {engine : Engine} {site : Site} {graph : Flow.Graph} {execution : Execution}
  {node : Flow.Node} {turn : Turn}

theorem fits_branch (passed : node.kind ≠ .delay) : (branch graph turn node).Fits graph node := by
  unfold branch
  split
  · rename_i target chosen
    exact ⟨Flow.Graph.hasEdge_of_target? chosen, passed⟩
  · exact passed

theorem exit_branch (kind : node.kind = .condition) (answering : Bool) :
    (branch graph turn node).exit = graph.exit turn.input.text answering node := by
  simp only [branch, Flow.Graph.exit, kind]
  cases Condition.target? node (graph.outgoing node.id) turn.input.text <;> rfl

theorem behaves_delay
    (stays : Stays base turn)
    (kind : node.kind = .delay)
    (answering : Bool) :
    Behaves engine site graph base.execution node
      (fun transition => transition.Fits graph node ∧
        transition.exit = graph.exit base.input.text answering node)
      (delay engine graph turn node) := by
  have exit_eq : graph.exit base.input.text answering node =
      if (graph.nextTarget? node.id).isSome then .park else .complete := by
    simp only [Flow.Graph.exit, kind]
  unfold delay
  rw [exit_eq]
  cases next : graph.nextTarget? node.id with
  | none => exact behaves_done ⟨fun _ => next, rfl⟩
  | some target =>
      refine behaves_dueAfter.andThen ?_
      rintro due ⟨now, onClock, rfl⟩
      refine ⟨⟨kind, next, stays.isAt.id_eq, stays.isAt.flow_eq, stays.isAt.conversation_eq, now,
        onClock, rfl⟩, fun outcome shown => ?_⟩
      refine (behaves_orHalt fun fault failed => shown fault (by rw [failed]; rfl)).andThen ?_
      intro _ _
      exact behaves_done ⟨kind, rfl⟩

/-- At every node a turn calls only what it may call there, and leaves it along an edge, by the
exit that the flow and the user's text settle. -/
theorem behaves_step_exit
    (stays : Stays base turn)
    (answering : Bool) :
    Behaves engine site graph base.execution node
      (fun result => (result.1.Fits graph node ∧
        result.1.exit = graph.exit base.input.text answering node) ∧ Stays base result.2)
      (step engine graph node answering turn) := by
  have paired {transition : Transition} {process : Process Turn}
      (fits : transition.Fits graph node)
      (exit_eq : transition.exit = graph.exit base.input.text answering node)
      (behaves : Behaves engine site graph base.execution node (Stays base) process) :
      Behaves engine site graph base.execution node
        (fun result => (result.1.Fits graph node ∧
          result.1.exit = graph.exit base.input.text answering node) ∧ Stays base result.2)
        (process.andThen fun after => .done (transition, after)) :=
    behaves.andThen fun _ after => behaves_done ⟨⟨fits, exit_eq⟩, after⟩
  unfold step
  cases kind : node.kind with
  | start | manual | unknown text =>
      exact behaves_done
        ⟨⟨Transition.fits_along (by simp [kind]), by simp [Flow.Graph.exit, kind]⟩, stays⟩
  | message =>
      exact paired (Transition.fits_afterTalk rfl (by simp [kind]))
        (by simp [Flow.Graph.exit, kind]) (behaves_talk stays node)
  | image | audio | video =>
      exact paired (Transition.fits_afterTalk rfl (by simp [kind]))
        (by simp [Flow.Graph.exit, kind]) (behaves_showMedia stays node)
  | stage =>
      exact paired (Transition.fits_along (by simp [kind])) (by simp [Flow.Graph.exit, kind])
        (behaves_enterStage stays (by simp [kind]) node)
  | delay =>
      refine (behaves_delay stays kind answering).andThen ?_
      intro transition settled
      exact behaves_done ⟨settled, stays⟩
  | condition =>
      have exit_eq : (branch graph turn node).exit =
          graph.exit turn.input.text answering node := exit_branch kind answering
      rw [stays.input_eq] at exit_eq
      exact behaves_done ⟨⟨fits_branch (by simp [kind]), exit_eq⟩, stays⟩
  | userReply | waitingReplyTimes =>
      cases answering with
      | true =>
          exact behaves_done
            ⟨⟨Transition.fits_along (by simp [kind]), by simp [Flow.Graph.exit, kind]⟩, stays⟩
      | false =>
          exact behaves_done
            ⟨⟨by simp [Transition.Fits, kind], by simp [Flow.Graph.exit, Transition.exit, kind]⟩,
              stays⟩
  | aiPrompt | advancedAiPrompt | prompt =>
      exact paired (Transition.fits_afterTalk rfl (by simp [kind]))
        (by simp [Flow.Graph.exit, kind]) (behaves_consult stays (by simp [kind]) node)
  | «end» =>
      exact behaves_done
        ⟨⟨by simp [Transition.Fits, kind], by simp [Flow.Graph.exit, Transition.exit, kind]⟩,
          stays⟩

/-- At every node a turn calls only what it may call there, and goes on along an edge. -/
theorem behaves_step
    (isAt : turn.At execution)
    (answering : Bool) :
    Behaves engine site graph execution node
      (fun result => result.1.Fits graph node ∧ result.2.At execution)
      (step engine graph node answering turn) := by
  have stays : Stays { turn with execution } turn := ⟨isAt, rfl, rfl, rfl, rfl, rfl⟩
  refine (behaves_step_exit stays answering).weaken (fun _ allowed => allowed)
    (fun _ _ shown => shown) ?_
  rintro (fault | result) yields
  · exact yields
  · exact ⟨yields.1.1, yields.2.isAt⟩

end Turn
end ChatFlow
