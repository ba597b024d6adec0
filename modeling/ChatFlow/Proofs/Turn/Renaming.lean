import ChatFlow.Proofs.Process.Renaming

/-!
# Turns under other ids

A turn hands the id of its execution on, to the store, to the queue and to its observers, and does
nothing else with it.  So the turn of an execution with another id is akin to the turn of that
execution, function by function; and all that a turn calls is about its own conversation.
-/

namespace ChatFlow
namespace Turn

open Process

variable {naming : Naming} {conversation : Conversation} {engine : Engine} {graph : Flow.Graph}
  {node : Flow.Node} {turn other : Turn}

/-- A turn of a conversation, and what it is with other ids. -/
def Twins (naming : Naming) (conversation : Conversation) (turn other : Turn) : Prop :=
  turn.conversation = conversation ∧ other = turn.rename naming

/-- Two processes that lead to the same turn, but for ids. -/
abbrev Alike
    (naming : Naming) (conversation : Conversation) (process other : Process Turn) : Prop :=
  process.Akin naming conversation (Twins naming conversation) other

/-- Two turns that are the same but for ids may go on in the same way. -/
theorem Alike.andThen
    {post : α → β → Prop}
    {process other : Process Turn}
    {next : Turn → Process α}
    {goesOn : Turn → Process β}
    (alike : Alike naming conversation process other)
    (rest : ∀ turn, turn.conversation = conversation →
      (next turn).Akin naming conversation post (goesOn (turn.rename naming))) :
    (process.andThen next).Akin naming conversation post (other.andThen goesOn) := by
  refine Akin.andThen alike ?_
  rintro turn _ ⟨same, rfl⟩
  exact rest turn same

theorem alike_done (same : turn.conversation = conversation) :
    Alike naming conversation (.done turn) (.done (turn.rename naming)) :=
  akin_done ⟨same, rfl⟩

/-! ## Output -/

theorem akin_logExchange
    (same : turn.conversation = conversation)
    (user bot : String) :
    (turn.logExchange user bot).Akin naming conversation (fun _ _ => True)
      ((turn.rename naming).logExchange user bot) := by
  refine ⟨trivial, _, rfl, fun time _ => ⟨same, _, rfl, fun outcome _ => ?_⟩⟩
  exact akin_orPanic fun _ => akin_done trivial

theorem alike_logOutput
    (same : turn.conversation = conversation)
    (bot : String) :
    Alike naming conversation (turn.logOutput bot) ((turn.rename naming).logOutput bot) :=
  (akin_logExchange same _ _).andThen fun _ _ _ => alike_done same

theorem akin_logInput (same : turn.conversation = conversation) :
    turn.logInput.Akin naming conversation (fun _ _ => True) (turn.rename naming).logInput := by
  have input_eq : (turn.rename naming).input = turn.input := rfl
  have recorded_eq : (turn.rename naming).recorded = turn.recorded := rfl
  unfold logInput
  rw [input_eq, recorded_eq]
  split
  · exact akin_logExchange same _ _
  · exact akin_done trivial

theorem alike_settle
    (same : turn.conversation = conversation)
    (kind body : String)
    (outcome : Except Error Unit) :
    Alike naming conversation (turn.settle node kind body outcome)
      ((turn.rename naming).settle node kind body outcome) := by
  have counted : ({ turn with dispatched := turn.dispatched + 1 } : Turn).conversation =
    conversation := same
  cases outcome with
  | ok value => exact ⟨same, _, rfl, fun _ _ => alike_logOutput counted body⟩
  | error error => exact ⟨same, _, rfl, fun _ _ => alike_done same⟩

theorem alike_sendText
    (same : turn.conversation = conversation)
    (text : String) :
    Alike naming conversation (turn.sendText node text)
      ((turn.rename naming).sendText node text) := by
  have toConversation : turn.conversation.device = conversation.device ∧
      turn.conversation.phone = conversation.phone := by rw [same]; exact ⟨rfl, rfl⟩
  refine ⟨toConversation, _, rfl, fun outcome _ => ?_⟩
  exact akin_orPanic fun result => alike_settle same "text" text result

theorem akin_mediaKind? (url : String) (hint : Option Media.Kind) :
    (mediaKind? engine url hint).Akin naming conversation (· = ·) (mediaKind? engine url hint) := by
  unfold mediaKind?
  split
  · refine ⟨trivial, _, rfl, fun outcome _ => ?_⟩
    exact akin_orPanic fun result => akin_done rfl
  · exact akin_done rfl

theorem alike_sendMedia
    (same : turn.conversation = conversation)
    (url : String)
    (hint : Option Media.Kind) :
    Alike naming conversation (sendMedia engine turn node url hint)
      (sendMedia engine (turn.rename naming) node url hint) := by
  have toConversation : turn.conversation.device = conversation.device ∧
      turn.conversation.phone = conversation.phone := by rw [same]; exact ⟨rfl, rfl⟩
  refine (akin_mediaKind? url hint).andThen ?_
  rintro (_ | kind) _ rfl
  · exact alike_sendText same _
  · refine ⟨toConversation, _, rfl, fun outcome _ => ?_⟩
    exact akin_orPanic fun result => alike_settle same kind.name url result

theorem alike_sendItem
    (same : turn.conversation = conversation)
    (item : ReplyItem) :
    Alike naming conversation (sendItem engine turn node item)
      (sendItem engine (turn.rename naming) node item) := by
  unfold sendItem
  split
  · exact alike_sendText same _
  · exact alike_sendMedia same _ _

theorem alike_sendFurther
    (same : turn.conversation = conversation)
    (items : List ReplyItem) :
    Alike naming conversation (sendFurther engine node items turn)
      (sendFurther engine node items (turn.rename naming)) := by
  induction items generalizing turn with
  | nil => exact alike_done same
  | cons item rest inductionHypothesis =>
      have goesOn : Alike naming conversation
          ((sendItem engine turn node item).andThen (sendFurther engine node rest))
          ((sendItem engine (turn.rename naming) node item).andThen
            (sendFurther engine node rest)) :=
        (alike_sendItem same item).andThen fun _ same => inductionHypothesis same
      unfold sendFurther
      dsimp only
      split
      · exact goesOn
      · exact ⟨trivial, _, rfl, fun _ _ => goesOn⟩

theorem alike_sendItems
    (same : turn.conversation = conversation)
    (items : List ReplyItem) :
    Alike naming conversation (sendItems engine node items turn)
      (sendItems engine node items (turn.rename naming)) := by
  cases items with
  | nil => exact alike_done same
  | cons item rest =>
      exact (alike_sendItem same item).andThen fun _ same => alike_sendFurther same rest

/-! ## Nodes -/

theorem alike_talk (same : turn.conversation = conversation) :
    Alike naming conversation (turn.talk node) ((turn.rename naming).talk node) := by
  unfold talk
  split
  · exact alike_sendText same _
  · exact alike_done same

theorem alike_sendCaption (same : turn.conversation = conversation) :
    Alike naming conversation (turn.sendCaption node) ((turn.rename naming).sendCaption node) := by
  unfold sendCaption
  split
  · exact alike_sendText same _
  · exact alike_done same

theorem alike_showMedia (same : turn.conversation = conversation) :
    Alike naming conversation (showMedia engine turn node)
      (showMedia engine (turn.rename naming) node) := by
  unfold showMedia
  split
  · exact (alike_sendMedia same _ _).andThen fun _ same => alike_sendCaption same
  · exact alike_done same

theorem alike_setStage
    (same : turn.conversation = conversation)
    (stage : String) :
    Alike naming conversation (turn.setStage stage) ((turn.rename naming).setStage stage) := by
  refine ⟨trivial, _, rfl, fun outcome _ => ?_⟩
  exact akin_orHalt fun _ => akin_done ⟨same, rfl⟩

theorem alike_captureFields
    (same : turn.conversation = conversation)
    (stage : String) :
    Alike naming conversation (captureFields engine turn stage)
      (captureFields engine (turn.rename naming) stage) := by
  have input_eq : (turn.rename naming).input = turn.input := rfl
  unfold captureFields
  split
  · exact alike_done same
  · refine ⟨trivial, _, rfl, fun outcome _ => ?_⟩
    refine akin_orPanic fun result => ?_
    cases result with
    | error _ => exact alike_done same
    | ok rules =>
        dsimp only
        rw [input_eq]
        split
        · refine ⟨trivial, _, rfl, fun outcome _ => ?_⟩
          exact akin_orHalt fun _ => akin_done ⟨same, rfl⟩
        · exact alike_done same

theorem alike_enterStage (same : turn.conversation = conversation) :
    Alike naming conversation (enterStage engine turn node)
      (enterStage engine (turn.rename naming) node) := by
  unfold enterStage
  cases stageTemplate? node with
  | none => exact alike_done same
  | some template =>
      have stage_eq : (turn.rename naming).render (Text.trim template) =
          turn.render (Text.trim template) := rfl
      dsimp only
      rw [stage_eq]
      generalize turn.render (Text.trim template) = stage
      refine (alike_setStage same stage).andThen fun after same => ?_
      split
      · exact alike_done same
      · exact alike_captureFields same stage

theorem akin_dueAfter (wait : Span) :
    (dueAfter wait).Akin naming conversation (· = ·) (dueAfter wait) := by
  unfold dueAfter
  split
  · refine ⟨trivial, _, rfl, fun now _ => ?_⟩
    show Akin _ _ _ (ite (now.after wait ≤ Instant.latest) _ _)
      (ite (now.after wait ≤ Instant.latest) _ _)
    by_cases inTime : now.after wait ≤ Instant.latest
    · rw [if_pos inTime, if_pos inTime]
      exact akin_done rfl
    · rw [if_neg inTime, if_neg inTime]
      rfl
  · rfl

theorem akin_delay (same : turn.conversation = conversation) :
    (delay engine graph turn node).Akin naming conversation
      (fun transition other => other = transition.rename naming)
      (delay engine graph (turn.rename naming) node) := by
  unfold delay
  cases graph.nextTarget? node.id with
  | none => exact akin_done rfl
  | some target =>
      refine (akin_dueAfter _).andThen ?_
      rintro due _ rfl
      refine ⟨same, _, rfl, fun outcome _ => ?_⟩
      exact akin_orHalt fun _ => akin_done rfl

theorem akin_recent (same : turn.conversation = conversation) :
    (turn.recent engine).Akin naming conversation (· = ·) ((turn.rename naming).recent engine) := by
  refine ⟨same, _, rfl, fun outcome _ => ?_⟩
  refine akin_orPanic fun result => ?_
  cases result with
  | ok entries => exact akin_done rfl
  | error error => exact akin_done rfl

theorem alike_obey
    (same : turn.conversation = conversation)
    (raw : String) :
    Alike naming conversation (obey engine turn node raw)
      (obey engine (turn.rename naming) node raw) := by
  unfold obey
  cases Reply.ofText raw with
  | error fault =>
      dsimp only
      split
      · exact alike_done same
      · exact alike_sendText same _
  | ok reply =>
      dsimp only
      cases reply.stage with
      | none => exact alike_sendItems same reply.items
      | some stage =>
          exact (alike_setStage same stage).andThen fun _ same => alike_sendItems same reply.items

theorem alike_consult (same : turn.conversation = conversation) :
    Alike naming conversation (consult engine turn node)
      (consult engine (turn.rename naming) node) := by
  unfold consult
  split
  · exact alike_done same
  · refine (akin_recent same).andThen ?_
    rintro history _ rfl
    refine ⟨trivial, _, rfl, fun outcome _ => ?_⟩
    refine akin_orPanic fun result => ?_
    cases result with
    | ok raw => exact alike_obey same raw
    | error error => exact alike_done same

/-- What a turn does at a node does not depend on the id of its execution. -/
theorem akin_step
    (same : turn.conversation = conversation)
    (answering : Bool) :
    (step engine graph node answering turn).Akin naming conversation
      (fun result other => result.2.conversation = conversation ∧
        other = (result.1.rename naming, result.2.rename naming))
      (step engine graph node answering (turn.rename naming)) := by
  have paired {transition : Transition} {process other : Process Turn}
      (still : transition.rename naming = transition)
      (alike : Alike naming conversation process other) :
      (process.andThen fun after => .done (transition, after)).Akin naming conversation
        (fun result other => result.2.conversation = conversation ∧
          other = (result.1.rename naming, result.2.rename naming))
        (other.andThen fun after => .done (transition, after)) :=
    alike.andThen fun after same => akin_done ⟨same, by rw [still]⟩
  have along_eq : Transition.rename naming (.along graph node.id) = .along graph node.id := by
    unfold Transition.along
    split <;> rfl
  have afterTalk_eq (stopsAt : Flow.NodeKind → Bool) :
      Transition.rename naming (.afterTalk stopsAt graph node.id) =
        .afterTalk stopsAt graph node.id := by
    unfold Transition.afterTalk
    split
    · rfl
    · split <;> rfl
  unfold step
  cases node.kind with
  | start | manual | unknown text => exact akin_done ⟨same, by rw [along_eq]⟩
  | message => exact paired (afterTalk_eq _) (alike_talk same)
  | image | audio | video => exact paired (afterTalk_eq _) (alike_showMedia same)
  | stage => exact paired along_eq (alike_enterStage same)
  | delay =>
      refine (akin_delay same).andThen ?_
      rintro transition _ rfl
      exact akin_done ⟨same, rfl⟩
  | condition =>
      have branch_eq :
          Transition.rename naming (branch graph turn node) = branch graph turn node := by
        unfold branch
        split <;> rfl
      have same_branch : branch graph (turn.rename naming) node = branch graph turn node := rfl
      dsimp only
      rw [same_branch]
      exact akin_done ⟨same, by rw [branch_eq]⟩
  | userReply | waitingReplyTimes =>
      cases answering with
      | true => exact akin_done ⟨same, by simp only [if_true, along_eq]⟩
      | false => exact akin_done ⟨same, rfl⟩
  | aiPrompt | advancedAiPrompt | prompt => exact paired (afterTalk_eq _) (alike_consult same)
  | «end» => exact akin_done ⟨same, rfl⟩

/-! ## The walk -/

theorem alike_follow
    (same : turn.conversation = conversation)
    (transition : Transition) :
    Alike naming conversation (turn.follow transition)
      ((turn.rename naming).follow (transition.rename naming)) := by
  cases transition with
  | advance | advanceAndWait | wait =>
      refine ⟨same, _, rfl, fun outcome _ => ?_⟩
      exact akin_orHalt fun _ => akin_done ⟨same, rfl⟩
  | scheduled item => exact ⟨same, _, rfl, fun _ _ => akin_done ⟨same, rfl⟩⟩
  | complete =>
      refine ⟨same, _, rfl, fun outcome _ => ?_⟩
      exact akin_orHalt fun _ => ⟨same, _, rfl, fun _ _ => akin_done ⟨same, rfl⟩⟩

theorem goesOn_rename (transition : Transition) :
    (transition.rename naming).goesOn = transition.goesOn := by
  cases transition <;> rfl

theorem alike_walk
    (same : turn.conversation = conversation)
    (hops : Nat)
    (answering : Bool) :
    Alike naming conversation (walk engine graph hops answering turn)
      (walk engine graph hops answering (turn.rename naming)) := by
  induction hops generalizing turn answering with
  | zero => exact ⟨same, _, rfl, fun _ _ => akin_done ⟨same, rfl⟩⟩
  | succ hops inductionHypothesis =>
      have node_eq : (turn.rename naming).execution.node = turn.execution.node := rfl
      unfold walk
      rw [node_eq]
      cases graph.require turn.execution.node with
      | error error => rfl
      | ok node =>
          refine ⟨same, _, rfl, fun _ _ => ?_⟩
          have entered : ({ turn with visited := turn.visited ++ [node.id] } : Turn).conversation =
            conversation := same
          refine (akin_step entered answering).andThen ?_
          rintro ⟨transition, stepped⟩ _ ⟨sameStill, rfl⟩
          refine (alike_follow sameStill transition).andThen fun followed same => ?_
          dsimp only
          rw [goesOn_rename]
          split
          · exact inductionHypothesis same false
          · exact alike_done same

/-- A turn of an execution with another id is the turn of that execution, but for ids. -/
theorem akin_perform
    {execution : Execution}
    (same : execution.conversation = conversation)
    (input : TurnInput) :
    (perform engine graph execution input).Akin naming conversation
      (fun report other => other = report.rename naming)
      (perform engine graph (execution.rename naming) input) := by
  have starts : ({ execution, input } : Turn).conversation = conversation := same
  refine Alike.andThen (alike_walk starts _ _) fun turn same => ?_
  refine (akin_logInput same).andThen fun _ _ _ => ?_
  exact akin_done rfl

end Turn
end ChatFlow
