import ChatFlow.Proofs.Turn.Echoes

/-!
# What a node sends

Each node has slots for what it sends: a text, media or the text in its place, the text that goes
with media, the items of an answer of the text generator, or that answer as it is.  When a turn does
what a node says and does not break off, it has tried each slot once, in order, whatever became of
the slots before it.
-/

namespace ChatFlow

open Process

/-! ## Slots -/

/-- A place in what a node sends. -/
inductive Slot where
  | text (body : String)
  /-- Media, or the text in its place when it cannot be used. -/
  | media (url : String)

namespace Slot

/-- Whether something that was tried to be sent fits into a slot. -/
def Fits (engine : Engine) (conversation : Conversation) (slot : Slot)
    (line : Rehearsal.Sent) : Prop :=
  line.device = conversation.device ∧ line.phone = conversation.phone ∧
    match slot with
    | .text body => line.media = none ∧ line.body = body
    | .media url => line.media.isSome = true ∧ line.body = url ∨
        engine.hasValidator = true ∧ line.media = none ∧
          line.body = engine.settings.mediaFallbackText

/-- The slot of an item of a reply. -/
def ofItem (item : ReplyItem) : Slot :=
  match item.media with
  | none => .text item.content
  | some _ => .media (Text.trim item.content)

/-- The slots of an answer of the text generator. -/
def ofAnswer (answer : String) : List Slot :=
  match Reply.ofText answer with
  | .ok reply => reply.items.map ofItem
  | .error _ => if Text.isBlank answer then [] else [.text (Text.trim answer)]

/-- The slot of a text that is given by a template, if it is given. -/
def ofTemplate? (context : TemplateContext) (template? : Option String) : List Slot :=
  template?.toList.map fun template => .text (Template.render context template)

/-- The slots of a node that sends media. -/
def ofMedia (context : TemplateContext) (node : Flow.Node) : List Slot :=
  match node.text? Turn.urlKeys with
  | some template =>
    .media (Template.render context (Text.trim template)) ::
      ofTemplate? context (node.text? Turn.captionKeys)
  | none => []

/-- The slots of a node, when the text generator gave an answer there or did not. -/
def ofNode (context : TemplateContext) (node : Flow.Node) (answer? : Option String) : List Slot :=
  match node.kind with
  | .message => ofTemplate? context (node.text? Turn.textKeys)
  | .image | .audio | .video => ofMedia context node
  | .aiPrompt | .advancedAiPrompt | .prompt => answer?.toList.flatMap ofAnswer
  | .start | .manual | .unknown _ | .stage | .delay | .condition | .userReply
  | .waitingReplyTimes | .end => []

end Slot

/-- The stage that an answer of the text generator sets, if it sets one. -/
def Reply.stageOf? (answer : String) : Option String :=
  (Reply.ofText answer).toOption.bind Reply.stage

namespace TemplateContext

/-- What templates can name once a stage was set, if one was. -/
def setStage (context : TemplateContext) (stage? : Option String) : TemplateContext :=
  { context with stage := stage?.or context.stage }

/-- What templates can name once fields were captured by some rules. -/
def capture (context : TemplateContext) (rules : List Capture) : TemplateContext :=
  { context with vars := Capture.overlay context.input rules context.vars }

/-- What templates can name once the stage of a node was entered and fields were captured. -/
def enter (context : TemplateContext) (node : Flow.Node) (rules : List Capture) :
    TemplateContext :=
  match Turn.stageTemplate? node with
  | some template =>
    (context.setStage (some (Template.render context (Text.trim template)))).capture rules
  | none => context

/-- What templates can name after a node, when the text generator gave an answer there or did not,
and fields were captured by some rules. -/
def after (context : TemplateContext) (node : Flow.Node) (answer? : Option String)
    (rules : List Capture) : TemplateContext :=
  match node.kind with
  | .stage => context.enter node rules
  | .aiPrompt | .advancedAiPrompt | .prompt =>
    context.setStage (answer?.bind Reply.stageOf?)
  | .start | .manual | .unknown _ | .message | .image | .audio | .video | .delay | .condition
  | .userReply | .waitingReplyTimes | .end => context

end TemplateContext

/-! ## What calls add -/

/-- Whether a call neither sends anything nor asks the text generator. -/
def Call.isHushed : Call → Bool
  | .sendText .. | .sendMedia .. | .generate _ => false
  | _ => true

/-- How calls are answered in surroundings and before an audience. -/
def Surroundings.Answers {σ τ : Type} (surroundings : Surroundings σ) (audience : Audience τ) :
    Answering (Performance σ τ) :=
  fun request before outcome after =>
    surroundings.respond audience request before = (outcome, after)

namespace Performance

variable {σ τ : Type} {engine : Engine} {conversation : Conversation} {slots further : List Slot}
  {answers more : List String} {before middle after : Performance σ τ}

/-- In the meantime some slots were filled, and the text generator gave some answers. -/
structure Goes
    (engine : Engine) (conversation : Conversation) (slots : List Slot) (answers : List String)
    (before after : Performance σ τ) : Prop where
  tried : ∃ lines, after.tried = before.tried ++ lines ∧
    List.Forall₂ (Slot.Fits engine conversation) slots lines
  heard_eq : after.heard = before.heard ++ answers

theorem Goes.refl (performance : Performance σ τ) :
    performance.Goes engine conversation [] [] performance :=
  ⟨⟨[], (List.append_nil _).symm, .nil⟩, (List.append_nil _).symm⟩

theorem Goes.trans
    (goes : before.Goes engine conversation slots answers middle)
    (goesOn : middle.Goes engine conversation further more after) :
    before.Goes engine conversation (slots ++ further) (answers ++ more) after := by
  obtain ⟨⟨lines, tried_eq, fits⟩, heard_eq⟩ := goes
  obtain ⟨⟨others, tried_eq', fits'⟩, heard_eq'⟩ := goesOn
  refine ⟨⟨lines ++ others, ?_, List.rel_append fits fits'⟩, ?_⟩
  · rw [tried_eq', tried_eq, List.append_assoc]
  · rw [heard_eq', heard_eq, List.append_assoc]

/-- Most calls fill no slot. -/
theorem goes_of_hushed
    {surroundings : Surroundings σ}
    {audience : Audience τ}
    {request : Call}
    {outcome : request.Outcome}
    (hushed : request.isHushed = true)
    (answered : surroundings.Answers audience request before outcome after) :
    before.Goes engine conversation [] [] after := by
  cases request with
  | sendText | sendMedia | generate => cases hushed
  | _ =>
      cases answered
      exact ⟨⟨[], (List.append_nil _).symm, .nil⟩, (List.append_nil _).symm⟩

/-- The text generator may give an answer. -/
theorem goes_of_generate
    {surroundings : Surroundings σ}
    {audience : Audience τ}
    {request : AiRequest}
    {outcome : Except Fault String}
    (answered : surroundings.Answers audience (.generate request) before outcome after) :
    before.Goes engine conversation [] outcome.toOption.toList after := by
  cases answered
  exact ⟨⟨[], (List.append_nil _).symm, .nil⟩, rfl⟩

end Performance

namespace Turn

variable {σ τ α β : Type} {surroundings : Surroundings σ} {audience : Audience τ} {engine : Engine}
  {conversation : Conversation} {graph : Flow.Graph} {node : Flow.Node} {turn moved : Turn}
  {before : Performance σ τ} {slots further : List Slot} {answering : Bool}
  {post : α → List Slot → List String → Prop} {final : β → List Slot → List String → Prop}

/-- When a process ends well, it has filled some slots, and some answers were given. -/
abbrev Fills
    (surroundings : Surroundings σ) (audience : Audience τ) (engine : Engine)
    (conversation : Conversation) (post : α → List Slot → List String → Prop)
    (before : Performance σ τ) (process : Process α) : Prop :=
  process.Safe (surroundings.Answers audience) (fun _ => True)
    (fun result after => ∀ value, result = .ok value → ∃ slots answers, post value slots answers ∧
      before.Goes engine conversation slots answers after) before

/-! ## Rules -/

theorem fills_done {value : α} (holds : post value [] []) :
    Fills surroundings audience engine conversation post before (.done value) := by
  refine ⟨trivial, ?_⟩
  rintro _ ⟨⟩
  exact ⟨[], [], holds, .refl before⟩

theorem fills_halt (fault : Fault) :
    Fills surroundings audience engine conversation post before (.halt fault) :=
  ⟨trivial, nofun⟩

/-- What was filled before belongs to it, too. -/
theorem Fills.since
    {first : Performance σ τ}
    {answers : List String}
    {process : Process α}
    (goes : first.Goes engine conversation slots answers before)
    (fills : Fills surroundings audience engine conversation
      (fun value more others => post value (slots ++ more) (answers ++ others)) before process) :
    process.Safe (surroundings.Answers audience) (fun _ => True)
      (fun result after => ∀ value, result = .ok value → ∃ slots answers,
        post value slots answers ∧ first.Goes engine conversation slots answers after) before := by
  refine Process.Safe.weaken fills fun result after _ told value same => ?_
  obtain ⟨more, others, holds, goesOn⟩ := told value same
  exact ⟨_, _, holds, goes.trans goesOn⟩

/-- Processes in a row fill the slots of both. -/
theorem Fills.andThen
    {process : Process α}
    {next : α → Process β}
    (fills : Fills surroundings audience engine conversation post before process)
    (rest : ∀ value slots answers after, post value slots answers →
      Fills surroundings audience engine conversation
        (fun result more others => final result (slots ++ more) (answers ++ others)) after
        (next value)) :
    Fills surroundings audience engine conversation final before (process.andThen next) := by
  refine Process.Safe.andThen fills (fun value after _ told => ?_) (fun _ _ _ _ => nofun)
  obtain ⟨slots, answers, holds, goes⟩ := told value rfl
  exact Fills.since goes (rest value slots answers after holds)

/-- A call that fills no slot is made, and the process goes on. -/
theorem fills_hushed
    {request : Call}
    {next : request.Outcome → Process α}
    (hushed : request.isHushed = true)
    (rest : ∀ outcome after,
      Fills surroundings audience engine conversation post after (next outcome)) :
    Fills surroundings audience engine conversation post before (.step request next) :=
  ⟨trivial, fun outcome after answered =>
    Fills.since (Performance.goes_of_hushed hushed answered) (rest outcome after)⟩

/-- So does a process that makes only such calls. -/
theorem fills_of_within
    {process : Process α}
    (within : process.Within (fun request => request.isHushed = true) (fun _ _ => True)
      fun result => ∀ value, result = .ok value → post value [] []) :
    Fills surroundings audience engine conversation post before process := by
  induction process generalizing before with
  | done value => exact fills_done (within value rfl)
  | halt fault => exact fills_halt fault
  | step request next inductionHypothesis =>
      exact fills_hushed within.1 fun outcome _ =>
        inductionHypothesis outcome (within.2 outcome trivial)

/-- What has no part in what is said fills no slot. -/
theorem fills_of_silent
    {ended : Except Fault α → Prop}
    {process : Process α}
    (silent : process.Within (fun request => request.isSilent = true) (fun _ _ => True) ended)
    (holds : ∀ value, ended (.ok value) → post value [] []) :
    Fills surroundings audience engine conversation post before process := by
  refine fills_of_within (silent.weaken ?_ (fun _ _ _ => trivial) ?_)
  · intro request isSilent
    cases request <;> first | rfl | cases isSilent
  · rintro _ reached value rfl
    exact holds value reached

/-- So does a process that is no business of the surroundings. -/
theorem fills_of_private
    {kept : α → Prop}
    {process : Process α}
    (isPrivate : process.Private kept)
    (holds : ∀ value, kept value → post value [] []) :
    Fills surroundings audience engine conversation post before process := by
  have idle : process.Safe (surroundings.Answers audience)
      (before.Goes engine conversation [] [])
      (fun result _ => ∃ value, result = .ok value ∧ kept value) before := by
    refine Within.safe isPrivate ?_ (.refl before)
    intro request middle outcome after own goes answered
    have hushed : request.isHushed = true := by
      cases request <;> first | rfl | cases own
    have calm := (surroundings.respond_private audience middle own).2
    rw [answered] at calm
    exact ⟨goes.trans (Performance.goes_of_hushed hushed answered), calm⟩
  refine idle.relax (fun _ _ => trivial) ?_
  rintro _ after goes ⟨value, rfl, keeps⟩ _ ⟨⟩
  exact ⟨[], [], holds value keeps, goes⟩

theorem fills_orPanic
    {outcome : Except Fault β}
    {next : Except Error β → Process α}
    (rest : ∀ result,
      Fills surroundings audience engine conversation post before (next result)) :
    Fills surroundings audience engine conversation post before
      ((orPanic outcome).andThen next) := by
  rcases outcome with (error | reason) | value
  · exact rest (.error error)
  · exact fills_halt (.panic reason)
  · exact rest (.ok value)

/-! ## Output -/

/-- When a process ends well, its turn is still the same, but for what became of messages, and it
has filled some slots. -/
abbrev Utters
    (surroundings : Surroundings σ) (audience : Audience τ) (engine : Engine) (turn : Turn)
    (slots : List Slot) (before : Performance σ τ) (process : Process Turn) : Prop :=
  Fills surroundings audience engine turn.conversation
    (fun moved filled answers => turn.Resembles moved ∧ filled = slots ∧ answers = []) before
    process

/-- What is uttered fills its slots, and templates can name the same as before. -/
theorem Utters.fills
    {process : Process Turn}
    (utters : Utters surroundings audience engine turn slots before process) :
    Fills surroundings audience engine turn.conversation
      (fun moved filled answers => moved.context = turn.context ∧ filled = slots ∧ answers = [])
      before process := by
  refine Process.Safe.weaken utters fun _ _ _ told moved same => ?_
  obtain ⟨filled, answers, ⟨⟨_, _, rfl⟩, holds⟩, goes⟩ := told moved same
  exact ⟨filled, answers, ⟨rfl, holds⟩, goes⟩

theorem utters_done :
    Utters surroundings audience engine turn [] before (.done turn) :=
  fills_done ⟨.refl turn, rfl, rfl⟩

theorem Resembles.conversation_eq (resembles : turn.Resembles moved) :
    moved.conversation = turn.conversation := by
  obtain ⟨_, _, rfl⟩ := resembles
  rfl

/-- Processes in a row utter what both utter. -/
theorem Utters.andThen
    {process : Process Turn}
    {next : Turn → Process Turn}
    (utters : Utters surroundings audience engine turn slots before process)
    (rest : ∀ moved after, turn.Resembles moved →
      Utters surroundings audience engine moved further after (next moved)) :
    Utters surroundings audience engine turn (slots ++ further) before (process.andThen next) := by
  refine Fills.andThen utters ?_
  rintro moved _ _ after ⟨resembles, rfl, rfl⟩
  have uttersToo := rest moved after resembles
  rw [Utters, resembles.conversation_eq] at uttersToo
  refine Process.Safe.weaken uttersToo fun result last _ told value same => ?_
  obtain ⟨more, others, ⟨resemblesToo, rfl, rfl⟩, goes⟩ := told value same
  exact ⟨_, _, ⟨resembles.trans resemblesToo, rfl, rfl⟩, goes⟩

/-- To send something fills its slot, whatever becomes of it. -/
theorem utters_line
    {line : Rehearsal.Sent}
    {slot : Slot}
    {kind body : String}
    {outcome : Except Fault Unit}
    {after : Performance σ τ}
    (tried : before.attempt audience line = (outcome, after))
    (fits : slot.Fits engine turn.conversation line) :
    ((orPanic outcome).andThen fun result => turn.settle node kind body result).Safe
      (surroundings.Answers audience) (fun _ => True)
      (fun result last => ∀ moved, result = .ok moved → ∃ slots answers,
        (turn.Resembles moved ∧ slots = [slot] ∧ answers = []) ∧
        before.Goes engine turn.conversation slots answers last) after := by
  have goes : before.Goes engine turn.conversation [slot] [] after := by
    cases tried
    exact ⟨⟨[line], rfl, .cons fits .nil⟩, (List.append_nil _).symm⟩
  have calm (reason : String) : some (.error (.panic reason)) ≠ some outcome := by
    cases tried
    exact Surroundings.mapError_ne_panic _ reason
  refine Fills.since goes (fills_of_private (private_settled (.refl turn) calm kind body) ?_)
  exact fun _ resembles => ⟨resembles, rfl, rfl⟩

theorem utters_sendText (text : String) :
    Utters surroundings audience engine turn [.text text] before (turn.sendText node text) :=
  ⟨trivial, fun _ _ tried => utters_line tried ⟨rfl, rfl, rfl, rfl⟩⟩

theorem utters_sendMedia (url : String) (hint : Option Media.Kind) :
    Utters surroundings audience engine turn [.media url] before
      (sendMedia engine turn node url hint) := by
  have shown (there : Performance σ τ) (kind : Media.Kind) :
      Utters surroundings audience engine turn [.media url] there
        (.step (.sendMedia turn.conversation.device turn.conversation.phone url kind)
          fun outcome : Except Fault Unit => (orPanic outcome).andThen
            fun result => turn.settle node kind.name url result) :=
    ⟨trivial, fun _ _ tried => utters_line tried ⟨rfl, rfl, .inl ⟨rfl, rfl⟩⟩⟩
  unfold sendMedia mediaKind?
  cases validates : engine.hasValidator with
  | false => exact shown before _
  | true =>
      refine fills_hushed rfl fun outcome after => ?_
      simp only [andThen_done, bind_eq_andThen, pure_eq_done, andThen_assoc]
      refine fills_orPanic fun result => ?_
      cases result with
      | ok kind => exact shown after kind
      | error error =>
          exact ⟨trivial, fun _ _ tried =>
            utters_line tried ⟨rfl, rfl, .inr ⟨validates, rfl, rfl⟩⟩⟩

theorem utters_sendItem (item : ReplyItem) :
    Utters surroundings audience engine turn [Slot.ofItem item] before
      (sendItem engine turn node item) := by
  unfold sendItem Slot.ofItem
  cases item.media with
  | none => exact utters_sendText _
  | some hint => exact utters_sendMedia _ hint

theorem utters_sendFurther (items : List ReplyItem) :
    Utters surroundings audience engine turn (items.map Slot.ofItem) before
      (sendFurther engine node items turn) := by
  induction items generalizing turn before with
  | nil => exact utters_done
  | cons item rest inductionHypothesis =>
      have goesOn (there : Performance σ τ) :
          Utters surroundings audience engine turn
            ([Slot.ofItem item] ++ rest.map Slot.ofItem) there
            ((sendItem engine turn node item).andThen (sendFurther engine node rest)) :=
        (utters_sendItem item).andThen fun _ _ _ => inductionHypothesis
      unfold sendFurther
      dsimp only
      split
      · exact goesOn before
      · exact fills_hushed rfl fun _ after => goesOn after

theorem utters_sendItems (items : List ReplyItem) :
    Utters surroundings audience engine turn (items.map Slot.ofItem) before
      (sendItems engine node items turn) := by
  cases items with
  | nil => exact utters_done
  | cons item rest =>
      exact Utters.andThen (utters_sendItem item) fun _ _ _ => utters_sendFurther rest

/-! ## Nodes -/

theorem Resembles.context_eq (resembles : turn.Resembles moved) :
    moved.context = turn.context := by
  obtain ⟨_, _, rfl⟩ := resembles
  rfl

theorem utters_talk :
    Utters surroundings audience engine turn
      (Slot.ofTemplate? turn.context (node.text? textKeys)) before (turn.talk node) := by
  unfold talk
  cases node.text? textKeys with
  | none => exact utters_done
  | some template => exact utters_sendText _

theorem utters_sendCaption :
    Utters surroundings audience engine turn
      (Slot.ofTemplate? turn.context (node.text? captionKeys)) before
      (turn.sendCaption node) := by
  unfold sendCaption
  cases node.text? captionKeys with
  | none => exact utters_done
  | some template => exact utters_sendText _

theorem utters_showMedia :
    Utters surroundings audience engine turn (Slot.ofMedia turn.context node) before
      (showMedia engine turn node) := by
  unfold showMedia Slot.ofMedia
  cases node.text? urlKeys with
  | none => exact utters_done
  | some template =>
      refine Utters.andThen (utters_sendMedia _ _) fun moved _ resembles => ?_
      rw [← resembles.context_eq]
      exact utters_sendCaption

/-- To set a stage fills no slot. -/
theorem fills_setStage (stage : String) :
    Fills surroundings audience engine conversation
      (fun moved filled answers =>
        (moved.conversation = turn.conversation ∧
          moved.context = turn.context.setStage (some stage)) ∧ filled = [] ∧ answers = [])
      before (turn.setStage stage) := by
  refine fills_of_within ⟨rfl, fun outcome _ => ?_⟩
  cases outcome with
  | ok value =>
      rintro _ ⟨⟩
      exact ⟨⟨rfl, rfl⟩, rfl, rfl⟩
  | error fault => rintro _ ⟨⟩

/-- What an answer of the text generator says fills its slots. -/
theorem fills_obey (answer : String) :
    Fills surroundings audience engine turn.conversation
      (fun moved filled answers =>
        moved.context = turn.context.setStage (Reply.stageOf? answer) ∧
        filled = Slot.ofAnswer answer ∧ answers = []) before
      (obey engine turn node answer) := by
  unfold obey Slot.ofAnswer Reply.stageOf?
  cases Reply.ofText answer with
  | error _ =>
      dsimp only
      split
      · exact utters_done.fills
      · exact (utters_sendText _).fills
  | ok reply =>
      dsimp only [Except.toOption, Option.bind_some]
      cases reply.stage with
      | none => exact (utters_sendItems reply.items).fills
      | some stage =>
          refine Fills.andThen (fills_setStage stage) ?_
          rintro moved _ _ after ⟨⟨conversation_eq, context_eq⟩, rfl, rfl⟩
          rw [← conversation_eq, ← context_eq]
          exact (utters_sendItems reply.items).fills

/-- To consult the text generator fills the slots of its answer, if it gives one. -/
theorem fills_consult :
    Fills surroundings audience engine turn.conversation
      (fun moved filled answers => ∃ answer? : Option String,
        moved.context = turn.context.setStage (answer?.bind Reply.stageOf?) ∧
        filled = answer?.toList.flatMap Slot.ofAnswer ∧ answers = answer?.toList) before
      (consult engine turn node) := by
  unfold consult
  -- What the answer is turned into is kept opaque: to unfold it would parse the answer.
  have obeys (answer : String) (there : Performance σ τ) :
      Fills surroundings audience engine turn.conversation
        (fun moved filled answers =>
          moved.context = turn.context.setStage (Reply.stageOf? answer) ∧
          filled = Slot.ofAnswer answer ∧ answers = []) there
        (obey engine turn node answer) :=
    fills_obey answer
  generalize obey engine turn node = follow at obeys ⊢
  split
  · exact fills_done ⟨none, rfl, rfl, rfl⟩
  · have reads : Fills surroundings audience engine turn.conversation
        (fun _ filled answers => filled = [] ∧ answers = []) before (turn.recent engine) :=
      fills_of_private private_recent fun _ _ => ⟨rfl, rfl⟩
    refine reads.andThen ?_
    rintro history _ _ there ⟨rfl, rfl⟩
    refine ⟨trivial, fun outcome after answered => ?_⟩
    have goes : there.Goes engine turn.conversation [] outcome.toOption.toList after :=
      Performance.goes_of_generate answered
    rcases outcome with (error | reason) | answer
    · exact Fills.since goes (fills_done ⟨none, rfl, rfl, rfl⟩)
    · exact Fills.since goes (fills_halt _)
    · refine Process.Safe.weaken (obeys answer after) fun _ _ _ told value same => ?_
      obtain ⟨_, _, ⟨context_eq, rfl, rfl⟩, goesOn⟩ := told value same
      refine ⟨_, _, ⟨some answer, ?_, ?_, rfl⟩, goes.trans goesOn⟩
      · rw [context_eq, Option.bind_some]
      · rw [Option.toList_some, List.flatMap_singleton, List.nil_append, List.nil_append]

/-- To capture fields fills no slot. -/
theorem within_captureFields (entered : Turn) (stage : String) :
    (captureFields engine entered stage).Within (fun request => request.isHushed = true)
      (fun _ _ => True) (fun result => ∀ moved, result = .ok moved →
        ∃ rules, moved.context = entered.context.capture rules) := by
  have still (moved : Turn) (same : (.ok entered : Except Fault Turn) = .ok moved) :
      ∃ rules, moved.context = entered.context.capture rules := by
    cases same
    exact ⟨[], rfl⟩
  unfold captureFields
  split
  · exact still
  · refine ⟨rfl, fun outcome _ => ?_⟩
    rcases outcome with (error | reason) | rules
    · exact still
    · rintro _ ⟨⟩
    · simp only [andThen_done, bind_eq_andThen, pure_eq_done, orPanic]
      split
      · refine ⟨rfl, fun outcome _ => ?_⟩
        cases outcome with
        | error fault => rintro _ ⟨⟩
        | ok value =>
            rintro _ ⟨⟩
            exact ⟨rules, rfl⟩
      · exact still

/-- To enter a stage fills no slot. -/
theorem fills_enterStage :
    Fills surroundings audience engine conversation
      (fun moved filled answers => (∃ rules, moved.context = turn.context.enter node rules) ∧
        filled = [] ∧ answers = []) before
      (enterStage engine turn node) := by
  have enters : (enterStage engine turn node).Within (fun request => request.isHushed = true)
      (fun _ _ => True) (fun result => ∀ moved, result = .ok moved →
        ∃ rules, moved.context = turn.context.enter node rules) := by
    unfold enterStage TemplateContext.enter
    cases stageTemplate? node with
    | none =>
        rintro _ ⟨⟩
        exact ⟨[], rfl⟩
    | some template =>
        dsimp only
        generalize stage_eq : turn.render (Text.trim template) = stage
        rw [show Template.render turn.context (Text.trim template) = stage from stage_eq]
        refine ⟨rfl, fun outcome _ => ?_⟩
        cases outcome with
        | error fault => rintro _ ⟨⟩
        | ok value =>
            simp only [andThen_done, bind_eq_andThen, pure_eq_done, orHalt]
            split
            · rintro _ ⟨⟩
              exact ⟨[], rfl⟩
            · exact within_captureFields
                { turn with execution := { turn.execution with stage := some stage } } stage
  exact fills_of_within (enters.weaken (fun _ hushed => hushed) (fun _ _ _ => trivial)
    fun _ entered moved same => ⟨entered moved same, rfl, rfl⟩)

/-- What was filled and answered at a node, and what templates can name afterwards. -/
structure Spoke
    (turn : Turn) (node : Flow.Node) (answer? : Option String) (rules : List Capture)
    (moved : Turn) (filled : List Slot) (answers : List String) : Prop where
  /-- Only certain nodes let the text generator answer. -/
  answered : answer?.isSome = true → node.kind.isAi = true
  context_eq : moved.context = turn.context.after node answer? rules
  filled_eq : filled = Slot.ofNode turn.context node answer?
  answers_eq : answers = answer?.toList

/-- At a node a turn fills its slots. -/
theorem fills_step :
    Fills surroundings audience engine turn.conversation
      (fun result filled answers => ∃ answer? rules,
        turn.Spoke node answer? rules result.2 filled answers) before
      (step engine graph node answering turn) := by
  have uttered {transition : Transition} {process : Process Turn} {slots : List Slot}
      (after_eq : turn.context.after node none [] = turn.context)
      (slots_eq : Slot.ofNode turn.context node none = slots)
      (utters : Utters surroundings audience engine turn slots before process) :
      Fills surroundings audience engine turn.conversation
        (fun result filled answers => ∃ answer? rules,
          turn.Spoke node answer? rules result.2 filled answers) before
        (process.andThen fun moved => .done (transition, moved)) := by
    refine Fills.andThen utters.fills ?_
    rintro moved _ _ after ⟨context_eq, rfl, rfl⟩
    refine fills_done ⟨none, [], by simp, context_eq.trans after_eq.symm, ?_, rfl⟩
    rw [List.append_nil, slots_eq]
  unfold step
  cases kind : node.kind with
  | start | manual | unknown | condition | userReply | waitingReplyTimes | «end» =>
      exact fills_done ⟨none, [], by simp, by simp only [TemplateContext.after, kind],
        by simp only [Slot.ofNode, kind], rfl⟩
  | message =>
      exact uttered (by simp only [TemplateContext.after, kind])
        (by simp only [Slot.ofNode, kind]) utters_talk
  | image | audio | video =>
      exact uttered (by simp only [TemplateContext.after, kind])
        (by simp only [Slot.ofNode, kind]) utters_showMedia
  | stage =>
      refine Fills.andThen fills_enterStage ?_
      rintro moved _ _ after ⟨⟨rules, context_eq⟩, rfl, rfl⟩
      refine fills_done ⟨none, rules, by simp, ?_, by simp only [Slot.ofNode, kind]; rfl, rfl⟩
      simp only [context_eq, TemplateContext.after, kind]
  | delay =>
      have waits : Fills surroundings audience engine turn.conversation
          (fun _ filled answers => filled = [] ∧ answers = []) before
          (delay engine graph turn node) :=
        fills_of_silent silent_delay fun _ _ => ⟨rfl, rfl⟩
      refine waits.andThen ?_
      rintro transition _ _ after ⟨rfl, rfl⟩
      exact fills_done ⟨none, [], by simp, by simp only [TemplateContext.after, kind],
        by simp only [Slot.ofNode, kind]; rfl, rfl⟩
  | aiPrompt | advancedAiPrompt | prompt =>
      refine Fills.andThen fills_consult ?_
      rintro moved _ _ after ⟨answer?, context_eq, rfl, rfl⟩
      refine fills_done ⟨answer?, [], fun _ => ?_, ?_, ?_, List.append_nil _⟩
      · rw [kind]
        rfl
      · simp only [context_eq, TemplateContext.after, kind]
      · simp only [List.append_nil, Slot.ofNode, kind]

/-- To follow a transition fills no slot, and templates can name the same as before. -/
theorem fills_follow (transition : Transition) :
    Fills surroundings audience engine conversation
      (fun moved filled answers => moved.context = turn.context ∧ filled = [] ∧ answers = [])
      before (turn.follow transition) := by
  have known : (turn.follow transition).Within (fun request => request.isSilent = true)
      (fun _ _ => True) _ :=
    ((silent_follow transition).and (within_follow transition)).weaken
      (fun _ both => both.1) (fun _ _ _ => ⟨trivial, trivial⟩) fun _ both => both.2
  refine fills_of_silent known fun moved moves => ⟨?_, rfl, rfl⟩
  rw [moves moved rfl]
  cases transition <;> rfl

/-- At a visit of a node a turn fills its slots. -/
theorem fills_visit :
    Fills surroundings audience engine turn.conversation
      (fun result filled answers => ∃ answer? rules,
        turn.Spoke node answer? rules result.2 filled answers) before
      (visit engine graph node answering turn) := by
  refine fills_hushed rfl fun _ entered => ?_
  have steps : Fills surroundings audience engine turn.conversation
      (fun result filled answers => ∃ answer? rules,
        ({ turn with visited := turn.visited ++ [node.id] } : Turn).Spoke node answer? rules
          result.2 filled answers) entered
      (step engine graph node answering { turn with visited := turn.visited ++ [node.id] }) :=
    fills_step
  refine steps.andThen ?_
  rintro ⟨transition, stayed⟩ slots answers stepped ⟨answer?, rules, spoke⟩
  refine Fills.andThen (fills_follow transition) ?_
  rintro moved _ _ after ⟨context_eq, rfl, rfl⟩
  refine fills_done ⟨answer?, rules, spoke.answered, context_eq.trans spoke.context_eq, ?_, ?_⟩
  · simp only [List.append_nil, spoke.filled_eq]
    rfl
  · simp only [List.append_nil, spoke.answers_eq]

end Turn
end ChatFlow
