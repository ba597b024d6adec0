import ChatFlow.Proofs.Engine.Lookups
import ChatFlow.Proofs.Process.Trace
import ChatFlow.Rehearsal.Script

/-!
# What a node does, call by call

At a node a turn asks and looks things up, tries to send, tells what became of that, writes it down,
and sets stages and fields.  What each of these keeps, as far as a turn and the calls made so far
are concerned, the node keeps as a whole, whatever its kind.
-/

namespace ChatFlow

open Process

/-- What is tried to be sent, and what becomes of it. -/
def Exchange.attempt? : Exchange → Option (Rehearsal.Sent × Except Fault Unit)
  | ⟨.sendText device phone text, outcome⟩ =>
      some ({ device, phone, media := none, body := text }, outcome)
  | ⟨.sendMedia device phone url kind, outcome⟩ =>
      some ({ device, phone, media := some kind, body := url }, outcome)
  | _ => none

/-- Whether a call neither sends nor tells anything, nor writes to the history, nor sets a
stage. -/
def Call.isMute : Call → Bool
  | .sendText .. | .sendMedia .. | .publish _ | .appendHistory .. | .setStage .. => false
  | _ => true

/-- Whether an event tells that a turn begins. -/
def Event.isOpening : Event → Bool
  | .accepted .. | .resumed .. => true
  | _ => false

/-- The name under which observers are told of what is sent. -/
def Rehearsal.Sent.kind (line : Rehearsal.Sent) : String :=
  match line.media with
  | none => "text"
  | some kind => kind.name

/-- Something that is sent to a conversation. -/
def Conversation.line (conversation : Conversation) (media : Option Media.Kind) (body : String) :
    Rehearsal.Sent :=
  { device := conversation.device, phone := conversation.phone, media, body }

namespace Turn

variable {engine : Engine} {graph : Flow.Graph} {node : Flow.Node} {turn : Turn}
  {trace : List Exchange} {holds : Turn → List Exchange → Prop}

/-- The entry that is written down when something was sent. -/
def entry (turn : Turn) (body : String) (time : Instant) : HistoryEntry :=
  { user := if turn.input.isNew && !turn.recorded then turn.input.text else ""
    bot := body
    stage := turn.execution.stage
    displayName := turn.input.displayName
    time }

/-- What holds of a turn and the calls made so far, and is kept by all that a turn does at a
node. -/
structure Steady (node : Flow.Node) (holds : Turn → List Exchange → Prop) : Prop where
  /-- To ask and to look things up is of no matter. -/
  mute : ∀ {turn trace exchange}, holds turn trace → exchange.request.isMute = true →
    holds turn (trace ++ [exchange])
  /-- Nor is a stage that is set. -/
  staged : ∀ {turn trace} name value, holds turn trace →
    holds { turn with execution := { turn.execution with stage := some name } }
      (trace ++ [⟨.setStage turn.execution.id (some name), .ok value⟩])
  /-- Nor are fields that are captured. -/
  captured : ∀ {turn trace} vars, holds turn trace →
    holds { turn with execution := { turn.execution with vars } } trace
  /-- What is accepted is told and written down. -/
  accepted : ∀ {turn trace sending media body value}, holds turn trace →
    sending.attempt? = some (turn.conversation.line media body, .ok value) →
    ∀ published time written,
    holds { turn with dispatched := turn.dispatched + 1, recorded := true }
      (trace ++ [sending] ++
        [⟨.publish (.dispatched turn.conversation node.id
          (turn.conversation.line media body).kind), published⟩] ++
        [⟨.now, time⟩] ++
        [⟨.appendHistory turn.conversation (turn.entry body time), written⟩])
  /-- What is refused is told. -/
  refused : ∀ {turn trace sending media body error}, holds turn trace →
    sending.attempt? = some (turn.conversation.line media body, .error (.error error)) →
    ∀ published,
    holds turn
      (trace ++ [sending] ++
        [⟨.publish (.dispatchFailed turn.conversation node.id error.message), published⟩])

/-- Something holds at the end of a process: of the turn that it returns, if it returns one. -/
def Retains (holds : Turn → List Exchange → Prop) : Except Fault Turn → List Exchange → Prop
  | .ok turn, trace => holds turn trace
  | .error _, _ => True

/-- A process keeps what holds. -/
abbrev Keeps (holds : Turn → List Exchange → Prop) (process : Process Turn)
    (trace : List Exchange) : Prop :=
  process.Safe recording (fun _ => True) (Retains holds) trace

theorem keeps_done (kept : holds turn trace) : Keeps holds (.done turn) trace :=
  ⟨trivial, kept⟩

theorem keeps_halt (fault : Fault) : Keeps holds (.halt fault) trace :=
  ⟨trivial, trivial⟩

/-- One process goes on with what another one has kept. -/
theorem Keeps.andThen
    {final : Turn → List Exchange → Prop}
    {process : Process Turn}
    {next : Turn → Process Turn}
    (keeps : Keeps holds process trace)
    (rest : ∀ after trace, holds after trace → Keeps final (next after) trace) :
    Keeps final (process.andThen next) trace :=
  Safe.andThen keeps (fun after trace _ kept => rest after trace kept) fun _ _ _ _ => trivial

/-! ## Messages -/

/-- What became of a message is told, and written down if it was accepted. -/
theorem keeps_settle
    {sending : Exchange}
    {media : Option Media.Kind}
    {body : String}
    {outcome : Except Fault Unit}
    (steady : Steady node holds)
    (kept : holds turn trace)
    (attempts : sending.attempt? = some (turn.conversation.line media body, outcome)) :
    Keeps holds
      ((orPanic outcome).andThen
        (turn.settle node (turn.conversation.line media body).kind body))
      (trace ++ [sending]) := by
  rcases outcome with (error | message) | value
  · exact safe_recording_step fun published => keeps_done (steady.refused kept attempts published)
  · exact keeps_halt _
  · refine safe_recording_step fun published => safe_recording_step fun time =>
      safe_recording_step fun written => ?_
    have still := steady.accepted kept attempts published time written
    rcases written with (error | message) | value
    · exact keeps_done still
    · exact keeps_halt _
    · exact keeps_done still

theorem keeps_sendText
    (steady : Steady node holds)
    (kept : holds turn trace)
    (text : String) :
    Keeps holds (turn.sendText node text) trace := by
  refine safe_recording_step fun outcome => ?_
  have attempts : Exchange.attempt?
      ⟨.sendText turn.conversation.device turn.conversation.phone text, outcome⟩ =
        some (turn.conversation.line none text, outcome) := rfl
  exact keeps_settle steady kept attempts

/-- A text is sent from a template, if there is one. -/
theorem keeps_template
    (steady : Steady node holds)
    (kept : holds turn trace)
    (template : Option String) :
    Keeps holds
      (match template with
        | some template => turn.sendText node (turn.render template)
        | none => pure turn) trace := by
  cases template with
  | none => exact keeps_done kept
  | some template => exact keeps_sendText steady kept _

theorem keeps_sendMedia
    (steady : Steady node holds)
    (kept : holds turn trace)
    (url : String)
    (hint : Option Media.Kind) :
    Keeps holds (sendMedia engine turn node url hint) trace := by
  have within : (mediaKind? engine url hint).Within (fun request => request.isMute = true)
      (fun _ _ => True) fun _ => True := within_mediaKind? rfl
  refine within.followed steady.mute kept ?_ fun _ _ _ => trivial
  intro kind trace kept
  cases kind with
  | none => exact keeps_sendText steady kept _
  | some kind =>
      refine safe_recording_step fun outcome => ?_
      have attempts : Exchange.attempt?
          ⟨.sendMedia turn.conversation.device turn.conversation.phone url kind, outcome⟩ =
            some (turn.conversation.line (some kind) url, outcome) := rfl
      exact keeps_settle steady kept attempts

theorem keeps_sendItem
    (steady : Steady node holds)
    (kept : holds turn trace)
    (item : ReplyItem) :
    Keeps holds (sendItem engine turn node item) trace := by
  unfold sendItem
  split
  · exact keeps_sendText steady kept _
  · exact keeps_sendMedia steady kept _ _

theorem keeps_sendFurther
    (steady : Steady node holds)
    (items : List ReplyItem)
    (kept : holds turn trace) :
    Keeps holds (sendFurther engine node items turn) trace := by
  induction items generalizing turn trace with
  | nil => exact keeps_done kept
  | cons item rest inductionHypothesis =>
      have goesOn {trace : List Exchange} (kept : holds turn trace) :
          Keeps holds ((sendItem engine turn node item).andThen fun turn =>
            sendFurther engine node rest turn) trace :=
        (keeps_sendItem steady kept item).andThen fun after trace kept =>
          inductionHypothesis kept
      unfold sendFurther
      simp only [bind_eq_andThen]
      split
      · exact goesOn kept
      · exact safe_recording_step fun _ => goesOn (steady.mute kept rfl)

theorem keeps_sendItems
    (steady : Steady node holds)
    (kept : holds turn trace)
    (items : List ReplyItem) :
    Keeps holds (sendItems engine node items turn) trace := by
  cases items with
  | nil => exact keeps_done kept
  | cons item rest =>
      exact (keeps_sendItem steady kept item).andThen fun after trace kept =>
        keeps_sendFurther steady rest kept

/-! ## Nodes -/

theorem keeps_showMedia
    (steady : Steady node holds)
    (kept : holds turn trace) :
    Keeps holds (showMedia engine turn node) trace := by
  unfold showMedia
  split
  · exact (keeps_sendMedia steady kept _ _).andThen fun after trace kept =>
      keeps_template steady kept _
  · exact keeps_done kept

theorem keeps_setStage
    (steady : Steady node holds)
    (kept : holds turn trace)
    (name : String) :
    Keeps holds (turn.setStage name) trace := by
  refine safe_recording_step fun outcome => ?_
  cases outcome with
  | error fault => exact keeps_halt fault
  | ok value => exact keeps_done (steady.staged name value kept)

theorem keeps_captureFields
    (steady : Steady node holds)
    (kept : holds turn trace)
    (name : String) :
    Keeps holds (captureFields engine turn name) trace := by
  unfold captureFields
  split
  · exact keeps_done kept
  · refine safe_recording_step fun outcome => ?_
    have looked : holds turn
        (trace ++ [⟨.captureRules turn.conversation.device name, outcome⟩]) :=
      steady.mute kept rfl
    rcases outcome with (error | message) | rules
    · exact keeps_done looked
    · exact keeps_halt _
    · simp only [orPanic, bind_eq_andThen, andThen_done, pure_eq_done]
      split
      · refine safe_recording_step fun saved => ?_
        cases saved with
        | error fault => exact keeps_halt fault
        | ok value => exact keeps_done (steady.captured _ (steady.mute looked rfl))
      · exact keeps_done looked

theorem keeps_enterStage
    (steady : Steady node holds)
    (kept : holds turn trace) :
    Keeps holds (enterStage engine turn node) trace := by
  unfold enterStage
  cases stageTemplate? node with
  | none => exact keeps_done kept
  | some template =>
      dsimp only
      generalize turn.render (Text.trim template) = name
      refine (keeps_setStage steady kept name).andThen fun after trace kept => ?_
      split
      · exact keeps_done kept
      · exact keeps_captureFields steady kept name

theorem keeps_obey
    (steady : Steady node holds)
    (kept : holds turn trace)
    (raw : String) :
    Keeps holds (obey engine turn node raw) trace := by
  unfold obey
  split
  · rename_i reply _
    cases reply.stage with
    | none => exact keeps_sendItems steady kept _
    | some name =>
        exact (keeps_setStage steady kept name).andThen fun after trace kept =>
          keeps_sendItems steady kept _
  · split
    · exact keeps_done kept
    · exact keeps_sendText steady kept _

theorem keeps_consult
    (steady : Steady node holds)
    (kept : holds turn trace) :
    Keeps holds (consult engine turn node) trace := by
  unfold consult
  split
  · exact keeps_done kept
  · simp only [bind_eq_andThen]
    have within : (turn.recent engine).Within (fun request => request.isMute = true)
        (fun _ _ => True) fun _ => True := within_recent rfl
    refine within.followed steady.mute kept ?_ fun _ _ _ => trivial
    intro entries trace kept
    generalize AiRequest.mk _ _ _ _ _ = question
    refine safe_recording_step fun outcome => ?_
    have asked : holds turn (trace ++ [⟨.generate question, outcome⟩]) := steady.mute kept rfl
    rcases outcome with (error | message) | raw
    · exact keeps_done asked
    · exact keeps_halt _
    · simp only [orPanic, andThen_done]
      exact keeps_obey steady asked raw

/-- Something holds at the end of a node: of the turn that goes on from there. -/
def RetainsNode (holds : Turn → List Exchange → Prop) :
    Except Fault (Transition × Turn) → List Exchange → Prop
  | .ok (_, turn), trace => holds turn trace
  | .error _, _ => True

/-- A node keeps what all that is done there keeps. -/
theorem keeps_step
    (steady : Steady node holds)
    (kept : holds turn trace)
    (answering : Bool) :
    (step engine graph node answering turn).Safe recording (fun _ => True) (RetainsNode holds)
      trace := by
  have paired {process : Process Turn} (transition : Transition)
      (keeps : Keeps holds process trace) :
      (process.andThen fun after => .done (transition, after)).Safe recording (fun _ => True)
        (RetainsNode holds) trace :=
    Safe.andThen keeps (fun after trace _ kept => ⟨trivial, kept⟩) fun _ _ _ _ => trivial
  unfold step
  cases node.kind with
  | start | manual | unknown | condition | userReply | waitingReplyTimes | «end» =>
      exact ⟨trivial, kept⟩
  | message => exact paired _ (keeps_template steady kept _)
  | image | audio | video => exact paired _ (keeps_showMedia steady kept)
  | stage => exact paired _ (keeps_enterStage steady kept)
  | delay =>
      have within : (delay engine graph turn node).Within (fun request => request.isMute = true)
          (fun _ _ => True) fun _ => True := within_delay rfl fun _ _ => rfl
      refine within.followed steady.mute kept ?_ fun _ _ _ => trivial
      exact fun transition trace kept => ⟨trivial, kept⟩
  | aiPrompt | advancedAiPrompt | prompt => exact paired _ (keeps_consult steady kept)

end Turn
end ChatFlow
