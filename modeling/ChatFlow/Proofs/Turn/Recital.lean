import ChatFlow.Proofs.Store.Variables
import ChatFlow.Proofs.Turn.Awaiting
import ChatFlow.Proofs.Turn.Progress

/-!
# What a turn says

What a turn tries to send follows from the nodes that it visits, from what it was given, and from
what the callees say that it asks: whether media can be used, which fields are captured at a stage,
and the answers of the text generator.  A `Cast` is what these callees say, and a `Recital` is what
has been said so far with all that further words depend on.  What becomes of the messages that are
sent has no part in it.
-/

namespace ChatFlow

open Process

/-- What the callees say that a turn asks, one after the other. -/
structure Cast (σ : Type) where
  /-- What is found when media is looked at. -/
  verdict : String → σ → Except Error Media.Kind × σ
  /-- The capture rules of a stage on a device. -/
  rules : String → String → σ → Except Error (List Capture) × σ
  /-- What the text generator answers. -/
  reply : σ → Except Error String × σ

/-- A cast says what it says, and does not mind other calls. -/
def Cast.manner {σ : Type} (cast : Cast σ) : Answering σ
  | .classify url, before, outcome, after =>
      outcome = (cast.verdict url before).1.mapError .error ∧ after = (cast.verdict url before).2
  | .captureRules device stage, before, outcome, after =>
      outcome = (cast.rules device stage before).1.mapError .error ∧
        after = (cast.rules device stage before).2
  | .generate _, before, outcome, after =>
      outcome = (cast.reply before).1.mapError .error ∧ after = (cast.reply before).2
  | _, before, _, after => after = before

/-- The errors of a cast are faults that callees show at a site. -/
structure Cast.Fits {σ : Type} (cast : Cast σ) (site : Site) : Prop where
  verdict : ∀ url state error, (cast.verdict url state).1 = .error error →
    site.faults (.error error)
  rules : ∀ device stage state error, (cast.rules device stage state).1 = .error error →
    site.faults (.error error)
  reply : ∀ state error, (cast.reply state).1 = .error error → site.faults (.error error)

namespace Site

variable {σ α : Type} {site : Site} {now : Instant} {cast : Cast σ}

/-- How calls are answered that go well at a time, when callees say what a cast says. -/
def answerBy
    (site : Site) (now : Instant) (cast : Cast σ) (request : Call)
    (before : Transcript σ) : request.Outcome × Transcript σ :=
  let asked := before.asked ++ [request]
  match request with
  | .classify url =>
    let (found, state) := cast.verdict url before.state
    (found.mapError .error, { before with asked, state })
  | .captureRules device stage =>
    let (found, state) := cast.rules device stage before.state
    (found.mapError .error, { before with asked, state })
  | .generate _ =>
    let (answer, state) := cast.reply before.state
    (answer.mapError .error, { before with asked, state })
  | request =>
    let (outcome, scene) := site.answer now {} request before.scene
    (outcome, { before with scene, asked })

/-- Such callees oblige where what they show can be borne. -/
theorem obliges_answerBy
    (onClock : site.clock now)
    (fits : cast.Fits site)
    (request : Call)
    (before : Transcript σ)
    (bears : request.bears (site.answerBy now cast request before).1 = true) :
    site.Obliges cast.manner request before (site.answerBy now cast request before).1
      (site.answerBy now cast request before).2 := by
  have bearable := Call.bearable_of_bears bears
  refine ⟨?_, bearable, ?_, ?_⟩
  · cases request with
    | classify url =>
        simp only [answerBy]
        cases found : (cast.verdict url before.state).1 with
        | ok kind => exact .well onClock { kind }
        | error error => exact .failed (fits.verdict _ _ _ found) rfl
    | captureRules device stage =>
        simp only [answerBy]
        cases found : (cast.rules device stage before.state).1 with
        | ok rules => exact .well onClock { rules }
        | error error => exact .failed (fits.rules _ _ _ _ found) rfl
    | generate _ =>
        simp only [answerBy]
        cases found : (cast.reply before.state).1 with
        | ok reply => exact .well onClock { reply }
        | error error => exact .failed (fits.reply _ _ found) rfl
    | _ => exact .well onClock {}
  · cases request with
    | classify | captureRules | generate => exact ⟨rfl, rfl⟩
    | _ => rfl
  · cases request <;> rfl

/-- Whether all that such callees show a process can be borne. -/
def bearsAll
    (site : Site) (now : Instant) (cast : Cast σ) (process : Process α) (before : Transcript σ) :
    Bool :=
  process.allows (site.answerBy now cast)
    (fun request state => request.bears (site.answerBy now cast request state).1) before

/-- A run against such callees is one against obliging callees. -/
theorem ends_answerBy
    (onClock : site.clock now)
    (fits : cast.Fits site)
    (process : Process α)
    (before : Transcript σ)
    (bears : site.bearsAll now cast process before = true) :
    Ends (site.Obliges cast.manner) process before
      (process.run (site.answerBy now cast) before).1
      (process.run (site.answerBy now cast) before).2 :=
  ends_of_run_of_allows (fun request state => obliges_answerBy onClock fits request state)
    process before bears

end Site

/-- A text generator that gives some answers, one after the other. -/
def Cast.ofReplies : Cast (List String) where
  verdict _ replies := (.ok .image, replies)
  rules _ _ replies := (.ok [], replies)
  reply replies := (.ok (replies.headD ""), replies.tail)

theorem Cast.fits_ofReplies {site : Site} : Cast.ofReplies.Fits site :=
  ⟨nofun, nofun, nofun⟩

/-- What has been said, and what further words depend on. -/
@[ext]
structure Recital (σ : Type) where
  conversation : Conversation
  /-- The user's text. -/
  text : String
  /-- The user's name, if it is known. -/
  displayName : Option String
  stage : Option String
  /-- The captured fields. -/
  vars : Keyed String
  /-- What the callees keep in mind. -/
  state : σ
  /-- What the turn tried to send, in order. -/
  lines : List Rehearsal.Sent

namespace Recital

variable {σ : Type}

/-- What templates can name. -/
def context (recital : Recital σ) : TemplateContext where
  vars := recital.vars
  phone := recital.conversation.phone
  device := recital.conversation.device
  displayName := recital.displayName
  stage := recital.stage
  input := recital.text

/-- The text of a template. -/
def render (recital : Recital σ) (template : String) : String :=
  Template.render recital.context template

/-- Voices something, with media or without. -/
def utter (recital : Recital σ) (media : Option Media.Kind) (body : String) : Recital σ :=
  { recital with
    lines := recital.lines ++
      [{ device := recital.conversation.device, phone := recital.conversation.phone, media
         body }] }

/-- Voices a text. -/
def say (recital : Recital σ) (text : String) : Recital σ :=
  recital.utter none text

/-- Voices a text that is given by a template, if it is given. -/
def sayTemplate (recital : Recital σ) : Option String → Recital σ
  | some template => recital.say (recital.render template)
  | none => recital

variable (engine : Engine) (cast : Cast σ)

/-- Shows media, or says what is said in its place when it cannot be used. -/
def present (recital : Recital σ) (url : String) (hint : Option Media.Kind) : Recital σ :=
  if engine.hasValidator then
    match cast.verdict url recital.state with
    | (.ok kind, state) => { recital with state }.utter kind url
    | (.error _, state) => { recital with state }.say engine.settings.mediaFallbackText
  else recital.utter (hint.getD (Media.Kind.guess url)) url

/-- Voices one item of a reply. -/
def sayItem (recital : Recital σ) (item : ReplyItem) : Recital σ :=
  match item.media with
  | none => recital.say item.content
  | some hint => recital.present engine cast (Text.trim item.content) hint

/-- Shows the media of a node, and says the text that goes with it. -/
def showMedia (recital : Recital σ) (node : Flow.Node) : Recital σ :=
  match node.text? Turn.urlKeys with
  | some template =>
    (recital.present engine cast (recital.render (Text.trim template))
      node.kind.media?).sayTemplate (node.text? Turn.captionKeys)
  | none => recital

/-- Captures the fields of a stage. -/
def capture (recital : Recital σ) (stage : String) : Recital σ :=
  if engine.hasCaptures then
    match cast.rules recital.conversation.device stage recital.state with
    | (.ok rules, state) =>
      { recital with vars := Capture.overlay recital.text rules recital.vars, state }
    | (.error _, state) => { recital with state }
  else recital

/-- Enters the stage of a node, and captures its fields. -/
def enterStage (recital : Recital σ) (node : Flow.Node) : Recital σ :=
  match Turn.stageTemplate? node with
  | some template =>
    let stage := recital.render (Text.trim template)
    let entered := { recital with stage := some stage }
    if stage.isEmpty then entered else entered.capture engine cast stage
  | none => recital

/-- Does what an answer of the text generator says. -/
def obey (recital : Recital σ) (raw : String) : Recital σ :=
  match Reply.ofText raw with
  | .ok reply =>
    reply.items.foldl (sayItem engine cast) { recital with stage := reply.stage.or recital.stage }
  | .error _ => if Text.isBlank raw then recital else recital.say (Text.trim raw)

/-- Lets the text generator answer. -/
def consult (recital : Recital σ) : Recital σ :=
  if engine.hasGenerator then
    match cast.reply recital.state with
    | (.ok raw, state) => { recital with state }.obey engine cast raw
    | (.error _, state) => { recital with state }
  else recital

/-- Voices what a node has to say. -/
def speak (recital : Recital σ) (node : Flow.Node) : Recital σ :=
  match node.kind with
  | .message => recital.sayTemplate (node.text? Turn.textKeys)
  | .image | .audio | .video => recital.showMedia engine cast node
  | .stage => recital.enterStage engine cast node
  | .aiPrompt | .advancedAiPrompt | .prompt => recital.consult engine cast
  | .start | .manual | .unknown _ | .delay | .condition | .userReply | .waitingReplyTimes
  | .end => recital

/-- Voices what the nodes of some legs have to say. -/
def recite (recital : Recital σ) (legs : List Leg) : Recital σ :=
  legs.foldl (fun recital leg => recital.speak engine cast leg.node) recital

theorem recite_append (recital : Recital σ) (legs more : List Leg) :
    recital.recite engine cast (legs ++ more) =
      (recital.recite engine cast legs).recite engine cast more :=
  List.foldl_append

end Recital

/-! ## Calls -/

/-- What a call tries to send. -/
def Call.line? : Call → Option Rehearsal.Sent
  | .sendText device phone text => some { device, phone, media := none, body := text }
  | .sendMedia device phone url kind => some { device, phone, media := some kind, body := url }
  | _ => none

/-- Whether a call has no part in what is said. -/
def Call.isSilent : Call → Bool
  | .sendText .. | .sendMedia .. | .classify _ | .captureRules .. | .generate _ | .setStage ..
  | .saveVariables .. => false
  | _ => true

/-- What was sent, or was tried to be sent. -/
def Transcript.lines {σ : Type} (transcript : Transcript σ) : List Rehearsal.Sent :=
  transcript.asked.filterMap Call.line?

/-- The stage and the captured fields of a recital are those of the row with an id in a store. -/
def Store.Remembers {σ : Type} (store : Store) (id : String) (recital : Recital σ) : Prop :=
  ∃ row, store.Holds row ∧ row.id = id ∧ row.stage = recital.stage ∧
    decodeVariables row.vars = recital.vars

/-- What a turn has said. -/
def Turn.recital {σ : Type} (turn : Turn) (transcript : Transcript σ) : Recital σ where
  conversation := turn.conversation
  text := turn.input.text
  displayName := turn.input.displayName
  stage := turn.execution.stage
  vars := turn.execution.vars
  state := transcript.state
  lines := transcript.lines

/-- A turn has said what a recital says, and the store knows of it. -/
structure Turn.Recites {σ : Type} (turn : Turn) (recital : Recital σ) (after : Transcript σ) :
    Prop where
  said : turn.recital after = recital
  sorted : recital.vars.Sorted
  remembered : after.scene.store.Remembers turn.execution.id recital

namespace Site.Obliges

variable {σ : Type} {site : Site} {manner : Answering σ} {cast : Cast σ} {request : Call}
  {outcome : request.Outcome} {before after : Transcript σ}

/-- A row becomes what a call makes of it. -/
theorem holds
    {row : ExecutionRow}
    (obliged : site.Obliges manner request before outcome after)
    (held : before.scene.store.Holds row) :
    after.scene.store.Holds (row.write request) := by
  have bearable := obliged.bearable
  have answered := obliged.answered
  generalize after.scene = there at answered ⊢
  cases answered with
  | well onClock choice => exact Scene.holds_serve held
  | failed shown fails =>
      rw [ExecutionRow.write_of_isSpare (bearable _ fails).1]
      exact held
  | failedLate shown fails onClock choice => exact Scene.holds_serve held

/-- Lines are added by the calls that send something. -/
theorem lines_eq (obliged : site.Obliges manner request before outcome after) :
    after.lines = before.lines ++ request.line?.toList := by
  rw [Transcript.lines, obliged.asked_eq, List.filterMap_append, ← Transcript.lines]
  cases line : request.line? with
  | none => simp [line]
  | some line => simp [line]

/-- Where nothing fails, what is tried to be sent is sent. -/
theorem sent_eq
    (calm : ∀ fault, ¬ site.faults fault)
    (obliged : site.Obliges manner request before outcome after) :
    after.scene.sent = before.scene.sent ++ request.line?.toList := by
  rcases obliged.answered.inversion with ⟨now, choice, _, _, scene_eq⟩ | ⟨fault, shown, _⟩
  · rw [scene_eq]
    cases request with
    | sendText | sendMedia => rfl
    | acquire =>
        simp only [Scene.serve]
        split <;> exact (List.append_nil _).symm
    | _ => exact (List.append_nil _).symm
  · exact (calm fault shown).elim

/-- Where nothing fails, all that is sent is what was tried to be sent. -/
theorem exists_sent_of_ends
    {process : Process α}
    {result : Except Fault α}
    (calm : ∀ fault, ¬ site.faults fault)
    (ends : Ends (site.Obliges manner) process before result after) :
    ∃ lines, after.scene.sent = before.scene.sent ++ lines ∧
      after.lines = before.lines ++ lines := by
  have grows {first last : Process α × Transcript σ}
      (reaches : Reaches (site.Obliges manner) first last) :
      ∃ lines, last.2.scene.sent = first.2.scene.sent ++ lines ∧
        last.2.lines = first.2.lines ++ lines := by
    induction reaches with
    | refl => exact ⟨[], (List.append_nil _).symm, (List.append_nil _).symm⟩
    | tail _ step inductionHypothesis =>
        obtain ⟨lines, sent_eq, lines_eq⟩ := inductionHypothesis
        cases step with
        | @call request _ _ _ _ obliged =>
            refine ⟨lines ++ request.line?.toList, ?_, ?_⟩
            · rw [obliged.sent_eq calm, sent_eq, List.append_assoc]
            · rw [obliged.lines_eq, lines_eq, List.append_assoc]
  exact grows ends

end Site.Obliges

namespace Turn

variable {σ : Type} {site : Site} {cast : Cast σ} {engine : Engine} {graph : Flow.Graph}
  {node : Flow.Node} {turn : Turn} {before : Transcript σ} {recital said : Recital σ}
  {answering : Bool}

/-- When a process ends well, its turn has said what a recital says. -/
abbrev Voices
    (site : Site) (cast : Cast σ) (recital : Recital σ) (before : Transcript σ)
    (process : Process Turn) : Prop :=
  process.Safe (site.Obliges cast.manner) (fun _ => True)
    (fun result after => ∀ turn, result = .ok turn → turn.Recites recital after) before

/-! ## What a turn knows -/

theorem Recites.conversation_eq (recites : turn.Recites recital before) :
    turn.conversation = recital.conversation :=
  congrArg Recital.conversation recites.said

theorem Recites.text_eq (recites : turn.Recites recital before) :
    turn.input.text = recital.text :=
  congrArg Recital.text recites.said

theorem Recites.vars_eq (recites : turn.Recites recital before) :
    turn.execution.vars = recital.vars :=
  congrArg Recital.vars recites.said

theorem Recites.state_eq (recites : turn.Recites recital before) :
    before.state = recital.state :=
  congrArg Recital.state recites.said

theorem Recites.render_eq
    (recites : turn.Recites recital before)
    (template : String) :
    turn.render template = recital.render template := by
  rw [← recites.said]
  rfl

/-- A turn that takes an exit has said no more than before. -/
theorem Recites.take
    (recites : turn.Recites recital before)
    (exit : Exit)
    (scheduled : Option Continuation) :
    ({ turn.take exit with scheduled } : Turn).Recites recital before := by
  cases exit <;> exact ⟨recites.said, recites.sorted, recites.remembered⟩

/-! ## Rules -/

theorem voices_done (recites : turn.Recites recital before) :
    Voices site cast recital before (.done turn) := by
  refine ⟨trivial, ?_⟩
  rintro _ ⟨rfl⟩
  exact recites

/-- Two processes in a row say what both say. -/
theorem Voices.andThen
    {process : Process Turn}
    {next : Turn → Process Turn}
    (voices : Voices site cast said before process)
    (rest : ∀ turn after, turn.Recites said after → Voices site cast recital after (next turn)) :
    Voices site cast recital before (process.andThen next) := by
  refine Process.Safe.andThen voices
    (fun turn after _ recites => rest turn after (recites turn rfl)) ?_
  rintro _ _ _ _ _ ⟨⟩

/-- Whatever became of a call, the process goes on or panics. -/
theorem voices_orPanic
    {outcome : Except Fault α}
    {next : Except Error α → Process Turn}
    (rest : ∀ result, Voices site cast recital before (next result)) :
    Voices site cast recital before ((orPanic outcome).andThen next) := by
  rcases outcome with (error | message) | value
  · exact rest _
  · exact ⟨trivial, by rintro _ ⟨⟩⟩
  · exact rest _

/-- Unless a call failed, the process goes on. -/
theorem voices_orHalt
    {outcome : Except Fault α}
    {next : α → Process Turn}
    (rest : ∀ value, Voices site cast recital before (next value)) :
    Voices site cast recital before ((orHalt outcome).andThen next) := by
  cases outcome with
  | error fault => exact ⟨trivial, by rintro _ ⟨⟩⟩
  | ok value => exact rest value

/-- What the callees say never panics. -/
theorem orPanic_mapError (result : Except Error α) :
    orPanic (result.mapError Fault.error) = .done result := by
  cases result <;> rfl

/-- A call that has no part in what is said adds no line, and no callee minds it. -/
theorem eq_of_silent
    {request : Call}
    {outcome : request.Outcome}
    {after : Transcript σ}
    (silent : request.isSilent = true)
    (obliged : site.Obliges cast.manner request before outcome after) :
    after.state = before.state ∧ after.lines = before.lines := by
  constructor
  · have mannered := obliged.mannered
    cases request with
    | classify | captureRules | generate => cases silent
    | _ => exact mannered
  · rw [obliged.lines_eq]
    cases request with
    | sendText | sendMedia => cases silent
    | _ => exact List.append_nil _

/-- What a call that has no part in it writes does not matter to a recital. -/
theorem Recites.silent
    {request : Call}
    {outcome : request.Outcome}
    {after : Transcript σ}
    (recites : turn.Recites recital before)
    (silent : request.isSilent = true)
    (obliged : site.Obliges cast.manner request before outcome after) :
    turn.Recites recital after := by
  obtain ⟨rfl, sorted, row, held, names, stage_eq, vars_eq⟩ := recites
  obtain ⟨state_eq, lines_eq⟩ := eq_of_silent silent obliged
  have write_eq : (row.write request).stage = row.stage ∧ (row.write request).vars = row.vars := by
    cases request with
    | setStage | saveVariables => cases silent
    | advance | setWaiting | complete =>
        simp only [ExecutionRow.write]
        split <;> exact ⟨rfl, rfl⟩
    | _ => exact ⟨rfl, rfl⟩
  refine ⟨?_, sorted, _, obliged.holds held, ?_, ?_, ?_⟩
  · simp only [Turn.recital, state_eq, lines_eq]
  · rw [ExecutionRow.id_write, names]
  · rw [write_eq.1, stage_eq]
  · rw [write_eq.2, vars_eq]

/-- A call that has no part in it is made, and the process goes on. -/
theorem voices_silent
    {request : Call}
    {next : request.Outcome → Process Turn}
    (recites : turn.Recites said before)
    (silent : request.isSilent = true)
    (rest : ∀ outcome after, turn.Recites said after →
      Voices site cast recital after (next outcome)) :
    Voices site cast recital before (.step request next) :=
  ⟨trivial, fun outcome after obliged => rest outcome after (recites.silent silent obliged)⟩

/-! ## Output -/

/-- To send something is to utter it. -/
theorem Recites.utter
    {request : Call}
    {outcome : request.Outcome}
    {after : Transcript σ}
    {media : Option Media.Kind}
    {body : String}
    (recites : turn.Recites recital before)
    (sends : request.line? =
      some ⟨turn.conversation.device, turn.conversation.phone, media, body⟩)
    (obliged : site.Obliges cast.manner request before outcome after) :
    turn.Recites (recital.utter media body) after := by
  obtain ⟨rfl, sorted, row, held, names, stage_eq, vars_eq⟩ := recites
  have state_eq : after.state = before.state := by
    have mannered := obliged.mannered
    cases request with
    | sendText | sendMedia => exact mannered
    | _ => cases sends
  have write_eq : row.write request = row := by
    cases request with
    | sendText | sendMedia => rfl
    | _ => cases sends
  have held := obliged.holds held
  rw [write_eq] at held
  refine ⟨?_, sorted, row, held, names, stage_eq, vars_eq⟩
  simp only [Turn.recital, Recital.utter, state_eq, obliged.lines_eq, sends, Option.toList_some]

theorem voices_logExchange
    (recites : turn.Recites recital before)
    (user bot : String)
    (next : Unit → Process Turn)
    (rest : ∀ after, turn.Recites recital after → Voices site cast recital after (next ())) :
    Voices site cast recital before ((turn.logExchange user bot).andThen next) := by
  refine voices_silent recites rfl fun time after recites => ?_
  refine voices_silent recites rfl fun outcome after recites => ?_
  simp only [andThen_done, bind_eq_andThen, pure_eq_done, andThen_assoc]
  exact voices_orPanic fun _ => rest after recites

theorem voices_settle
    (recites : turn.Recites recital before)
    (sender : Flow.Node)
    (kind body : String)
    (outcome : Except Error Unit) :
    Voices site cast recital before (turn.settle sender kind body outcome) := by
  cases outcome with
  | error _ =>
      exact voices_silent recites rfl fun _ after recites => voices_done recites
  | ok _ =>
      refine voices_silent recites rfl fun _ after recites => ?_
      have counted : ({ turn with dispatched := turn.dispatched + 1 } : Turn).Recites recital
          after := ⟨recites.said, recites.sorted, recites.remembered⟩
      refine voices_logExchange counted _ _ _ fun after recites => voices_done ?_
      exact ⟨recites.said, recites.sorted, recites.remembered⟩

theorem voices_sendText
    (recites : turn.Recites recital before)
    (sender : Flow.Node)
    (text : String) :
    Voices site cast (recital.say text) before (turn.sendText sender text) := by
  refine ⟨trivial, fun outcome after obliged => ?_⟩
  have recites := recites.utter rfl obliged
  exact voices_orPanic fun result => voices_settle recites sender _ _ result

/-- After a call that only asks something, nothing but the state of the callees has changed. -/
theorem Recites.asked
    {request : Call}
    {outcome : request.Outcome}
    {after : Transcript σ}
    (recites : turn.Recites recital before)
    (speechless : request.line? = none)
    (idle : ∀ row : ExecutionRow, row.write request = row)
    (obliged : site.Obliges cast.manner request before outcome after) :
    turn.Recites { recital with state := after.state } after := by
  obtain ⟨rfl, sorted, row, held, remembers⟩ := recites
  have held := obliged.holds held
  rw [idle] at held
  refine ⟨?_, sorted, row, held, remembers⟩
  simp only [Turn.recital, obliged.lines_eq, speechless, Option.toList_none, List.append_nil]

theorem voices_sendMedia
    (recites : turn.Recites recital before)
    (sender : Flow.Node)
    (url : String)
    (hint : Option Media.Kind) :
    Voices site cast (recital.present engine cast url hint) before
      (sendMedia engine turn sender url hint) := by
  have uttered (said : Recital σ) (there : Transcript σ) (recites : turn.Recites said there)
      (kind : Media.Kind) :
      Voices site cast (said.utter kind url) there
        (.step (.sendMedia turn.conversation.device turn.conversation.phone url kind)
          fun outcome : Except Fault Unit => (orPanic outcome).andThen
            fun result => turn.settle sender kind.name url result) := by
    refine ⟨trivial, fun outcome after obliged => ?_⟩
    have recites := recites.utter rfl obliged
    exact voices_orPanic fun result => voices_settle recites sender _ _ result
  unfold sendMedia mediaKind? Recital.present
  cases engine.hasValidator with
  | false => exact uttered recital before recites _
  | true =>
      refine ⟨trivial, fun outcome after obliged => ?_⟩
      have asked := recites.asked rfl (fun _ => rfl) obliged
      obtain ⟨rfl, state_eq⟩ := obliged.mannered
      rw [state_eq] at asked
      rw [recites.state_eq] at asked ⊢
      generalize cast.verdict url recital.state = verdict at asked ⊢
      obtain ⟨found, state⟩ := verdict
      simp only [if_true, andThen_done, bind_eq_andThen, pure_eq_done, orPanic_mapError]
      cases found with
      | ok kind => exact uttered _ after asked kind
      | error _ => exact voices_sendText asked sender _

theorem voices_sendItem
    (recites : turn.Recites recital before)
    (sender : Flow.Node)
    (item : ReplyItem) :
    Voices site cast (recital.sayItem engine cast item) before
      (sendItem engine turn sender item) := by
  unfold sendItem Recital.sayItem
  cases item.media with
  | none => exact voices_sendText recites sender _
  | some hint => exact voices_sendMedia recites sender _ hint

theorem voices_sendFurther
    (recites : turn.Recites recital before)
    (sender : Flow.Node)
    (items : List ReplyItem) :
    Voices site cast (items.foldl (Recital.sayItem engine cast) recital) before
      (sendFurther engine sender items turn) := by
  induction items generalizing turn recital before with
  | nil => exact voices_done recites
  | cons item rest inductionHypothesis =>
      have goesOn (there : Transcript σ) (recites : turn.Recites recital there) :
          Voices site cast ((item :: rest).foldl (Recital.sayItem engine cast) recital) there
            ((sendItem engine turn sender item).andThen (sendFurther engine sender rest)) :=
        (voices_sendItem recites sender item).andThen fun _ _ recites =>
          inductionHypothesis recites
      unfold sendFurther
      dsimp only
      split
      · exact goesOn before recites
      · exact voices_silent recites rfl fun _ after recites => goesOn after recites

theorem voices_sendItems
    (recites : turn.Recites recital before)
    (sender : Flow.Node)
    (items : List ReplyItem) :
    Voices site cast (items.foldl (Recital.sayItem engine cast) recital) before
      (sendItems engine sender items turn) := by
  cases items with
  | nil => exact voices_done recites
  | cons item rest =>
      exact (voices_sendItem recites sender item).andThen fun _ _ recites =>
        voices_sendFurther recites sender rest

/-! ## Nodes -/

theorem voices_talk (recites : turn.Recites recital before) (sender : Flow.Node) :
    Voices site cast (recital.sayTemplate (sender.text? textKeys)) before (turn.talk sender) := by
  unfold talk
  cases sender.text? textKeys with
  | none => exact voices_done recites
  | some template =>
      dsimp only
      rw [recites.render_eq]
      exact voices_sendText recites sender _

theorem voices_sendCaption (recites : turn.Recites recital before) (sender : Flow.Node) :
    Voices site cast (recital.sayTemplate (sender.text? captionKeys)) before
      (turn.sendCaption sender) := by
  unfold sendCaption
  cases sender.text? captionKeys with
  | none => exact voices_done recites
  | some template =>
      dsimp only
      rw [recites.render_eq]
      exact voices_sendText recites sender _

theorem voices_showMedia (recites : turn.Recites recital before) (sender : Flow.Node) :
    Voices site cast (recital.showMedia engine cast sender) before
      (showMedia engine turn sender) := by
  unfold showMedia Recital.showMedia
  cases sender.text? urlKeys with
  | none => exact voices_done recites
  | some template =>
      dsimp only
      rw [recites.render_eq]
      exact (voices_sendMedia recites sender _ _).andThen fun _ _ recites =>
        voices_sendCaption recites sender

theorem voices_setStage
    (recites : turn.Recites recital before)
    (stage : String) :
    Voices site cast { recital with stage := some stage } before (turn.setStage stage) := by
  refine ⟨trivial, fun outcome after obliged => voices_orHalt fun _ => voices_done ?_⟩
  obtain ⟨rfl, sorted, row, held, names, stage_eq, vars_eq⟩ := recites
  have held := obliged.holds held
  have write_eq : row.write (.setStage turn.execution.id (some stage)) =
      { row with stage := some stage } := if_pos names
  rw [write_eq] at held
  refine ⟨?_, sorted, _, held, names, rfl, vars_eq⟩
  have state_eq : after.state = before.state := obliged.mannered
  simp only [Turn.recital, state_eq, obliged.lines_eq, Call.line?, Option.toList_none,
    List.append_nil]
  rfl

/-- Where no rule gives a value, nothing is captured. -/
theorem overlay_eq_self
    {input : String}
    {rules : List Capture}
    (idle : (rules.any fun rule => (rule.valueFor? input).isSome) = false)
    (vars : Keyed String) :
    Capture.overlay input rules vars = vars := by
  unfold Capture.overlay
  induction rules with
  | nil => rfl
  | cons rule rules inductionHypothesis =>
      rw [List.any_cons, Bool.or_eq_false_iff, Option.isSome_eq_false_iff,
        Option.isNone_iff_eq_none] at idle
      rw [List.foldl_cons, idle.1]
      exact inductionHypothesis idle.2

theorem voices_saveVariables
    {vars : Keyed String}
    (recites : turn.Recites recital before)
    (sorted : vars.Sorted) :
    Voices site cast { recital with vars } before
      (.step (.saveVariables turn.execution.id vars) fun outcome : Except Fault Unit =>
        (orHalt outcome).andThen fun _ =>
          .done { turn with execution := { turn.execution with vars } }) := by
  refine ⟨trivial, fun outcome after obliged => voices_orHalt fun _ => voices_done ?_⟩
  obtain ⟨rfl, _, row, held, names, stage_eq, vars_eq⟩ := recites
  have held := obliged.holds held
  have write_eq : row.write (.saveVariables turn.execution.id vars) =
      { row with vars := Store.encodeVariables vars } := if_pos names
  rw [write_eq] at held
  refine ⟨?_, sorted, _, held, names, stage_eq, Store.decodeVariables_encodeVariables sorted⟩
  have state_eq : after.state = before.state := obliged.mannered
  simp only [Turn.recital, state_eq, obliged.lines_eq, Call.line?, Option.toList_none,
    List.append_nil]
  rfl

theorem voices_captureFields
    (recites : turn.Recites recital before)
    (stage : String) :
    Voices site cast (recital.capture engine cast stage) before
      (captureFields engine turn stage) := by
  unfold captureFields Recital.capture
  cases engine.hasCaptures with
  | false => exact voices_done recites
  | true =>
      refine ⟨trivial, fun outcome after obliged => ?_⟩
      have asked := recites.asked rfl (fun _ => rfl) obliged
      obtain ⟨rfl, state_eq⟩ := obliged.mannered
      rw [state_eq] at asked
      rw [recites.conversation_eq, recites.state_eq] at asked ⊢
      generalize cast.rules recital.conversation.device stage recital.state = found at asked ⊢
      obtain ⟨found, state⟩ := found
      simp only [if_true, andThen_done, bind_eq_andThen, pure_eq_done, orPanic_mapError]
      cases found with
      | error _ => exact voices_done asked
      | ok rules =>
          dsimp only
          rw [recites.text_eq, recites.vars_eq]
          split
          · exact voices_saveVariables asked (Capture.sorted_overlay recites.sorted)
          · rename_i idle
            rw [overlay_eq_self (Bool.eq_false_iff.mpr idle)]
            exact voices_done asked

theorem voices_enterStage (recites : turn.Recites recital before) (sender : Flow.Node) :
    Voices site cast (recital.enterStage engine cast sender) before
      (enterStage engine turn sender) := by
  unfold enterStage Recital.enterStage
  cases stageTemplate? sender with
  | none => exact voices_done recites
  | some template =>
      dsimp only
      rw [recites.render_eq]
      generalize recital.render (Text.trim template) = stage
      refine (voices_setStage recites stage).andThen fun turn after recites => ?_
      split
      · exact voices_done recites
      · exact voices_captureFields recites stage

theorem voices_obey
    (recites : turn.Recites recital before)
    (sender : Flow.Node)
    (raw : String) :
    Voices site cast (recital.obey engine cast raw) before (obey engine turn sender raw) := by
  unfold obey Recital.obey
  cases Reply.ofText raw with
  | error _ =>
      dsimp only
      split
      · exact voices_done recites
      · exact voices_sendText recites sender _
  | ok reply =>
      dsimp only
      cases reply.stage with
      | none => exact voices_sendItems recites sender reply.items
      | some stage =>
          exact (voices_setStage recites stage).andThen fun _ _ recites =>
            voices_sendItems recites sender reply.items

/-- To ask the text generator is to do what it answers. -/
theorem voices_generate
    (recites : turn.Recites recital before)
    (generates : engine.hasGenerator = true)
    (sender : Flow.Node)
    (request : AiRequest) :
    Voices site cast (recital.consult engine cast) before
      (.step (.generate request) fun outcome : Except Fault String =>
        (orPanic outcome).andThen fun
          | .ok raw => obey engine turn sender raw
          | .error _ => .done turn) := by
  refine ⟨trivial, fun outcome after obliged => ?_⟩
  have asked := recites.asked rfl (fun _ => rfl) obliged
  obtain ⟨rfl, state_eq⟩ := obliged.mannered
  rw [state_eq] at asked
  rw [recites.state_eq] at asked ⊢
  rw [Recital.consult, if_pos generates]
  generalize cast.reply recital.state = answer at asked ⊢
  obtain ⟨answer, state⟩ := answer
  simp only [orPanic_mapError, andThen_done]
  cases answer with
  | ok raw => exact voices_obey asked sender raw
  | error _ => exact voices_done asked

theorem voices_consult (recites : turn.Recites recital before) (sender : Flow.Node) :
    Voices site cast (recital.consult engine cast) before (consult engine turn sender) := by
  cases generates : engine.hasGenerator with
  | false =>
      rw [consult, Recital.consult]
      simp only [generates]
      exact voices_done recites
  | true =>
      simp only [consult, recent, generates, Bool.not_true, Bool.false_eq_true, if_false,
        bind_eq_andThen, andThen_assoc, ask, andThen_step, andThen_done]
      refine voices_silent recites rfl fun outcome after recites => voices_orPanic fun result => ?_
      cases result with
      | ok entries => exact voices_generate recites generates sender _
      | error _ => exact voices_generate recites generates sender _

/-- What a turn says at a node, and where it goes on. -/
abbrev VoicesPair
    (site : Site) (cast : Cast σ) (recital : Recital σ) (before : Transcript σ)
    (process : Process (Transition × Turn)) : Prop :=
  process.Safe (site.Obliges cast.manner) (fun _ => True)
    (fun result after => ∀ transition turn, result = .ok (transition, turn) →
      turn.Recites recital after) before

/-- A process that makes no calls which have a part in it leaves what was said alone. -/
theorem Recites.safe_of_silent
    {post : Except Fault α → Prop}
    {process : Process α}
    (recites : turn.Recites recital before)
    (within : process.Within (fun request => request.isSilent = true) (fun _ _ => True) post) :
    process.Safe (site.Obliges cast.manner) (fun after => turn.Recites recital after)
      (fun result _ => post result) before := by
  refine within.safe ?_ recites
  intro request before outcome after silent recites obliged
  exact ⟨recites.silent silent obliged, trivial⟩

theorem silent_delay :
    (delay engine graph turn node).Within (fun request => request.isSilent = true)
      (fun _ _ => True) (fun _ => True) :=
  within_delay rfl fun _ _ => rfl

theorem silent_follow (transition : Transition) :
    (turn.follow transition).Within (fun request => request.isSilent = true)
      (fun _ _ => True) (fun _ => True) := by
  cases transition with
  | advance | advanceAndWait | wait =>
      refine ⟨rfl, fun outcome _ => ?_⟩
      cases outcome <;> trivial
  | scheduled item => exact ⟨rfl, fun _ _ => trivial⟩
  | complete =>
      refine ⟨rfl, fun outcome _ => ?_⟩
      cases outcome with
      | ok _ => exact ⟨rfl, fun _ _ => trivial⟩
      | error _ => trivial

theorem voices_step (recites : turn.Recites recital before) :
    VoicesPair site cast (recital.speak engine cast node) before
      (step engine graph node answering turn) := by
  have still {transition : Transition} :
      VoicesPair site cast recital before (.done (transition, turn)) := by
    refine ⟨trivial, ?_⟩
    rintro _ _ ⟨rfl⟩
    exact recites
  have paired {transition : Transition} {process : Process Turn} {said : Recital σ}
      (voices : Voices site cast said before process) :
      VoicesPair site cast said before
        (process.andThen fun after => .done (transition, after)) := by
    refine Process.Safe.andThen voices ?_ ?_
    · intro moved after _ recites
      refine ⟨trivial, ?_⟩
      rintro _ _ ⟨rfl⟩
      exact recites _ rfl
    · rintro _ _ _ _ _ _ ⟨⟩
  unfold step Recital.speak
  cases node.kind with
  | start | manual | unknown => exact still
  | message => exact paired (voices_talk recites node)
  | image | audio | video => exact paired (voices_showMedia recites node)
  | stage => exact paired (voices_enterStage recites node)
  | delay =>
      refine Process.Safe.andThen ((recites.safe_of_silent silent_delay).relax
        (fun _ _ => trivial) fun _ _ recites _ => recites) ?_ ?_
      · intro transition after _ recites
        refine ⟨trivial, ?_⟩
        rintro _ _ ⟨rfl⟩
        exact recites
      · rintro _ _ _ _ _ _ ⟨⟩
  | condition => exact still
  | userReply | waitingReplyTimes => exact still
  | aiPrompt | advancedAiPrompt | prompt => exact paired (voices_consult recites node)
  | «end» => exact still

/-! ## Turns -/

/-- A visit says what its node has to say. -/
theorem voices_visit (recites : turn.Recites recital before) :
    VoicesPair site cast (recital.speak engine cast node) before
      (visit engine graph node answering turn) := by
  refine ⟨trivial, fun _ entered obliged => ?_⟩
  have recites := recites.silent rfl obliged
  have there : ({ turn with visited := turn.visited ++ [node.id] } : Turn).Recites recital
      entered := ⟨recites.said, recites.sorted, recites.remembered⟩
  have steps : (step engine graph node answering
      { turn with visited := turn.visited ++ [node.id] }).Safe (site.Obliges cast.manner)
      (fun _ => True) _ entered := voices_step there
  refine steps.andThen ?_ (by rintro _ _ _ _ _ _ ⟨⟩)
  rintro ⟨transition, stayed⟩ stepped _ recites
  have recites := recites _ _ rfl
  have known : (stayed.follow transition).Within (fun request => request.isSilent = true)
      (fun _ _ => True) _ :=
    ((silent_follow transition).and (within_follow transition)).weaken
      (fun _ both => both.1) (fun _ _ _ => ⟨trivial, trivial⟩) fun _ both => both.2
  have follows : (stayed.follow transition).Safe (site.Obliges cast.manner) (fun _ => True)
      (fun result after => stayed.Recites (recital.speak engine cast node) after ∧
        ∀ moved, result = .ok moved → moved = { stayed.take transition.exit with
          scheduled := transition.item?.or stayed.scheduled }) stepped :=
    (recites.safe_of_silent known).relax (fun _ _ => trivial)
      fun _ _ recites moves => ⟨recites, moves⟩
  refine follows.andThen ?_ (by rintro _ _ _ _ _ _ ⟨⟩)
  rintro moved after _ ⟨recites, moves⟩
  refine ⟨trivial, ?_⟩
  rintro _ _ ⟨rfl⟩
  rw [moves _ rfl]
  exact recites.take _ _

/-- Visits say what their legs have to say. -/
theorem account_recital (start : Recital σ) :
    Account site cast.manner engine graph
      (fun legs turn after => turn.Recites (start.recite engine cast legs) after) where
  visit legs turn before node answering recites _ _ := by
    refine Process.Safe.weaken (voices_visit recites) ?_
    rintro _ _ _ voices transition moved rfl
    rw [Recital.recite, List.foldl_append]
    exact voices _ _ rfl
  idle legs turn request before outcome after recites idle obliged := by
    refine recites.silent ?_ obliged
    cases request with
    | sendText | sendMedia | classify | captureRules | generate | setStage | saveVariables =>
        cases idle
    | _ => rfl
  limited _ _ _ recites := ⟨recites.said, recites.sorted, recites.remembered⟩

/-- What a turn of an execution has said when it begins. -/
def prologue (execution : Execution) (input : TurnInput) (before : Transcript σ) : Recital σ :=
  ({ execution, input } : Turn).recital before

/-- A turn that is not cut short says what its legs have to say, its row remembers it, and the
turn has queued what it waits for. -/
theorem perform_recital
    {execution : Execution}
    {input : TurnInput}
    (sorted : execution.vars.Sorted)
    (remembered : before.scene.store.Remembers execution.id (prologue execution input before)) :
    (perform engine graph execution input).Safe (site.Obliges cast.manner) (fun _ => True)
      (fun
        | .ok report, after => ∃ turn : Turn, report = turn.report ∧
            Waits graph { execution, input } before.scene.queued
              (way engine graph execution input) turn after ∧
            turn.Recites ((prologue execution input before).recite engine cast
              (way engine graph execution input)) after
        | .error fault, _ => Breaks graph engine.settings.maxHops execution.node fault)
      before := by
  have begins : ({ execution, input } : Turn).Recites
      ((prologue execution input before).recite engine cast []) before :=
    ⟨rfl, sorted, remembered⟩
  exact ((account_waits _ _).and (account_recital _)).perform ⟨waits_start, begins⟩

end Turn
end ChatFlow
