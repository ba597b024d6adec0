import ChatFlow.Proofs.Turn.Steady

/-!
# The story of a turn

What a turn tells its observers, what it tries to send and what it reports are three records of one
story.  The story is a list of chapters, one for each node: the node is entered, and then each
attempt to send is followed at once by the tidings of it.  Behind the last chapter stands how the
turn ended, unless it stopped for the user's reply.
-/

namespace ChatFlow

open Process

/-! ## Beats -/

/-- What shows of a turn: an attempt to send something, or an event. -/
inductive Beat where
  /-- Something was tried to be sent, which had an outcome. -/
  | tried (line : Rehearsal.Sent) (outcome : Except Fault Unit)
  /-- An event was published. -/
  | told (event : Event)

/-- The event of a beat. -/
def Beat.event? : Beat → Option Event
  | .told event => some event
  | .tried .. => none

/-- What was accepted in a beat. -/
def Beat.accepted? : Beat → Option Rehearsal.Sent
  | .tried line (.ok _) => some line
  | _ => none

/-- The events of some beats, in order. -/
def Beat.events (beats : List Beat) : List Event :=
  beats.filterMap Beat.event?

theorem Beat.events_append (beats later : List Beat) :
    events (beats ++ later) = events beats ++ events later :=
  List.filterMap_append

/-- What was accepted for delivery in some beats, in order. -/
def Beat.accepted (beats : List Beat) : List Rehearsal.Sent :=
  beats.filterMap Beat.accepted?

/-- The beat of an exchange. -/
def Exchange.beat? : Exchange → Option Beat
  | ⟨.publish event, _⟩ => some (.told event)
  | exchange => exchange.attempt?.map fun (line, outcome) => .tried line outcome

namespace Trace

variable {trace : List Exchange} {exchange : Exchange}

/-- What shows of some calls, in order. -/
def story (trace : List Exchange) : List Beat :=
  trace.filterMap Exchange.beat?

theorem story_concat (trace : List Exchange) (exchange : Exchange) :
    story (trace ++ [exchange]) = story trace ++ exchange.beat?.toList := by
  rw [story, List.filterMap_append, ← story]
  cases beat : exchange.beat? <;> simp [beat]

/-- A call that does not show is not part of the story. -/
theorem story_concat_of_none (unseen : exchange.beat? = none) :
    story (trace ++ [exchange]) = story trace := by
  rw [story_concat, unseen, Option.toList_none, List.append_nil]

end Trace

/-- A mute call does not show. -/
theorem Exchange.beat?_of_isMute
    {exchange : Exchange}
    (isMute : exchange.request.isMute = true) :
    exchange.beat? = none := by
  obtain ⟨request, outcome⟩ := exchange
  cases request with
  | sendText | sendMedia | publish | appendHistory | setStage => cases isMute
  | _ => rfl

/-- An attempt shows. -/
theorem Exchange.beat?_of_attempt
    {exchange : Exchange}
    {line : Rehearsal.Sent}
    {outcome : Except Fault Unit}
    (attempt_eq : exchange.attempt? = some (line, outcome)) :
    exchange.beat? = some (.tried line outcome) := by
  obtain ⟨request, answer⟩ := exchange
  cases request with
  | sendText | sendMedia =>
      obtain ⟨rfl, rfl⟩ := Prod.mk.inj (Option.some.inj attempt_eq)
      rfl
  | _ => cases attempt_eq

/-! ## Chapters -/

/-- An attempt to send something, which went well or not. -/
structure Attempt where
  /-- The kind of media; a text has none. -/
  media : Option Media.Kind
  /-- The text, or the address of the media. -/
  body : String
  /-- What became of it. -/
  outcome : Except Error Unit

/-- What happens at a node: it is entered, and things are sent. -/
structure Chapter where
  /-- The node. -/
  node : Flow.Node
  /-- The attempts, in order. -/
  attempts : List Attempt

/-- The event that tells what became of an attempt. -/
def Attempt.tidings (attempt : Attempt) (conversation : Conversation) (node : Flow.Node) : Event :=
  match attempt.outcome with
  | .ok _ =>
      .dispatched conversation node.id (conversation.line attempt.media attempt.body).kind
  | .error error => .dispatchFailed conversation node.id error.message

/-- An attempt, with its tidings. -/
def Attempt.beats (attempt : Attempt) (conversation : Conversation) (node : Flow.Node) :
    List Beat :=
  [.tried (conversation.line attempt.media attempt.body) (attempt.outcome.mapError .error),
    .told (attempt.tidings conversation node)]

namespace Chapter

variable {conversation : Conversation}

/-- What shows of a chapter. -/
def beats (conversation : Conversation) (chapter : Chapter) : List Beat :=
  .told (.entered conversation chapter.node.id chapter.node.kind.text) ::
    chapter.attempts.flatMap fun attempt => attempt.beats conversation chapter.node

/-- The attempts of a chapter that went well. -/
def successes (chapter : Chapter) : List Attempt :=
  chapter.attempts.filter fun attempt => attempt.outcome.isOk

/-- One more attempt shows behind the others. -/
theorem beats_concat (node : Flow.Node) (attempts : List Attempt) (attempt : Attempt) :
    beats conversation ⟨node, attempts ++ [attempt]⟩ =
      beats conversation ⟨node, attempts⟩ ++ attempt.beats conversation node := by
  simp [beats]

end Chapter

/-- The events that tell how a turn ended. -/
def TurnReport.endings (report : TurnReport) (conversation : Conversation) : List Event :=
  (if report.hopLimit then
      [.hopLimit conversation report.final report.visited.length]
    else []) ++
  (if report.completed then [.completed conversation report.execution] else []) ++
  report.scheduled.toList.map fun item => .delayScheduled conversation item.target item.due

/-- There is no such event when a turn stopped for the user's reply, or goes on. -/
theorem TurnReport.endings_eq_nil_iff
    {report : TurnReport}
    {conversation : Conversation} :
    report.endings conversation = [] ↔
      report.hopLimit = false ∧ report.completed = false ∧ report.scheduled = none := by
  simp [endings]

namespace Turn

variable {engine : Engine} {graph : Flow.Graph} {node : Flow.Node} {turn after : Turn}
  {conversation : Conversation} {before endings : List Event} {chapters : List Chapter}
  {trace : List Exchange} {exchange : Exchange}

/-- What showed so far is the story of some chapters, with some events before it and some at its
end, and the turn knows of it. -/
structure Told
    (conversation : Conversation) (before : List Event) (chapters : List Chapter)
    (endings : List Event) (turn : Turn) (trace : List Exchange) : Prop where
  conversation_eq : turn.conversation = conversation
  story_eq : Trace.story trace = before.map Beat.told ++
    chapters.flatMap (Chapter.beats conversation) ++ endings.map Beat.told
  visited_eq : turn.visited = chapters.map fun chapter => chapter.node.id
  dispatched_eq : turn.dispatched = (chapters.flatMap Chapter.successes).length
  endings_eq : turn.report.endings conversation = endings

/-- A call that does not show is of no matter. -/
theorem Told.aside
    (told : Told conversation before chapters endings turn trace)
    (unseen : exchange.beat? = none) :
    Told conversation before chapters endings turn (trace ++ [exchange]) where
  conversation_eq := told.conversation_eq
  story_eq := (Trace.story_concat_of_none unseen).trans told.story_eq
  visited_eq := told.visited_eq
  dispatched_eq := told.dispatched_eq
  endings_eq := told.endings_eq

/-- Only some of what a turn carries along is part of the story. -/
theorem Told.congr
    (told : Told conversation before chapters endings turn trace)
    (conversation_eq : after.conversation = turn.conversation)
    (visited_eq : after.visited = turn.visited)
    (dispatched_eq : after.dispatched = turn.dispatched)
    (endings_eq : after.report.endings conversation = turn.report.endings conversation) :
    Told conversation before chapters endings after trace where
  conversation_eq := conversation_eq.trans told.conversation_eq
  story_eq := told.story_eq
  visited_eq := visited_eq.trans told.visited_eq
  dispatched_eq := dispatched_eq.trans told.dispatched_eq
  endings_eq := endings_eq.trans told.endings_eq

/-! ## Nodes -/

/-- The chapter of a node is being told, behind those of other nodes. -/
def Telling
    (conversation : Conversation) (before : List Event) (earlier : List Chapter) (node : Flow.Node)
    (turn : Turn) (trace : List Exchange) : Prop :=
  ∃ attempts, Told conversation before (earlier ++ [⟨node, attempts⟩]) [] turn trace

/-- One more attempt, with its tidings. -/
theorem Told.attempt
    {earlier : List Chapter}
    {attempts : List Attempt}
    {sending telling : Exchange}
    {attempt : Attempt}
    (told : Told conversation before (earlier ++ [⟨node, attempts⟩]) [] turn trace)
    (tried : sending.attempt? =
      some (conversation.line attempt.media attempt.body, attempt.outcome.mapError .error))
    (tells : telling.beat? = some (.told (attempt.tidings conversation node)))
    (conversation_eq : after.conversation = turn.conversation)
    (visited_eq : after.visited = turn.visited)
    (dispatched_eq : after.dispatched =
      turn.dispatched + if attempt.outcome.isOk then 1 else 0)
    (endings_eq : after.report.endings conversation = turn.report.endings conversation) :
    Told conversation before (earlier ++ [⟨node, attempts ++ [attempt]⟩]) [] after
      (trace ++ [sending] ++ [telling]) where
  conversation_eq := conversation_eq.trans told.conversation_eq
  story_eq := by
    rw [Trace.story_concat, Trace.story_concat, told.story_eq, tells,
      Exchange.beat?_of_attempt tried]
    simp [Chapter.beats_concat, Attempt.beats]
  visited_eq := by
    rw [visited_eq, told.visited_eq]
    simp
  dispatched_eq := by
    rw [dispatched_eq, told.dispatched_eq]
    cases well : attempt.outcome.isOk <;> simp [Chapter.successes, well, Nat.add_assoc]
  endings_eq := endings_eq.trans told.endings_eq

/-- What is done at a node goes on with its chapter. -/
theorem steady_telling (earlier : List Chapter) :
    Steady node (Telling conversation before earlier node) := by
  constructor
  · rintro turn trace exchange ⟨attempts, told⟩ isMute
    exact ⟨attempts, told.aside (Exchange.beat?_of_isMute isMute)⟩
  · rintro turn trace name value ⟨attempts, told⟩
    exact ⟨attempts, (told.aside rfl).congr rfl rfl rfl rfl⟩
  · rintro turn trace vars ⟨attempts, told⟩
    exact ⟨attempts, told.congr rfl rfl rfl rfl⟩
  · rintro turn trace sending media body value ⟨attempts, told⟩ tried published time written
    obtain rfl := told.conversation_eq
    have spoken : Told turn.conversation before
        (earlier ++ [⟨node, attempts ++ [⟨media, body, .ok value⟩]⟩]) []
        { turn with dispatched := turn.dispatched + 1, recorded := true }
        (trace ++ [sending] ++ [⟨.publish (.dispatched turn.conversation node.id
          (turn.conversation.line media body).kind), published⟩]) :=
      told.attempt tried rfl rfl rfl rfl rfl
    exact ⟨_, (spoken.aside rfl).aside rfl⟩
  · rintro turn trace sending media body error ⟨attempts, told⟩ tried published
    obtain rfl := told.conversation_eq
    have unheard : Told turn.conversation before
        (earlier ++ [⟨node, attempts ++ [⟨media, body, .error error⟩]⟩]) [] turn
        (trace ++ [sending] ++
          [⟨.publish (.dispatchFailed turn.conversation node.id error.message), published⟩]) :=
      told.attempt tried rfl rfl rfl rfl rfl
    exact ⟨_, unheard⟩

/-! ## Turns -/

/-- While its story has no ending, a turn did not end in any of these ways. -/
theorem Told.open
    (told : Told conversation before chapters [] turn trace) :
    turn.hopLimit = false ∧ turn.completed = false ∧ turn.scheduled = none :=
  TurnReport.endings_eq_nil_iff.mp told.endings_eq

/-- An event at the end of a story, of a turn that knows of it. -/
theorem Told.close
    {event : Event}
    (told : Told conversation before chapters [] turn trace)
    (conversation_eq : after.conversation = turn.conversation)
    (visited_eq : after.visited = turn.visited)
    (dispatched_eq : after.dispatched = turn.dispatched)
    (endings_eq : after.report.endings conversation = [event]) :
    Told conversation before chapters [event] after (trace ++ [⟨.publish event, ()⟩]) where
  conversation_eq := conversation_eq.trans told.conversation_eq
  story_eq := by
    rw [Trace.story_concat, told.story_eq]
    simp [Exchange.beat?]
  visited_eq := visited_eq.trans told.visited_eq
  dispatched_eq := dispatched_eq.trans told.dispatched_eq
  endings_eq := endings_eq

/-- A new chapter begins when a node is entered. -/
theorem told_enter
    (told : Told conversation before chapters [] turn trace)
    (node : Flow.Node) :
    Keeps (Telling conversation before chapters node) (turn.enter node) trace := by
  refine safe_recording_step fun entered => keeps_done ⟨[], ?_⟩
  obtain ⟨unlimited, running, unscheduled⟩ := told.open
  constructor
  · exact told.conversation_eq
  · rw [Trace.story_concat, told.story_eq]
    simp [Exchange.beat?, Chapter.beats, ← told.conversation_eq]
  · simp [told.visited_eq]
  · simp [told.dispatched_eq, Chapter.successes]
  · exact TurnReport.endings_eq_nil_iff.mpr ⟨unlimited, running, unscheduled⟩

/-- When a turn follows a transition, its story ends or, if the turn goes on, stays open. -/
def Follows
    (conversation : Conversation) (before : List Event) (transition : Transition) (turn : Turn)
    (trace : List Exchange) : Prop :=
  ∃ chapters endings, Told conversation before chapters endings turn trace ∧
    endings.length ≤ 1 ∧ (transition.goesOn = true → endings = [])

theorem told_follow
    {earlier : List Chapter}
    (telling : Telling conversation before earlier node turn trace)
    (transition : Transition) :
    Keeps (Follows conversation before transition) (turn.follow transition) trace := by
  obtain ⟨attempts, told⟩ := telling
  obtain ⟨unlimited, running, unscheduled⟩ := told.open
  have stays {after : Turn} {exchange : Exchange}
      (unseen : exchange.beat? = none)
      (conversation_eq : after.conversation = turn.conversation)
      (visited_eq : after.visited = turn.visited)
      (dispatched_eq : after.dispatched = turn.dispatched)
      (endings_eq : after.report.endings conversation = turn.report.endings conversation) :
      Follows conversation before transition after (trace ++ [exchange]) :=
    ⟨_, [], (told.aside unseen).congr conversation_eq visited_eq dispatched_eq endings_eq,
      Nat.zero_le _, fun _ => rfl⟩
  cases transition with
  | advance | advanceAndWait | wait =>
      refine safe_recording_step fun outcome => ?_
      cases outcome with
      | error fault => exact keeps_halt fault
      | ok value =>
          refine keeps_done (stays rfl rfl rfl rfl ?_)
          simp [TurnReport.endings, report, moveTo, unlimited, running, unscheduled]
  | scheduled item =>
      refine safe_recording_step fun published => keeps_done ⟨_, _, told.close rfl rfl rfl ?_,
        Nat.le_refl 1, nofun⟩
      simp [TurnReport.endings, report, unlimited, running, told.conversation_eq]
  | complete =>
      refine safe_recording_step fun outcome => ?_
      cases outcome with
      | error fault => exact keeps_halt fault
      | ok value =>
          refine safe_recording_step fun published => keeps_done ⟨_, _,
            (told.aside rfl).close rfl rfl rfl ?_, Nat.le_refl 1, nofun⟩
          simp [TurnReport.endings, report, moveTo, unlimited, unscheduled, told.conversation_eq]

/-- The story of a turn that has ended, or waits. -/
def Ended
    (conversation : Conversation) (before : List Event) (turn : Turn) (trace : List Exchange) :
    Prop :=
  ∃ chapters endings, Told conversation before chapters endings turn trace ∧
    endings.length ≤ 1

theorem told_walk
    (told : Told conversation before chapters [] turn trace)
    (hops : Nat)
    (answering : Bool) :
    Keeps (Ended conversation before) (walk engine graph hops answering turn) trace := by
  -- As long as the turn goes on its story has no ending, and every node adds a chapter to it.
  induction hops generalizing turn chapters trace answering with
  | zero =>
      obtain ⟨_, running, unscheduled⟩ := told.open
      refine safe_recording_step fun published => keeps_done ⟨_, _, told.close rfl rfl rfl ?_,
        Nat.le_refl 1⟩
      simp [TurnReport.endings, report, running, unscheduled, told.conversation_eq]
  | succ hops inductionHypothesis =>
      unfold walk
      cases graph.require turn.execution.node with
      | error error => exact keeps_halt _
      | ok node =>
          refine (told_enter told node).andThen fun entered trace telling => ?_
          refine Safe.andThen (keeps_step (steady_telling chapters) telling answering) ?_
            fun _ _ _ _ => trivial
          rintro ⟨transition, stepped⟩ trace _ telling
          refine (told_follow telling transition).andThen fun followed trace follows => ?_
          obtain ⟨chapters, endings, told, single, goesOn⟩ := follows
          split
          · rename_i goes
            obtain rfl := goesOn goes
            exact inductionHypothesis told false
          · exact keeps_done ⟨chapters, endings, told, single⟩

/-- The text that a turn writes down at its end does not show. -/
theorem told_logInput
    (told : Told conversation before chapters endings turn trace) :
    turn.logInput.Safe recording (fun _ => True)
      (fun _ trace => Told conversation before chapters endings turn trace) trace := by
  unfold logInput
  split
  · refine safe_recording_step fun time => safe_recording_step fun written => ?_
    have still : Told conversation before chapters endings turn (trace ++ [⟨.now, time⟩]) :=
      told.aside rfl
    rcases written with (error | message) | value
    all_goals exact ⟨trivial, still.aside rfl⟩
  · exact ⟨trivial, told⟩

end Turn

/-! ## One story -/

namespace Event

/-- The node that was entered. -/
def entered? : Event → Option String
  | .entered _ node _ => some node
  | _ => none

/-- Whether something was handed over for delivery. -/
def isDispatched : Event → Bool
  | .dispatched .. => true
  | _ => false

/-- Whether an event tells how a turn ended. -/
def isEnding : Event → Bool
  | .completed .. | .delayScheduled .. | .hopLimit .. => true
  | _ => false

end Event

/-- What shows of a turn, behind some events that were published before it, and what is reported of
it, tell one story. -/
structure TurnReport.Story
    (conversation : Conversation) (before : List Event) (report : TurnReport)
    (beats : List Beat) : Prop where
  /-- Each attempt to send stands behind the entry into its node and before the entry into the
  next one, and its tidings stand right behind it. -/
  chapters : ∃ chapters : List Chapter,
    report.visited = chapters.map (fun chapter => chapter.node.id) ∧
    beats = before.map Beat.told ++ chapters.flatMap (Chapter.beats conversation) ++
      (report.endings conversation).map Beat.told
  entered_eq : (Beat.events beats).filterMap Event.entered? = report.visited
  dispatched_eq : (Beat.events beats).countP Event.isDispatched = report.dispatched
  accepted_eq : (Beat.accepted beats).length = report.dispatched
  completed_iff : (∃ execution, .completed conversation execution ∈ Beat.events beats) ↔
    report.completed = true
  scheduled_iff : ∀ target due, .delayScheduled conversation target due ∈ Beat.events beats ↔
    ∃ item, report.scheduled = some item ∧ item.target = target ∧ item.due = due
  hopLimit_iff : (∃ node hops, .hopLimit conversation node hops ∈ Beat.events beats) ↔
    report.hopLimit = true
  /-- No other such events are published. -/
  endings_eq : (Beat.events beats).filter Event.isEnding = report.endings conversation
  single : (report.endings conversation).length ≤ 1
  last : report.endings conversation <:+ Beat.events beats

namespace Attempt

variable {attempt : Attempt} {conversation : Conversation} {node : Flow.Node}

theorem filterMap_event?_beats :
    (attempt.beats conversation node).filterMap Beat.event? =
      [attempt.tidings conversation node] :=
  rfl

/-- What is accepted in an attempt is what is told to be handed over. -/
theorem length_filterMap_accepted?_beats :
    ((attempt.beats conversation node).filterMap Beat.accepted?).length =
      [attempt.tidings conversation node].countP Event.isDispatched := by
  obtain ⟨media, body, error | value⟩ := attempt <;> rfl

theorem isDispatched_tidings :
    (attempt.tidings conversation node).isDispatched = attempt.outcome.isOk := by
  obtain ⟨media, body, error | value⟩ := attempt <;> rfl

theorem entered?_tidings : (attempt.tidings conversation node).entered? = none := by
  obtain ⟨media, body, error | value⟩ := attempt <;> rfl

theorem isEnding_tidings : (attempt.tidings conversation node).isEnding = false := by
  obtain ⟨media, body, error | value⟩ := attempt <;> rfl

end Attempt

namespace Chapter

variable {conversation : Conversation}

/-- The events of a chapter. -/
def events (conversation : Conversation) (chapter : Chapter) : List Event :=
  .entered conversation chapter.node.id chapter.node.kind.text ::
    chapter.attempts.map fun attempt => attempt.tidings conversation chapter.node

theorem filterMap_event?_beats (chapter : Chapter) :
    (chapter.beats conversation).filterMap Beat.event? = chapter.events conversation := by
  simp only [beats, events, Beat.event?, List.filterMap_cons, List.filterMap_flatMap,
    Attempt.filterMap_event?_beats, List.map_eq_flatMap]

/-- What is accepted in a chapter is what is told to be handed over. -/
theorem length_filterMap_accepted?_beats (chapter : Chapter) :
    ((chapter.beats conversation).filterMap Beat.accepted?).length =
      (chapter.events conversation).countP Event.isDispatched := by
  simp only [beats, events, Beat.accepted?, Event.isDispatched, List.filterMap_cons,
    List.filterMap_flatMap, List.length_flatMap, Attempt.length_filterMap_accepted?_beats,
    List.countP_cons, List.map_eq_flatMap, List.countP_flatMap, Function.comp_def]
  simp

theorem filterMap_entered?_events (chapter : Chapter) :
    (chapter.events conversation).filterMap Event.entered? = [chapter.node.id] := by
  change chapter.node.id :: (chapter.attempts.map _).filterMap Event.entered? = [chapter.node.id]
  simp [Attempt.entered?_tidings]

theorem countP_isDispatched_events (chapter : Chapter) :
    (chapter.events conversation).countP Event.isDispatched = chapter.successes.length := by
  rw [events, List.countP_cons_of_neg (by simp [Event.isDispatched]), List.countP_map, successes,
    List.countP_eq_length_filter]
  simp only [Function.comp_def, Attempt.isDispatched_tidings]

theorem filter_isEnding_events (chapter : Chapter) :
    (chapter.events conversation).filter Event.isEnding = [] := by
  rw [events, List.filter_cons_of_neg (by simp [Event.isEnding])]
  simp [Attempt.isEnding_tidings]

end Chapter

namespace TurnReport

variable {report : TurnReport} {conversation : Conversation} {before : List Event}
  {chapters : List Chapter} {beats : List Beat}

/-- The endings of a turn are no entries, tell of nothing that is handed over, and are endings. -/
theorem of_mem_endings
    {event : Event}
    (member : event ∈ report.endings conversation) :
    event.entered? = none ∧ event.isDispatched = false ∧ event.isEnding = true := by
  simp only [endings, List.mem_append, List.mem_map] at member
  rcases member with (limited | completed) | ⟨item, _, rfl⟩
  · split at limited <;> simp_all [Event.entered?, Event.isDispatched, Event.isEnding]
  · split at completed <;> simp_all [Event.entered?, Event.isDispatched, Event.isEnding]
  · exact ⟨rfl, rfl, rfl⟩

theorem events_of_chapters
    (story_eq : beats = before.map Beat.told ++ chapters.flatMap (Chapter.beats conversation) ++
      (report.endings conversation).map Beat.told) :
    Beat.events beats =
      before ++ chapters.flatMap (Chapter.events conversation) ++ report.endings conversation := by
  have told (events : List Event) : (events.map Beat.told).filterMap Beat.event? = events := by
    simp [List.filterMap_map, Function.comp_def, Beat.event?]
  rw [Beat.events, story_eq]
  simp only [List.filterMap_append, told, List.filterMap_flatMap, Chapter.filterMap_event?_beats]

/-- An event that opens a turn is no entry, tells of nothing that is handed over, and is no
ending. -/
theorem of_isOpening
    {event : Event}
    (isOpening : event.isOpening = true) :
    event.entered? = none ∧ event.isDispatched = false ∧ event.isEnding = false := by
  cases event with
  | accepted | resumed => exact ⟨rfl, rfl, rfl⟩
  | _ => cases isOpening

/-- Chapters behind the events that open a turn, and its endings behind them, are one story. -/
theorem story_of_chapters
    (opening : ∀ event ∈ before, event.isOpening = true)
    (visited_eq : report.visited = chapters.map fun chapter => chapter.node.id)
    (dispatched_eq : report.dispatched = (chapters.flatMap Chapter.successes).length)
    (single : (report.endings conversation).length ≤ 1)
    (story_eq : beats = before.map Beat.told ++ chapters.flatMap (Chapter.beats conversation) ++
      (report.endings conversation).map Beat.told) :
    report.Story conversation before beats := by
  have events_eq := events_of_chapters story_eq
  have opened : ∀ event ∈ before, event.entered? = none ∧ event.isDispatched = false ∧
      event.isEnding = false := fun event member => of_isOpening (opening event member)
  have endings_eq : (Beat.events beats).filter Event.isEnding = report.endings conversation := by
    rw [events_eq, List.filter_append, List.filter_append,
      List.filter_eq_nil_iff.mpr fun event member => by simp [opened event member],
      List.filter_eq_self.mpr fun event member => (of_mem_endings member).2.2,
      List.filter_flatMap]
    simp [Chapter.filter_isEnding_events]
  -- What is published of the endings is what is reported of them.
  have published_iff {event : Event} (isEnding : event.isEnding = true) :
      event ∈ Beat.events beats ↔ event ∈ report.endings conversation := by
    rw [← endings_eq, List.mem_filter]
    exact ⟨fun member => ⟨member, isEnding⟩, And.left⟩
  have handed : (Beat.events beats).countP Event.isDispatched =
      (chapters.map fun chapter => chapter.successes.length).sum := by
    rw [events_eq, List.countP_append, List.countP_append, List.countP_flatMap,
      List.countP_eq_zero.mpr fun event member => by simp [opened event member],
      List.countP_eq_zero.mpr fun event member => by simp [(of_mem_endings member).2.1]]
    simp [Function.comp_def, Chapter.countP_isDispatched_events]
  have told (events : List Event) : (events.map Beat.told).filterMap Beat.accepted? = [] := by
    simp [List.filterMap_map, Function.comp_def, Beat.accepted?]
  constructor
  · exact ⟨chapters, visited_eq, story_eq⟩
  · rw [events_eq, visited_eq, List.filterMap_append, List.filterMap_append,
      List.filterMap_eq_nil_iff.mpr fun event member => (opened event member).1,
      List.filterMap_eq_nil_iff.mpr fun event member => (of_mem_endings member).1,
      List.filterMap_flatMap]
    simp [Chapter.filterMap_entered?_events, List.map_eq_flatMap]
  · rw [handed, dispatched_eq, List.length_flatMap]
  · rw [Beat.accepted, story_eq, List.filterMap_append, List.filterMap_append, told, told,
      List.filterMap_flatMap, dispatched_eq]
    simp [List.length_flatMap, Chapter.length_filterMap_accepted?_beats,
      Chapter.countP_isDispatched_events]
  · refine (exists_congr fun execution => published_iff rfl).trans ?_
    simp [endings]
  · intro target due
    rw [published_iff rfl]
    simp [endings]
  · refine (exists_congr fun node => exists_congr fun hops => published_iff rfl).trans ?_
    simp [endings]
  · exact endings_eq
  · exact single
  · exact ⟨_, events_eq.symm⟩

end TurnReport

/-- A turn that is performed to its end, behind the events that open it, is one story. -/
theorem Turn.story_perform
    {engine : Engine}
    {graph : Flow.Graph}
    {execution : Execution}
    {input : TurnInput}
    {before : List Event}
    {trace : List Exchange}
    (opening : ∀ event ∈ before, event.isOpening = true)
    (story_eq : Trace.story trace = before.map Beat.told) :
    (perform engine graph execution input).Safe recording (fun _ => True)
      (fun result trace => ∀ report, result = .ok report →
        report.Story execution.conversation before (Trace.story trace))
      trace := by
  have starts : Told execution.conversation before [] [] { execution, input } trace :=
    ⟨rfl, by simp [story_eq], rfl, rfl, rfl⟩
  refine Safe.andThen (told_walk starts _ _) ?_ fun _ _ _ _ => nofun
  rintro turn trace _ ⟨chapters, endings, told, single⟩
  refine Safe.andThen (told_logInput told) ?_ fun _ _ _ _ => nofun
  rintro value trace _ told
  refine ⟨trivial, ?_⟩
  rintro _ ⟨⟩
  obtain rfl := told.endings_eq
  exact TurnReport.story_of_chapters opening told.visited_eq told.dispatched_eq single told.story_eq

end ChatFlow
