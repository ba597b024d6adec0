import ChatFlow.Proofs.Delay.Postponing
import ChatFlow.Proofs.Engine.Conduct
import ChatFlow.Proofs.Turn.Diary

/-!
# What the history tells

Before its turn a request writes nothing to the history, and sends nothing.  So the history tells
of every turn what the turn writes down.  Requests may be served at once, in any order and call by
call: the history is what they write, and each text that is processed is in it once.
-/

namespace ChatFlow

open Process

/-- Whether a turn was performed to its end. -/
def InboundOutcome.isTurn : InboundOutcome → Bool
  | .processed _ => true
  | _ => false

/-- Whether a turn was performed to its end. -/
def ResumeOutcome.isTurn : ResumeOutcome → Bool
  | .resumed _ => true
  | _ => false

/-- Whether a turn was performed to its end. -/
def Verdict.isTurn : Verdict → Bool
  | .message outcome => outcome.isTurn
  | .continuation outcome => outcome.isTurn

/-- A turn that was performed to its end is reported. -/
theorem Verdict.report?_of_isTurn {verdict : Verdict} (isTurn : verdict.isTurn = true) :
    ∃ report, verdict.report? = some report := by
  cases verdict with
  | message outcome =>
      cases outcome with
      | processed report => exact ⟨report, rfl⟩
      | skipped | noFlow | failed => cases isTurn
  | continuation outcome =>
      cases outcome with
      | resumed report => exact ⟨report, rfl⟩
      | stale | busy | missing => cases isTurn

variable {engine : Engine} {graph : Flow.Graph} {execution : Execution} {input : TurnInput}
  {conversation : Conversation} {trace : List Exchange} {exchange : Exchange}

/-- Nothing was sent or written down, and no stage was set. -/
def Trace.Silent (trace : List Exchange) : Prop :=
  ∀ exchange ∈ trace, exchange.request.isQuiet = true

namespace Trace

theorem silent_nil : Silent [] :=
  fun _ member => (List.not_mem_nil member).elim

theorem Silent.quiet
    (silent : Silent trace)
    (isQuiet : exchange.request.isQuiet = true) :
    Silent (trace ++ [exchange]) := by
  intro other member
  rcases List.mem_append.mp member with old | last
  · exact silent other old
  · rw [List.mem_singleton.mp last]
    exact isQuiet

/-- A turn begins with nothing written down. -/
theorem Silent.logged (silent : Silent trace) :
    Turn.Logged input execution.conversation execution.stage { execution, input } trace := by
  have aside (exchange : Exchange) (member : exchange ∈ trace) :=
    Exchange.aside_of_isQuiet (silent exchange member)
  have bodies_eq : bodies trace = [] :=
    List.filterMap_eq_nil_iff.mpr fun exchange member => (aside exchange member).1
  have writes_eq : writes trace = [] :=
    List.filterMap_eq_nil_iff.mpr fun exchange member => (aside exchange member).2.1
  constructor
  · rfl
  · rfl
  · exact (stageAfter_of_none fun exchange member => (aside exchange member).2.2).symm
  · rw [bodies_eq]
    rfl
  · rw [bodies_eq, writes_eq]
    rfl
  · rintro past exchange future written rfl wrote
    cases (aside exchange (by simp)).2.1.symm.trans wrote

end Trace

/-- What a turn tells is told when quiet calls follow. -/
theorem Turn.Tells.quiet
    {stage : Option String}
    (tells : Turn.Tells input conversation stage trace)
    (isQuiet : exchange.request.isQuiet = true) :
    Turn.Tells input conversation stage (trace ++ [exchange]) := by
  obtain ⟨body, write, _⟩ := Exchange.aside_of_isQuiet isQuiet
  constructor
  · simp only [Trace.bodies_concat, Trace.writes_concat, body, write, Option.toList_none,
      List.append_nil]
    exact tells.lines_eq
  · exact tells.signed.aside write

/-- Some turn that was given this input tells what it is to tell. -/
def Told (input : TurnInput) (trace : List Exchange) : Prop :=
  ∃ conversation stage, Turn.Tells input conversation stage trace

namespace Engine

/-- Whether a text answers the node where its turn begins is not written down. -/
theorem told_reply
    {isReply : Bool}
    (told : Told { input with isReply } trace) :
    Told input trace := by
  obtain ⟨conversation, stage, tells⟩ := told
  refine ⟨conversation, stage, ?_, tells.signed⟩
  rw [tells.lines_eq]
  cases Trace.bodies trace <;> rfl

/-- Before its turn a request writes nothing down, and then the turn tells what it is to tell. -/
theorem conducts_told : engine.Conducts input Trace.Silent fun _ => Told input where
  waits silent isMute := silent.quiet (Exchange.isQuiet_of_isMute isMute)
  leaves := by
    rintro report trace exchange ⟨conversation, stage, tells⟩ isMute
    exact ⟨conversation, stage, tells.quiet (Exchange.isQuiet_of_isMute isMute)⟩
  performs := by
    intro trace opening silent isOpening graph execution isReply
    have announced : Trace.Silent (trace ++ [⟨.publish opening, ()⟩]) := silent.quiet rfl
    refine (Turn.tells_perform announced.logged).weaken ?_
    exact fun result trace _ tells report same => told_reply ⟨_, _, tells report same⟩

/-- Every request that performs a turn tells of it. -/
theorem telling_serve (request : Request) :
    (engine.serve request).Safe recording (fun _ => True)
      (fun result trace => ∀ verdict, result = .ok verdict → verdict.isTurn = true →
        Told request.input trace) [] := by
  refine (reports_serve conducts_told Trace.silent_nil).weaken ?_
  intro result trace _ held verdict same isTurn
  obtain ⟨report, reports⟩ := Verdict.report?_of_isTurn isTurn
  exact held verdict report same reports

end Engine

/-! ## Texts of users -/

/-- A text that is not blank is written down once when it is new, and no text of the user is when
it is not. -/
theorem TurnInput.spoken_pages
    (input : TurnInput)
    (notBlank : Text.isBlank input.text = false)
    (bodies : List String) :
    ((input.pages bodies).map Prod.fst).filter (· ≠ "") =
      if input.isNew then [input.text] else [] := by
  have spoken : input.text ≠ "" := by
    intro empty
    rw [empty] at notBlank
    cases notBlank
  cases bodies with
  | nil => cases isNew : input.isNew <;> simp [pages, isNew, notBlank, spoken]
  | cons body rest => cases isNew : input.isNew <;> simp [pages, lines, isNew, spoken]

/-- The texts of the user in some history entries, but for empty ones. -/
def Trace.spoken (entries : List (Conversation × HistoryEntry)) : List String :=
  (entries.map fun written => written.2.user).filter (· ≠ "")

/-- Text that was given to a turn is told once, unless it is in the history already. -/
theorem Told.spoken_eq
    (told : Told input trace)
    (notBlank : Text.isBlank input.text = false) :
    Trace.spoken (Trace.writes trace) = if input.isNew then [input.text] else [] := by
  obtain ⟨_, _, tells⟩ := told
  rw [← input.spoken_pages notBlank (Trace.bodies trace), ← tells.lines_eq, Trace.lines,
    List.map_map]
  rfl

/-! ## Runs -/

section Runs

variable {ι : Type} {site : Site} {scene before middle after : Scene} {caller : ι}
  {told later : List (ι × Exchange)}

/-- Callers make calls, one after the other, that are answered at a site. -/
inductive Site.Hears (site : Site) (before : Scene) : List (ι × Exchange) → Scene → Prop
  | nothing : Hears site before [] before
  | call {told : List (ι × Exchange)} {middle after : Scene} {caller : ι} {exchange : Exchange} :
      Hears site before told middle →
      site.Answers exchange.request middle exchange.outcome after →
      Hears site before (told ++ [(caller, exchange)]) after

/-- The calls that a caller makes among others. -/
def Trace.own [DecidableEq ι] (caller : ι) (told : List (ι × Exchange)) : List Exchange :=
  (told.filter fun call => call.1 = caller).map Prod.snd

theorem Trace.kept_own
    [DecidableEq ι]
    (kept : (told.map Prod.snd).all Exchange.isKept = true) :
    (Trace.own caller told).all Exchange.isKept = true := by
  rw [List.all_eq_true] at kept ⊢
  intro exchange member
  obtain ⟨call, among, rfl⟩ := List.mem_map.mp member
  exact kept _ (List.mem_map_of_mem (List.mem_of_mem_filter among))

/-- Only what is added to the history changes it. -/
theorem Site.Answers.history_eq_of_ne
    {request : Call}
    {outcome : request.Outcome}
    (answered : site.Answers request before outcome after)
    (different : ∀ conversation entry, request ≠ .appendHistory conversation entry) :
    after.store.history = before.store.history := by
  by_cases isLock : request.isLock = true
  · exact (answered.untouched_of_isLock isLock).history_eq
  rcases answered.effect with rfl | ⟨now, choice, _, rfl⟩
  · rfl
  · cases request with
    | acquire | release => exact (isLock rfl).elim
    | appendHistory conversation entry => exact (different conversation entry rfl).elim
    | createExecution conversation flow node =>
        simp only [Scene.serve, Scene.withStore, Store.create, Store.insertActive]
        split <;> split <;> rfl
    | advance conversation flow node waiting =>
        simp only [Scene.serve, Scene.withStore, Store.advance, Store.insertActive]
        split
        · rfl
        · split <;> rfl
    | setWaiting conversation flow waiting =>
        simp only [Scene.serve, Scene.withStore, Store.setWaiting]
        split <;> rfl
    | _ => rfl

/-- To the history goes what a call adds to it when the history takes what it is given. -/
theorem Site.Answers.history_eq
    (answered : site.Answers exchange.request before exchange.outcome after)
    (kept : exchange.isKept = true) :
    after.store.history = before.store.history ++
      exchange.entry?.toList.map fun written => HistoryRow.ofEntry written.1 written.2 := by
  obtain ⟨request, outcome⟩ := exchange
  cases request with
  | appendHistory conversation entry =>
      cases outcome with
      | error fault => cases kept
      | ok value =>
          rcases answered.inversion with ⟨_, _, _, _, rfl⟩ | ⟨_, _, ⟨⟩, _⟩
          rfl
  | _ =>
      rw [answered.history_eq_of_ne nofun]
      exact (List.append_nil _).symm

/-- The history is what was written, in order. -/
theorem Site.Hears.history_eq
    (hears : site.Hears before told after)
    (kept : (told.map Prod.snd).all Exchange.isKept = true) :
    after.store.history = before.store.history ++
      (Trace.entries (told.map Prod.snd)).map fun written =>
        HistoryRow.ofEntry written.1 written.2 := by
  induction hears with
  | nothing => exact (List.append_nil _).symm
  | call hears answered inductionHypothesis =>
      rw [List.map_append, List.all_append, Bool.and_eq_true] at kept
      rw [answered.history_eq (by simpa using kept.2), inductionHypothesis kept.1, List.map_append,
        List.map_singleton, Trace.entries_concat, List.map_append, List.append_assoc]

/-- What a turn that goes well writes to the history, while the history takes what it is given: of
a message the user's text with the first body that is accepted, and the further bodies after that,
or the text alone if there are none and it is not blank; of a continuation the bodies only.  Every
entry belongs to the conversation, and carries the name that came with the message and the stage
that is in force when it is written.  However the calls of callers alternate, the history is what
they write, and so each text that is not blank and is processed is in it once. -/
theorem history_of_turns [DecidableEq ι] :
    (∀ engine graph execution input report trace,
      Ends recording (Turn.perform engine graph execution input) [] (.ok report) trace →
      trace.all Exchange.isKept = true →
        Trace.lines (Trace.entries trace) = input.pages (Trace.bodies trace) ∧
        Trace.Signed execution.conversation input.displayName execution.stage trace) ∧
    ∀ (site : Site) (engine : ι → Engine) (request : ι → Request) (before after : Scene)
      (told : List (ι × Exchange)),
      site.Hears before told after →
      (told.map Prod.snd).all Exchange.isKept = true →
        after.store.history = before.store.history ++
          ((Trace.entries (told.map Prod.snd)).map fun written =>
            HistoryRow.ofEntry written.1 written.2) ∧
        ∀ caller verdict,
          Ends recording ((engine caller).serve (request caller)) [] (.ok verdict)
            (Trace.own caller told) →
          verdict.isTurn = true → Text.isBlank (request caller).input.text = false →
            Trace.spoken (Trace.entries (Trace.own caller told)) =
              if (request caller).input.isNew then [(request caller).input.text] else [] := by
  constructor
  · intro engine graph execution input report trace ends kept
    have starts : Turn.Logged input execution.conversation execution.stage { execution, input } [] :=
      Trace.silent_nil.logged
    obtain ⟨_, told⟩ := (Turn.tells_perform starts).ends ends
    have tells := told report rfl
    rw [Trace.entries_eq_writes kept]
    exact ⟨tells.lines_eq, tells.signed⟩
  · intro site engine request before after told hears kept
    refine ⟨hears.history_eq kept, ?_⟩
    intro caller verdict ends isTurn notBlank
    obtain ⟨_, told⟩ := ((engine caller).telling_serve (request caller)).ends ends
    rw [Trace.entries_eq_writes (Trace.kept_own kept)]
    exact (told verdict rfl isTurn).spoken_eq notBlank

/-! ## One request after the other -/

/-- Calls that a caller makes are heard after those that were heard before. -/
theorem Site.Hears.reaches
    {process rest : Process α}
    {trace : List Exchange}
    (hears : site.Hears before told middle)
    (reaches : Reaches (recorded site.Answers) (process, middle, []) (rest, after, trace)) :
    site.Hears before (told ++ trace.map (caller, ·)) after := by
  have follows (moment : Process α × Scene × List Exchange)
      (reaches : Reaches (recorded site.Answers) (process, middle, []) moment) :
      site.Hears before (told ++ moment.2.2.map (caller, ·)) moment.2.1 := by
    induction reaches with
    | refl => simpa using hears
    | tail _ step heard =>
        cases step with
        | call answered =>
            rw [answered.2, List.map_append, ← List.append_assoc]
            exact heard.call answered.1
  exact follows _ reaches

@[simp] theorem Trace.own_append [DecidableEq ι] (told later : List (ι × Exchange)) :
    own caller (told ++ later) = own caller told ++ own caller later := by
  simp [own]

@[simp] theorem Trace.own_map [DecidableEq ι] (trace : List Exchange) :
    own caller (trace.map (caller, ·)) = trace := by
  simp [own, List.filter_map, Function.comp_def]

theorem Trace.own_map_of_ne
    [DecidableEq ι]
    {other : ι}
    (different : other ≠ caller)
    (trace : List Exchange) :
    own caller (trace.map (other, ·)) = [] := by
  simp [own, List.filter_map, Function.comp_def, different]

end Runs

/-! ## A greeting that is written down -/

namespace Engine

/-- A request is served at the greeting's site, and all calls are written down. -/
def greet (request : Request) (scene : Scene) : Except Fault Verdict × Scene × List Exchange :=
  (({} : Engine).serve request).run (record (Site.greeting.answer ⟨0⟩ {})) (scene, [])

theorem ends_greet (request : Request) (scene : Scene) :
    Ends (recorded Site.greeting.Answers) (({} : Engine).serve request) (scene, [])
      (greet request scene).1 (greet request scene).2 :=
  ends_record (Site.answers_answer trivial {}) _ _

/-- The user's message is handled. -/
def greeted : Except Fault Verdict × Scene × List Exchange :=
  greet (.message .ofAna) {}

/-- Her continuation is taken up after that. -/
def greetedLater : Except Fault Verdict × Scene × List Exchange :=
  greet (.continuation .ofAna) greeted.2.1

/-- Who takes up the continuation, and who handles the message. -/
def greetings (later : Bool) : Request :=
  if later then .continuation .ofAna else .message .ofAna

/-- The calls of both. -/
def greetingsTold : List (Bool × Exchange) :=
  greeted.2.2.map (false, ·) ++ greetedLater.2.2.map (true, ·)

theorem hears_greetings : Site.greeting.Hears {} greetingsTold greetedLater.2.1 :=
  (Site.Hears.nothing.reaches (ends_greet (.message .ofAna) {})).reaches
    (ends_greet (.continuation .ofAna) greeted.2.1)

/-- An execution that has come to the greeting. -/
def greeter : Execution :=
  (Store.freshRow ⟨⟨0⟩, ""⟩ Continuation.ofAna.conversation "greeting" "greet").toExecution

/-- A turn that sends the greeting. -/
def greeterTurn : Except Fault TurnReport × Scene × List Exchange :=
  (Turn.perform {} .greeting greeter (.ofMessage .ofAna false)).run
    (record (Site.greeting.answer ⟨0⟩ {})) ({}, [])

theorem ends_greeterTurn :
    Ends recording (Turn.perform {} .greeting greeter (.ofMessage .ofAna false)) []
      greeterTurn.1 greeterTurn.2.2 :=
  ends_recording (ends_record (@Site.answers_answer Site.greeting ⟨0⟩ trivial {}) _ ({}, []))

theorem own_greetings :
    Trace.own false greetingsTold = greeted.2.2 ∧ Trace.own true greetingsTold = greetedLater.2.2 := by
  constructor
  · rw [greetingsTold, Trace.own_append, Trace.own_map, Trace.own_map_of_ne (by decide),
      List.append_nil]
  · rw [greetingsTold, Trace.own_append, Trace.own_map, Trace.own_map_of_ne (by decide),
      List.nil_append]

theorem history_of_turns_greetings :
    (greeterTurn.1 = .ok .ofAnaResumed ∧
      Trace.lines (Trace.entries greeterTurn.2.2) = [("go", "Hi Ana")]) ∧
    greeted.1 = .ok (.message (.processed .ofAna)) ∧
    greetedLater.1 = .ok (.continuation (.resumed .ofAnaResumed)) ∧
    greetedLater.2.1.store.history =
      (Trace.entries (greetingsTold.map Prod.snd)).map
        (fun written => HistoryRow.ofEntry written.1 written.2) ∧
    Trace.spoken (Trace.entries (Trace.own false greetingsTold)) = ["go"] ∧
    Trace.spoken (Trace.entries (Trace.own true greetingsTold)) = [] := by
  obtain ⟨turns, runs⟩ := @history_of_turns Bool _
  have turned : greeterTurn.1 = .ok .ofAnaResumed := by decide +kernel
  have handled : greeted.1 = .ok (.message (.processed .ofAna)) := by decide +kernel
  have resumed : greetedLater.1 = .ok (.continuation (.resumed .ofAnaResumed)) := by
    decide +kernel
  have turnEnds := ends_greeterTurn
  have handledEnds := ends_recording (ends_greet (.message .ofAna) {})
  have resumedEnds := ends_recording (ends_greet (.continuation .ofAna) greeted.2.1)
  rw [turned] at turnEnds
  rw [show (greet (.message .ofAna) {}).1 = _ from handled] at handledEnds
  rw [show (greet (.continuation .ofAna) greeted.2.1).1 = _ from resumed] at resumedEnds
  obtain ⟨history_eq, spoken⟩ := runs Site.greeting (fun _ => {}) greetings {} _ greetingsTold
    hears_greetings (by decide +kernel)
  refine ⟨⟨turned, ?_⟩, handled, resumed, history_eq, ?_, ?_⟩
  · exact (turns _ _ _ _ _ _ turnEnds (by decide +kernel)).1.trans (by decide +kernel)
  · refine spoken false (.message (.processed .ofAna)) ?_ rfl (by decide)
    rw [own_greetings.1]
    exact handledEnds
  · refine spoken true (.continuation (.resumed .ofAnaResumed)) ?_ rfl (by decide)
    rw [own_greetings.2]
    exact resumedEnds

end Engine
end ChatFlow
