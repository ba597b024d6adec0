import ChatFlow.Proofs.Turn.Steady
import Mathlib.Data.List.Basic

/-!
# What a turn writes down

Of every message that the channel accepts a turn writes an entry to the history, and the first of
these entries brings the user's text along.  A turn of which no message is accepted writes the text
down at its end.  So the text is written once, whichever of the messages are refused and wherever
the stage changes in between.
-/

namespace ChatFlow

open Process

namespace Exchange

/-- The body that is accepted for delivery. -/
def body? : Exchange → Option String
  | ⟨.sendText _ _ text, .ok _⟩ => some text
  | ⟨.sendMedia _ _ url _, .ok _⟩ => some url
  | _ => none

/-- The history entry that is tried to be added, and its conversation. -/
def write? : Exchange → Option (Conversation × HistoryEntry)
  | ⟨.appendHistory conversation entry, _⟩ => some (conversation, entry)
  | _ => none

/-- The history entry that is added, and its conversation. -/
def entry? : Exchange → Option (Conversation × HistoryEntry)
  | ⟨.appendHistory conversation entry, .ok _⟩ => some (conversation, entry)
  | _ => none

/-- The stage that is set. -/
def stage? : Exchange → Option (Option String)
  | ⟨.setStage _ stage, .ok _⟩ => some stage
  | _ => none

/-- Whether the history takes what it is given. -/
def isKept (exchange : Exchange) : Bool :=
  exchange.write? == exchange.entry?

end Exchange

/-- Whether a call neither sends anything, nor writes to the history, nor sets a stage. -/
def Call.isQuiet : Call → Bool
  | .sendText .. | .sendMedia .. | .appendHistory .. | .setStage .. => false
  | _ => true

namespace Exchange

variable {exchange : Exchange}

/-- A call of a quiet kind has nothing to do with the history, however it goes. -/
theorem aside_of_isQuiet (isQuiet : exchange.request.isQuiet = true) :
    exchange.body? = none ∧ exchange.write? = none ∧ exchange.stage? = none := by
  obtain ⟨request, outcome⟩ := exchange
  cases request with
  | sendText | sendMedia | appendHistory | setStage => cases isQuiet
  | _ => exact ⟨rfl, rfl, rfl⟩

/-- A mute call has nothing to do with the history either. -/
theorem isQuiet_of_isMute (isMute : exchange.request.isMute = true) :
    exchange.request.isQuiet = true := by
  obtain ⟨request, outcome⟩ := exchange
  cases request with
  | sendText | sendMedia | publish | appendHistory | setStage => cases isMute
  | _ => rfl

/-- An attempt to send something neither writes to the history nor sets a stage, and the body is
accepted if it goes well. -/
theorem aside_of_attempt
    {line : Rehearsal.Sent}
    {outcome : Except Fault Unit}
    (tried : exchange.attempt? = some (line, outcome)) :
    exchange.body? = (if outcome.isOk then some line.body else none) ∧
      exchange.write? = none ∧ exchange.stage? = none := by
  obtain ⟨request, answer⟩ := exchange
  cases request with
  | sendText | sendMedia =>
      obtain ⟨rfl, rfl⟩ := Prod.mk.inj (Option.some.inj tried)
      cases answer <;> exact ⟨rfl, rfl, rfl⟩
  | _ => cases tried

/-- To write to the history neither sends anything nor sets a stage. -/
theorem aside_of_write
    {written : Conversation × HistoryEntry}
    (wrote : exchange.write? = some written) :
    exchange.body? = none ∧ exchange.stage? = none := by
  obtain ⟨request, outcome⟩ := exchange
  cases request with
  | appendHistory => exact ⟨rfl, rfl⟩
  | _ => cases wrote

end Exchange

namespace Trace

variable {trace rest : List Exchange} {exchange : Exchange} {stage : Option String}

/-- The bodies that were accepted for delivery, in order. -/
def bodies (trace : List Exchange) : List String :=
  trace.filterMap Exchange.body?

/-- The history entries that were tried to be added, in order. -/
def writes (trace : List Exchange) : List (Conversation × HistoryEntry) :=
  trace.filterMap Exchange.write?

/-- The history entries that were added, in order. -/
def entries (trace : List Exchange) : List (Conversation × HistoryEntry) :=
  trace.filterMap Exchange.entry?

/-- What was said on either side, by entry. -/
def lines (entries : List (Conversation × HistoryEntry)) : List (String × String) :=
  entries.map fun written => (written.2.user, written.2.bot)

/-- The stage in force after some calls. -/
def stageAfter (stage : Option String) (trace : List Exchange) : Option String :=
  trace.foldl (fun stage exchange => exchange.stage?.getD stage) stage

/-- Every entry of the history belongs to a conversation, and carries a name and the stage that is
in force when it is written. -/
def Signed
    (conversation : Conversation) (displayName stage : Option String) (trace : List Exchange) :
    Prop :=
  ∀ past exchange future written, trace = past ++ exchange :: future →
    exchange.write? = some written →
    written.1 = conversation ∧ written.2.displayName = displayName ∧
      written.2.stage = stageAfter stage past

theorem bodies_concat (trace : List Exchange) (exchange : Exchange) :
    bodies (trace ++ [exchange]) = bodies trace ++ exchange.body?.toList := by
  rw [bodies, List.filterMap_append, ← bodies]
  cases body : exchange.body? <;> simp [body]

theorem writes_concat (trace : List Exchange) (exchange : Exchange) :
    writes (trace ++ [exchange]) = writes trace ++ exchange.write?.toList := by
  rw [writes, List.filterMap_append, ← writes]
  cases write : exchange.write? <;> simp [write]

theorem entries_concat (trace : List Exchange) (exchange : Exchange) :
    entries (trace ++ [exchange]) = entries trace ++ exchange.entry?.toList := by
  rw [entries, List.filterMap_append, ← entries]
  cases entry : exchange.entry? <;> simp [entry]

theorem stageAfter_concat (stage : Option String) (trace : List Exchange) (exchange : Exchange) :
    stageAfter stage (trace ++ [exchange]) = exchange.stage?.getD (stageAfter stage trace) :=
  List.foldl_append

theorem stageAfter_of_none (stays : ∀ exchange ∈ trace, exchange.stage? = none) :
    stageAfter stage trace = stage := by
  induction trace with
  | nil => rfl
  | cons first rest unchanged =>
      rw [stageAfter, List.foldl_cons, stays first List.mem_cons_self]
      exact unchanged fun exchange member => stays exchange (List.mem_cons_of_mem _ member)

/-- What the history takes is what it is given. -/
theorem entries_eq_writes (kept : trace.all Exchange.isKept = true) :
    entries trace = writes trace := by
  refine List.filterMap_congr fun exchange member => ?_
  exact (beq_iff_eq.mp (List.all_eq_true.mp kept exchange member)).symm

/-- One more entry is to be signed when one more call is made. -/
theorem Signed.concat
    {conversation : Conversation}
    {displayName : Option String}
    (signed : Signed conversation displayName stage trace)
    (last : ∀ written, exchange.write? = some written →
      written.1 = conversation ∧ written.2.displayName = displayName ∧
        written.2.stage = stageAfter stage trace) :
    Signed conversation displayName stage (trace ++ [exchange]) := by
  intro past other future written split wrote
  rcases List.eq_nil_or_concat future with rfl | ⟨before, final, rfl⟩
  · obtain ⟨rfl, same⟩ := List.append_inj' split rfl
    cases same
    exact last written wrote
  · rw [List.concat_eq_append, ← List.cons_append, ← List.append_assoc] at split
    obtain ⟨same, _⟩ := List.append_inj' split rfl
    exact signed past other before written same wrote

/-- Nothing is to be signed when nothing is written. -/
theorem Signed.aside
    {conversation : Conversation}
    {displayName : Option String}
    (signed : Signed conversation displayName stage trace)
    (write : exchange.write? = none) :
    Signed conversation displayName stage (trace ++ [exchange]) :=
  signed.concat fun _ wrote => nomatch write.symm.trans wrote

end Trace

/-! ## What is expected -/

namespace TurnInput

variable {input : TurnInput}

/-- What is written down with the messages of a turn. -/
def lines (input : TurnInput) : List String → List (String × String)
  | [] => []
  | body :: rest => (if input.isNew then input.text else "", body) :: rest.map ("", ·)

/-- What a turn writes down: with the messages, or at its end if there are none. -/
def pages (input : TurnInput) : List String → List (String × String)
  | [] => if input.isNew && !Text.isBlank input.text then [(input.text, "")] else []
  | body :: rest => input.lines (body :: rest)

/-- A further message brings the user's text along only if it is the first. -/
theorem lines_concat (bodies : List String) (body : String) :
    input.lines (bodies ++ [body]) =
      input.lines bodies ++
        [(if input.isNew && bodies.isEmpty then input.text else "", body)] := by
  cases bodies with
  | nil => simp [lines]
  | cons first rest => simp [lines]

end TurnInput

namespace Turn

variable {engine : Engine} {graph : Flow.Graph} {node : Flow.Node} {turn after : Turn}
  {input : TurnInput} {conversation : Conversation} {stage : Option String}
  {trace : List Exchange} {exchange : Exchange}

/-- What was written down so far in a turn that was given some input for a conversation in a
stage. -/
structure Logged
    (input : TurnInput) (conversation : Conversation) (stage : Option String) (turn : Turn)
    (trace : List Exchange) : Prop where
  input_eq : turn.input = input
  conversation_eq : turn.conversation = conversation
  stage_eq : turn.execution.stage = Trace.stageAfter stage trace
  /-- The turn knows whether it wrote anything down. -/
  recorded_eq : turn.recorded = !(Trace.bodies trace).isEmpty
  lines_eq : Trace.lines (Trace.writes trace) = input.lines (Trace.bodies trace)
  signed : Trace.Signed conversation input.displayName stage trace

/-- Only some of what a turn carries along matters to what it writes down. -/
theorem Logged.congr
    (logged : Logged input conversation stage turn trace)
    (input_eq : after.input = turn.input)
    (conversation_eq : after.execution.conversation = turn.execution.conversation)
    (stage_eq : after.execution.stage = turn.execution.stage)
    (recorded_eq : after.recorded = turn.recorded) :
    Logged input conversation stage after trace where
  input_eq := input_eq.trans logged.input_eq
  conversation_eq := conversation_eq.trans logged.conversation_eq
  stage_eq := stage_eq.trans logged.stage_eq
  recorded_eq := recorded_eq.trans logged.recorded_eq
  lines_eq := logged.lines_eq
  signed := logged.signed

/-- A call that has nothing to do with the history leaves what was written down. -/
theorem Logged.aside
    (logged : Logged input conversation stage turn trace)
    (body : exchange.body? = none)
    (write : exchange.write? = none)
    (stays : exchange.stage? = none) :
    Logged input conversation stage turn (trace ++ [exchange]) := by
  have bodies_eq : Trace.bodies (trace ++ [exchange]) = Trace.bodies trace := by
    simp [Trace.bodies_concat, body]
  have writes_eq : Trace.writes (trace ++ [exchange]) = Trace.writes trace := by
    simp [Trace.writes_concat, write]
  constructor
  · exact logged.input_eq
  · exact logged.conversation_eq
  · rw [logged.stage_eq, Trace.stageAfter_concat, stays, Option.getD_none]
  · rw [bodies_eq]
    exact logged.recorded_eq
  · rw [bodies_eq, writes_eq]
    exact logged.lines_eq
  · exact logged.signed.aside write

/-- So does a call of a quiet kind, however it goes. -/
theorem Logged.quiet
    (logged : Logged input conversation stage turn trace)
    (isQuiet : exchange.request.isQuiet = true) :
    Logged input conversation stage turn (trace ++ [exchange]) := by
  obtain ⟨body, write, stays⟩ := Exchange.aside_of_isQuiet isQuiet
  exact logged.aside body write stays

/-! ## Messages -/

/-- With a message that is accepted an entry is written down, and the first one brings the user's
text along. -/
theorem Logged.accept
    {sending telling reading writing : Exchange}
    {body : String}
    {time : Instant}
    (logged : Logged input conversation stage turn trace)
    (accepted : sending.body? = some body)
    (sendingWrite : sending.write? = none)
    (sendingStays : sending.stage? = none)
    (told : telling.request.isQuiet = true)
    (read : reading.request.isQuiet = true)
    (wrote : writing.write? = some (turn.conversation, turn.entry body time)) :
    Logged input conversation stage
      { turn with dispatched := turn.dispatched + 1, recorded := true }
      (trace ++ [sending] ++ [telling] ++ [reading] ++ [writing]) := by
  obtain ⟨tellingBody, tellingWrite, tellingStays⟩ := Exchange.aside_of_isQuiet told
  obtain ⟨readingBody, readingWrite, readingStays⟩ := Exchange.aside_of_isQuiet read
  obtain ⟨writingBody, writingStays⟩ := Exchange.aside_of_write wrote
  have stage_eq : turn.execution.stage =
      Trace.stageAfter stage (trace ++ [sending] ++ [telling] ++ [reading]) := by
    simp only [Trace.stageAfter_concat, sendingStays, tellingStays, readingStays, Option.getD_none]
    exact logged.stage_eq
  have bodies_eq : Trace.bodies (trace ++ [sending] ++ [telling] ++ [reading] ++ [writing]) =
      Trace.bodies trace ++ [body] := by
    simp only [Trace.bodies_concat, accepted, tellingBody, readingBody, writingBody,
      Option.toList_some, Option.toList_none, List.append_nil]
  have writes_eq : Trace.writes (trace ++ [sending] ++ [telling] ++ [reading] ++ [writing]) =
      Trace.writes trace ++ [(turn.conversation, turn.entry body time)] := by
    simp only [Trace.writes_concat, sendingWrite, tellingWrite, readingWrite, wrote,
      Option.toList_some, Option.toList_none, List.append_nil]
  constructor
  · exact logged.input_eq
  · exact logged.conversation_eq
  · rw [Trace.stageAfter_concat, writingStays]
    exact stage_eq
  · rw [bodies_eq]
    simp
  · rw [bodies_eq, writes_eq, TurnInput.lines_concat, ← logged.lines_eq]
    simp [Trace.lines, entry, logged.recorded_eq, logged.input_eq]
  · refine (((logged.signed.aside sendingWrite).aside tellingWrite).aside readingWrite).concat ?_
    rintro _ wroteThat
    obtain rfl := Option.some.inj (wrote.symm.trans wroteThat)
    exact ⟨logged.conversation_eq, congrArg TurnInput.displayName logged.input_eq, stage_eq⟩

/-- A stage that is set is in force from then on. -/
theorem Logged.staged
    (logged : Logged input conversation stage turn trace)
    (name : String)
    (value : Unit) :
    Logged input conversation stage
      { turn with execution := { turn.execution with stage := some name } }
      (trace ++ [⟨.setStage turn.execution.id (some name), .ok value⟩]) := by
  constructor
  · exact logged.input_eq
  · exact logged.conversation_eq
  · rw [Trace.stageAfter_concat]
    rfl
  · simp only [Trace.bodies_concat, Exchange.body?, Option.toList_none, List.append_nil]
    exact logged.recorded_eq
  · simp only [Trace.bodies_concat, Trace.writes_concat, Exchange.body?, Exchange.write?,
      Option.toList_none, List.append_nil]
    exact logged.lines_eq
  · exact logged.signed.aside rfl

/-- What is done at a node goes on logging. -/
theorem steady_logged : Steady node (Logged input conversation stage) := by
  constructor
  · intro turn trace exchange logged isMute
    exact logged.quiet (Exchange.isQuiet_of_isMute isMute)
  · intro turn trace name value logged
    exact logged.staged name value
  · intro turn trace vars logged
    exact logged.congr rfl rfl rfl rfl
  · intro turn trace sending media body value logged tried published time written
    obtain ⟨accepted, write, stays⟩ := Exchange.aside_of_attempt tried
    exact logged.accept accepted write stays rfl rfl rfl
  · intro turn trace sending media body error logged tried published
    obtain ⟨refused, write, stays⟩ := Exchange.aside_of_attempt tried
    exact (logged.aside refused write stays).quiet rfl

/-! ## Turns -/

/-- To follow a transition is nothing that is written down. -/
theorem logs_follow
    (logged : Logged input conversation stage turn trace)
    (transition : Transition) :
    Keeps (Logged input conversation stage) (turn.follow transition) trace := by
  cases transition with
  | advance | advanceAndWait | wait =>
      refine safe_recording_step fun outcome => ?_
      cases outcome with
      | error fault => exact keeps_halt fault
      | ok value => exact keeps_done ((logged.quiet rfl).congr rfl rfl rfl rfl)
  | scheduled item =>
      exact safe_recording_step fun _ => keeps_done ((logged.quiet rfl).congr rfl rfl rfl rfl)
  | complete =>
      refine safe_recording_step fun outcome => ?_
      cases outcome with
      | error fault => exact keeps_halt fault
      | ok value =>
          refine safe_recording_step fun _ => keeps_done ?_
          exact ((logged.quiet rfl).quiet rfl).congr rfl rfl rfl rfl

theorem logs_enter
    (logged : Logged input conversation stage turn trace)
    (node : Flow.Node) :
    Keeps (Logged input conversation stage) (turn.enter node) trace :=
  safe_recording_step fun _ => keeps_done ((logged.quiet rfl).congr rfl rfl rfl rfl)

theorem logs_walk
    (logged : Logged input conversation stage turn trace)
    (hops : Nat)
    (answering : Bool) :
    Keeps (Logged input conversation stage) (walk engine graph hops answering turn) trace := by
  induction hops generalizing turn trace answering with
  | zero => exact safe_recording_step fun _ => keeps_done ((logged.quiet rfl).congr rfl rfl rfl rfl)
  | succ hops inductionHypothesis =>
      unfold walk
      cases graph.require turn.execution.node with
      | error error => exact keeps_halt _
      | ok node =>
          refine (logs_enter logged node).andThen fun entered trace logged => ?_
          refine Safe.andThen (keeps_step steady_logged logged answering) ?_ fun _ _ _ _ => trivial
          rintro ⟨transition, stepped⟩ trace _ logged
          refine (logs_follow logged transition).andThen fun followed trace logged => ?_
          split
          · exact inductionHypothesis logged false
          · exact keeps_done logged

/-- All that a turn writes down. -/
structure Tells
    (input : TurnInput) (conversation : Conversation) (stage : Option String)
    (trace : List Exchange) : Prop where
  lines_eq : Trace.lines (Trace.writes trace) = input.pages (Trace.bodies trace)
  signed : Trace.Signed conversation input.displayName stage trace

/-- At its end a turn writes the user's text down if it did not so far. -/
theorem Logged.finish
    (logged : Logged input conversation stage turn trace) :
    turn.logInput.Safe recording (fun _ => True)
      (fun result trace => ∀ value, result = .ok value → Tells input conversation stage trace)
      trace := by
  unfold logInput
  split
  · rename_i unwritten
    rw [logged.recorded_eq, logged.input_eq, Bool.not_not] at unwritten
    simp only [Bool.and_eq_true, List.isEmpty_iff] at unwritten
    obtain ⟨⟨isNew, noBodies⟩, notBlank⟩ := unwritten
    refine safe_recording_step fun time => safe_recording_step fun outcome => ?_
    have tells : Tells input conversation stage (trace ++ [⟨.now, time⟩] ++
        [⟨.appendHistory turn.conversation
          { user := turn.input.text, bot := "", stage := turn.execution.stage,
            displayName := turn.input.displayName, time }, outcome⟩]) := by
      have read : Logged input conversation stage turn (trace ++ [⟨.now, time⟩]) :=
        logged.quiet rfl
      constructor
      · have said := logged.lines_eq
        rw [noBodies] at said
        simp only [Trace.bodies_concat, Trace.writes_concat, Exchange.body?, Exchange.write?,
          Option.toList_none, Option.toList_some, List.append_nil, noBodies]
        simp only [Trace.lines, List.map_append, List.map_cons, List.map_nil] at said ⊢
        rw [said]
        simp [TurnInput.lines, TurnInput.pages, isNew, notBlank, logged.input_eq]
      · refine read.signed.concat ?_
        rintro _ ⟨⟩
        exact ⟨read.conversation_eq, congrArg TurnInput.displayName read.input_eq, read.stage_eq⟩
    rcases outcome with (error | message) | value
    · exact ⟨trivial, fun _ _ => tells⟩
    · exact ⟨trivial, nofun⟩
    · exact ⟨trivial, fun _ _ => tells⟩
  · rename_i written
    refine ⟨trivial, fun _ _ => ⟨?_, logged.signed⟩⟩
    rw [logged.lines_eq]
    rw [logged.recorded_eq, logged.input_eq, Bool.not_not] at written
    cases said : Trace.bodies trace with
    | nil => simpa [TurnInput.lines, TurnInput.pages, said] using written
    | cons body rest => rfl

/-- A turn that is performed to its end tells what it is to tell. -/
theorem tells_perform
    {execution : Execution}
    (starts : Logged input execution.conversation stage { execution, input } trace) :
    (perform engine graph execution input).Safe recording (fun _ => True)
      (fun result trace => ∀ report, result = .ok report →
        Tells input execution.conversation stage trace)
      trace := by
  refine Safe.andThen (logs_walk starts _ _) ?_ fun _ _ _ _ => nofun
  intro turn trace _ logged
  refine Safe.andThen logged.finish ?_ fun _ _ _ _ => nofun
  exact fun value trace _ tells => ⟨trivial, fun _ _ => tells value rfl⟩

end Turn
end ChatFlow
