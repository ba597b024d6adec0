import ChatFlow.Proofs.Turn.Paths
import ChatFlow.Proofs.Turn.Slots

/-!
# Best effort

What a turn tries to send does not depend on what becomes of it.  A turn that ends well has held one
`Speech` at each node that it visited, and has tried each slot there once, in order.  Its texts
are settled by what templates can name, and so by the stages, fields and answers before them.
-/

namespace ChatFlow

open Process

/-! ## Speeches -/

/-- What is tried to be sent at one node. -/
structure Speech where
  /-- What templates can name there. -/
  context : TemplateContext
  node : Flow.Node
  /-- What the text generator answered, if it did. -/
  answer? : Option String
  lines : List Rehearsal.Sent

/-- A speech fills the slots of its node. -/
structure Speech.Fits
    (engine : Engine) (graph : Flow.Graph) (conversation : Conversation) (speech : Speech) :
    Prop where
  found : graph.node? speech.node.id = some speech.node
  /-- Only certain nodes let the text generator answer. -/
  answered : speech.answer?.isSome = true → speech.node.kind.isAi = true
  /-- Each slot is tried once, in order. -/
  filled : List.Forall₂ (Slot.Fits engine conversation)
    (Slot.ofNode speech.context speech.node speech.answer?) speech.lines

/-- In each speech, templates can name what the speeches before it have left. -/
def Speech.Linked : TemplateContext → List Speech → Prop
  | _, [] => True
  | context, speech :: rest => speech.context = context ∧
      ∃ rules, Linked (context.after speech.node speech.answer? rules) rest

namespace Performance

variable {σ τ : Type} {engine : Engine} {graph : Flow.Graph} {conversation : Conversation}
  {speeches further : List Speech} {before middle after : Performance σ τ}

/-- In the meantime some speeches were held in a conversation. -/
structure Holds
    (engine : Engine) (graph : Flow.Graph) (conversation : Conversation) (speeches : List Speech)
    (before after : Performance σ τ) : Prop where
  tried_eq : after.tried = before.tried ++ speeches.flatMap Speech.lines
  heard_eq : after.heard = before.heard ++ speeches.filterMap Speech.answer?
  fit : ∀ speech ∈ speeches, speech.Fits engine graph conversation

theorem Holds.trans
    (holds : before.Holds engine graph conversation speeches middle)
    (holdsOn : middle.Holds engine graph conversation further after) :
    before.Holds engine graph conversation (speeches ++ further) after where
  tried_eq := by
    rw [holdsOn.tried_eq, holds.tried_eq, List.flatMap_append, List.append_assoc]
  heard_eq := by
    rw [holdsOn.heard_eq, holds.heard_eq, List.filterMap_append, List.append_assoc]
  fit := List.forall_mem_append.mpr ⟨holds.fit, holdsOn.fit⟩

/-- What fills no slot is no speech. -/
theorem Goes.holds (goes : before.Goes engine conversation [] [] after) :
    before.Holds engine graph conversation [] after where
  tried_eq := by
    obtain ⟨⟨lines, tried_eq, fits⟩, _⟩ := goes
    cases fits
    exact tried_eq
  heard_eq := goes.heard_eq
  fit := List.forall_mem_nil _

end Performance

namespace Turn

variable {σ τ : Type} {surroundings : Surroundings σ} {audience : Audience τ} {engine : Engine}
  {graph : Flow.Graph} {node : Flow.Node} {turn : Turn} {conversation : Conversation}
  {before : Performance σ τ} {answering : Bool}

/-- A visit holds the speech of its node. -/
theorem holds_visit
    (found : graph.node? node.id = some node)
    (conversation_eq : turn.conversation = conversation) :
    (visit engine graph node answering turn).Safe (surroundings.Answers audience) (fun _ => True)
      (fun result after => ∀ transition moved, result = .ok (transition, moved) →
        Visits graph turn node answering transition moved ∧
        ∃ (speech : Speech) (rules : List Capture),
          speech.node = node ∧ speech.context = turn.context ∧
          moved.context = turn.context.after node speech.answer? rules ∧
          before.Holds engine graph conversation [speech] after) before := by
  have known : (visit engine graph node answering turn).Safe (surroundings.Answers audience)
      (fun _ => True) _ before :=
    within_visit.safe (fun _ _ _ _ _ _ _ => ⟨trivial, trivial⟩) trivial
  refine (Process.Safe.and known fills_visit).relax (fun _ _ => trivial) ?_
  rintro _ after _ ⟨visits, told⟩ transition moved rfl
  refine ⟨visits _ _ rfl, ?_⟩
  obtain ⟨_, _, ⟨answer?, rules, answered, context_eq, rfl, rfl⟩, ⟨lines, tried_eq, filled⟩,
    heard_eq⟩ := told _ rfl
  refine ⟨{ context := turn.context, node, answer?, lines }, rules, rfl, rfl, context_eq,
    ?_, ?_, ?_⟩
  · rw [tried_eq, List.flatMap_singleton]
  · rw [heard_eq]
    cases answer? <;> rfl
  · rw [List.forall_mem_singleton]
    rw [conversation_eq] at filled
    exact ⟨found, answered, filled⟩

/-- A walk holds one speech at each node that it visits. -/
theorem holds_walk
    (hops : Nat)
    (conversation_eq : turn.conversation = conversation) :
    (walk engine graph hops answering turn).Safe (surroundings.Answers audience) (fun _ => True)
      (fun result after => ∀ moved, result = .ok moved → ∃ speeches : List Speech,
        moved.visited = turn.visited ++ speeches.map (fun speech => speech.node.id) ∧
        Speech.Linked turn.context speeches ∧
        before.Holds engine graph conversation speeches after) before := by
  induction hops generalizing turn before answering with
  | zero =>
      refine ⟨trivial, fun _ after answered => ⟨trivial, ?_⟩⟩
      rintro _ ⟨⟩
      have goes : before.Goes engine conversation [] [] after :=
        Performance.goes_of_hushed rfl answered
      exact ⟨[], (List.append_nil _).symm, trivial, goes.holds⟩
  | succ hops inductionHypothesis =>
      cases found : graph.node? turn.execution.node with
      | none =>
          have missing : graph.require turn.execution.node =
              .error (.nodeNotFound graph.id turn.execution.node) := by
            simp [Flow.Graph.require, found]
          unfold walk
          rw [missing]
          refine ⟨trivial, ?_⟩
          rintro _ ⟨⟩
      | some node =>
          rw [walk_succ found]
          have named : graph.node? node.id = some node := by
            rw [Flow.Graph.id_of_node? found]
            exact found
          refine (holds_visit named conversation_eq).andThen ?_ (by rintro _ _ _ _ _ ⟨⟩)
          rintro ⟨transition, moved⟩ middle _ told
          obtain ⟨⟨_, _, stayed, stays, moved_eq⟩, speech, rules, rfl, context_eq, after_eq,
            holds⟩ := told _ _ rfl
          have visited_eq : moved.visited = turn.visited ++ [speech.node.id] := by
            rw [moved_eq]
            exact (take_visited _).trans stays.visited_eq
          dsimp only
          split
          · refine Process.Safe.weaken (inductionHypothesis ?_) ?_
            · rw [moved_eq]
              exact (take_conversation _).trans (stays.isAt.conversation_eq.trans conversation_eq)
            · intro result after _ goesOn last same
              obtain ⟨speeches, visited_eq', linked, holdsOn⟩ := goesOn last same
              rw [after_eq] at linked
              refine ⟨speech :: speeches, ?_, ⟨context_eq, rules, linked⟩, holds.trans holdsOn⟩
              rw [visited_eq', visited_eq, List.append_assoc]
              rfl
          · refine ⟨trivial, ?_⟩
            rintro _ ⟨⟩
            exact ⟨[speech], visited_eq, ⟨context_eq, rules, trivial⟩, holds⟩

/-- A turn of an execution that ends well has held one speech at each node that it visited. -/
theorem holds_perform (execution : Execution) (input : TurnInput) :
    (perform engine graph execution input).Safe (surroundings.Answers audience) (fun _ => True)
      (fun result after => ∀ report, result = .ok report → ∃ speeches : List Speech,
        report.visited = speeches.map (fun speech => speech.node.id) ∧
        Speech.Linked (execution.context input.displayName input.text) speeches ∧
        before.Holds engine graph execution.conversation speeches after) before := by
  refine Process.Safe.andThen (holds_walk _ rfl) ?_ (by rintro _ _ _ _ _ ⟨⟩)
  rintro turn middle _ told
  obtain ⟨speeches, visited_eq, linked, holds⟩ := told turn rfl
  have logs : Fills surroundings audience engine execution.conversation
      (fun _ filled answers => filled = [] ∧ answers = []) middle turn.logInput :=
    fills_of_private private_logInput fun _ _ => ⟨rfl, rfl⟩
  refine Process.Safe.andThen logs ?_ (by rintro _ _ _ _ _ ⟨⟩)
  rintro _ after _ logged
  obtain ⟨_, _, ⟨rfl, rfl⟩, goes⟩ := logged _ rfl
  refine ⟨trivial, ?_⟩
  rintro _ ⟨⟩
  refine ⟨speeches, visited_eq, linked, ?_⟩
  rw [← List.append_nil speeches]
  exact holds.trans goes.holds

/-! ## Ends -/

/-- A walk from a node of the graph ends well when its calls can be borne, unless the wait of a
delay cannot be told. -/
theorem bears_walk
    (hops : Nat)
    (found : graph.node? turn.execution.node = some node) :
    Bears (fun _ => True) (walk engine graph hops answering turn) := by
  induction hops generalizing turn node answering with
  | zero => exact bears_step fun _ _ => trivial
  | succ hops inductionHypothesis =>
      rw [walk_succ found]
      have visits : Bears (fun result => Visits graph turn node answering result.1 result.2)
          (visit engine graph node answering turn) := by
        refine (within_visit.and bears_visit).weaken (fun _ _ => trivial)
          (fun _ _ bearable => ⟨trivial, bearable⟩) ?_
        rintro (fault | ⟨transition, moved⟩) ⟨visits, bears⟩
        · exact bears
        · exact visits _ _ rfl
      refine visits.andThen ?_
      rintro ⟨transition, moved⟩ visits
      dsimp only
      rw [Transition.goesOn_eq]
      cases onward : transition.exit.onward? with
      | none => exact bears_done trivial
      | some target =>
          obtain ⟨node_eq, _, next, foundNext⟩ := visits.of_onward onward
          rw [← node_eq] at foundNext
          exact inductionHypothesis foundNext

/-- So does a turn of an execution at a node of the graph. -/
theorem bears_perform
    {execution : Execution}
    (found : graph.node? execution.node = some node)
    (input : TurnInput) :
    Bears (fun _ => True) (perform engine graph execution input) := by
  refine (bears_walk _ found).andThen fun turn _ => ?_
  have logs : Bears (fun _ => True) turn.logInput :=
    within_logInput_of_bearable.weaken (fun _ _ => trivial) (fun _ _ bearable => bearable) (by
      rintro _ rfl
      trivial)
  exact logs.andThen fun _ _ => trivial

end Turn

/-- How calls are answered there when all outcomes can be borne. -/
def Surroundings.Obliges {σ τ : Type} (surroundings : Surroundings σ) (audience : Audience τ) :
    Answering (Performance σ τ) :=
  fun request before outcome after =>
    surroundings.Answers audience request before outcome after ∧ request.Bearable outcome

/-- Whether all that a process is told in surroundings and before an audience can be borne. -/
def Surroundings.bearsAll
    {σ τ α : Type} (surroundings : Surroundings σ) (audience : Audience τ) (process : Process α)
    (before : Performance σ τ) : Bool :=
  process.allows (surroundings.respond audience)
    (fun request state => request.bears (surroundings.respond audience request state).1) before

namespace Turn

/-- Where all that a turn is told can be borne, it ends well. -/
theorem ends_of_bearsAll
    {σ τ : Type}
    {surroundings : Surroundings σ}
    {audience : Audience τ}
    {engine : Engine}
    {graph : Flow.Graph}
    {execution : Execution}
    {input : TurnInput}
    {before : Performance σ τ}
    (found : (graph.node? execution.node).isSome = true)
    (bears : surroundings.bearsAll audience (perform engine graph execution input) before = true) :
    (∃ report,
      ((perform engine graph execution input).run (surroundings.respond audience) before).1 =
        .ok report) ∨
    ∃ text, ((perform engine graph execution input).run (surroundings.respond audience) before).1 =
      .error (.error (.scheduler text)) := by
  obtain ⟨node, found⟩ := Option.isSome_iff_exists.mp found
  have ends : Ends (surroundings.Obliges audience) _ _ _ _ :=
    ends_of_run_of_allows (fun _ _ bears => ⟨rfl, Call.bearable_of_bears bears⟩) _ _ bears
  have known : Bears (fun _ => True) (perform engine graph execution input) :=
    bears_perform found input
  have safe : (perform engine graph execution input).Safe (surroundings.Obliges audience)
      (fun _ => True) _ before :=
    Within.safe known (fun _ _ _ _ _ _ obliged => ⟨trivial, obliged.2⟩) trivial
  have told := (safe.ends ends).2
  revert told
  cases ((perform engine graph execution input).run (surroundings.respond audience) before).1 with
  | ok report => exact fun _ => .inl ⟨report, rfl⟩
  | error fault =>
      rintro ⟨text, rfl⟩
      exact .inr ⟨text, rfl⟩

/-- What a turn tries to send does not depend on what becomes of it.  Before any two audiences, be
they told what they may, a turn tries to send the same, leaves everything but the audiences in the
same state, and reports the same but for how many messages were handed over.  When it ends well, it
has tried each slot of each node that it visited once, in order, with texts that name what the nodes
before have left; and where all that it is told can be borne, it ends well, unless the wait of a
delay cannot be told. -/
theorem best_effort
    {σ τ υ : Type}
    (engine : Engine)
    (graph : Flow.Graph)
    (execution : Execution)
    (input : TurnInput)
    (surroundings : Surroundings σ)
    (audience : Audience τ)
    (other : Audience υ)
    (state : σ)
    (here : τ)
    (there : υ) :
    let turn := perform engine graph execution input
    let before : Performance σ τ := { state, audience := here }
    let first := turn.run (surroundings.respond audience) before
    let second := turn.run (surroundings.respond other) { state, audience := there }
    Agree (fun report other => ∃ dispatched, other = { report with dispatched }) first.1 second.1 ∧
    first.2.Alike second.2 ∧
    (∀ report, first.1 = .ok report → ∃ speeches : List Speech,
      report.visited = speeches.map (fun speech => speech.node.id) ∧
      Speech.Linked (execution.context input.displayName input.text) speeches ∧
      before.Holds engine graph execution.conversation speeches first.2) ∧
    ((graph.node? execution.node).isSome = true →
      surroundings.bearsAll audience turn before = true →
      (∃ report, first.1 = .ok report) ∨ ∃ text, first.1 = .error (.error (.scheduler text))) := by
  intro turn before first second
  have alike : before.Alike ({ state, audience := there } : Performance σ υ) := ⟨rfl, rfl, rfl⟩
  have echoes : Echoes _ turn turn := echoes_perform execution input
  have ends : Ends (surroundings.Answers audience) turn before first.1 first.2 :=
    ends_of_run _ (fun _ _ => rfl) _ _
  refine ⟨(echoes.agree alike).1, (echoes.agree alike).2, ?_, ends_of_bearsAll⟩
  exact ((holds_perform execution input).ends ends).2

end Turn

/-- Surroundings where everything goes well and the text generator always answers the same. -/
def Surroundings.advice : Surroundings Scene where
  answer request scene := Site.advice.answer ⟨0⟩ { reply := "Sure" } request scene
  now_still _ := rfl
  replies _ _ _ := rfl

/-- An audience where the same becomes of every message. -/
def Audience.constant (result : Except Error Unit) : Audience Unit where
  hear _ _ := (result, ())
  write _ _ _ := (.ok (), ())
  read _ _ _ := (.ok [], ())
  learn _ _ := ()

namespace Turn

/-- The turn of an advice when the same becomes of every message. -/
def advisedTo (result : Except Error Unit) : Except Fault TurnReport × Performance Scene Unit :=
  (perform { hasGenerator := true } .advice ExecutionRow.ofAdvice.toExecution { text := "go" }).run
    (Surroundings.advice.respond (.constant result))
    { state := { store := { executions := [.ofAdvice] } }, audience := () }

/-- Messages that are all handed over and messages that are not are the same two messages. -/
theorem best_effort_advice :
    ∃ report, (advisedTo (.ok ())).1 = .ok report ∧ report.dispatched = 2 ∧
      (advisedTo (.error (.dispatch "chat" "down"))).1 = .ok { report with dispatched := 0 } ∧
      (advisedTo (.error (.dispatch "chat" "down"))).2.tried = (advisedTo (.ok ())).2.tried ∧
      (advisedTo (.ok ())).2.tried.map Rehearsal.Sent.body = ["Hi", "Sure"] := by
  obtain ⟨agree, alike, _, ends⟩ := best_effort { hasGenerator := true } .advice
    ExecutionRow.ofAdvice.toExecution { text := "go" } .advice (.constant (.ok ()))
    (.constant (.error (.dispatch "chat" "down"))) { store := { executions := [.ofAdvice] } } () ()
  have handed : (advisedTo (.ok ())).1.toOption.map TurnReport.dispatched = some 2 := by
    decide +kernel
  have lost : (advisedTo (.error (.dispatch "chat" "down"))).1.toOption.map
      TurnReport.dispatched = some 0 := by
    decide +kernel
  have tried : (advisedTo (.ok ())).2.tried.map Rehearsal.Sent.body = ["Hi", "Sure"] := by
    decide +kernel
  rcases ends (by decide +kernel) (by decide +kernel) with ⟨report, ok⟩ | ⟨text, failed⟩
  · rw [show (advisedTo (.ok ())).1 = .ok report from ok] at handed
    rw [ok] at agree
    obtain ⟨other, failed, dispatched, rfl⟩ := agree.exists_ok
    rw [show (advisedTo (.error (.dispatch "chat" "down"))).1 = _ from failed] at lost
    cases lost
    exact ⟨report, ok, Option.some.inj handed, failed, alike.tried_eq, tried⟩
  · rw [show (advisedTo (.ok ())).1 = _ from failed] at handed
    cases handed

end Turn
end ChatFlow
