import ChatFlow.Proofs.Turn.Awaiting
import ChatFlow.Proofs.Turn.Report

/-!
# The path of a turn

The path of a turn depends on its flow, the place of its execution, the user's text and the number
of nodes that it may visit, and on nothing else: not on what becomes of the messages that it sends,
on what the text generator says, on captured fields or on the stage.  Two turns that agree on the
former visit the same nodes, take the same exits, leave their rows at the same place and wait for
continuations that lead to the same node.
-/

namespace ChatFlow

open Process

/-- The marked calls among those that were made. -/
def Transcript.marks {σ : Type} (transcript : Transcript σ) : List Call :=
  transcript.asked.filter Call.isMark

namespace Turn

variable {σ : Type} {site : Site} {manner : Answering σ} {engine : Engine} {graph : Flow.Graph}
  {node : Flow.Node} {turn : Turn} {before : Transcript σ} {answering : Bool}

/-! ## Marks -/

/-- A process that makes no marked calls adds none. -/
theorem safe_of_isMark
    {post : Except Fault α → Prop}
    {process : Process α}
    (within : process.Within (fun request => request.isMark = false) (fun _ _ => True) post) :
    process.Safe (site.Obliges manner) (fun _ => True)
      (fun result after => after.marks = before.marks ∧ post result) before := by
  have marked : process.Safe (site.Obliges manner) (fun after => after.marks = before.marks)
      (fun result _ => post result) before := by
    refine within.safe ?_ rfl
    intro request middle outcome after notMark same obliged
    refine ⟨?_, trivial⟩
    rw [Transcript.marks, obliged.asked_eq, List.filter_append, ← Transcript.marks, same]
    simp [notMark]
  exact marked.relax (fun _ _ => trivial) fun _ _ same holds => ⟨same, holds⟩

/-- To follow a transition adds the call that takes its exit. -/
theorem follow_marks (transition : Transition) :
    (turn.follow transition).Safe (site.Obliges manner) (fun _ => True)
      (fun result after => ∀ moved, result = .ok moved → after.marks = before.marks ++
        (transition.exit.call? turn.conversation turn.execution.flow).toList)
      before := by
  have added {request : Call} {outcome : request.Outcome} {middle after : Transcript σ}
      (obliged : site.Obliges manner request middle outcome after) :
      after.marks = middle.marks ++ [request].filter Call.isMark := by
    rw [Transcript.marks, obliged.asked_eq, List.filter_append, ← Transcript.marks]
  cases transition with
  | advance | advanceAndWait | wait =>
      refine ⟨trivial, fun outcome after obliged => ?_⟩
      cases outcome with
      | ok _ => exact ⟨trivial, fun _ _ => added obliged⟩
      | error _ => exact ⟨trivial, by rintro _ ⟨⟩⟩
  | scheduled item => exact ⟨trivial, fun _ after obliged => ⟨trivial, fun _ _ => added obliged⟩⟩
  | complete =>
      refine ⟨trivial, fun outcome middle obliged => ?_⟩
      cases outcome with
      | ok _ =>
          refine ⟨trivial, fun _ after published => ⟨trivial, fun _ _ => ?_⟩⟩
          rw [added published, added obliged, List.append_assoc]
          rfl
      | error _ => exact ⟨trivial, by rintro _ ⟨⟩⟩

/-- A visit makes the marked calls of its leg. -/
theorem visit_marks :
    (visit engine graph node answering turn).Safe (site.Obliges manner) (fun _ => True)
      (fun result after => ∀ transition moved, result = .ok (transition, moved) →
        after.marks = before.marks ++ Leg.calls turn.conversation turn.execution.flow
          { node, exit := transition.exit })
      before := by
  refine ⟨trivial, fun _ entered obliged => ?_⟩
  have entered_eq : entered.marks = before.marks ++
      [.publish (.entered turn.conversation node.id node.kind.text)] := by
    rw [Transcript.marks, obliged.asked_eq, List.filter_append]
    rfl
  have steps : (step engine graph node answering
      { turn with visited := turn.visited ++ [node.id] }).Safe (site.Obliges manner) (fun _ => True)
      _ entered := safe_of_isMark (within_step answering)
  refine steps.andThen ?_ (by rintro _ _ _ _ _ _ ⟨⟩)
  rintro ⟨transition, stayed⟩ stepped _ ⟨same, settled⟩
  have stays := (settled _ rfl).2
  have follows : (stayed.follow transition).Safe (site.Obliges manner) (fun _ => True) _ stepped :=
    follow_marks transition
  refine follows.andThen ?_ (by rintro _ _ _ _ _ _ ⟨⟩)
  intro moved after _ marked
  refine ⟨trivial, ?_⟩
  rintro _ _ ⟨⟩
  have conversation_eq : stayed.conversation = turn.conversation := stays.isAt.conversation_eq
  have flow_eq : stayed.execution.flow = turn.execution.flow := stays.isAt.flow_eq
  rw [marked _ rfl, same, entered_eq, conversation_eq, flow_eq, List.append_assoc]
  rfl

/-- A turn that has taken some legs has made their marked calls, and visited their nodes. -/
structure Marks
    (start : Turn) (marks : List Call) (legs : List Leg) (turn : Turn) (after : Transcript σ) :
    Prop where
  flow_eq : turn.execution.flow = start.execution.flow
  conversation_eq : turn.conversation = start.conversation
  visited_eq : turn.visited = start.visited ++ legs.map fun leg => leg.node.id
  marks_eq : after.marks = marks ++
    legs.flatMap (Leg.calls start.conversation start.execution.flow)

/-- Visits add the marked calls of their legs. -/
theorem account_marks (start : Turn) (marks : List Call) :
    Account site manner engine graph (Marks start marks) where
  visit legs turn before node answering marked _ _ := by
    refine (visit_marks.and visit_settles).relax (fun _ _ => trivial) ?_
    rintro _ after _ ⟨adds, settled⟩ transition moved rfl
    obtain ⟨⟨_, _, stayed, stays, rfl⟩, _⟩ := settled
    constructor
    · exact (take_flow _).trans (stays.isAt.flow_eq.trans marked.flow_eq)
    · exact (take_conversation _).trans (stays.isAt.conversation_eq.trans marked.conversation_eq)
    · change (stayed.take transition.exit).visited = _
      rw [take_visited, stays.visited_eq, marked.visited_eq]
      simp
    · rw [adds _ _ rfl, marked.marks_eq, marked.conversation_eq, marked.flow_eq]
      simp
  idle legs turn request before outcome after marked idle obliged := by
    have notMark : request.isMark = false := by
      cases request with
      | advance | setWaiting | complete => cases idle
      | publish event =>
          cases event with
          | entered => cases idle
          | _ => rfl
      | _ => rfl
    refine { marked with marks_eq := ?_ }
    rw [← marked.marks_eq, Transcript.marks, obliged.asked_eq, List.filter_append]
    simp [notMark, Transcript.marks]
  limited _ _ _ marked := { marked with }

/-- A turn that is not cut short makes the marked calls of its legs, and visits their nodes. -/
theorem perform_marks
    {execution : Execution}
    {input : TurnInput} :
    (perform engine graph execution input).Safe (site.Obliges manner) (fun _ => True)
      (fun
        | .ok report, after =>
            (report.visited = (way engine graph execution input).map fun leg => leg.node.id) ∧
            after.marks = before.marks ++ (way engine graph execution input).flatMap
              (Leg.calls execution.conversation execution.flow)
        | .error fault, _ => Breaks graph engine.settings.maxHops execution.node fault)
      before := by
  have begins : Marks { execution, input } before.marks [] ({ execution, input } : Turn) before :=
    ⟨rfl, rfl, rfl, (List.append_nil _).symm⟩
  refine ((account_marks _ _).perform begins).weaken ?_
  rintro (fault | report) after _ ends
  · exact ends
  · obtain ⟨turn, rfl, marked⟩ := ends
    exact ⟨marked.visited_eq, marked.marks_eq⟩

/-! ## Paths -/

/-- A stored execution performs a turn against obliging callees, and the wait of a delay that it
meets can be told. -/
structure Performs
    (graph : Flow.Graph) (engine : Engine) (site : Site) (manner : Answering σ)
    (row : ExecutionRow) (input : TurnInput) (before : Transcript σ)
    (result : Except Fault TurnReport) (after : Transcript σ) : Prop where
  kept : before.scene.store.WellKept
  member : row ∈ before.scene.store.executions
  ends : Ends (site.Obliges manner) (perform engine graph row.toExecution input) before result after
  told : ∀ text, result ≠ .error (.error (.scheduler text))

variable {row : ExecutionRow} {input : TurnInput} {after : Transcript σ}
  {result : Except Fault TurnReport}

/-- A turn that stands at no node, and may not stop there, is over. -/
theorem perform_of_lost
    {execution : Execution}
    (lost : Lost graph engine.settings.maxHops execution.node) :
    perform engine graph execution input =
      .halt (.error (.nodeNotFound graph.id execution.node)) := by
  have required : graph.require execution.node =
      .error (.nodeNotFound graph.id execution.node) := by
    simp [Flow.Graph.require, lost.2]
  obtain ⟨hops, hops_eq⟩ := Nat.exists_eq_succ_of_ne_zero lost.1
  rw [perform, hops_eq, walk]
  simp [required, orFail]

/-- What there is to see of a turn that has taken some legs. -/
structure Goes
    (graph : Flow.Graph) (before : Transcript σ) (legs : List Leg) (report : TurnReport)
    (after : Transcript σ) : Prop where
  visited_eq : report.visited = legs.map fun leg => leg.node.id
  target_eq : report.scheduled.map Continuation.target = graph.awaited? legs
  queued_eq : after.scene.queued = before.scene.queued ++ report.scheduled.toList

/-- A turn of a stored execution that stands at a node takes its legs. -/
theorem Performs.goes
    (performs : Performs graph engine site manner row input before result after)
    (stands : ¬ Lost graph engine.settings.maxHops row.node) :
    ∃ report, result = .ok report ∧
      after.marks = before.marks ++ (way engine graph row.toExecution input).flatMap
        (Leg.calls row.conversation row.flow) ∧
      Goes graph before (way engine graph row.toExecution input) report after := by
  have marked := (perform_marks.ends performs.ends).2
  have waited := (perform_waits.ends performs.ends).2
  cases result with
  | error fault =>
      rcases marked with ⟨text, rfl⟩ | lost
      · exact (performs.told text rfl).elim
      · exact (stands lost).elim
  | ok report =>
      obtain ⟨visited_eq, marks_eq⟩ := marked
      obtain ⟨awaits, queued_eq⟩ := waited
      exact ⟨report, rfl, marks_eq, visited_eq, awaits.target_eq, queued_eq⟩

/-- A turn of a stored execution leaves its row where its marked calls lead to. -/
theorem Performs.exists_stored
    {marks : List Call}
    (performs : Performs graph engine site manner row input before result after)
    (made : after.marks = before.marks ++ marks) :
    ∃ stored, after.scene.store.byId? row.id = some stored ∧
      stored.position = row.position.after row.conversation row.flow marks := by
  obtain ⟨asked, asked_eq, kept, updated, stored⟩ :=
    Site.exists_asked_of_obliges performs.kept (Store.Holds.of_mem performs.member) performs.ends
  have asked_eq : after.asked = before.asked ++ asked := asked_eq
  have marks_eq : asked.filter Call.isMark = marks := by
    rw [Transcript.marks, asked_eq, List.filter_append] at made
    exact List.append_cancel_left made
  have found := kept.byId?_eq stored
  rw [ExecutionRow.id_writeAll] at found
  refine ⟨_, found, ?_⟩
  rw [← marks_eq]
  exact ExecutionRow.position_writeAll

/-- Two turns go the same way when their executions stand at the same place, they were given the
same text, and they may visit as many nodes.  They visit the same nodes, make the same marked calls
and leave their rows at the same place; what they queue, if anything, leads to the same node. -/
theorem same_path
    {τ : Type}
    {other : Engine}
    {otherSite : Site}
    {otherManner : Answering τ}
    {otherRow : ExecutionRow}
    {otherInput : TurnInput}
    {otherBefore otherAfter : Transcript τ}
    {otherResult : Except Fault TurnReport}
    (performs : Performs graph engine site manner row input before result after)
    (performsToo : Performs graph other otherSite otherManner otherRow otherInput otherBefore
      otherResult otherAfter)
    (sameConversation : otherRow.conversation = row.conversation)
    (sameFlow : otherRow.flow = row.flow)
    (samePlace : otherRow.position = row.position)
    (sameText : otherInput.text = input.text)
    (sameReply : otherInput.isReply = input.isReply)
    (sameHops : other.settings.maxHops = engine.settings.maxHops) :
    (∃ marks, after.marks = before.marks ++ marks ∧
      otherAfter.marks = otherBefore.marks ++ marks) ∧
    (∃ stored otherStored, after.scene.store.byId? row.id = some stored ∧
      otherAfter.scene.store.byId? otherRow.id = some otherStored ∧
      otherStored.position = stored.position) ∧
    ((∃ report otherReport, result = .ok report ∧ otherResult = .ok otherReport ∧
        otherReport.visited = report.visited ∧
        otherReport.scheduled.map Continuation.target =
          report.scheduled.map Continuation.target ∧
        after.scene.queued = before.scene.queued ++ report.scheduled.toList ∧
        otherAfter.scene.queued = otherBefore.scene.queued ++ otherReport.scheduled.toList) ∨
      ∃ fault, result = .error fault ∧ otherResult = .error fault) := by
  have sameNode : otherRow.node = row.node := congrArg Position.node samePlace
  have rows {marks : List Call} (made : after.marks = before.marks ++ marks)
      (madeToo : otherAfter.marks = otherBefore.marks ++ marks) :
      ∃ stored otherStored, after.scene.store.byId? row.id = some stored ∧
        otherAfter.scene.store.byId? otherRow.id = some otherStored ∧
        otherStored.position = stored.position := by
    obtain ⟨stored, found, position_eq⟩ := performs.exists_stored made
    obtain ⟨otherStored, otherFound, otherPosition_eq⟩ := performsToo.exists_stored madeToo
    refine ⟨stored, otherStored, found, otherFound, ?_⟩
    rw [otherPosition_eq, position_eq, sameConversation, sameFlow, samePlace]
  by_cases lost : Lost graph engine.settings.maxHops row.node
  · have lostToo : Lost graph other.settings.maxHops otherRow.node := by rwa [sameHops, sameNode]
    have ends := performs.ends
    have endsToo := performsToo.ends
    rw [perform_of_lost lost] at ends
    rw [perform_of_lost lostToo] at endsToo
    obtain ⟨rfl, rfl⟩ := ends.of_halt
    obtain ⟨rfl, rfl⟩ := endsToo.of_halt
    have idle := (List.append_nil after.marks).symm
    have idleToo := (List.append_nil otherAfter.marks).symm
    refine ⟨⟨[], idle, idleToo⟩, rows idle idleToo, .inr ⟨_, rfl, ?_⟩⟩
    change Except.error (Fault.error (.nodeNotFound graph.id otherRow.node)) = _
    rw [sameNode]
    rfl
  · have sameWay : way other graph otherRow.toExecution otherInput =
        way engine graph row.toExecution input := by
      change graph.route otherInput.text _ otherInput.isReply otherRow.node = _
      rw [sameText, sameReply, sameNode, sameHops]
      rfl
    obtain ⟨report, rfl, marks_eq, goes⟩ := performs.goes lost
    obtain ⟨otherReport, rfl, otherMarks_eq, otherGoes⟩ :=
      performsToo.goes (by rwa [sameHops, sameNode])
    rw [sameWay] at otherGoes otherMarks_eq
    rw [sameConversation, sameFlow] at otherMarks_eq
    refine ⟨⟨_, marks_eq, otherMarks_eq⟩, rows marks_eq otherMarks_eq, .inl ⟨report, otherReport,
      rfl, rfl, ?_, ?_, goes.queued_eq, otherGoes.queued_eq⟩⟩
    · rw [otherGoes.visited_eq, goes.visited_eq]
    · rw [otherGoes.target_eq, goes.target_eq]

end Turn

/-! ## Advice -/

/-- A flow that greets, asks the text generator, and says good-bye after a while. -/
def Flow.Graph.advice : Flow.Graph where
  definition := (((((Definition.blank "advice").addNode ⟨"start", .start, []⟩).addMessage
    "greet" "Hi").addNode ⟨"advise", .aiPrompt, []⟩).addDelay "pause" 5).addMessage "leave" "Bye"
      |>.chain ["start", "greet", "advise", "pause", "leave"]
  start := ⟨"start", .start, []⟩
  sound := by decide
  start_found := rfl

/-- A site with that flow, where calls may fail with errors. -/
def Site.advice : Site where
  library := .ofFlows [.advice] [{ device := "1", flow := "advice" }]
  faults fault := ∃ error, fault = .error error
  clock _ := True

/-- The row of an execution that begins. -/
def ExecutionRow.ofAdvice : ExecutionRow where
  id := "execution"
  flow := "advice"
  conversation := { phone := "2", device := "1" }
  node := "start"
  waiting := false
  created := Timestamp.print ⟨0⟩
  updated := Timestamp.print ⟨0⟩

/-- The same row at a stage. -/
def ExecutionRow.ofStagedAdvice : ExecutionRow :=
  { ofAdvice with stage := some "new" }

namespace Turn

/-- Where a row is stored. -/
def stored (row : ExecutionRow) : Transcript Unit where
  scene := { store := { executions := [row] } }
  state := ()

/-- The turn in which everything goes well and the text generator answers. -/
def advised : Except Fault TurnReport × Transcript Unit :=
  (perform { hasGenerator := true } .advice ExecutionRow.ofAdvice.toExecution
    { text := "go", displayName := some "Ana" }).run
    (Site.advice.answerUnless ⟨0⟩ { reply := "Sure" } fun _ => none) (stored .ofAdvice)

/-- The turn of a nameless user, without a text generator, in which nothing can be sent. -/
def unheard : Except Fault TurnReport × Transcript Unit :=
  (perform {} .advice ExecutionRow.ofStagedAdvice.toExecution { text := "go" }).run
    (Site.advice.answerUnless ⟨7⟩ {} fun request =>
      if request.isSpare then some (.dispatch "chat" "down") else none) (stored .ofStagedAdvice)

theorem stored_wellKept (row : ExecutionRow) : (stored row).scene.store.WellKept := by
  constructor
  · simp [stored]
  · simp [stored]

/-- A run at the site is one of its runs when all its calls can be borne. -/
theorem ends_advice
    {now : Instant}
    {choice : Choice}
    {refuses : Call → Option Error}
    (process : Process α)
    (before : Transcript Unit)
    (bears : process.allows (Site.advice.answerUnless now choice refuses)
      (fun request state => request.bears
        (Site.advice.answerUnless now choice refuses request state).1) before = true) :
    Ends (Site.advice.Obliges fun _ _ _ _ => True) process before
      (process.run (Site.advice.answerUnless now choice refuses) before).1
      (process.run (Site.advice.answerUnless now choice refuses) before).2 :=
  have shown : ∀ error, Site.advice.faults (.error error) := fun error => ⟨error, rfl⟩
  ends_of_run_of_allows
    (fun request state => Site.obliges_answerUnless trivial shown request state)
    process before bears

theorem performs_advised :
    Performs .advice { hasGenerator := true } .advice (fun _ _ _ _ => True) .ofAdvice
      { text := "go", displayName := some "Ana" } (stored .ofAdvice) advised.1 advised.2 where
  kept := stored_wellKept _
  member := List.mem_singleton.mpr rfl
  ends := ends_advice _ _ (by decide +kernel)
  told := by
    have ok : advised.1.isOk = true := by decide +kernel
    intro text failed
    rw [failed] at ok
    cases ok

theorem performs_unheard :
    Performs .advice {} .advice (fun _ _ _ _ => True) .ofStagedAdvice { text := "go" }
      (stored .ofStagedAdvice) unheard.1 unheard.2 where
  kept := stored_wellKept _
  member := List.mem_singleton.mpr rfl
  ends := ends_advice _ _ (by decide +kernel)
  told := by
    have ok : unheard.1.isOk = true := by decide +kernel
    intro text failed
    rw [failed] at ok
    cases ok

theorem same_path_advice :
    (∃ report otherReport, advised.1 = .ok report ∧ unheard.1 = .ok otherReport ∧
      otherReport.visited = report.visited) ∧
    advised.2.scene.sent.length = 2 ∧ unheard.2.scene.sent = [] := by
  obtain ⟨_, _, ⟨report, otherReport, ends, otherEnds, visited_eq, _⟩ | ⟨fault, failed, _⟩⟩ :=
    same_path performs_advised performs_unheard rfl rfl rfl rfl rfl rfl
  · exact ⟨⟨report, otherReport, ends, otherEnds, visited_eq⟩, by decide +kernel,
      by decide +kernel⟩
  · have ok : advised.1.isOk = true := by decide +kernel
    rw [failed] at ok
    cases ok

end Turn
end ChatFlow
