import ChatFlow.Proofs.Engine.Cuts
import ChatFlow.Proofs.Turn.Report

/-!
# Questions and replies

A node that asks the user something is left only in a turn that a message begins while the
execution waits at that very node.  It is the first node of the turn, and the turn has taken no
exit before.  Any other turn that comes to such a node ends there, and the execution waits.
-/

namespace ChatFlow

open Process

/-- Whether a call takes a running row away from where it stands, to another node or to the end. -/
def Call.leaves (row : ExecutionRow) : Call → Bool
  | .advance conversation id _ _ | .complete conversation id => row.runsIn conversation id
  | _ => false

variable {site : Site} {engine : Engine} {scene : Scene} {request : Request} {opening : Opening}
  {journal : Journal} {row : ExecutionRow} {call : Call} {node : Flow.Node} {taken : List Call}
  {exit : Exit} {conversation : Conversation} {flow : String} {α : Type}

namespace Call

theorem isMark_of_leaves (leaves : call.leaves row = true) : call.isMark = true := by
  cases call with
  | advance | complete => rfl
  | _ => cases leaves

theorem entered?_of_leaves (leaves : call.leaves row = true) : call.entered? = none := by
  cases call with
  | advance | complete => rfl
  | _ => cases leaves

/-- A call that takes an exit leaves the running row of its conversation and flow, unless it makes
that row wait. -/
theorem of_leaves_exit
    (takes : exit.call? conversation flow = some call)
    (leaves : call.leaves row = true) :
    row.runsIn conversation flow = true ∧ exit ≠ .wait := by
  cases exit with
  | advance | complete =>
      cases takes
      exact ⟨leaves, nofun⟩
  | wait =>
      cases takes
      cases leaves
  | park => cases takes

end Call

namespace Opening

/-- The marked call that comes next is the next one of the script. -/
theorem Underway.exists_script_eq
    {report? : α → Option TurnReport}
    {next : call.Outcome → Process α}
    (underway : opening.Underway engine report? (.step call next) journal)
    (isMark : call.isMark = true) :
    ∃ further, journal.calls.filter Call.isMark ++ call :: further = opening.script engine := by
  obtain ⟨left, scripted, remains⟩ := underway.pursues
  rw [Process.Scripted, if_pos isMark] at scripted
  obtain ⟨further, rfl, _⟩ := scripted
  exact ⟨further, remains⟩

/-- A call of the script that enters no node moves the row away from its delay, or takes the exit
of a leg, and then follows the one that enters the node of that leg. -/
theorem exists_leg_of_script
    {further : List Call}
    (split : taken ++ call :: further = opening.script engine)
    (moves : call.entered? = none) :
    (∃ target, opening.detour = some target ∧ taken = [] ∧
      call = .advance opening.row.conversation opening.row.flow target false) ∨
    ∃ j leg, (opening.way engine)[j]? = some leg ∧
      leg.exit.call? opening.row.conversation opening.row.flow = some call ∧
      taken = opening.departureCalls ++
        (((opening.way engine).take j).flatMap
            (Leg.calls opening.row.conversation opening.row.flow) ++
          [.publish (.entered opening.row.conversation leg.node.id leg.node.kind.text)]) := by
  cases away : opening.detour with
  | none =>
      rw [script, departureCalls, away] at split
      rw [departureCalls, away]
      exact .inr (exists_leg_of_append split moves)
  | some target =>
      rw [script, departureCalls, away] at split
      rw [departureCalls, away]
      cases taken with
      | nil => exact .inl ⟨target, rfl, rfl, (List.cons.inj split).1⟩
      | cons first taken =>
          obtain ⟨rfl, further_eq⟩ := List.cons.inj split
          obtain ⟨j, leg, found, takes, rfl⟩ := exists_leg_of_append further_eq moves
          exact .inr ⟨j, leg, found, takes, rfl⟩

/-- The running row of the conversation and the flow of a turn is the one that the turn began with,
and stands where the calls of the turn have moved it. -/
theorem Underway.row_eq
    {report? : α → Option TurnReport}
    {process : Process α}
    (underway : opening.Underway engine report? process journal)
    (kept : journal.scene.store.WellKept)
    (member : row ∈ journal.scene.store.executions)
    (runs : row.runsIn opening.row.conversation opening.row.flow = true)
    (active : (opening.row.position.after opening.row.conversation opening.row.flow
      (journal.calls.filter Call.isMark)).status = .active) :
    opening.row.id = row.id ∧
      row.position = opening.row.position.after opening.row.conversation opening.row.flow
        (journal.calls.filter Call.isMark) := by
  obtain ⟨updated, held⟩ := underway.held
  obtain ⟨conversation_eq, flow_eq, running⟩ := ExecutionRow.runsIn_iff.mp runs
  have position_eq : (opening.row.writeAll journal.calls).position =
      opening.row.position.after opening.row.conversation opening.row.flow
        (journal.calls.filter Call.isMark) := ExecutionRow.position_writeAll
  have same : { opening.row.writeAll journal.calls with updated } = row := by
    refine kept.unique _ held row member ?_ running ?_ ?_
    · exact (congrArg Position.status position_eq).trans active
    · exact ExecutionRow.conversation_writeAll.trans conversation_eq.symm
    · exact ExecutionRow.flow_writeAll.trans flow_eq.symm
  rw [← same]
  exact ⟨ExecutionRow.id_writeAll.symm, position_eq⟩

/-- A call that leaves a row at a node which asks the user something takes the reply there, and
follows only the one that enters that node. -/
theorem Underway.of_leaves
    {report? : α → Option TurnReport}
    {next : call.Outcome → Process α}
    (begins : site.Begins scene request opening)
    (underway : opening.Underway engine report? (.step call next) journal)
    (kept : journal.scene.store.WellKept)
    (member : row ∈ journal.scene.store.executions)
    (leaves : call.leaves row = true)
    (found : row.flow = opening.row.flow → opening.graph.node? row.node = some node)
    (awaits : node.kind.awaitsReply = true) :
    opening.input.isReply = true ∧ opening.row.id = row.id ∧ opening.row.node = row.node ∧
      journal.calls.filter Call.isMark = [.publish
        (.entered opening.row.conversation row.node node.kind.text)] := by
  obtain ⟨further, split⟩ := underway.exists_script_eq (Call.isMark_of_leaves leaves)
  rcases exists_leg_of_script split (Call.entered?_of_leaves leaves) with
    ⟨target, away, nothing, rfl⟩ | ⟨j, leg, leg_eq, takes, taken_eq⟩
  · -- The row stands at a delay, where nothing is asked.
    have runs : row.runsIn opening.row.conversation opening.row.flow = true := leaves
    have stands := underway.row_eq kept member runs
    rw [nothing] at stands
    obtain ⟨_, position_eq⟩ := stands (active_of_begins begins)
    have node_eq : row.node = opening.row.node := congrArg Position.node position_eq
    have isDelay := isDelay_of_begins begins away
    rw [← node_eq, Flow.Graph.isDelay_iff (found (ExecutionRow.runsIn_iff.mp runs).2.1)]
      at isDelay
    rw [isDelay] at awaits
    cases awaits
  · obtain ⟨runs, notWait⟩ := Call.of_leaves_exit takes leaves
    have travel_eq : opening.row.position.after opening.row.conversation opening.row.flow
        (journal.calls.filter Call.isMark) =
          opening.execution.position.travel (((opening.way engine).take j).map Leg.exit) := by
      rw [taken_eq, Position.after_append, after_departureCalls begins, Position.after_append,
        Position.after_legs]
      rfl
    obtain ⟨next_eq, active⟩ := Flow.Graph.travel_take_route leg_eq (active_execution begins)
    obtain ⟨id_eq, position_eq⟩ :=
      underway.row_eq kept member runs ((congrArg Position.status travel_eq).trans active)
    have node_eq : row.node = leg.node.id :=
      (congrArg Position.node (position_eq.trans travel_eq)).trans next_eq
    obtain ⟨named, exit_eq⟩ := Flow.Graph.of_getElem?_route leg_eq
    have sameNode : leg.node = node := by
      have found := found (ExecutionRow.runsIn_iff.mp runs).2.1
      rw [node_eq, named] at found
      exact Option.some.inj found
    rw [sameNode] at exit_eq
    rw [exit_eq, Flow.Graph.exit_of_awaitsReply awaits] at notWait
    have answering : (opening.input.isReply && j == 0) = true := by
      by_contra notAnswering
      exact notWait (if_neg notAnswering)
    obtain ⟨isReply, first⟩ := Bool.and_eq_true_iff.mp answering
    obtain rfl : j = 0 := by simpa using first
    obtain ⟨straight, _⟩ := of_isReply begins isReply
    have taken_eq : journal.calls.filter Call.isMark = [.publish
        (.entered opening.row.conversation row.node node.kind.text)] := by
      rw [taken_eq, departureCalls, straight, node_eq, sameNode]
      rfl
    rw [taken_eq] at position_eq
    exact ⟨isReply, id_eq, (congrArg Position.node position_eq).symm, taken_eq⟩

/-- A turn that is reported has left its row where the exits of its legs lead to. -/
theorem Underway.of_report
    {report? : α → Option TurnReport}
    {value : α}
    {report : TurnReport}
    (begins : site.Begins scene request opening)
    (underway : opening.Underway engine report? (.done value) journal)
    (reported : report? value = some report) :
    Turn.Reports opening.execution (opening.way engine) report ∧
      ∃ row ∈ journal.scene.store.executions, row.id = opening.row.id ∧
        row.flow = opening.row.flow ∧
        row.position =
          opening.execution.position.travel ((opening.way engine).map Leg.exit) := by
  obtain ⟨taken, reports⟩ := underway.script_eq_of_report reported
  obtain ⟨updated, held⟩ := underway.held
  refine ⟨reports, _, held, ExecutionRow.id_writeAll, ExecutionRow.flow_writeAll, ?_⟩
  change (opening.row.writeAll journal.calls).position = _
  rw [ExecutionRow.position_writeAll, taken, script, Position.after_append,
    after_departureCalls begins, Position.after_legs]

/-- A turn that comes to a node which asks the user something and does not take the reply there
ends there, and its row waits. -/
theorem waits_of_stops
    {i : Nat}
    {leg : Leg}
    (begins : site.Begins scene request opening)
    (position_eq : row.position =
      opening.execution.position.travel ((opening.way engine).map Leg.exit))
    (leg_eq : (opening.way engine)[i]? = some leg)
    (asks : leg.exit = .wait) :
    row.status = .active ∧ row.node = leg.node.id ∧ row.waiting = true := by
  have stops : leg.exit.onward? = none := by rw [asks]; rfl
  obtain ⟨before, node_eq, active, travel_eq⟩ :=
    Flow.Graph.exists_travel_of_stops leg_eq stops (active_execution begins)
  have position_eq : row.position = { before with waiting := true } := by
    refine (position_eq.trans travel_eq).trans ?_
    simp [asks, Exit.leave, active]
  exact ⟨(congrArg Position.status position_eq).trans active,
    (congrArg Position.node position_eq).trans node_eq, congrArg Position.waiting position_eq⟩

/-- So it does at every node that the turn visits, but at the one where it takes the reply. -/
theorem waits_of_visited
    {i : Nat}
    {report : TurnReport}
    (begins : site.Begins scene request opening)
    (reports : Turn.Reports opening.execution (opening.way engine) report)
    (position_eq : row.position =
      opening.execution.position.travel ((opening.way engine).map Leg.exit))
    (visited : report.visited[i]? = some node.id)
    (found : opening.graph.node? node.id = some node)
    (awaits : node.kind.awaitsReply = true)
    (unanswered : i = 0 → opening.input.isReply = true → opening.row.node ≠ node.id) :
    row.status = .active ∧ row.node = node.id ∧ row.waiting = true := by
  rw [reports.visited_eq, List.getElem?_map, Option.map_eq_some_iff] at visited
  obtain ⟨leg, leg_eq, same⟩ := visited
  obtain ⟨named, exit_eq⟩ := Flow.Graph.of_getElem?_route leg_eq
  rw [same, found] at named
  rw [← Option.some.inj named, Flow.Graph.exit_of_awaitsReply awaits, if_neg] at exit_eq
  · rw [← same]
    exact waits_of_stops begins position_eq leg_eq exit_eq
  · intro answering
    obtain ⟨isReply, first⟩ := Bool.and_eq_true_iff.mp answering
    obtain rfl : i = 0 := by simpa using first
    obtain ⟨straight, _⟩ := of_isReply begins isReply
    exact unanswered rfl isReply ((id_of_first_way straight leg_eq).symm.trans same)

/-- A row that stands at a node which asks the user something waits, unless the turn could not go
on there. -/
theorem waiting_of_stands
    (begins : site.Begins scene request opening)
    (position_eq : row.position =
      opening.execution.position.travel ((opening.way engine).map Leg.exit))
    (unlimited : (opening.way engine).all (fun leg => leg.exit.onward?.isSome) = false)
    (active : row.status = .active)
    (found : opening.graph.node? row.node = some node)
    (awaits : node.kind.awaitsReply = true) :
    row.waiting = true := by
  obtain ⟨leg, member, stops⟩ := List.all_eq_false.mp unlimited
  obtain ⟨i, leg_eq⟩ := List.mem_iff_getElem?.mp member
  have stops : leg.exit.onward? = none := by simpa using stops
  obtain ⟨before, node_eq, activeBefore, travel_eq⟩ :=
    Flow.Graph.exists_travel_of_stops leg_eq stops (active_execution begins)
  obtain ⟨named, exit_eq⟩ := Flow.Graph.of_getElem?_route leg_eq
  have position_eq : row.position = leg.exit.leave before := position_eq.trans travel_eq
  have runs : (leg.exit.leave before).status = .active :=
    (congrArg Position.status position_eq).symm.trans active
  rcases Exit.waiting_or_eq_park stops activeBefore runs with waits | ⟨parks, stays⟩
  · exact (congrArg Position.waiting position_eq).trans waits
  · -- Only at a delay an execution is parked, and nothing is asked there.
    have stands : row.node = leg.node.id :=
      (congrArg Position.node (position_eq.trans stays)).trans node_eq
    rw [stands, named] at found
    obtain rfl := Option.some.inj found
    rw [Flow.Graph.kind_of_exit_eq_park (exit_eq.symm.trans parks)] at awaits
    cases awaits

end Opening

namespace Engine

variable {flows : List Flow.Graph} {bindings : List Binding} {rest : Process Verdict}

/-- No question is skipped, and no reply answers two of them.  A running row leaves a node that
asks the user something only when a message found it waiting there; the turn has entered that node,
and nothing but that, and taken no exit before.  A turn that comes to such a node otherwise, be it
by a visit or by standing there at last, ends there unless it hits the hop limit, and its row
waits. -/
theorem replies_of_reachable
    (library_eq : site.library = .ofFlows flows bindings)
    (reachable : site.Reachable engine scene)
    (offered : scene.Offers request)
    (reaches : Reaches site.Notes (engine.serve request, { scene }) (rest, journal)) :
    (∀ call next row graph node, rest = .step call next →
      row ∈ journal.scene.store.executions → call.leaves row = true →
      site.library.get row.flow = .ok graph → graph.node? row.node = some node →
      node.kind.awaitsReply = true →
      (∃ message before, request = .message message ∧ before ∈ scene.store.executions ∧
        before.id = row.id ∧ before.conversation = message.conversation ∧
        before.status = .active ∧ before.waiting = true ∧ before.node = row.node) ∧
      enteredNodes journal.calls = [row.node] ∧
      ∀ earlier ∈ journal.calls, earlier.leaves row = false) ∧
    (∀ verdict report, rest = .done verdict → verdict.report? = some report →
      report.hopLimit = false →
      ∃ row ∈ journal.scene.store.executions, row.id = report.execution ∧
        ∃ graph, site.library.get row.flow = .ok graph ∧
        ∀ node, graph.node? node.id = some node → node.kind.awaitsReply = true →
          (row.status = .active ∧ row.node = node.id) ∨
            (∃ i, report.visited[i]? = some node.id ∧
              (i = 0 → ∀ before ∈ scene.store.executions, before.id = row.id →
                before.node = node.id → before.waiting = false)) →
          row.status = .active ∧ row.node = node.id ∧ row.waiting = true) := by
  have filed : site.library.Filed := by
    rw [library_eq]
    exact Flow.Library.filed_ofFlows flows bindings
  have sound := reachable.sound filed
  have knows : scene.Knows request := sound.knows offered
  have keptAfter : journal.scene.store.WellKept :=
    Site.Notes.wellKept_of_reaches sound.kept reaches
  refine ⟨?_, ?_⟩
  · rintro call next row graph node rfl member leaves known found awaits
    rcases course_of_reaches knows reaches with ⟨_, isQuiet, _⟩ | ⟨opening, begins, underway⟩
    · have isMark := Call.isMark_of_leaves leaves
      rw [Call.isMark_of_isLoud (isQuiet call next rfl)] at isMark
      cases isMark
    have opened := Opening.known_of_begins filed begins
    have foundThere (flow_eq : row.flow = opening.row.flow) :
        opening.graph.node? row.node = some node := by
      rw [flow_eq, opened] at known
      rwa [Except.ok.inj known]
    obtain ⟨isReply, id_eq, node_eq, taken_eq⟩ :=
      underway.of_leaves begins keptAfter member leaves foundThere awaits
    obtain ⟨_, before, waiting, message, rfl, own⟩ := Opening.of_isReply begins isReply
    refine ⟨⟨message, opening.row, rfl, before, id_eq, own, Opening.active_of_begins begins,
      waiting, node_eq⟩, ?_, ?_⟩
    · rw [← enteredNodes_filter, taken_eq]
      rfl
    · intro earlier called
      by_contra leftBefore
      have leftBefore : earlier.leaves row = true := by simpa using leftBefore
      have marked := List.mem_filter.mpr ⟨called, Call.isMark_of_leaves leftBefore⟩
      rw [taken_eq, List.mem_singleton] at marked
      rw [marked] at leftBefore
      cases leftBefore
  · rintro verdict report rfl reported unlimited
    rcases course_of_reaches knows reaches with ⟨_, _, silent⟩ | ⟨opening, begins, underway⟩
    · rw [silent verdict rfl] at reported
      cases reported
    have opened := Opening.known_of_begins filed begins
    obtain ⟨reports, row, member, id_eq, flow_eq, position_eq⟩ :=
      underway.of_report begins reported
    refine ⟨row, member, ?_, opening.graph, by rw [flow_eq]; exact opened, ?_⟩
    · rw [reports.execution_eq, id_eq]
      exact opening.id_execution.symm
    rintro node found awaits (⟨active, stands⟩ | ⟨i, visited, passedBy⟩)
    · rw [← stands] at found
      rw [reports.hopLimit_eq] at unlimited
      exact ⟨active, stands, Opening.waiting_of_stands begins position_eq unlimited active found
        awaits⟩
    · refine Opening.waits_of_visited begins reports position_eq visited found awaits ?_
      intro first isReply stands
      obtain ⟨_, before, waiting, _⟩ := Opening.of_isReply begins isReply
      rw [passedBy first opening.row before id_eq.symm stands] at waiting
      cases waiting

/-- A message that makes the inquiry ask. -/
def asked : Except Fault Verdict × Scene :=
  (Engine.serve {} (.message (.toInquiry "go"))).run (Site.inquiry.answer ⟨0⟩ {}) {}

/-- The report of its turn. -/
def askedReport : TurnReport where
  execution := ""
  flow := "inquiry"
  visited := ["start", "ask"]
  dispatched := 1
  final := "answer"
  waiting := true
  completed := false
  scheduled := none
  hopLimit := false

/-- The turn comes to the node that takes the answer without visiting it, and waits there. -/
theorem replies_of_reachable_inquiry :
    asked.1 = .ok (.message (.processed askedReport)) ∧
      ∃ row ∈ asked.2.store.executions, row.node = "answer" ∧ row.waiting = true := by
  have reports : asked.1 = .ok (.message (.processed askedReport)) := by decide +kernel
  have rows : ∀ row ∈ asked.2.store.executions,
      row.flow = "inquiry" ∧ row.status = .active ∧ row.node = "answer" := by decide +kernel
  have ends : Ends Site.inquiry.Answers (Engine.serve {} (.message (.toInquiry "go"))) {} asked.1
      asked.2 := ends_of_run _ (Site.answers_answer trivial {}) _ _
  rw [reports] at ends
  have offered : Scene.Offers {} (.message (.toInquiry "go")) := trivial
  obtain ⟨calls, reaches⟩ := Site.exists_notes { scene := {} } ends
  obtain ⟨row, member, _, graph, known, waits⟩ :=
    (replies_of_reachable rfl .refl offered reaches).2 _ askedReport rfl rfl rfl
  obtain ⟨flow_eq, active, stands⟩ := rows row member
  have inquiry : Site.inquiry.library.get "inquiry" = .ok .inquiry := rfl
  rw [flow_eq, inquiry] at known
  obtain rfl := Except.ok.inj known
  obtain ⟨_, node_eq, waiting⟩ :=
    waits ⟨"answer", .userReply, []⟩ rfl rfl (.inl ⟨active, stands⟩)
  exact ⟨reports, row, member, node_eq, waiting⟩

end Engine
end ChatFlow
