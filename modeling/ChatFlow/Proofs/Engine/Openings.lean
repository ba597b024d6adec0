import ChatFlow.Proofs.Engine.Serving
import ChatFlow.Proofs.Turn.Progress

/-!
# How turns begin

A request looks around until it begins a turn, if it does.  An `Opening` is what it then has found:
the row, the flow, the input of the turn, and the node that the row is moved to first when it
stands at a delay.  `Begins` lists how a request comes by an opening.  From the opening on the
request follows a script: the call that moves the row, and then the script of the turn.
-/

namespace ChatFlow

open Process

/-- What a turn begins with. -/
structure Opening where
  graph : Flow.Graph
  /-- The row, as it is before the turn does anything to it. -/
  row : ExecutionRow
  /-- Where the row is moved first, if it stands at a delay. -/
  detour : Option String := none
  input : TurnInput

namespace Opening

/-- The execution that the turn walks. -/
def execution (opening : Opening) : Execution :=
  match opening.detour with
  | none => opening.row.toExecution
  | some target =>
    { opening.row.toExecution with node := target, last := some opening.row.node }

/-- The legs of the turn. -/
def way (opening : Opening) (engine : Engine) : List Leg :=
  Turn.way engine opening.graph opening.execution opening.input

/-- The exit away from the delay where the row stands, if it has to be moved. -/
def departure (opening : Opening) : List Exit :=
  opening.detour.toList.map fun target => .advance target false

/-- The call that takes that exit. -/
def departureCalls (opening : Opening) : List Call :=
  opening.detour.toList.map fun target =>
    .advance opening.row.conversation opening.row.flow target false

/-- The exits that the row takes: away from its delay, if it has to, and then those of the
legs. -/
def exits (opening : Opening) (engine : Engine) : List Exit :=
  opening.departure ++ (opening.way engine).map Leg.exit

/-- The marked calls of the turn. -/
def script (opening : Opening) (engine : Engine) : List Call :=
  opening.departureCalls ++
    (opening.way engine).flatMap (Leg.calls opening.row.conversation opening.row.flow)

end Opening

namespace Site

/-- How a request comes by an opening. -/
inductive Begins (site : Site) (scene : Scene) : Request → Opening → Prop
  /-- A message to an idle conversation creates an execution. -/
  | fresh {message : InboundMessage} {graph : Flow.Graph} {stamp : Stamp}
      (onClock : site.clock stamp.now)
      (idle : ∀ row ∈ scene.store.executions, row.conversation = message.conversation →
        row.status ≠ .active)
      (unused : ∀ row ∈ scene.store.executions, row.id ≠ stamp.freshId)
      (resolved : site.library.resolve message.conversation.device message.text =
        .ok (some graph)) :
      Begins site scene (.message message)
        { graph
          row := Store.freshRow stamp message.conversation graph.id graph.start.id
          input := .ofMessage message false }
  /-- A message goes on with a running execution, as the reply when that waits for one. -/
  | standing {message : InboundMessage} {graph : Flow.Graph} {row : ExecutionRow}
      (member : row ∈ scene.store.executions) (own : row.conversation = message.conversation)
      (active : row.status = .active) (known : site.library.get row.flow = .ok graph)
      (last : row.waiting = false → graph.IsDelay row.node →
        graph.nextTarget? row.node = none) :
      Begins site scene (.message message)
        { graph, row, input := .ofMessage message row.waiting }
  /-- A message moves a running execution away from its delay. -/
  | overdue {message : InboundMessage} {graph : Flow.Graph} {row : ExecutionRow}
      {target : String}
      (member : row ∈ scene.store.executions) (own : row.conversation = message.conversation)
      (active : row.status = .active) (known : site.library.get row.flow = .ok graph)
      (ready : row.waiting = false) (isDelay : graph.IsDelay row.node)
      (next : graph.nextTarget? row.node = some target) :
      Begins site scene (.message message)
        { graph, row, detour := some target, input := .ofMessage message false }
  /-- A continuation moves a running execution away from its delay. -/
  | wake {item : Continuation} {graph : Flow.Graph} {row : ExecutionRow}
      (member : row ∈ scene.store.executions) (own : row.conversation = item.conversation)
      (active : row.status = .active) (known : site.library.get row.flow = .ok graph)
      (ready : row.waiting = false) (isDelay : graph.IsDelay row.node)
      (edge : graph.hasEdge row.node item.target = true) :
      Begins site scene (.continuation item)
        { graph, row, detour := some item.target, input := .ofPayload item.payload }

end Site

/-- The execution that a continuation names, if it is there, is one of the continuation's
conversation. -/
def Scene.Knows (scene : Scene) : Request → Prop
  | .message _ => True
  | .continuation item => ∀ row ∈ scene.store.executions, row.id = item.execution →
      row.conversation = item.conversation

/-- In a scene that is in order this is so for every continuation that was queued. -/
theorem Flow.Library.Sound.knows
    {library : Flow.Library}
    {scene : Scene}
    {request : Request}
    (sound : library.Sound scene)
    (offered : scene.Offers request) :
    scene.Knows request := by
  cases request with
  | message => trivial
  | continuation item =>
      intro row member id_eq
      obtain ⟨queued, isQueued, retries⟩ := offered
      obtain ⟨named, namedMember, namedId, _, own⟩ := sound.named queued isQueued
      rw [Continuation.Retries] at retries
      rw [retries] at id_eq ⊢
      obtain rfl := sound.kept.eq_of_id member namedMember (id_eq.trans namedId.symm)
      exact own

/-! ## Reports -/

/-- What an outcome reports of a turn. -/
def InboundOutcome.report? : InboundOutcome → Option TurnReport
  | .processed report => some report
  | _ => none

def ResumeOutcome.report? : ResumeOutcome → Option TurnReport
  | .resumed report => some report
  | _ => none

def Verdict.report? : Verdict → Option TurnReport
  | .message outcome => outcome.report?
  | .continuation outcome => outcome.report?

variable {site : Site} {engine : Engine} {scene : Scene} {request : Request} {opening : Opening}
  {journal after : Journal} {α β : Type}

namespace Opening

/-! ## Where turns begin -/

theorem active_of_begins (begins : site.Begins scene request opening) :
    opening.row.status = .active := by
  cases begins with
  | fresh => rfl
  | standing _ _ active | overdue _ _ active | wake _ _ active => exact active

theorem active_execution (begins : site.Begins scene request opening) :
    opening.execution.position.status = .active := by
  rw [← active_of_begins begins, execution]
  split <;> rfl

theorem id_execution (opening : Opening) : opening.execution.id = opening.row.id := by
  rw [execution]
  split <;> rfl

/-- A turn that does not move its row first enters the node where the row stands first. -/
theorem id_of_first_way
    {leg : Leg}
    (straight : opening.detour = none)
    (first : (opening.way engine)[0]? = some leg) :
    leg.node.id = opening.row.node := by
  have stands : leg.node.id = opening.execution.node := Flow.Graph.id_of_first_route first
  rw [stands, execution, straight]
  rfl

/-- The flow of the row is the one that the turn walks through. -/
theorem known_of_begins
    (filed : site.library.Filed)
    (begins : site.Begins scene request opening) :
    site.library.get opening.row.flow = .ok opening.graph := by
  cases begins with
  | fresh _ _ _ resolved => exact Flow.Library.get_of_resolve filed resolved
  | standing _ _ _ known | overdue _ _ _ known | wake _ _ _ known => exact known

/-- A row is moved first only away from a delay. -/
theorem isDelay_of_begins
    {target : String}
    (begins : site.Begins scene request opening)
    (away : opening.detour = some target) :
    opening.graph.IsDelay opening.row.node := by
  cases begins with
  | fresh | standing => cases away
  | overdue _ _ _ _ _ isDelay | wake _ _ _ _ _ isDelay => exact isDelay

/-- A turn takes a reply only when a message begins it that finds the row waiting. -/
theorem of_isReply
    (begins : site.Begins scene request opening)
    (isReply : opening.input.isReply = true) :
    opening.detour = none ∧ opening.row ∈ scene.store.executions ∧
      opening.row.waiting = true ∧
      ∃ message, request = .message message ∧
        opening.row.conversation = message.conversation := by
  cases begins with
  | fresh | overdue | wake => cases isReply
  | standing member own => exact ⟨rfl, member, isReply, _, rfl, own⟩

/-- The turn walks on from where the row is moved to. -/
theorem position_execution (begins : site.Begins scene request opening) :
    opening.execution.position = opening.row.position.travel opening.departure := by
  cases begins with
  | fresh | standing => rfl
  | overdue _ _ active _ ready | wake _ _ active _ ready =>
      simp [Opening.execution, departure, Execution.position, ExecutionRow.toExecution, Position.travel,
        Exit.leave, ExecutionRow.position, active, ready]

/-- Once the row was moved to where the turn begins, it takes the exits of the legs. -/
theorem travel_exits (begins : site.Begins scene request opening) (k : Nat) :
    opening.row.position.travel
        ((opening.exits engine).take (opening.departure.length + k)) =
      opening.execution.position.travel (((opening.way engine).take k).map Leg.exit) := by
  rw [position_execution begins, Position.travel, Position.travel, Position.travel,
    ← List.foldl_append, exits, List.take_append, Nat.add_sub_cancel_left,
    List.take_of_length_le (Nat.le_add_right _ _), List.map_take]

/-- To make the call that moves the row is to move it. -/
theorem after_departureCalls (begins : site.Begins scene request opening) :
    opening.row.position.after opening.row.conversation opening.row.flow
      opening.departureCalls = opening.execution.position := by
  rw [position_execution begins, departureCalls, departure]
  cases opening.detour with
  | none => rfl
  | some target => simp [Position.after, Call.place, Position.travel]

end Opening

/-! ## Quiet calls -/

/-- Whether a call changes a row or enters a node. -/
def Call.isLoud : Call → Bool
  | .setStage .. | .saveVariables .. => true
  | request => request.isMark

/-- Nothing happened yet. -/
structure Journal.Calm (scene : Scene) (journal : Journal) : Prop where
  untouched : scene.Untouched journal.scene
  /-- No call changed a row or entered a node. -/
  quiet : ∀ request ∈ journal.calls, request.isLoud = false

theorem Call.isMark_of_isLoud
    {request : Call}
    (quiet : request.isLoud = false) :
    request.isMark = false := by
  cases request with
  | setStage | saveVariables => rfl
  | _ => exact quiet

/-- A quiet call leaves rows alone. -/
theorem ExecutionRow.write_of_isLoud
    {row : ExecutionRow}
    {request : Call}
    (quiet : request.isLoud = false) :
    row.write request = row := by
  cases request with
  | advance | setWaiting | complete | setStage | saveVariables => cases quiet
  | _ => rfl

theorem ExecutionRow.writeAll_of_quiet
    {row : ExecutionRow}
    {calls : List Call}
    (quiet : ∀ request ∈ calls, request.isLoud = false) :
    row.writeAll calls = row := by
  induction calls with
  | nil => rfl
  | cons request calls inductionHypothesis =>
      rw [writeAll_cons, write_of_isLoud (quiet request List.mem_cons_self)]
      exact inductionHypothesis fun other member => quiet other (List.mem_cons_of_mem _ member)

theorem filter_isMark_of_quiet
    {calls : List Call}
    (quiet : ∀ request ∈ calls, request.isLoud = false) :
    calls.filter Call.isMark = [] := by
  rw [List.filter_eq_nil_iff]
  intro request member
  simp [Call.isMark_of_isLoud (quiet request member)]

/-- A quiet call is written down as such. -/
theorem Site.Notes.quiet
    {request : Call}
    {outcome : request.Outcome}
    (noted : site.Notes request journal outcome after)
    (isQuiet : request.isLoud = false)
    (quiet : ∀ request ∈ journal.calls, request.isLoud = false) :
    ∀ request ∈ after.calls, request.isLoud = false := by
  rcases noted.effect with ⟨calls_eq, _⟩ | ⟨rfl, _⟩
  · rw [calls_eq]
    intro other member
    rcases List.mem_append.mp member with old | new
    · exact quiet other old
    · rwa [List.mem_singleton.mp new]
  · exact quiet

/-- After a quiet call that touches nothing, nothing happened yet. -/
theorem Journal.Calm.noted
    {request : Call}
    {outcome : request.Outcome}
    (calm : Calm scene journal)
    (isQuiet : request.isLoud = false)
    (noted : site.Notes request journal outcome after)
    (untouched : journal.scene.Untouched after.scene) :
    Calm scene after :=
  ⟨calm.untouched.trans untouched, noted.quiet isQuiet calm.quiet⟩

/-! ## Underway -/

/-- When a turn is reported, nothing is left of its script, and the report is one of its legs. -/
def Opening.Told
    (opening : Opening) (engine : Engine) (report? : α → Option TurnReport)
    (left : Option (List Call)) (result : Except Fault α) : Prop :=
  ∀ value report, result = .ok value → report? value = some report →
    left = some [] ∧ Turn.Reports opening.execution (opening.way engine) report

/-- A turn that is cut short is not reported. -/
theorem Opening.told_error
    {report? : α → Option TurnReport}
    {left : Option (List Call)}
    {fault : Fault} :
    opening.Told engine report? left (.error fault) := by
  rintro _ _ ⟨⟩

/-- A process follows the script of an opening, and the row is what its calls made of it. -/
structure Opening.Underway
    (opening : Opening) (engine : Engine) (report? : α → Option TurnReport)
    (process : Process α) (journal : Journal) : Prop where
  pursues : process.Pursues Call.isMark (opening.Told engine report?) (opening.script engine)
    journal
  held : journal.scene.store.Holds (opening.row.writeAll journal.calls)

theorem Opening.Underway.step
    {report? : α → Option TurnReport}
    {before after : Process α × Journal}
    (underway : opening.Underway engine report? before.1 before.2)
    (step : Process.Step site.Notes before after) :
    opening.Underway engine report? after.1 after.2 := by
  refine ⟨underway.pursues.step step, ?_⟩
  cases step with
  | call noted => exact noted.holds underway.held

/-- What goes on without marked calls goes on with the turn. -/
theorem Opening.Underway.andThen
    {report? : α → Option TurnReport}
    {later? : β → Option TurnReport}
    {process : Process α}
    {next : α → Process β}
    (underway : opening.Underway engine report? process journal)
    (rest : ∀ value, (next value).Within (fun request => request.isMark = false)
      (fun _ _ => True) fun result => ∀ later report, result = .ok later →
        later? later = some report → report? value = some report) :
    opening.Underway engine later? (process.andThen next) journal := by
  obtain ⟨⟨left, scripted, remains⟩, held⟩ := underway
  refine ⟨⟨left, scripted.andThen ?_ ?_, remains⟩, held⟩
  · intro left value told
    refine (scripted_of_within (rest value)).weaken ?_
    rintro _ _ ⟨rfl, same⟩ later report rfl reports
    exact told value report rfl (same later report rfl reports)
  · exact fun _ _ _ => told_error

theorem Opening.Underway.contain
    {report? : α → Option TurnReport}
    {process : Process α}
    (underway : opening.Underway engine report? process journal) :
    opening.Underway engine (fun result => result.toOption.bind report?) process.contain
      journal := by
  obtain ⟨⟨left, scripted, remains⟩, held⟩ := underway
  refine ⟨⟨left, scripted.contain.weaken ?_, remains⟩, held⟩
  rintro left _ ⟨kept, rfl, told⟩ _ report ⟨rfl⟩ reports
  cases kept with
  | error fault => cases reports
  | ok value => exact told value report rfl reports

/-- A turn that is reported has made all calls of its script. -/
theorem Opening.Underway.script_eq_of_report
    {report? : α → Option TurnReport}
    {value : α}
    {report : TurnReport}
    (underway : opening.Underway engine report? (.done value) journal)
    (reported : report? value = some report) :
    journal.calls.filter Call.isMark = opening.script engine ∧
      Turn.Reports opening.execution (opening.way engine) report := by
  obtain ⟨left, scripted, remains⟩ := underway.pursues
  obtain ⟨rfl, reports⟩ := scripted value report rfl reported
  exact ⟨by simpa [Remains] using remains, reports⟩

end ChatFlow
