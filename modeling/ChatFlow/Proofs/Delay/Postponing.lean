import ChatFlow.Flow.Builder
import ChatFlow.Proofs.Engine.Turns
import ChatFlow.Proofs.Turn.Trail

/-!
# Delays postpone

A message starts a turn, and each continuation that a turn queued starts the next one.  Where
delays do nothing, the message starts one turn that visits all their nodes.  Continuations bring the
user's text along but not the user's name: what comes behind a delay is said as to a user without a
name, and but for this it is the same.
-/

namespace ChatFlow

open Process

/-- A site where delays do nothing. -/
def Site.undelayed (site : Site) : Site :=
  { site with library := site.library.undelayed }

/-- What has been said, without the user's name. -/
def Recital.nameless {σ : Type} (recital : Recital σ) : Recital σ :=
  { recital with displayName := none }

/-- A continuation is delivered, if there is one, and so is each that its turn queues, one after
the other.  The conversation is not locked, and no turn stops at its limit. -/
inductive Engine.Delivers {σ : Type} (engine : Engine) (site : Site) (cast : Cast σ) :
    Option Continuation → Transcript σ → Transcript σ → Prop
  | nothing {before : Transcript σ} : Delivers engine site cast none before before
  | delivered {item : Continuation} {before middle after : Transcript σ} {outcome : ResumeOutcome}
      (resumes : Ends (site.Obliges cast.manner) (engine.resume item) before (.ok outcome) middle)
      (free : outcome ≠ .busy)
      (unlimited : ∀ report, outcome = .resumed report → report.hopLimit = false)
      (further : Delivers engine site cast (outcome.report?.bind TurnReport.scheduled) middle
        after) :
      Delivers engine site cast (some item) before after

namespace Turn

variable {σ : Type} {site : Site} {cast : Cast σ} {engine : Engine} {graph : Flow.Graph}
  {execution : Execution} {row stored : ExecutionRow} {input : TurnInput} {legs : List Leg}
  {before after : Transcript σ} {report : TurnReport} {item : Continuation}

/-- What is said depends on the nodes of the legs only. -/
theorem recite_congr
    {other : List Leg}
    (sameNodes : other.map Leg.node = Flow.Graph.undelayedNodes legs)
    (recital : Recital σ) :
    recital.recite engine cast other = recital.recite engine cast legs := by
  have speak_undelayed (recital : Recital σ) (node : Flow.Node) :
      recital.speak engine cast node.undelayed = recital.speak engine cast node := by
    by_cases kind : node.kind = .delay
    · simp [Recital.speak, Flow.Node.undelayed, Flow.NodeKind.undelayed, kind]
    · rw [Flow.Node.undelayed_eq kind]
  have byNodes (legs : List Leg) (recital : Recital σ) :
      recital.recite engine cast legs =
        (legs.map Leg.node).foldl (Recital.speak engine cast) recital := by
    rw [List.foldl_map]
    rfl
  rw [byNodes, byNodes, sameNodes, Flow.Graph.undelayedNodes, List.foldl_map, List.foldl_map]
  simp only [speak_undelayed]

/-- A turn that queues a continuation leaves an execution behind that awaits it. -/
theorem Leaves.awaits_item
    (leaves : Leaves cast engine graph execution input legs before report after stored)
    {answering : Bool}
    (trail : graph.Trail input.text answering execution.node legs)
    (active : execution.status = .active)
    (ready : execution.waiting = true → ¬ graph.IsDelay execution.node)
    (known : site.library.get execution.flow = .ok graph)
    (scheduled : report.scheduled = some item) :
    site.library.Awaits item graph stored ∧ stored.conversation = item.conversation ∧
      item.payload = input.text := by
  have awaits := leaves.awaits
  rw [scheduled] at awaits
  obtain ⟨target, due, awaited, rfl⟩ := awaits
  have trail : graph.Trail input.text answering execution.position.node legs := trail
  have parked := trail.parked awaited active ready
  rw [← leaves.position_eq] at parked
  obtain ⟨runs, waitsNot, isDelay, next⟩ := parked
  refine ⟨⟨leaves.id_eq, runs, waitsNot, ?_, isDelay, Flow.Graph.hasEdge_of_nextTarget? next⟩,
    leaves.conversation_eq, rfl⟩
  rw [leaves.flow_eq]
  exact known

end Turn

/-- Where what is queued on a trail leads on, the trails add up to one without delays. -/
theorem Flow.Graph.Trail.nodes_append
    {graph : Flow.Graph}
    {text id : String}
    {answering : Bool}
    {legs back whole : List Leg}
    {scheduled : Option Continuation}
    (trail : graph.Trail text answering id legs)
    (awaited : scheduled.map Continuation.target = graph.awaited? legs)
    (ended : scheduled = none → back = [])
    (goesOn : ∀ item, scheduled = some item →
      ∀ rest, graph.undelayed.Trail text false item.target rest →
        rest.map Leg.node = undelayedNodes back)
    (straight : graph.undelayed.Trail text answering id whole) :
    whole.map Leg.node = undelayedNodes (legs ++ back) := by
  have nodes_append : undelayedNodes (legs ++ back) = undelayedNodes legs ++ undelayedNodes back :=
    List.map_append
  have passes := trail.undelayed straight
  rw [← awaited] at passes
  cases scheduled with
  | none =>
      rw [ended rfl, List.append_nil]
      exact passes
  | some item =>
      obtain ⟨rest, trailRest, nodes_eq⟩ := passes
      rw [nodes_eq, nodes_append, goesOn item rfl rest trailRest]

namespace Engine.Delivers

variable {σ : Type} {site : Site} {cast : Cast σ} {engine : Engine} {graph : Flow.Graph}
  {row : ExecutionRow} {text : String} {scheduled : Option Continuation}
  {before last : Transcript σ}

/-- What is said when continuations are delivered is what all their turns have to say, to a user
without a name; and without delays there is one trail of the same nodes. -/
theorem exists_legs
    (delivers : engine.Delivers site cast scheduled before last)
    (kept : before.scene.store.WellKept)
    (member : row ∈ before.scene.store.executions)
    (known : site.library.get row.flow = .ok graph)
    (awaits : ∀ item, scheduled = some item → site.library.Awaits item graph row ∧
      row.conversation = item.conversation ∧ item.payload = text) :
    ∃ back : List Leg,
      last.lines =
        ((Turn.prologue row.toExecution { text } before).recite engine cast back).lines ∧
      (scheduled = none → back = []) ∧
      ∀ item, scheduled = some item →
        ∀ whole, graph.undelayed.Trail text false item.target whole →
          whole.map Leg.node = Flow.Graph.undelayedNodes back := by
  induction delivers generalizing row with
  | nothing => exact ⟨[], rfl, fun _ => rfl, nofun⟩
  | @delivered item before middle after outcome resumes free unlimited further
      inductionHypothesis =>
      obtain ⟨parked, own, rfl⟩ := awaits item rfl
      obtain ⟨report, stored, rfl, leaves⟩ :=
        exists_leaves_of_resumed kept member own parked free resumes
      have trail : graph.Trail item.payload false item.target
          (Turn.way engine graph
            { row.toExecution with node := item.target, last := some row.node }
            (.ofPayload item.payload)) := by
        apply Flow.Graph.trail_of_route
        have hopLimit_eq := leaves.reports.hopLimit_eq
        rw [unlimited report rfl] at hopLimit_eq
        exact hopLimit_eq.symm
      generalize Turn.way engine graph
        { row.toExecution with node := item.target, last := some row.node }
        (.ofPayload item.payload) = legs at leaves trail
      have ready : row.waiting = true → ¬ graph.IsDelay item.target := by
        intro waits
        rw [parked.ready] at waits
        cases waits
      have knownStill : site.library.get stored.flow = .ok graph := by
        rw [leaves.flow_eq]
        exact known
      obtain ⟨back, lines_eq, ended, straight⟩ :=
        inductionHypothesis leaves.kept leaves.member knownStill
          fun _ scheduled => leaves.awaits_item trail parked.active ready known scheduled
      refine ⟨legs ++ back, ?_, nofun, ?_⟩
      · have said : (Turn.prologue row.toExecution { text := item.payload } before).recite engine
            cast legs = Turn.prologue stored.toExecution { text := item.payload } middle :=
          leaves.said
        rw [lines_eq, Recital.recite_append, said]
      · rintro _ ⟨rfl⟩ whole trailToo
        exact trail.nodes_append leaves.awaits.target_eq ended straight trailToo

end Engine.Delivers

/-! ## Openings without delays -/

namespace Opening

variable {σ : Type} {site : Site} {cast : Cast σ} {engine : Engine} {message : InboundMessage}
  {before : Transcript σ} {scene : Scene} {opening other : Opening}

/-- The turn of an opening begins as the one of another opening without delays, which may have to
pass first the node where there was a delay. -/
structure Shadows (before : Transcript σ) (opening other : Opening) : Prop where
  graph_eq : other.graph = opening.graph.undelayed
  input_eq : other.input = opening.input
  prologue_eq : Turn.prologue other.execution other.input before =
    Turn.prologue opening.execution opening.input before
  joins : ∀ whole, opening.graph.undelayed.Trail opening.input.text opening.input.isReply
      other.execution.node whole →
    ∃ passed rest, whole = passed ++ rest ∧
      opening.graph.undelayed.Trail opening.input.text opening.input.isReply
        opening.execution.node rest ∧
      ∀ leg ∈ passed, leg.node.kind = .manual

/-- A message begins the same turn where delays do nothing. -/
theorem shadows_of_begins
    (kept : before.scene.store.WellKept)
    (begins : site.Begins before.scene (.message message) opening)
    (named : ∀ execution, before.scene.store.active? message.conversation = some execution →
      execution = opening.row.toExecution)
    (beginsToo : site.undelayed.Begins before.scene (.message message) other)
    (namedToo : ∀ execution, before.scene.store.active? message.conversation = some execution →
      execution = other.row.toExecution) :
    opening.Shadows before other := by
  -- There is one running execution that a message can find.
  have same {row otherRow : ExecutionRow}
      (member : row ∈ before.scene.store.executions) (own : row.conversation = message.conversation)
      (active : row.status = .active) (otherMember : otherRow ∈ before.scene.store.executions)
      (named : ∀ execution, before.scene.store.active? message.conversation = some execution →
        execution = row.toExecution)
      (namedToo : ∀ execution, before.scene.store.active? message.conversation = some execution →
        execution = otherRow.toExecution) : row = otherRow := by
    cases found : before.scene.store.active? message.conversation with
    | none => exact (Store.of_active?_eq_none found member own active).elim
    | some execution =>
        have agree := (named _ found).symm.trans (namedToo _ found)
        exact kept.eq_of_id member otherMember (congrArg Execution.id agree)
  have known {row : ExecutionRow} {graph otherGraph : Flow.Graph}
      (found : site.library.get row.flow = .ok graph)
      (foundToo : site.undelayed.library.get row.flow = .ok otherGraph) :
      otherGraph = graph.undelayed := by
    have get_eq : site.undelayed.library.get row.flow = _ :=
      Flow.Library.get_undelayed site.library row.flow
    rw [get_eq, found] at foundToo
    cases foundToo
    rfl
  cases begins with
  | fresh _ idle _ resolved =>
      cases beginsToo with
      | fresh _ _ _ resolvedToo =>
          have resolve_eq : site.undelayed.library.resolve message.conversation.device
              message.text = _ := Flow.Library.resolve_undelayed site.library _ _
          rw [resolve_eq, resolved] at resolvedToo
          cases resolvedToo
          exact ⟨rfl, rfl, rfl, fun whole trail => ⟨[], whole, rfl, trail, nofun⟩⟩
      | standing member own active | overdue member own active =>
          exact (idle _ member own active).elim
  | standing member own active found =>
      cases beginsToo with
      | fresh _ idle => exact (idle _ member own active).elim
      | standing otherMember _ _ foundToo =>
          obtain rfl := same member own active otherMember named namedToo
          obtain rfl := known found foundToo
          exact ⟨rfl, rfl, rfl, fun whole trail => ⟨[], whole, rfl, trail, nofun⟩⟩
      | overdue otherMember _ _ foundToo _ isDelay =>
          obtain rfl := same member own active otherMember named namedToo
          obtain rfl := known found foundToo
          exact (Flow.Graph.not_isDelay_undelayed isDelay).elim
  | @overdue _ graph row target member own active found ready isDelay next =>
      cases beginsToo with
      | fresh _ idle => exact (idle _ member own active).elim
      | standing otherMember _ _ foundToo =>
          obtain rfl := same member own active otherMember named namedToo
          obtain rfl := known found foundToo
          have input_eq : TurnInput.ofMessage message row.waiting =
              TurnInput.ofMessage message false := by
            rw [ready]
          refine ⟨rfl, input_eq, by rw [input_eq]; rfl, ?_⟩
          intro whole trail
          obtain ⟨node, isNode, kind⟩ := isDelay
          have isNodeToo : graph.undelayed.node? row.node = some node.undelayed := by
            rw [Flow.Graph.node?_undelayed, isNode, Option.map_some]
          have begins := Flow.Graph.Trail.eq trail isNodeToo
          rw [Flow.Graph.exit_undelayed_of_delay kind, Flow.Graph.id_of_node? isNode, next]
            at begins
          obtain ⟨rest, further, rfl⟩ := begins
          refine ⟨[_], rest, rfl, further, ?_⟩
          intro leg passed
          rw [List.mem_singleton.mp passed]
          simp [Flow.Node.undelayed, Flow.NodeKind.undelayed, kind]
      | overdue otherMember _ _ foundToo _ isDelay =>
          obtain rfl := same member own active otherMember named namedToo
          obtain rfl := known found foundToo
          exact (Flow.Graph.not_isDelay_undelayed isDelay).elim

theorem flow_execution : opening.execution.flow = opening.row.flow := by
  rw [execution]
  split <;> rfl

/-- The turn of a message is given what the message brings along. -/
theorem input_of_begins (begins : site.Begins scene (.message message) opening) :
    opening.input.text = message.text ∧ opening.input.displayName = message.displayName := by
  cases begins <;> exact ⟨rfl, rfl⟩

/-- A turn does not begin at a delay where it waits for a reply. -/
theorem ready_of_begins
    (unparked : ∀ row ∈ scene.store.executions, row.conversation = message.conversation →
      row.status = .active → row.waiting = true →
      ∀ graph, site.library.get row.flow = .ok graph → ¬ graph.IsDelay row.node)
    (begins : site.Begins scene (.message message) opening)
    (waits : opening.execution.waiting = true) :
    ¬ opening.graph.IsDelay opening.execution.node := by
  cases begins with
  | fresh => cases waits
  | standing member own active known => exact unparked _ member own active waits _ known
  | overdue _ _ _ _ ready =>
      have waits : _ = true := waits
      exact absurd (waits.symm.trans ready) nofun

end Opening

/-! ## Messages -/

namespace Engine

variable {σ : Type} {site : Site} {cast : Cast σ} {engine : Engine} {message : InboundMessage}
  {scene : Scene} {state : σ} {after last whole : Transcript σ} {report single : TurnReport}

/-- Nodes that do nothing have nothing to say. -/
theorem recite_of_manual
    {legs : List Leg}
    (manual : ∀ leg ∈ legs, leg.node.kind = .manual)
    (recital : Recital σ) :
    recital.recite engine cast legs = recital := by
  induction legs with
  | nil => rfl
  | cons leg legs inductionHypothesis =>
      have idle : recital.speak engine cast leg.node = recital := by
        simp [Recital.speak, manual leg List.mem_cons_self]
      rw [Recital.recite, List.foldl_cons, idle]
      exact inductionHypothesis fun other member => manual other (List.mem_cons_of_mem _ member)

/-- All that is sent while continuations are delivered was tried to be sent. -/
theorem Delivers.exists_sent
    {scheduled : Option Continuation}
    {before : Transcript σ}
    (calm : ∀ fault, ¬ site.faults fault)
    (delivers : engine.Delivers site cast scheduled before last) :
    ∃ lines, last.scene.sent = before.scene.sent ++ lines ∧
      last.lines = before.lines ++ lines := by
  induction delivers with
  | nothing => exact ⟨[], (List.append_nil _).symm, (List.append_nil _).symm⟩
  | delivered resumes _ _ _ inductionHypothesis =>
      obtain ⟨early, sent_eq, lines_eq⟩ := Site.Obliges.exists_sent_of_ends calm resumes
      obtain ⟨late, sent_eq', lines_eq'⟩ := inductionHypothesis
      refine ⟨early ++ late, ?_, ?_⟩
      · rw [sent_eq', sent_eq, List.append_assoc]
      · rw [lines_eq', lines_eq, List.append_assoc]

/-- A delay only postpones what is said, and forgets the user's name.  All that is sent when a
message is processed, and when each continuation of its turns is delivered once, is what is sent
when the message is processed where delays do nothing, except that behind the first delay where the
turn stops it is said without the user's name. -/
theorem only_postponed
    (calm : ∀ fault, ¬ site.faults fault)
    (filed : site.library.Filed)
    (kept : scene.store.WellKept)
    (unparked : ∀ row ∈ scene.store.executions, row.conversation = message.conversation →
      row.status = .active → row.waiting = true →
      ∀ graph, site.library.get row.flow = .ok graph → ¬ graph.IsDelay row.node)
    (handles : Ends (site.Obliges cast.manner) (engine.handleInbound message) { scene, state }
      (.ok (.processed report)) after)
    (unlimited : report.hopLimit = false)
    (delivers : engine.Delivers site cast report.scheduled after last)
    (handlesToo : Ends (site.undelayed.Obliges cast.manner) (engine.handleInbound message)
      { scene, state } (.ok (.processed single)) whole)
    (unlimitedToo : single.hopLimit = false) :
    ∃ (start : Recital σ) (front back : List Leg),
      start.text = message.text ∧ start.displayName = message.displayName ∧ start.lines = [] ∧
      report.visited = (front.map fun leg => leg.node.id) ∧
      ((front ++ back).map fun leg => leg.node.id) <:+ single.visited ∧
      last.scene.sent = scene.sent ++
        ((start.recite engine cast front).nameless.recite engine cast back).lines ∧
      whole.scene.sent = scene.sent ++ (start.recite engine cast (front ++ back)).lines ∧
      (message.displayName = none → last.scene.sent = whole.scene.sent) := by
  obtain ⟨opening, stored, begins, named, leaves⟩ := exists_leaves_of_processed kept handles
  obtain ⟨other, storedToo, beginsToo, namedToo, leavesToo⟩ :=
    exists_leaves_of_processed kept handlesToo
  obtain ⟨graph_eq, input_eq, prologue_eq, joins⟩ :=
    Opening.shadows_of_begins kept begins named beginsToo namedToo
  have stays := Opening.ready_of_begins unparked begins
  have known : site.library.get opening.execution.flow = .ok opening.graph := by
    rw [Opening.flow_execution]
    exact Opening.known_of_begins filed begins
  obtain ⟨text_eq, name_eq⟩ := Opening.input_of_begins begins
  have trail : opening.graph.Trail opening.input.text opening.input.isReply
      opening.execution.node (opening.way engine) := by
    apply Flow.Graph.trail_of_route
    exact leaves.reports.hopLimit_eq.symm.trans unlimited
  have trailToo : other.graph.Trail other.input.text other.input.isReply other.execution.node
      (other.way engine) := by
    apply Flow.Graph.trail_of_route
    exact leavesToo.reports.hopLimit_eq.symm.trans unlimitedToo
  generalize opening.way engine = front at leaves trail
  generalize other.way engine = straight at leavesToo trailToo
  rw [graph_eq, input_eq] at trailToo
  obtain ⟨passed, rest, rfl, trailRest, manual⟩ := joins straight trailToo
  have knownStored : site.library.get stored.flow = .ok opening.graph := by
    rw [leaves.flow_eq]
    exact known
  obtain ⟨back, lines_eq, ended, straight⟩ := delivers.exists_legs leaves.kept leaves.member
    knownStored fun _ scheduled =>
      leaves.awaits_item trail (Opening.active_execution begins) stays known scheduled
  have nodes_eq := trail.nodes_append leaves.awaits.target_eq ended straight trailRest
  have ids_eq : (rest.map fun leg => leg.node.id) = (front ++ back).map fun leg => leg.node.id := by
    have ids_eq := congrArg (List.map Flow.Node.id) nodes_eq
    simpa [Flow.Graph.undelayedNodes, Function.comp_def] using ids_eq
  -- The whole turn says what the parts have to say, with the name throughout.
  have wholly : (Turn.prologue opening.execution opening.input { scene, state }).recite engine cast
      (front ++ back) = Turn.prologue storedToo.toExecution other.input whole := by
    rw [← leavesToo.said, prologue_eq, Recital.recite_append _ _ _ passed, recite_of_manual manual,
      Turn.recite_congr nodes_eq]
  have nameless : ((Turn.prologue opening.execution opening.input { scene, state }).recite engine
      cast front).nameless =
        Turn.prologue stored.toExecution { text := opening.input.text } after := by
    rw [leaves.said]
    rfl
  obtain ⟨early, sent_eq, early_eq⟩ := Site.Obliges.exists_sent_of_ends calm handles
  obtain ⟨late, lastSent_eq, late_eq⟩ := delivers.exists_sent calm
  have calmToo : ∀ fault, ¬ site.undelayed.faults fault := calm
  obtain ⟨all, wholeSent_eq, all_eq⟩ := Site.Obliges.exists_sent_of_ends calmToo handlesToo
  have lastLines : last.scene.sent = scene.sent ++ last.lines := by
    rw [lastSent_eq, sent_eq, late_eq, early_eq, List.append_assoc]
    rfl
  have wholeLines : whole.scene.sent = scene.sent ++ whole.lines := by
    rw [wholeSent_eq, all_eq]
    rfl
  refine ⟨Turn.prologue opening.execution opening.input { scene, state }, front, back, text_eq,
    name_eq, rfl, leaves.reports.visited_eq, ?_, ?_, ?_, ?_⟩
  · have visited_eq : single.visited = (passed.map fun leg => leg.node.id) ++
        (front ++ back).map fun leg => leg.node.id := by
      rw [leavesToo.reports.visited_eq, ← ids_eq, List.map_append]
    rw [visited_eq]
    exact List.suffix_append _ _
  · rw [lastLines, nameless, lines_eq]
  · rw [wholeLines, wholly]
    rfl
  · intro unnamed
    have same : ((Turn.prologue opening.execution opening.input { scene, state }).recite engine
        cast front).nameless =
          (Turn.prologue opening.execution opening.input { scene, state }).recite engine cast
            front := by
      rw [leaves.said]
      exact Recital.ext rfl rfl (name_eq.trans unnamed).symm rfl rfl rfl rfl
    have lines : last.lines = whole.lines := by
      rw [lines_eq, ← nameless, same, ← Recital.recite_append, wholly]
      rfl
    rw [lastLines, wholeLines, lines]

end Engine

/-! ## A greeting -/

/-- A flow that greets the user by name, after a while. -/
def Flow.Graph.greeting : Flow.Graph where
  definition := (((Definition.blank "greeting").addNode ⟨"start", .start, []⟩).addDelay "pause"
    5).addMessage "greet" "Hi \x7b\x7bname\x7d\x7d" |>.chain ["start", "pause", "greet"]
  start := ⟨"start", .start, []⟩
  sound := by decide
  start_found := rfl

/-- A site with that flow, where nothing fails. -/
def Site.greeting : Site where
  library := .ofFlows [.greeting] [{ device := "1", flow := "greeting" }]
  faults _ := False
  clock _ := True

/-- A message of a user with a name. -/
def InboundMessage.ofAna : InboundMessage where
  conversation := { phone := "2", device := "1" }
  text := "go"
  displayName := some "Ana"

/-- What her message queues. -/
def Continuation.ofAna : Continuation where
  execution := ""
  flow := "greeting"
  target := "greet"
  conversation := { phone := "2", device := "1" }
  payload := "go"
  due := ⟨5000000000⟩

/-- What is reported when her message is processed. -/
def TurnReport.ofAna : TurnReport where
  execution := ""
  flow := "greeting"
  visited := ["start", "pause"]
  dispatched := 0
  final := "pause"
  waiting := false
  completed := false
  scheduled := some .ofAna
  hopLimit := false

/-- What is reported when the continuation is delivered. -/
def TurnReport.ofAnaResumed : TurnReport :=
  { ofAna with
    visited := ["greet"], dispatched := 1, final := "end", completed := true, scheduled := none }

/-- What is reported when her message is processed where delays do nothing. -/
def TurnReport.ofAnaUndelayed : TurnReport :=
  { ofAnaResumed with visited := ["start", "pause", "greet"] }

namespace Engine

/-- Nothing has happened yet. -/
def ungreeted : Transcript (List String) where
  scene := {}
  state := []

/-- Her message is processed. -/
def greetLater : Except Fault InboundOutcome × Transcript (List String) :=
  (handleInbound {} .ofAna).run (Site.greeting.answerBy ⟨0⟩ .ofReplies) ungreeted

/-- The continuation is delivered. -/
def greetAtLast : Except Fault ResumeOutcome × Transcript (List String) :=
  (resume {} .ofAna).run (Site.greeting.answerBy ⟨0⟩ .ofReplies) greetLater.2

/-- Her message is processed where delays do nothing. -/
def greetAtOnce : Except Fault InboundOutcome × Transcript (List String) :=
  (handleInbound {} .ofAna).run (Site.greeting.undelayed.answerBy ⟨0⟩ .ofReplies) ungreeted

theorem ends_greetLater :
    Ends (Site.greeting.Obliges Cast.ofReplies.manner) (handleInbound {} .ofAna) ungreeted
      (.ok (.processed .ofAna)) greetLater.2 := by
  have result : greetLater.1 = .ok (.processed .ofAna) := by decide +kernel
  rw [← result]
  exact Site.ends_answerBy trivial Cast.fits_ofReplies _ _ (by decide +kernel)

theorem delivers_greetAtLast :
    Delivers {} Site.greeting Cast.ofReplies (some .ofAna) greetLater.2 greetAtLast.2 := by
  have result : greetAtLast.1 = .ok (.resumed .ofAnaResumed) := by decide +kernel
  have resumes : Ends (Site.greeting.Obliges Cast.ofReplies.manner) (resume {} .ofAna) greetLater.2
      (.ok (.resumed .ofAnaResumed)) greetAtLast.2 := by
    rw [← result]
    exact Site.ends_answerBy trivial Cast.fits_ofReplies _ _ (by decide +kernel)
  refine .delivered resumes nofun ?_ .nothing
  rintro _ ⟨⟩
  rfl

theorem ends_greetAtOnce :
    Ends (Site.greeting.undelayed.Obliges Cast.ofReplies.manner) (handleInbound {} .ofAna)
      ungreeted (.ok (.processed .ofAnaUndelayed)) greetAtOnce.2 := by
  have result : greetAtOnce.1 = .ok (.processed .ofAnaUndelayed) := by decide +kernel
  rw [← result]
  exact Site.ends_answerBy trivial Cast.fits_ofReplies _ _ (by decide +kernel)

theorem only_postponed_greeting :
    ∃ (start : Recital (List String)) (front back : List Leg),
      start.displayName = some "Ana" ∧
      greetAtLast.2.scene.sent =
        ((start.recite {} .ofReplies front).nameless.recite {} .ofReplies back).lines ∧
      greetAtOnce.2.scene.sent = (start.recite {} .ofReplies (front ++ back)).lines := by
  obtain ⟨start, front, back, _, name_eq, _, _, _, sent_eq, wholeSent_eq, _⟩ :=
    only_postponed (fun _ shown => shown) (Flow.Library.filed_ofFlows _ _) Store.wellKept_empty
      (by rintro _ ⟨⟩) ends_greetLater rfl delivers_greetAtLast ends_greetAtOnce rfl
  exact ⟨start, front, back, name_eq, sent_eq, wholeSent_eq⟩

/-- The user is greeted by name where delays do nothing, and without a name behind the delay. -/
theorem postponed_nameless_greeting :
    Ends (Site.greeting.Obliges Cast.ofReplies.manner) (handleInbound {} .ofAna) ungreeted
      (.ok (.processed .ofAna)) greetLater.2 ∧
    Delivers {} Site.greeting Cast.ofReplies (some .ofAna) greetLater.2 greetAtLast.2 ∧
    Ends (Site.greeting.undelayed.Obliges Cast.ofReplies.manner) (handleInbound {} .ofAna)
      ungreeted (.ok (.processed .ofAnaUndelayed)) greetAtOnce.2 ∧
    greetAtLast.2.scene.sent.map Rehearsal.Sent.body = ["Hi \x7b\x7bname\x7d\x7d"] ∧
    greetAtOnce.2.scene.sent.map Rehearsal.Sent.body = ["Hi Ana"] :=
  ⟨ends_greetLater, delivers_greetAtLast, ends_greetAtOnce, by decide +kernel, by decide +kernel⟩

end Engine
end ChatFlow
