import ChatFlow.Proofs.Engine.Requests

/-!
# How requests are served

A property that holds however a request opens, and that the moves of the turn keep, holds from
there on; before, the scene is untouched.  This is proved for messages and for continuations, and
carried over the lock that both are served under.
-/

namespace ChatFlow

open Process

/-- What is read well when errors count as faults is read well. -/
theorem eq_ok_of_mapError
    {result : Except Error α}
    {value : α}
    (same : result.mapError Fault.error = .ok value) :
    result = .ok value := by
  cases result with
  | error error => cases same
  | ok other =>
      cases same
      rfl

/-- A call reads something of a scene, or fails. -/
def Site.Reads
    (site : Site) (scene : Scene) (served outcome : Except Fault α) (after : Scene) : Prop :=
  after = scene ∧ (outcome = served ∨ ∃ fault, site.faults fault ∧ outcome = .error fault)

section Reading

variable {site : Site} {scene after : Scene} {served outcome : Except Fault α}

/-- A call without an effect reads. -/
theorem Site.reads_of_inversion
    (inverted :
      (∃ now, ∃ _ : Choice, site.clock now ∧ outcome = served ∧ after = scene) ∨
      ∃ fault, site.faults fault ∧ some (.error fault) = some outcome ∧
        (after = scene ∨ ∃ now, ∃ _ : Choice, site.clock now ∧ after = scene)) :
    site.Reads scene served outcome after := by
  rcases inverted with ⟨_, _, _, same, rfl⟩ | ⟨fault, shown, fails, rfl | ⟨_, _, _, rfl⟩⟩
  · exact ⟨rfl, .inl same⟩
  · cases fails
    exact ⟨rfl, .inr ⟨fault, shown, rfl⟩⟩
  · cases fails
    exact ⟨rfl, .inr ⟨fault, shown, rfl⟩⟩

/-- What follows a reading is safe when it is safe with what was read. -/
theorem Site.Reads.safe
    {invariant : Scene → Prop}
    {post : Except Fault β → Scene → Prop}
    {next : α → Process β}
    (reads : site.Reads scene served outcome after)
    (holds : invariant scene)
    (rest : ∀ value, served = .ok value →
      (next value).Safe site.Answers invariant post scene)
    (halts : ∀ fault, site.faults fault ∨ served = .error fault → post (.error fault) scene) :
    ((orHalt outcome).andThen next).Safe site.Answers invariant post after := by
  obtain ⟨rfl, rfl | ⟨fault, shown, rfl⟩⟩ := reads
  · cases outcome with
    | ok value => exact rest value rfl
    | error fault => exact ⟨holds, halts fault (.inr rfl)⟩
  · exact ⟨holds, halts fault (.inl shown)⟩

end Reading

namespace Site.Answers

variable {site : Site} {scene after : Scene} {conversation : Conversation} {id node : String}

theorem activeExecution
    {outcome : Except Fault (Option Execution)}
    (answered : site.Answers (.activeExecution conversation) scene outcome after) :
    site.Reads scene (.ok (scene.store.active? conversation)) outcome after :=
  reads_of_inversion answered.inversion

theorem executionById
    {outcome : Except Fault (Option Execution)}
    (answered : site.Answers (.executionById id) scene outcome after) :
    site.Reads scene (.ok (scene.store.byId? id)) outcome after :=
  reads_of_inversion answered.inversion

theorem latestExecution
    {flow : String}
    {outcome : Except Fault (Option Execution)}
    (answered : site.Answers (.latestExecution conversation flow) scene outcome after) :
    site.Reads scene (.ok (scene.store.latest? conversation flow)) outcome after :=
  reads_of_inversion answered.inversion

theorem flow
    {outcome : Except Fault Flow.Graph}
    (answered : site.Answers (.flow id) scene outcome after) :
    site.Reads scene ((site.library.get id).mapError .error) outcome after :=
  reads_of_inversion answered.inversion

theorem resolveFlow
    {device input : String}
    {outcome : Except Fault (Option Flow.Graph)}
    (answered : site.Answers (.resolveFlow device input) scene outcome after) :
    site.Reads scene ((site.library.resolve device input).mapError .error) outcome after :=
  reads_of_inversion answered.inversion

/-- The clock shows one of its times, and nothing else happens. -/
theorem now
    {time : Instant}
    (answered : site.Answers .now scene time after) :
    after = scene ∧ site.clock time := by
  rcases answered.inversion with ⟨_, _, onClock, rfl, rfl⟩ | ⟨_, _, fails, _⟩
  · exact ⟨rfl, onClock⟩
  · cases fails

/-- To publish an event touches nothing else. -/
theorem publish
    {event : Event}
    {outcome : Unit}
    (answered : site.Answers (.publish event) scene outcome after) :
    scene.Untouched after := by
  rcases answered.effect with rfl | ⟨_, _, _, rfl⟩
  · exact .refl _
  · exact ⟨rfl, rfl, rfl, rfl, rfl⟩

/-- To take or to release a lock touches nothing else. -/
theorem untouched_of_isLock
    {request : Call}
    {outcome : request.Outcome}
    (answered : site.Answers request scene outcome after)
    (isLock : request.isLock = true) :
    scene.Untouched after := by
  rcases answered.effect with rfl | ⟨_, choice, _, rfl⟩
  · exact .refl _
  · cases request with
    | acquire conversation =>
        unfold Scene.serve
        split
        · exact .refl _
        · simp only [Scene.withStore, Store.acquireAt]
          split
          · exact ⟨rfl, rfl, rfl, rfl, rfl⟩
          · split <;> exact ⟨rfl, rfl, rfl, rfl, rfl⟩
    | release conversation => exact ⟨rfl, rfl, rfl, rfl, rfl⟩
    | _ => cases isLock

/-- A call about a lock shows what callees show. -/
theorem shows_of_isLock
    {request : Call}
    {outcome : request.Outcome}
    (answered : site.Answers request scene outcome after)
    (isLock : request.isLock = true) :
    site.Shows request outcome := by
  refine answered.shows ?_
  intro now choice onClock
  cases request with
  | acquire conversation =>
      unfold Scene.serve
      split <;> exact fun fault same => by cases same
  | release conversation => exact fun fault same => by cases same
  | _ => cases isLock

/-- For an idle conversation an execution is created, unless the call fails. -/
theorem createExecution
    {outcome : Except Fault Execution}
    (idle : ∀ row ∈ scene.store.executions, row.conversation = conversation →
      row.status ≠ .active)
    (answered : site.Answers (.createExecution conversation id node) scene outcome after) :
    (∃ stamp : Stamp, site.clock stamp.now ∧
      (∀ row ∈ scene.store.executions, row.id ≠ stamp.freshId) ∧
      after = scene.withStore { scene.store with
        executions := scene.store.executions ++ [Store.freshRow stamp conversation id node] } ∧
      (outcome = .ok (Store.freshRow stamp conversation id node).toExecution ∨
        ∃ fault, site.faults fault ∧ outcome = .error fault)) ∨
    after = scene ∧ ∃ fault, outcome = .error fault ∧
      (site.faults fault ∨ ∃ text, fault = .error (.executionNotFound text)) := by
  have created (now : Instant) (choice : Choice) :
      (∃ text, scene.serve site.library site.stale now choice
        (.createExecution conversation id node) =
          (.error (.error (.executionNotFound text)), scene)) ∨
      (∀ row ∈ scene.store.executions, row.id ≠ choice.freshId) ∧
        scene.serve site.library site.stale now choice (.createExecution conversation id node) =
          (.ok (Store.freshRow ⟨now, choice.freshId⟩ conversation id node).toExecution,
            scene.withStore { scene.store with
              executions := scene.store.executions ++
                [Store.freshRow ⟨now, choice.freshId⟩ conversation id node] }) := by
    rcases Store.create_of_idle ⟨now, choice.freshId⟩ id node idle with
      ⟨text, taken⟩ | ⟨unused, added⟩
    · refine .inl ⟨text, ?_⟩
      simp only [Scene.serve, taken]
      rfl
    · refine .inr ⟨unused, ?_⟩
      simp only [Scene.serve, added]
      rfl
  rcases answered.inversion with ⟨now, choice, onClock, rfl, rfl⟩ |
    ⟨fault, shown, fails, rfl | ⟨now, choice, onClock, rfl⟩⟩
  · rcases created now choice with ⟨text, same⟩ | ⟨unused, same⟩
    · rw [same]
      exact .inr ⟨rfl, _, rfl, .inr ⟨text, rfl⟩⟩
    · rw [same]
      exact .inl ⟨_, onClock, unused, rfl, .inl rfl⟩
  · cases fails
    exact .inr ⟨rfl, fault, rfl, .inl shown⟩
  · cases fails
    rcases created now choice with ⟨text, same⟩ | ⟨unused, same⟩
    · rw [same]
      exact .inr ⟨rfl, fault, rfl, .inl shown⟩
    · rw [same]
      exact .inl ⟨_, onClock, unused, rfl, .inr ⟨fault, shown, rfl⟩⟩

end Site.Answers

/-! ## Turns -/

namespace Site

variable {site : Site} {engine : Engine} {scene middle : Scene} {request : Request}
  {graph : Flow.Graph} {row : ExecutionRow} {property : Scene → Prop}

/-- However a request opens, the turn stands at its row. -/
theorem Opens.stands
    {execution : Execution}
    (sound : site.library.Sound scene)
    (opens : site.Opens engine scene request graph row middle)
    (id_eq : row.id = execution.id)
    (flow_eq : row.flow = execution.flow)
    (conversation_eq : row.conversation = execution.conversation)
    (node_eq : row.node = execution.node) :
    Turn.Stands site graph execution row middle := by
  cases opens with
  | fresh onClock idle unused known =>
      exact
        { kept := sound.kept.append (fun other member => unused other member) idle
          member := List.mem_append.mpr (.inr (List.mem_singleton.mpr rfl))
          active := rfl
          id_eq, flow_eq, conversation_eq, node_eq
          known := known
          placed := ⟨graph.start, graph.node?_start.1⟩
          arrived := fun isDelay => (graph.not_isDelay_start isDelay).elim }
  | standing member active known last =>
      obtain ⟨placed, _⟩ := sound.placed row member active graph known
      exact
        { kept := sound.kept
          member, active
          id_eq, flow_eq, conversation_eq, node_eq
          known := known
          placed
          arrived := fun isDelay => .inl (last isDelay) }
  | overdue onClock laterOnClock member active ready known found kind late next =>
      exact
        { kept := sound.kept.replace member active rfl rfl rfl
          member := Store.mem_replace_self member rfl
          active
          id_eq, flow_eq, conversation_eq, node_eq
          known := known
          placed := Flow.Graph.exists_target (Flow.Graph.hasEdge_of_nextTarget? next)
          arrived := fun _ => .inr ⟨rfl, _, laterOnClock, rfl⟩ }
  | wake onClock member awaits =>
      exact
        { kept := sound.kept.replace member awaits.active rfl rfl rfl
          member := Store.mem_replace_self member rfl
          active := awaits.active
          id_eq, flow_eq, conversation_eq, node_eq
          known := awaits.known
          placed := Flow.Graph.exists_target awaits.edge
          arrived := fun _ => .inr ⟨rfl, _, onClock, rfl⟩ }

end Site

namespace Engine

variable {site : Site} {engine : Engine} {scene middle : Scene} {message : InboundMessage}
  {item : Continuation} {graph : Flow.Graph} {row : ExecutionRow} {property : Scene → Prop}

/-- A turn that a message starts keeps what the moves of the turn keep. -/
theorem accept_safe
    {execution : Execution}
    (stands : Turn.Stands site graph execution row scene)
    (kept : Turn.Kept engine site graph row.id property)
    (holds : property scene)
    (input : TurnInput) :
    (engine.accept graph execution input).Safe site.Answers property
      (fun result _ => site.Yields engine (fun outcome => ∃ report, outcome = .processed report)
        result)
      scene := by
  refine kept.safe_step rfl holds ?_
  intro _ accepted answered still
  have stood := stands.aside (answered.of_isAside rfl).1
  rw [stands.id_eq] at kept
  refine (Turn.perform_safe kept stood still input).andThen ?_ fun _ _ _ halts => halts
  intro report performed keeps _
  exact ⟨keeps, report, rfl⟩

/-- A delay is found overdue only when it is, and nothing is done to find out. -/
theorem isOverdue_safe
    (holds : property scene)
    (execution : Execution)
    (node : Flow.Node) :
    (engine.isOverdue execution node).Safe site.Answers property
      (fun result after => after = scene ∧
        match result with
        | .ok overdue => overdue = true →
            ∃ now, site.clock now ∧ execution.updated.after (engine.patience node) < now
        | .error fault => ∃ text, fault = .panic text)
      scene := by
  unfold isOverdue
  dsimp only
  split
  · exact ⟨holds, rfl, _, rfl⟩
  · split
    · refine ⟨holds, fun now after answered => ?_⟩
      obtain ⟨rfl, onClock⟩ := answered.now
      show (ite _ _ _ : Process Bool).Safe _ _ _ _
      split
      · exact ⟨holds, rfl, fun late => ⟨now, onClock, of_decide_eq_true late⟩⟩
      · exact ⟨holds, rfl, _, rfl⟩
    · exact ⟨holds, rfl, nofun⟩

/-- A fault with which a message is given up. -/
def Stops (engine : Engine) (site : Site) (scene : Scene) (message : InboundMessage)
    (fault : Fault) : Prop :=
  site.Halts engine fault ∨ (∃ text, fault = .panic text) ∨
    (∃ text, fault = .error (.executionNotFound text)) ∨
    (∀ row ∈ scene.store.executions, row.conversation = message.conversation →
      row.status ≠ .active) ∧
    ∃ error, site.library.resolve message.conversation.device message.text = .error error ∧
      fault = .error error

/-- What a message does to a scene that it finds: nothing until a turn begins, and then what the
turn does. -/
abbrev Processes
    (engine : Engine) (site : Site) (scene : Scene) (message : InboundMessage)
    (property : Scene → Prop) (process : Process InboundOutcome) (before : Scene) : Prop :=
  process.Safe site.Answers (fun after => scene.Untouched after ∨ property after)
    (fun result _ =>
      match result with
      | .ok outcome => ∀ text, outcome ≠ .failed text
      | .error fault => engine.Stops site scene message fault)
    before

theorem accept_processes
    {execution : Execution}
    (sound : site.library.Sound scene)
    (opening : ∀ graph row middle, site.Opens engine scene (.message message) graph row middle →
      property middle ∧ Turn.Kept engine site graph row.id property)
    (opens : site.Opens engine scene (.message message) graph row middle)
    (id_eq : row.id = execution.id)
    (flow_eq : row.flow = execution.flow)
    (conversation_eq : row.conversation = execution.conversation)
    (node_eq : row.node = execution.node)
    (input : TurnInput) :
    Processes engine site scene message property (engine.accept graph execution input) middle := by
  obtain ⟨holds, kept⟩ := opening graph row middle opens
  refine (accept_safe (opens.stands sound id_eq flow_eq conversation_eq node_eq) kept holds
    input).relax (fun _ keeps => .inr keeps) ?_
  rintro (fault | _) _ _ yields
  · exact .inl yields
  · obtain ⟨report, rfl⟩ := yields
    exact nofun

theorem begin_processes
    (filed : site.library.Filed)
    (sound : site.library.Sound scene)
    (opening : ∀ graph row middle, site.Opens engine scene (.message message) graph row middle →
      property middle ∧ Turn.Kept engine site graph row.id property)
    (idle : ∀ row ∈ scene.store.executions, row.conversation = message.conversation →
      row.status ≠ .active) :
    Processes engine site scene message property (engine.begin message) scene := by
  refine ⟨.inl (.refl _), fun outcome after answered => ?_⟩
  refine answered.resolveFlow.safe (.inl (.refl _)) ?_ ?_
  · intro resolved? same
    cases resolved? with
    | none => exact ⟨.inl (.refl _), nofun⟩
    | some graph =>
        have known := Flow.Library.get_of_resolve filed (eq_ok_of_mapError same)
        refine ⟨.inl (.refl _), fun outcome after answered => ?_⟩
        rcases answered.createExecution idle with
          ⟨stamp, onClock, unused, rfl, rfl | ⟨fault, shown, rfl⟩⟩ |
          ⟨rfl, fault, rfl, refused⟩
        · exact accept_processes sound opening (.fresh onClock idle unused known) rfl rfl rfl rfl _
        · have opened := opening _ _ _ (.fresh onClock idle unused known)
          exact ⟨.inr opened.1, .inl (.inl shown)⟩
        · refine ⟨.inl (.refl _), ?_⟩
          rcases refused with shown | missing
          · exact .inl (.inl shown)
          · exact .inr (.inr (.inl missing))
  · intro fault refused
    rcases refused with shown | same
    · exact .inl (.inl shown)
    · refine .inr (.inr (.inr ⟨idle, ?_⟩))
      cases found : site.library.resolve message.conversation.device message.text with
      | error error =>
          simp only [found, Except.mapError, Except.error.injEq] at same
          exact ⟨error, rfl, same.symm⟩
      | ok other => simp [found, Except.mapError] at same

theorem interrupt_processes
    (sound : site.library.Sound scene)
    (opening : ∀ graph row middle, site.Opens engine scene (.message message) graph row middle →
      property middle ∧ Turn.Kept engine site graph row.id property)
    (member : row ∈ scene.store.executions)
    (active : row.status = .active)
    (sameConversation : row.conversation = message.conversation)
    (known : site.library.get row.flow = .ok graph)
    (ready : row.waiting = false) :
    Processes engine site scene message property
      (engine.interrupt graph row.toExecution message) scene := by
  obtain ⟨⟨node, found⟩, _⟩ := sound.placed row member active graph known
  have required : graph.require row.toExecution.node = .ok node :=
    Flow.Graph.require_eq_ok found
  have sameNode := Flow.Graph.id_of_node? found
  have delayed := Flow.Graph.isDelay_iff found
  unfold interrupt
  simp only [required, bind_eq_andThen, orFail, andThen_done]
  split
  · rename_i passed
    exact accept_processes sound opening
      (.standing member active known fun isDelay => (passed (delayed.mp isDelay)).elim)
      rfl rfl rfl rfl _
  · rename_i notPassed
    have kind : node.kind = .delay := not_not.mp notPassed
    refine (isOverdue_safe (.inl (.refl _)) row.toExecution node).andThen ?_ ?_
    · rintro overdue _ _ ⟨rfl, late⟩
      cases overdue with
      | false =>
          refine ⟨.inl (.refl _), fun _ after answered => ?_⟩
          exact ⟨.inl answered.publish, by simp⟩
      | true =>
          obtain ⟨now, onClock, late⟩ := late rfl
          rw [sameNode]
          cases next : graph.nextTarget? row.node with
          | none =>
              exact accept_processes sound opening (.standing member active known fun _ => next)
                rfl rfl rfl rfl _
          | some target =>
              refine ⟨.inl (.refl _), fun outcome after answered => ?_⟩
              refine (answered.advance sound.kept member active sameConversation rfl).safe
                (.inl (.refl _)) ?_ fun _ _ shown => .inl (.inl shown)
              intro later laterOnClock
              exact accept_processes sound opening
                (.overdue onClock laterOnClock member active ready known found kind late next)
                rfl rfl rfl rfl _
    · rintro fault _ _ ⟨rfl, panics⟩
      exact .inr (.inl panics)

/-- From a message whose conversation is locked, what holds however it opens, and is kept by the
turn, holds once a turn has begun; nothing happens before. -/
theorem process_safe
    (filed : site.library.Filed)
    (sound : site.library.Sound scene)
    (opening : ∀ graph row middle, site.Opens engine scene (.message message) graph row middle →
      property middle ∧ Turn.Kept engine site graph row.id property) :
    Processes engine site scene message property (engine.process message) scene := by
  refine ⟨.inl (.refl _), fun outcome after answered => ?_⟩
  refine answered.activeExecution.safe (.inl (.refl _)) ?_ ?_
  · intro active? same
    cases found : scene.store.active? message.conversation with
    | none =>
        rw [found] at same
        cases same
        exact begin_processes filed sound opening fun row member =>
          Store.of_active?_eq_none found member
    | some execution =>
        rw [found] at same
        cases same
        obtain ⟨row, member, sameConversation, active, rfl⟩ := Store.of_active?_eq_some found
        obtain ⟨graph, known⟩ := sound.known row member
        refine ⟨.inl (.refl _), fun outcome after answered => ?_⟩
        refine answered.flow.safe (.inl (.refl _)) ?_ ?_
        · intro other same
          have sameGraph : graph = other := by
            simpa [ExecutionRow.toExecution, known, Except.mapError] using same
          subst sameGraph
          split
          · rename_i waiting
            exact accept_processes sound opening
              (.standing member active known fun isDelay =>
                (sound.parked row member active waiting graph known isDelay).elim)
              rfl rfl rfl rfl _
          · rename_i notWaiting
            exact interrupt_processes sound opening member active sameConversation known
              (Bool.eq_false_iff.mpr notWaiting)
        · intro fault refused
          rcases refused with shown | missing
          · exact .inl (.inl shown)
          · simp [ExecutionRow.toExecution, known, Except.mapError] at missing
  · intro fault refused
    rcases refused with shown | missing
    · exact .inl (.inl shown)
    · cases missing

/-! ## Continuations -/

/-- An execution is parked before a target exactly when it awaits a continuation there. -/
theorem isParkedBefore_iff
    (known : site.library.get row.flow = .ok graph)
    (id_eq : row.id = item.execution) :
    isParkedBefore graph row.toExecution item.target = true ↔
      site.library.Awaits item graph row := by
  simp only [isParkedBefore, Execution.isActive, ExecutionRow.toExecution, Bool.and_eq_true,
    beq_iff_eq, Bool.not_eq_true', Option.any_eq_true]
  constructor
  · rintro ⟨⟨⟨active, ready⟩, node, found, kind⟩, edge⟩
    exact ⟨id_eq, active, ready, known, ⟨node, found, kind⟩, edge⟩
  · intro awaits
    obtain ⟨node, found, kind⟩ := awaits.isDelay
    exact ⟨⟨⟨awaits.active, awaits.ready⟩, node, found, kind⟩, awaits.edge⟩

/-- A fault that a callee showed while a continuation was taken up, as it is reported. -/
def Fails (site : Site) (fault : Fault) : Prop :=
  site.faults fault ∨ ∃ text, site.faults (.panic text) ∧
    fault = .error (.scheduler ("resume panicked: " ++ text))

/-- What becomes of a continuation: it is taken up, or nothing happens because no execution awaits
it or because the conversation is locked, or a callee fails, or its turn meets a wait that cannot
be told. -/
def TakesUp
    (engine : Engine) (site : Site) (scene : Scene) (item : Continuation)
    (property : Scene → Prop) : Except Fault ResumeOutcome → Scene → Prop
  | .ok (.resumed _), after => property after
  | .ok .stale, after => scene.Untouched after ∧
      ∀ graph, ∀ row ∈ scene.store.executions, ¬ site.library.Awaits item graph row
  | .ok .busy, after => scene.Untouched after
  | .ok .missing, _ => False
  | .error fault, after => Fails site fault ∨
      property after ∧ (∃ text, fault = .error (.scheduler text)) ∧ ¬ engine.CanWait site.clock

/-- The execution that a continuation names is found when it is there. -/
theorem executionOf_safe
    (kept : scene.store.WellKept)
    (member : row ∈ scene.store.executions)
    (id_eq : row.id = item.execution)
    (holds : property scene) :
    (executionOf item).Safe site.Answers property
      (fun result after => after = scene ∧
        match result with
        | .ok found => found = some row.toExecution
        | .error fault => site.faults fault)
      scene := by
  refine ⟨holds, fun outcome after answered => ?_⟩
  have reads := answered.executionById
  rw [← id_eq, kept.byId?_eq member] at reads
  refine reads.safe holds ?_ ?_
  · rintro _ ⟨rfl⟩
    exact ⟨holds, rfl, rfl⟩
  · rintro fault (shown | missing)
    · exact ⟨rfl, shown⟩
    · cases missing

/-- From a continuation whose conversation is locked, what holds once it has moved its execution,
and is kept by the turn, holds when it was taken up; nothing happens before. -/
theorem takeUp_safe
    (sound : site.library.Sound scene)
    (member : row ∈ scene.store.executions)
    (id_eq : row.id = item.execution)
    (sameConversation : row.conversation = item.conversation)
    (opening : ∀ graph row middle, site.Opens engine scene (.continuation item) graph row middle →
      property middle ∧ Turn.Kept engine site graph row.id property) :
    (engine.takeUp item).Safe site.Answers (fun after => scene.Untouched after ∨ property after)
      (TakesUp engine site scene item property) scene := by
  obtain ⟨graph, known⟩ := sound.known row member
  have untouched : scene.Untouched scene ∨ property scene := .inl (.refl _)
  refine (executionOf_safe sound.kept member id_eq untouched).andThen ?_ ?_
  · rintro _ scene _ ⟨rfl, rfl⟩
    refine ⟨untouched, fun outcome after answered => ?_⟩
    refine answered.flow.safe untouched ?_ ?_
    · intro other same
      have sameGraph : graph = other := by
        simpa [ExecutionRow.toExecution, known, Except.mapError] using same
      subst sameGraph
      split
      · rename_i parked
        have awaits := (isParkedBefore_iff known id_eq).mp parked
        refine ⟨untouched, fun outcome after answered => ?_⟩
        refine (answered.advance sound.kept member awaits.active sameConversation rfl).safe
          untouched ?_ fun _ _ shown => .inl (.inl shown)
        intro now onClock
        have opens : site.Opens engine scene (.continuation item) graph
            (row.moved now item.target false) _ := .wake onClock member awaits
        obtain ⟨holds, kept⟩ := opening _ _ _ opens
        refine (?_ : Process.Safe site.Answers property _ _ _).relax (fun _ keeps => .inr keeps)
          fun _ _ _ meets => meets
        refine kept.safe_step rfl holds ?_
        intro _ resumed answered still
        have stands : Turn.Stands site graph
            { row.toExecution with node := item.target, last := some row.node }
            (row.moved now item.target false) resumed :=
          (opens.stands sound rfl rfl rfl rfl).aside (answered.of_isAside rfl).1
        refine (Turn.perform_safe kept stands still _).andThen ?_ ?_
        · exact fun report performed keeps _ => ⟨keeps, keeps⟩
        · rintro fault performed keeps (shown | ⟨untold, cannotWait⟩)
          · exact .inl (.inl shown)
          · exact .inr ⟨keeps, untold, cannotWait⟩
      · rename_i notParked
        refine ⟨untouched, .refl _, ?_⟩
        intro graph' row' member' awaits
        obtain rfl := sound.kept.eq_of_id member' member (awaits.id_eq.trans id_eq.symm)
        obtain rfl : graph = graph' := by
          simpa [known] using awaits.known
        exact notParked ((isParkedBefore_iff known id_eq).mpr awaits)
    · rintro fault (shown | missing)
      · exact .inl (.inl shown)
      · simp [ExecutionRow.toExecution, known, Except.mapError] at missing
  · rintro fault _ _ ⟨rfl, shown⟩
    exact .inl (.inl shown)

/-! ## Locks -/

/-- A process under a lock is as safe as it is without one, when nothing of what is proved of it is
about locks and events. -/
theorem underLock_safe
    {process : Process α}
    {post : Except Fault α → Scene → Prop}
    {conversation : Conversation}
    (safe : ∀ locked, scene.Untouched locked →
      process.Safe site.Answers (fun after => scene.Untouched after ∨ property after) post locked)
    (stable : ∀ before after, property before → before.Untouched after → property after)
    (lasting : ∀ result before after, post result before → before.Untouched after →
      post result after) :
    (underLock conversation process).Safe site.Answers
      (fun after => scene.Untouched after ∨ property after)
      (fun result after =>
        match result with
        | .ok (some result) => post result after
        | .ok none => scene.Untouched after
        | .error fault => site.faults fault)
      scene := by
  refine ⟨.inl (.refl _), fun outcome locked answered => ?_⟩
  have touched := answered.untouched_of_isLock rfl
  have shows := answered.shows_of_isLock rfl
  cases outcome with
  | error fault => exact ⟨.inl touched, shows fault rfl⟩
  | ok taken =>
      cases taken with
      | false => exact ⟨.inl touched, touched⟩
      | true =>
          refine (safe locked touched).contain.andThen ?_ ?_
          · rintro result after keeps ⟨_, ⟨⟩, holds⟩
            refine ⟨keeps, fun outcome released answered => ?_⟩
            have left := answered.untouched_of_isLock rfl
            have shows := answered.shows_of_isLock rfl
            have still : scene.Untouched released ∨ property released :=
              keeps.imp (fun same => same.trans left) fun holds => stable after released holds left
            rcases outcome with (error | message) | _
            · exact ⟨still, lasting result after released holds left⟩
            · exact ⟨still, shows _ rfl⟩
            · exact ⟨still, lasting result after released holds left⟩
          · rintro fault after _ ⟨_, ⟨⟩, _⟩

theorem Stops.untouched
    {before : Scene}
    {fault : Fault}
    (stops : engine.Stops site scene message fault)
    (untouched : before.Untouched scene) :
    engine.Stops site before message fault := by
  unfold Stops at stops
  rw [untouched.executions_eq] at stops
  exact stops

theorem TakesUp.untouched
    {before after : Scene}
    {result : Except Fault ResumeOutcome}
    (takesUp : engine.TakesUp site scene item property result after)
    (untouched : before.Untouched scene) :
    engine.TakesUp site before item property result after := by
  match result, takesUp with
  | .ok (.resumed _), holds => exact holds
  | .ok .stale, ⟨same, unawaited⟩ =>
      rw [untouched.executions_eq] at unawaited
      exact ⟨untouched.trans same, unawaited⟩
  | .ok .busy, same => exact untouched.trans same
  | .error _, fails => exact fails

theorem TakesUp.lasts
    {before after : Scene}
    {result : Except Fault ResumeOutcome}
    (takesUp : engine.TakesUp site scene item property result before)
    (stable : ∀ before after, property before → before.Untouched after → property after)
    (untouched : before.Untouched after) :
    engine.TakesUp site scene item property result after := by
  match result, takesUp with
  | .ok (.resumed _), holds => exact stable before after holds untouched
  | .ok .stale, ⟨same, unawaited⟩ => exact ⟨same.trans untouched, unawaited⟩
  | .ok .busy, same => exact same.trans untouched
  | .error _, fails => exact fails.imp_right (And.imp_left fun holds =>
      stable before after holds untouched)

/-- A message is handled as `process_safe` says, and a fault becomes an outcome. -/
theorem handleInbound_safe
    (filed : site.library.Filed)
    (sound : site.library.Sound scene)
    (stable : ∀ before after, property before → before.Untouched after → property after)
    (opening : ∀ locked graph row middle, scene.Untouched locked →
      site.Opens engine locked (.message message) graph row middle →
      property middle ∧ Turn.Kept engine site graph row.id property) :
    (engine.handleInbound message).Safe site.Answers
      (fun after => scene.Untouched after ∨ property after)
      (fun result _ =>
        match result with
        | .ok outcome => ∀ text, outcome = .failed text →
            ∃ fault, engine.Stops site scene message fault ∧ text = fault.text
        | .error fault => site.faults fault)
      scene := by
  have safe (locked : Scene) (untouched : scene.Untouched locked) :
      (engine.process message).Safe site.Answers
        (fun after => scene.Untouched after ∨ property after)
        (fun result _ =>
          match result with
          | .ok outcome => ∀ text, outcome ≠ .failed text
          | .error fault => engine.Stops site scene message fault)
        locked := by
    refine (process_safe filed (sound.aside untouched.executions_eq untouched.queued_eq)
      fun graph row middle => opening locked graph row middle untouched).relax ?_ ?_
    · exact fun after keeps => keeps.imp_left fun same => untouched.trans same
    · rintro (fault | outcome) after _ post
      · exact post.untouched untouched
      · exact post
  refine (underLock_safe safe stable fun _ _ _ post _ => post).andThen ?_ ?_
  · rintro (_ | fault | outcome) after keeps post
    · refine ⟨keeps, fun _ skipped answered => ?_⟩
      exact ⟨.inl (Scene.Untouched.trans post answered.publish), nofun⟩
    · refine ⟨keeps, ?_⟩
      rintro text ⟨⟩
      exact ⟨fault, post, rfl⟩
    · exact ⟨keeps, fun text same => (post text same).elim⟩
  · exact fun fault _ _ shown => shown

/-- A continuation is taken up as `takeUp_safe` says, or its conversation is locked. -/
theorem resume_safe
    (sound : site.library.Sound scene)
    (offered : scene.Offers (.continuation item))
    (stable : ∀ before after, property before → before.Untouched after → property after)
    (opening : ∀ locked graph row middle, scene.Untouched locked →
      site.Opens engine locked (.continuation item) graph row middle →
      property middle ∧ Turn.Kept engine site graph row.id property) :
    (engine.resume item).Safe site.Answers
      (fun after => scene.Untouched after ∨ property after)
      (engine.TakesUp site scene item property) scene := by
  obtain ⟨queued, isQueued, same⟩ := offered
  obtain ⟨row, member, id_eq, _, sameConversation⟩ := sound.named queued isQueued
  have safe (locked : Scene) (untouched : scene.Untouched locked) :
      (engine.takeUp item).Safe site.Answers
        (fun after => scene.Untouched after ∨ property after)
        (engine.TakesUp site scene item property) locked := by
    have memberStill : row ∈ locked.store.executions := by
      rw [untouched.executions_eq]
      exact member
    have soundStill := sound.aside untouched.executions_eq untouched.queued_eq
    refine (takeUp_safe soundStill memberStill (by rw [id_eq, same])
      (by rw [sameConversation, same])
      fun graph row middle => opening locked graph row middle untouched).relax ?_ ?_
    · exact fun after keeps => keeps.imp_left fun same => untouched.trans same
    · exact fun result after _ takesUp => takesUp.untouched untouched
  refine (underLock_safe safe stable fun _ _ _ takesUp => takesUp.lasts stable).andThen ?_ ?_
  · rintro (_ | (error | message) | outcome) after keeps post
    · exact ⟨keeps, post⟩
    · exact ⟨keeps, post⟩
    · refine ⟨keeps, ?_⟩
      rcases post with (shown | ⟨_, _, ⟨⟩⟩) | ⟨_, ⟨_, ⟨⟩⟩, _⟩
      exact .inl (.inr ⟨message, shown, rfl⟩)
    · exact ⟨keeps, post⟩
  · exact fun fault _ _ shown => .inl (.inl shown)

/-! ## Requests -/

/-- What becomes of a request. -/
def Meets
    (engine : Engine) (site : Site) (scene : Scene) (property : Scene → Prop) :
    Request → Except Fault Verdict → Scene → Prop
  | .message message, .ok (.message outcome), _ => ∀ text, outcome = .failed text →
      ∃ fault, engine.Stops site scene message fault ∧ text = fault.text
  | .message _, .error fault, _ => site.faults fault
  | .continuation item, .ok (.continuation outcome), after =>
      engine.TakesUp site scene item property (.ok outcome) after
  | .continuation item, .error fault, after =>
      engine.TakesUp site scene item property (.error fault) after
  | _, _, _ => False

/-- A property that holds however a request opens, and that turns keep, holds once a turn has
begun; before, and when no turn begins, nothing happens. -/
theorem serve_safe
    {request : Request}
    (filed : site.library.Filed)
    (sound : site.library.Sound scene)
    (offered : scene.Offers request)
    (stable : ∀ before after, property before → before.Untouched after → property after)
    (opening : ∀ locked graph row middle, scene.Untouched locked →
      site.Opens engine locked request graph row middle →
      property middle ∧ Turn.Kept engine site graph row.id property) :
    (engine.serve request).Safe site.Answers
      (fun after => scene.Untouched after ∨ property after)
      (engine.Meets site scene property request) scene := by
  cases request with
  | message message =>
      refine (handleInbound_safe filed sound stable opening).andThen ?_ ?_
      · exact fun outcome after keeps post => ⟨keeps, post⟩
      · exact fun fault after _ shown => shown
  | continuation item =>
      refine (resume_safe sound offered stable opening).andThen ?_ ?_
      · exact fun outcome after keeps post => ⟨keeps, post⟩
      · exact fun fault after _ halts => halts

end Engine
end ChatFlow
