import ChatFlow.Proofs.Turn.Aftermath
import ChatFlow.Proofs.Turn.Paths

/-!
# The hop limit

A turn visits at most as many nodes as it may, along the edges of its flow.  A turn that stops at
this limit stops in the middle of the way of a turn that may visit more nodes, and all that the rest
of the way depends on is stored.  So a second turn from there does what was left to do.
-/

namespace ChatFlow

open Process

/-- The same engine, where turns may visit another number of nodes. -/
def Engine.allowing (engine : Engine) (hops : Nat) : Engine :=
  { engine with settings := { engine.settings with maxHops := hops } }

namespace Flow.Graph

variable {graph : Graph} {node : Node} {text id target : String} {answering waiting : Bool}
  {hops more : Nat} {position : Position}

/-! ## Ways along edges -/

/-- Nodes are left along their edges. -/
theorem hasEdge_of_exit (leaves : graph.exit text answering node = .advance target waiting) :
    graph.hasEdge node.id target = true := by
  have fitting {transition : Transition} (fits : transition.Fits graph node)
      (exit_eq : transition.exit = .advance target waiting) :
      graph.hasEdge node.id target = true := by
    cases transition with
    | advance | advanceAndWait =>
        cases exit_eq
        exact fits.1
    | wait | scheduled | complete => cases exit_eq
  unfold exit at leaves
  cases kind : node.kind with
  | start | manual | unknown | stage =>
      rw [kind] at leaves
      exact fitting (Transition.fits_along (by simp [kind])) leaves
  | message | image | audio | video | aiPrompt | advancedAiPrompt | prompt =>
      rw [kind] at leaves
      exact fitting (Transition.fits_afterTalk rfl (by simp [kind])) leaves
  | delay =>
      simp only [kind] at leaves
      split at leaves <;> cases leaves
  | condition =>
      simp only [kind] at leaves
      split at leaves
      · rename_i chosen
        cases leaves
        exact hasEdge_of_target? chosen
      · cases leaves
  | userReply | waitingReplyTimes =>
      simp only [kind] at leaves
      split at leaves
      · exact fitting (Transition.fits_along (by simp [kind])) leaves
      · cases leaves
  | «end» =>
      rw [kind] at leaves
      cases leaves

theorem hasEdge_of_onward?
    (onward : (graph.exit text answering node).onward? = some target) :
    graph.hasEdge node.id target = true := by
  exact hasEdge_of_exit (Exit.eq_advance onward)

/-- The nodes of a way follow one another along edges. -/
theorem isChain_route (graph : Graph) (text : String) (hops : Nat) (answering : Bool)
    (id : String) :
    ((graph.route text hops answering id).map fun leg => leg.node.id).IsChain
      fun source target => graph.hasEdge source target = true := by
  induction hops generalizing answering id with
  | zero => exact .nil
  | succ hops inductionHypothesis =>
      cases named : graph.node? id with
      | none =>
          rw [route, named]
          exact .nil
      | some node =>
          rw [route_succ named]
          cases onward : (graph.exit text answering node).onward? with
          | none => exact .singleton _
          | some target =>
              have further := inductionHypothesis false target
              cases way : graph.route text hops false target with
              | nil => simp only [way, List.map_cons, List.map_nil, List.IsChain.singleton]
              | cons leg legs =>
                  have first : leg.node.id = target := id_of_first_route (by rw [way]; rfl)
                  rw [way] at further
                  simp only [way, List.map_cons] at further ⊢
                  refine .cons_cons ?_ further
                  rw [first]
                  exact hasEdge_of_onward? onward

/-- The way of a turn begins where its execution stands. -/
theorem head?_route (found : graph.node? id = some node) :
    ((graph.route text (hops + 1) answering id).map fun leg => leg.node.id).head? = some id := by
  rw [route_succ found, List.map_cons, List.head?_cons, id_of_node? found]

/-! ## Ways that go on -/

theorem route_of_node? (missing : graph.node? id = none) :
    graph.route text hops answering id = [] := by
  cases hops with
  | zero => rfl
  | succ hops => rw [route, missing]

/-- A way on which every leg goes on is the beginning of every longer one, which goes on where it
leads to. -/
theorem route_add
    (active : position.status = .active)
    (goOn : ∀ leg ∈ graph.route text hops answering position.node,
      leg.exit.onward?.isSome = true) :
    graph.route text (hops + more) answering position.node =
      graph.route text hops answering position.node ++
        graph.route text more (answering && hops == 0) (position.travel
          ((graph.route text hops answering position.node).map Leg.exit)).node := by
  induction hops generalizing answering position with
  | zero => simp [route, Position.travel]
  | succ hops inductionHypothesis =>
      cases named : graph.node? position.node with
      | none => simp [route_of_node? named, Position.travel]
      | some node =>
          rw [route_succ named] at goOn ⊢
          rw [Nat.succ_add, route_succ named]
          generalize graph.exit text answering node = taken at goOn ⊢
          obtain ⟨target, onward⟩ := Option.isSome_iff_exists.mp (goOn _ List.mem_cons_self)
          obtain rfl := Exit.eq_advance onward
          let moved : Position :=
            { position with node := target, last := some position.node, waiting := false }
          have there : (Exit.advance target false).leave position = moved :=
            Exit.leave_advance active target false
          have further : graph.route text (hops + more) false moved.node = _ :=
            inductionHypothesis active fun leg member => goOn leg (List.mem_cons_of_mem _ member)
          have notFirst : (answering && hops + 1 == 0) = false := by simp
          rw [Bool.false_and] at further
          simp only [Exit.onward?, List.map_cons, Position.travel, List.foldl_cons, there,
            notFirst, List.cons_append]
          exact congrArg (List.cons _) further

/-- An execution at a node is at a node again when it has taken a way on which every leg goes on. -/
theorem exists_node_of_goOn
    (active : position.status = .active)
    (placed : ∃ node, graph.node? position.node = some node)
    (goOn : ∀ leg ∈ graph.route text hops answering position.node,
      leg.exit.onward?.isSome = true) :
    ∃ node, graph.node? (position.travel
      ((graph.route text hops answering position.node).map Leg.exit)).node = some node := by
  induction hops generalizing answering position with
  | zero => exact placed
  | succ hops inductionHypothesis =>
      obtain ⟨node, found⟩ := placed
      rw [route_succ found] at goOn ⊢
      generalize leaves : graph.exit text answering node = taken at goOn ⊢
      obtain ⟨target, onward⟩ := Option.isSome_iff_exists.mp (goOn _ List.mem_cons_self)
      obtain rfl := Exit.eq_advance onward
      let moved : Position :=
        { position with node := target, last := some position.node, waiting := false }
      have there : (Exit.advance target false).leave position = moved :=
        Exit.leave_advance active target false
      have further : ∃ node, graph.node? (moved.travel
          ((graph.route text hops false moved.node).map Leg.exit)).node = some node :=
        inductionHypothesis active (exists_target (hasEdge_of_exit leaves))
          fun leg member => goOn leg (List.mem_cons_of_mem _ member)
      simp only [Exit.onward?, List.map_cons, Position.travel, List.foldl_cons, there]
      exact further

end Flow.Graph

namespace Turn

variable {σ : Type} {site : Site} {cast : Cast σ} {engine : Engine} {graph : Flow.Graph}
  {execution : Execution} {row : ExecutionRow} {input : TurnInput}
  {before after : Transcript σ} {report : TurnReport}

/-! ## Cutting a turn in two -/

/-- What one turn does, when another one did the first part of it and a further one the rest. -/
structure Splits
    (id : String) (before after last whole : Transcript σ) (first second single : TurnReport) :
    Prop where
  visited_eq : single.visited = first.visited ++ second.visited
  /-- It tried to send what the two tried to send, one after the other. -/
  lines_eq : ∃ early late, after.lines = before.lines ++ early ∧
    last.lines = after.lines ++ late ∧ whole.lines = before.lines ++ (early ++ late)
  /-- It leaves the execution where the further turn leaves it. -/
  stored_eq : ∃ execution other, last.scene.store.byId? id = some execution ∧
    whole.scene.store.byId? id = some other ∧ other.position = execution.position ∧
    other.stage = execution.stage ∧ other.vars = execution.vars
  final_eq : single.final = second.final
  waiting_eq : single.waiting = second.waiting
  completed_eq : single.completed = second.completed
  hopLimit_eq : single.hopLimit = second.hopLimit
  /-- It waits for the same continuation, but for the time when that is due. -/
  scheduled_eq : ∃ due, single.scheduled = second.scheduled.map fun item => { item with due }

/-- What a turn leaves behind depends on its legs only, and not on how many there may be. -/
theorem Leaves.of_allowing
    {hops : Nat}
    {legs : List Leg}
    {stored : ExecutionRow}
    (leaves : Leaves cast (engine.allowing hops) graph execution input legs before report after
      stored) :
    Leaves cast engine graph execution input legs before report after stored :=
  { leaves with said := leaves.said }

/-- What a turn waits for is its own, whatever leads there. -/
theorem Awaits.of_append
    {front back : List Leg}
    {execution other : Execution}
    {later : TurnInput}
    {scheduled rescheduled : Option Continuation}
    (goOn : ∀ leg ∈ front, leg.exit.onward?.isSome = true)
    (sameId : other.id = execution.id)
    (sameFlow : other.flow = execution.flow)
    (sameConversation : other.conversation = execution.conversation)
    (sameText : later.text = input.text)
    (awaits : Awaits graph { execution, input } (front ++ back) scheduled)
    (rest : Awaits graph { execution := other, input := later } back rescheduled) :
    ∃ due, scheduled = rescheduled.map fun item => { item with due } := by
  have awaited_eq : graph.awaited? (front ++ back) = graph.awaited? back := by
    have none : front.findSome? graph.target? = none := awaited?_eq_none goOn
    rw [Flow.Graph.awaited?, List.findSome?_append, none, Option.none_or]
    rfl
  cases scheduled with
  | none =>
      cases rescheduled with
      | none => exact ⟨⟨0⟩, rfl⟩
      | some item =>
          obtain ⟨target, _, awaited, _⟩ := rest
          rw [← awaited_eq, awaits] at awaited
          cases awaited
  | some item =>
      obtain ⟨target, due, awaited, rfl⟩ := awaits
      cases rescheduled with
      | none =>
          rw [awaited_eq, rest] at awaited
          cases awaited
      | some item =>
          obtain ⟨otherTarget, _, otherAwaited, rfl⟩ := rest
          rw [awaited_eq, otherAwaited] at awaited
          cases awaited
          refine ⟨due, ?_⟩
          simp only [continuation, conversation, Option.map_some, sameId, sameFlow,
            sameConversation, sameText]

/-- What is said on the legs of a turn that took more of them in two. -/
theorem Leaves.prologue_eq
    {front back : List Leg}
    {later : TurnInput}
    {last whole : Transcript σ}
    {second single : TurnReport}
    {stored final other : ExecutionRow}
    (leaves : Leaves cast engine graph execution input front before report after stored)
    (sameText : later.text = input.text)
    (sameName : later.displayName = input.displayName)
    (further : Leaves cast engine graph stored.toExecution later back after second last final)
    (atOnce : Leaves cast engine graph execution input (front ++ back) before single whole other) :
    prologue other.toExecution input whole = prologue final.toExecution later last := by
  have begun : prologue stored.toExecution later after = prologue stored.toExecution input after :=
    Recital.ext rfl sameText sameName rfl rfl rfl rfl
  rw [← atOnce.said, Recital.recite_append, leaves.said, ← begun, further.said]

/-- A turn goes on where another turn stopped that went on at each of its legs. -/
theorem Leaves.splits
    {front back : List Leg}
    {later : TurnInput}
    {last whole : Transcript σ}
    {second single : TurnReport}
    {stored final other : ExecutionRow}
    (active : execution.status = .active)
    (begins : front ≠ [])
    (goOn : ∀ leg ∈ front, leg.exit.onward?.isSome = true)
    (leaves : Leaves cast engine graph execution input front before report after stored)
    (sameText : later.text = input.text)
    (sameName : later.displayName = input.displayName)
    (further : Leaves cast engine graph stored.toExecution later back after second last final)
    (atOnce : Leaves cast engine graph execution input (front ++ back) before single whole other) :
    Splits execution.id before after last whole report second single := by
  have departed : execution.position.travel (front.map Leg.exit) = stored.position :=
    leaves.position_eq.symm
  obtain ⟨runs, ready⟩ : stored.status = .active ∧ (front ≠ [] → stored.waiting = false) := by
    have travelled : (execution.position.travel (front.map Leg.exit)).status = .active ∧ _ :=
      Position.travel_of_onward active goOn
    rw [departed] at travelled
    exact travelled
  have passed : execution.position.travel ((front ++ back).map Leg.exit) =
      stored.position.travel (back.map Leg.exit) := by
    rw [List.map_append, Position.travel_append, departed]
  have position_eq : other.position = final.position := by
    rw [atOnce.position_eq, passed, further.position_eq]
    rfl
  have said := leaves.prologue_eq sameText sameName further atOnce
  constructor
  · rw [atOnce.reports.visited_eq, leaves.reports.visited_eq, further.reports.visited_eq,
      List.map_append]
  · obtain ⟨early, early_eq⟩ := leaves.lines_eq
    obtain ⟨late, late_eq⟩ := further.lines_eq
    have lines_eq : whole.lines = last.lines := congrArg Recital.lines said
    refine ⟨early, late, early_eq, late_eq, ?_⟩
    rw [lines_eq, late_eq, early_eq, List.append_assoc]
  · refine ⟨final.toExecution, other.toExecution, ?_, ?_, position_eq,
      congrArg Recital.stage said, congrArg Recital.vars said⟩
    · have id_eq : final.id = execution.id := further.id_eq.trans leaves.id_eq
      rw [← id_eq]
      exact further.kept.byId?_eq further.member
    · rw [← atOnce.id_eq]
      exact atOnce.kept.byId?_eq atOnce.member
  · rw [atOnce.reports.final_eq, further.reports.final_eq]
    exact congrArg Position.node passed
  · have alone : second.waiting = (stored.position.travel (back.map Leg.exit)).waiting := by
      rw [further.reports.waiting_eq]
      change (_ || (_ && stored.waiting && _)) = _
      rw [ready begins, Bool.and_false, Bool.false_and, Bool.or_false]
      rfl
    have together : single.waiting =
        (execution.position.travel ((front ++ back).map Leg.exit)).waiting := by
      rw [atOnce.reports.waiting_eq, atOnce.reports.visited_eq]
      -- A turn that completes has a leg behind those on which it went on.
      cases completed : single.completed with
      | false => exact Bool.or_false _
      | true =>
          have completes : (stored.position.travel (back.map Leg.exit)).status = .completed := by
            rw [← passed]
            exact atOnce.reports.completed_iff.mp completed
          have further : back ≠ [] := by
            rintro rfl
            exact absurd (completes.symm.trans runs) nofun
          have several : ((front ++ back).map fun leg => leg.node.id).length ≠ 1 := by
            have := List.length_pos_iff.mpr begins
            have := List.length_pos_iff.mpr further
            rw [List.length_map, List.length_append]
            omega
          rw [beq_eq_false_iff_ne.mpr several, Bool.and_false, Bool.or_false]
    rw [together, alone, passed]
  · rw [Bool.eq_iff_iff, atOnce.reports.completed_iff, further.reports.completed_iff]
    exact Iff.of_eq (congrArg (fun position => position.status = .completed) passed)
  · rw [atOnce.reports.hopLimit_eq, further.reports.hopLimit_eq, List.all_append,
      List.all_eq_true.mpr goOn, Bool.true_and]
  · exact Awaits.of_append goOn leaves.id_eq leaves.flow_eq leaves.conversation_eq sameText
      atOnce.awaits further.awaits

/-- A turn that stands at a node, and may visit one, visits one. -/
theorem way_ne_nil
    {hops : Nat}
    (positive : 0 < hops)
    (placed : ∃ node, graph.node? row.node = some node) :
    way (engine.allowing hops) graph row.toExecution input ≠ [] := by
  obtain ⟨hops, rfl⟩ := Nat.exists_eq_add_one_of_ne_zero (Nat.ne_of_gt positive)
  obtain ⟨node, found⟩ := placed
  change graph.route input.text (hops + 1) input.isReply row.node ≠ []
  rw [Flow.Graph.route_succ found]
  exact List.cons_ne_nil _ _

/-- The way of a turn that may visit more nodes goes on as the way of a turn from where it would
have stopped. -/
theorem way_allowing_add
    {hops more : Nat}
    {stored : ExecutionRow}
    {later : TurnInput}
    (positive : 0 < hops)
    (active : row.status = .active)
    (goOn : ∀ leg ∈ way (engine.allowing hops) graph row.toExecution input,
      leg.exit.onward?.isSome = true)
    (node_eq : stored.node = (row.position.travel
      ((way (engine.allowing hops) graph row.toExecution input).map Leg.exit)).node)
    (sameText : later.text = input.text)
    (noReply : later.isReply = false) :
    way (engine.allowing (hops + more)) graph row.toExecution input =
      way (engine.allowing hops) graph row.toExecution input ++
        way (engine.allowing more) graph stored.toExecution later := by
  have added : graph.route input.text (hops + more) input.isReply row.position.node = _ :=
    Flow.Graph.route_add active goOn
  have notFirst : (input.isReply && hops == 0) = false := by
    rw [beq_eq_false_iff_ne.mpr (Nat.ne_of_gt positive), Bool.and_false]
  rw [notFirst] at added
  change graph.route _ _ _ _ = _ ++ graph.route later.text more later.isReply stored.node
  rw [sameText, noReply, node_eq]
  exact added

theorem not_lost
    {hops : Nat}
    {id : String}
    (placed : ∃ node, graph.node? id = some node) :
    ¬ Lost graph hops id := by
  rintro ⟨_, missing⟩
  obtain ⟨node, found⟩ := placed
  rw [missing] at found
  cases found

/-- The hop limit bounds a turn and only truncates it.  A turn visits at most as many nodes as it
may, along edges and from the node where its execution stands; it fails only where that is no node.
When it stops at the limit, a turn of the row that it stored, for the same text but not as an
answer, does what a turn that may visit so many more nodes would have done next. -/
theorem only_truncated
    {hops : Nat}
    {result : Except Fault TurnReport}
    (performs : Performs graph (engine.allowing hops) site cast.manner row input before result
      after)
    (active : row.status = .active) :
    (result = .error (.error (.nodeNotFound graph.id row.node)) ∧
      graph.node? row.node = none ∧ after = before) ∨
    ∃ report, result = .ok report ∧
      report.visited.length ≤ hops ∧
      report.visited.IsChain (fun source target => graph.hasEdge source target = true) ∧
      (0 < hops → report.visited.head? = some row.node) ∧
      (0 < hops → report.hopLimit = true →
        (∃ stored ∈ after.scene.store.executions, stored.id = row.id) ∧
        ∀ stored ∈ after.scene.store.executions, stored.id = row.id →
        ∀ more later further last atOnce whole,
          later.text = input.text → later.displayName = input.displayName →
          later.isReply = false →
          Performs graph (engine.allowing more) site cast.manner stored later after further last →
          Performs graph (engine.allowing (hops + more)) site cast.manner row input before atOnce
            whole →
          ∃ second single, further = .ok second ∧ atOnce = .ok single ∧
            Splits row.id before after last whole report second single) := by
  by_cases lost : Lost graph hops row.node
  · have ends := performs.ends
    rw [perform_of_lost lost] at ends
    obtain ⟨rfl, rfl⟩ := ends.of_halt
    exact .inl ⟨rfl, lost.2, rfl⟩
  · obtain ⟨report, rfl, _, goes⟩ := performs.goes lost
    obtain ⟨stored, leaves⟩ :=
      exists_leaves performs.kept performs.member active row.tells_toExecution performs.ends
    have placed (positive : 0 < hops) : ∃ node, graph.node? row.node = some node :=
      Option.ne_none_iff_exists'.mp fun missing => lost ⟨Nat.ne_of_gt positive, missing⟩
    refine .inr ⟨report, rfl, ?_, ?_, ?_, ?_⟩
    · rw [goes.visited_eq, List.length_map]
      exact Flow.Graph.length_route_le ..
    · rw [goes.visited_eq]
      exact Flow.Graph.isChain_route ..
    · intro positive
      obtain ⟨hops, rfl⟩ := Nat.exists_eq_add_one_of_ne_zero (Nat.ne_of_gt positive)
      obtain ⟨node, found⟩ := placed positive
      rw [goes.visited_eq]
      exact Flow.Graph.head?_route found
    · intro positive limited
      refine ⟨⟨stored, leaves.member, leaves.id_eq⟩, ?_⟩
      intro other member names more later further last atOnce whole sameText sameName noReply
        performsFurther performsAtOnce
      obtain rfl := leaves.kept.eq_of_id member leaves.member (names.trans leaves.id_eq.symm)
      have goOn : ∀ leg ∈ way (engine.allowing hops) graph row.toExecution input,
          leg.exit.onward?.isSome = true := by
        rw [leaves.reports.hopLimit_eq] at limited
        exact List.all_eq_true.mp limited
      have node_eq : other.node = _ := congrArg Position.node leaves.position_eq
      have status_eq : other.status = .active :=
        (congrArg Position.status leaves.position_eq).trans
          (Position.travel_of_onward active goOn).1
      have found : ∃ node, graph.node? row.position.node = some node := placed positive
      have foundFurther : ∃ node, graph.node? other.node = some node := by
        rw [node_eq]
        exact Flow.Graph.exists_node_of_goOn active found goOn
      obtain ⟨second, rfl, _⟩ := performsFurther.goes (not_lost foundFurther)
      obtain ⟨single, rfl, _⟩ := performsAtOnce.goes (not_lost found)
      obtain ⟨final, goesFurther⟩ := exists_leaves performsFurther.kept performsFurther.member
        status_eq other.tells_toExecution performsFurther.ends
      obtain ⟨wholly, goesAtOnce⟩ := exists_leaves performsAtOnce.kept performsAtOnce.member
        active row.tells_toExecution performsAtOnce.ends
      rw [way_allowing_add positive active goOn node_eq sameText noReply] at goesAtOnce
      exact ⟨second, single, rfl, rfl, leaves.of_allowing.splits active
        (way_ne_nil positive found) goOn sameText sameName goesFurther.of_allowing
        goesAtOnce.of_allowing⟩

end Turn

/-! ## Advice at several limits -/

namespace Turn

/-- A turn of a row of this flow that may visit so many nodes. -/
def advisedWithin (hops : Nat) (row : ExecutionRow) (before : Transcript (List String)) :
    Except Fault TurnReport × Transcript (List String) :=
  (perform (({ hasGenerator := true } : Engine).allowing hops) .advice row.toExecution
    { text := "go" }).run (Site.advice.answerBy ⟨0⟩ .ofReplies) before

/-- Where the row of an execution that begins is stored. -/
def unadvised : Transcript (List String) where
  scene := { store := { executions := [.ofAdvice] } }
  state := ["Sure", "Maybe"]

/-- The row of an execution that has greeted. -/
def greeted : ExecutionRow :=
  { ExecutionRow.ofAdvice with node := "advise", last := some "greet" }

theorem performs_advisedWithin
    {hops : Nat}
    {row : ExecutionRow}
    {before : Transcript (List String)}
    (kept : before.scene.store.WellKept)
    (member : row ∈ before.scene.store.executions)
    (bears : Site.advice.bearsAll ⟨0⟩ .ofReplies
      (perform (({ hasGenerator := true } : Engine).allowing hops) .advice row.toExecution
        { text := "go" }) before = true)
    (goesWell : (advisedWithin hops row before).1.isOk = true) :
    Performs .advice (({ hasGenerator := true } : Engine).allowing hops) .advice
      Cast.ofReplies.manner row { text := "go" } before (advisedWithin hops row before).1
      (advisedWithin hops row before).2 where
  kept := kept
  member := member
  ends := Site.ends_answerBy trivial Cast.fits_ofReplies _ _ bears
  told := by
    intro text failed
    rw [failed] at goesWell
    cases goesWell

/-- The turn that stops before the text generator is asked. -/
def beforeAdvice : Except Fault TurnReport × Transcript (List String) :=
  advisedWithin 2 .ofAdvice unadvised

theorem performs_beforeAdvice :
    Performs .advice (({ hasGenerator := true } : Engine).allowing 2) .advice
      Cast.ofReplies.manner .ofAdvice { text := "go" } unadvised beforeAdvice.1 beforeAdvice.2 :=
  performs_advisedWithin (stored_wellKept _) (List.mem_singleton.mpr rfl) (by decide +kernel)
    (by decide +kernel)

theorem wellKept_beforeAdvice : beforeAdvice.2.scene.store.WellKept := by
  obtain ⟨_, _, kept, _⟩ := Site.exists_asked_of_obliges performs_beforeAdvice.kept
    (Store.Holds.of_mem performs_beforeAdvice.member) performs_beforeAdvice.ends
  exact kept

theorem greeted_mem : greeted ∈ beforeAdvice.2.scene.store.executions := by
  decide +kernel

theorem only_truncated_advice :
    ∃ first second single,
      beforeAdvice.1 = .ok first ∧
      (advisedWithin 2 greeted beforeAdvice.2).1 = .ok second ∧
      (advisedWithin 4 .ofAdvice unadvised).1 = .ok single ∧
      Splits "execution" unadvised beforeAdvice.2 (advisedWithin 2 greeted beforeAdvice.2).2
        (advisedWithin 4 .ofAdvice unadvised).2 first second single ∧
      single.visited = ["start", "greet", "advise", "pause"] := by
  rcases only_truncated performs_beforeAdvice rfl with
    ⟨_, missing, _⟩ | ⟨first, ends, _, _, _, truncates⟩
  · have found : (Flow.Graph.node? .advice "start").isSome = true := by decide +kernel
    rw [show Flow.Graph.node? .advice "start" = none from missing] at found
    cases found
  · have limited : (beforeAdvice.1.toOption.map TurnReport.hopLimit) = some true := by
      decide +kernel
    rw [ends] at limited
    obtain ⟨second, single, endsFurther, endsAtOnce, splits⟩ :=
      (truncates (by decide) (Option.some.inj limited)).2 greeted greeted_mem rfl 2 _ _ _ _ _
        rfl rfl rfl
        (performs_advisedWithin wellKept_beforeAdvice greeted_mem (by decide +kernel)
          (by decide +kernel))
        (performs_advisedWithin performs_beforeAdvice.kept performs_beforeAdvice.member
          (by decide +kernel) (by decide +kernel))
    have visited_eq : ((advisedWithin 4 .ofAdvice unadvised).1.toOption.map TurnReport.visited) =
        some ["start", "greet", "advise", "pause"] := by
      decide +kernel
    rw [endsAtOnce] at visited_eq
    exact ⟨first, second, single, ends, endsFurther, endsAtOnce, splits,
      Option.some.inj visited_eq⟩

end Turn
end ChatFlow
