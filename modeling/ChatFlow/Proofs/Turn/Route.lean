import ChatFlow.Engine.Step
import ChatFlow.Proofs.Flow.Paths
import ChatFlow.Store.Basic

/-!
# The way of a turn

Where a turn goes is settled by its flow and the user's text before it begins: callees have no say
in it.  A `Leg` is a node with the exit that the turn takes there, and the legs of a turn are its
`route`.  Each exit moves the position of an execution, and a turn that has taken some of the
exits of its route stands at the node of the next leg.
-/

namespace ChatFlow

/-- How a turn leaves a node. -/
inductive Exit where
  /-- To another node, where it may have to wait for the user's reply. -/
  | advance (target : String) (waiting : Bool)
  /-- Not at all: it waits for the user's reply. -/
  | wait
  /-- Not at all: a continuation will take the execution on. -/
  | park
  /-- To the end of the execution. -/
  | complete
deriving DecidableEq

/-- The exit of a transition. -/
def Transition.exit : Transition → Exit
  | .advance target => .advance target false
  | .advanceAndWait target => .advance target true
  | .wait => .wait
  | .scheduled _ => .park
  | .complete => .complete

/-- The node at which a turn goes on by itself. -/
def Exit.onward? : Exit → Option String
  | .advance target false => some target
  | _ => none

theorem Transition.goesOn_eq (transition : Transition) :
    transition.goesOn = transition.exit.onward?.isSome := by
  cases transition <;> rfl

namespace Flow.Graph

/-- How a turn leaves a node, where it was given a text; `answering` tells whether the text answers
the node. -/
def exit (graph : Graph) (text : String) (answering : Bool) (node : Node) : Exit :=
  match node.kind with
  | .start | .manual | .unknown _ | .stage => (Transition.along graph node.id).exit
  | .message | .image | .audio | .video => (Transition.afterOutput graph node.id).exit
  | .delay => if (graph.nextTarget? node.id).isSome then .park else .complete
  | .condition =>
    match Condition.target? node (graph.outgoing node.id) text with
    | some target => .advance target false
    | none => .wait
  | .userReply | .waitingReplyTimes =>
    if answering then (Transition.along graph node.id).exit else .wait
  | .aiPrompt | .advancedAiPrompt | .prompt => (Transition.afterAi graph node.id).exit
  | .end => .complete

end Flow.Graph

/-- A node on the way of a turn, and the exit that the turn takes there. -/
structure Leg where
  node : Flow.Node
  exit : Exit

/-- The legs of a turn from a node on, through at most `hops` nodes. -/
def Flow.Graph.route (graph : Graph) (text : String) :
    (hops : Nat) → (answering : Bool) → (id : String) → List Leg
  | 0, _, _ => []
  | hops + 1, answering, id =>
    match graph.node? id with
    | none => []
    | some node =>
      { node, exit := graph.exit text answering node } ::
        match (graph.exit text answering node).onward? with
        | some target => graph.route text hops false target
        | none => []

/-! ## Positions -/

/-- Where an execution stands. -/
structure Position where
  node : String
  last : Option String
  waiting : Bool
  status : ExecutionStatus
deriving DecidableEq

/-- Where the execution of a row stands. -/
def ExecutionRow.position (row : ExecutionRow) : Position where
  node := row.node
  last := row.last
  waiting := row.waiting
  status := row.status

/-- The position that an exit leads to.  Where an execution is complete, it stays. -/
def Exit.leave (exit : Exit) (position : Position) : Position :=
  match position.status, exit with
  | .completed, _ | _, .park => position
  | .active, .advance target waiting =>
    { position with node := target, last := some position.node, waiting }
  | .active, .wait => { position with waiting := true }
  | .active, .complete =>
    { node := "end", last := some position.node, waiting := false, status := .completed }

/-- The position after several exits. -/
def Position.travel (position : Position) (exits : List Exit) : Position :=
  exits.foldl (fun position exit => exit.leave position) position

/-- A turn goes on by itself only by an advance that does not wait. -/
theorem Exit.eq_advance
    {exit : Exit}
    {target : String}
    (onward : exit.onward? = some target) :
    exit = .advance target false := by
  cases exit with
  | advance next waiting =>
      cases waiting with
      | false =>
          cases onward
          rfl
      | true => cases onward
  | wait | park | complete => cases onward

theorem Exit.leave_advance
    {position : Position}
    (active : position.status = .active)
    (target : String)
    (waiting : Bool) :
    (Exit.advance target waiting).leave position =
      { position with node := target, last := some position.node, waiting } := by
  simp [leave, active]

/-- An execution that runs on where its turn stops waits, or is parked. -/
theorem Exit.waiting_or_eq_park
    {exit : Exit}
    {position : Position}
    (stops : exit.onward? = none)
    (active : position.status = .active)
    (runs : (exit.leave position).status = .active) :
    (exit.leave position).waiting = true ∨ exit = .park ∧ exit.leave position = position := by
  cases exit with
  | advance target waiting =>
      cases waiting with
      | false => cases stops
      | true => simp [leave, active]
  | wait => simp [leave, active]
  | park => simp [leave, active]
  | complete => simp [leave, active] at runs

/-- An execution that is complete by an exit does not wait. -/
theorem Exit.waiting_leave
    {position : Position}
    (ready : position.status = .completed → position.waiting = false)
    (exit : Exit)
    (completed : (exit.leave position).status = .completed) :
    (exit.leave position).waiting = false := by
  cases status : position.status with
  | completed => simpa [leave, status] using ready status
  | active => cases exit <;> simp_all [leave]

theorem Position.waiting_travel
    {position : Position}
    {exits : List Exit}
    (ready : position.status = .completed → position.waiting = false)
    (completed : (position.travel exits).status = .completed) :
    (position.travel exits).waiting = false := by
  induction exits generalizing position with
  | nil => exact ready completed
  | cons exit exits inductionHypothesis =>
      exact inductionHypothesis (exit.waiting_leave ready) completed

namespace Flow.Graph

variable {graph : Graph} {text id : String} {hops : Nat} {answering : Bool} {node : Node}
  {leg next : Leg} {legs : List Leg} {position : Position} {i : Nat}

/-! ## Exits -/

/-- A node that waits for the user's reply is left only when the text answers it. -/
theorem exit_of_awaitsReply (awaits : node.kind.awaitsReply = true) :
    graph.exit text answering node =
      if answering then (Transition.along graph node.id).exit else .wait := by
  unfold exit
  cases kind : node.kind with
  | userReply | waitingReplyTimes => rfl
  | _ => simp [kind, NodeKind.awaitsReply] at awaits

theorem exit_along_ne_park : (Transition.along graph id).exit ≠ .park := by
  unfold Transition.along
  split <;> simp [Transition.exit]

theorem exit_afterTalk_ne_park {stopsAt : NodeKind → Bool} :
    (Transition.afterTalk stopsAt graph id).exit ≠ .park := by
  unfold Transition.afterTalk
  split
  · simp [Transition.exit]
  · split <;> simp [Transition.exit]

theorem kind_of_exit_eq_park (parks : graph.exit text answering node = .park) :
    node.kind = .delay := by
  unfold exit at parks
  cases kind : node.kind with
  | delay => rfl
  | start | manual | unknown | stage =>
      rw [kind] at parks
      exact (exit_along_ne_park parks).elim
  | message | image | audio | video | aiPrompt | advancedAiPrompt | prompt =>
      rw [kind] at parks
      exact (exit_afterTalk_ne_park parks).elim
  | condition =>
      simp only [kind] at parks
      split at parks <;> cases parks
  | userReply | waitingReplyTimes =>
      simp only [kind] at parks
      split at parks
      · exact (exit_along_ne_park parks).elim
      · cases parks
  | «end» =>
      rw [kind] at parks
      cases parks

/-! ## Legs -/

theorem route_succ
    (found : graph.node? id = some node) :
    graph.route text (hops + 1) answering id =
      { node, exit := graph.exit text answering node } ::
        match (graph.exit text answering node).onward? with
        | some target => graph.route text hops false target
        | none => [] := by
  rw [route, found]

/-- The first node of a turn is the one where it begins. -/
theorem id_of_first_route
    (first : (graph.route text hops answering id)[0]? = some leg) :
    leg.node.id = id := by
  cases hops with
  | zero => cases first
  | succ hops =>
      cases named : graph.node? id with
      | none => simp [route, named] at first
      | some node =>
          rw [route_succ named] at first
          cases first
          exact id_of_node? named

/-- A turn visits as many nodes as it may, at most. -/
theorem length_route_le (graph : Graph) (text : String) (hops : Nat) (answering : Bool)
    (id : String) :
    (graph.route text hops answering id).length ≤ hops := by
  induction hops generalizing answering id with
  | zero => exact Nat.le_refl 0
  | succ hops inductionHypothesis =>
      rw [route]
      split
      · exact Nat.zero_le _
      · rw [List.length_cons]
        split
        · exact Nat.succ_le_succ (inductionHypothesis _ _)
        · simp

/-- The legs of a turn are at nodes of the flow, and the text answers none but the first. -/
theorem of_getElem?_route
    (found : (graph.route text hops answering id)[i]? = some leg) :
    graph.node? leg.node.id = some leg.node ∧
      leg.exit = graph.exit text (answering && i == 0) leg.node := by
  induction hops generalizing answering id i with
  | zero => cases found
  | succ hops inductionHypothesis =>
      rw [route] at found
      split at found
      · cases found
      · rename_i node named
        cases i with
        | zero =>
            cases found
            rw [id_of_node? named]
            simp [named]
        | succ i =>
            rw [List.getElem?_cons_succ] at found
            split at found
            · simpa using inductionHypothesis found
            · cases found

/-- A turn that is not at its last leg stands at the node of the next one, after the exits before
it, and its execution runs. -/
theorem travel_take_route
    (found : (graph.route text hops answering position.node)[i]? = some leg)
    (active : position.status = .active) :
    (position.travel (((graph.route text hops answering position.node).take i).map
      Leg.exit)).node = leg.node.id ∧
    (position.travel (((graph.route text hops answering position.node).take i).map
      Leg.exit)).status = .active := by
  induction hops generalizing answering position i with
  | zero => cases found
  | succ hops inductionHypothesis =>
      cases named : graph.node? position.node with
      | none => simp [route, named] at found
      | some node =>
          rw [route_succ named] at found ⊢
          cases i with
          | zero =>
              cases found
              exact ⟨(id_of_node? named).symm, active⟩
          | succ i =>
              rw [List.getElem?_cons_succ] at found
              rw [List.take_succ_cons, List.map_cons]
              generalize exit_eq : graph.exit text answering node = taken at found ⊢
              match taken, found with
              | .advance target false, found =>
                  simp only [Position.travel, List.foldl_cons, Exit.leave_advance active]
                  exact inductionHypothesis found active

/-- Where a turn goes on by itself, it goes on to the node of the next leg. -/
theorem onward?_of_getElem?_route
    (found : (graph.route text hops answering id)[i]? = some leg)
    (foundNext : (graph.route text hops answering id)[i + 1]? = some next) :
    leg.exit.onward? = some next.node.id := by
  induction hops generalizing answering id i with
  | zero => cases found
  | succ hops inductionHypothesis =>
      cases named : graph.node? id with
      | none => simp [route, named] at found
      | some node =>
          rw [route_succ named] at found foundNext
          rw [List.getElem?_cons_succ] at foundNext
          cases goes : (graph.exit text answering node).onward? with
          | none => simp [goes] at foundNext
          | some target =>
              simp only [goes] at found foundNext
              cases i with
              | zero =>
                  cases found
                  rw [goes]
                  cases hops with
                  | zero => cases foundNext
                  | succ hops =>
                      cases namedNext : graph.node? target with
                      | none => simp [route, namedNext] at foundNext
                      | some node =>
                          rw [route_succ namedNext] at foundNext
                          cases foundNext
                          rw [id_of_node? namedNext]
              | succ i => exact inductionHypothesis found foundNext

/-- A leg where the turn does not go on by itself is the last one. -/
theorem route_eq_of_stops
    (found : (graph.route text hops answering id)[i]? = some leg)
    (stops : leg.exit.onward? = none) :
    graph.route text hops answering id =
      (graph.route text hops answering id).take i ++ [leg] := by
  have last : (graph.route text hops answering id)[i + 1]? = none := by
    cases foundNext : (graph.route text hops answering id)[i + 1]? with
    | none => rfl
    | some next =>
        rw [onward?_of_getElem?_route found foundNext] at stops
        cases stops
  have whole : (graph.route text hops answering id).take (i + 1) =
      graph.route text hops answering id :=
    List.take_of_length_le (List.getElem?_eq_none_iff.mp last)
  rw [List.take_add_one, found] at whole
  exact whole.symm

/-- A turn that does not go on by itself leaves its execution where the exit of its last leg leads
to from the node of that leg. -/
theorem exists_travel_of_stops
    (found : (graph.route text hops answering position.node)[i]? = some leg)
    (stops : leg.exit.onward? = none)
    (active : position.status = .active) :
    ∃ before : Position, before.node = leg.node.id ∧ before.status = .active ∧
      position.travel ((graph.route text hops answering position.node).map Leg.exit) =
        leg.exit.leave before := by
  obtain ⟨node_eq, stillActive⟩ := travel_take_route found active
  refine ⟨_, node_eq, stillActive, ?_⟩
  rw [route_eq_of_stops found stops, List.map_append, Position.travel, List.foldl_append,
    ← route_eq_of_stops found stops]
  rfl

end Flow.Graph
end ChatFlow
