import ChatFlow.Proofs.Flow.Undelayed
import ChatFlow.Proofs.Turn.Awaiting

/-!
# Trails

A trail is the way of a turn that stops by itself and not at its hop limit, so that it does not
depend on the limit.  A trail may end at a delay, and then further trails begin behind it.  In the
same flow without delays they are one.
-/

namespace ChatFlow
namespace Flow
namespace Graph

/-- The legs from a node to the first one that the turn does not leave by itself. -/
inductive Trail (graph : Graph) (text : String) : (answering : Bool) → String → List Leg → Prop
  /-- The turn does not leave the node by itself. -/
  | stop {answering : Bool} {id : String} {node : Node} (found : graph.node? id = some node)
      (stops : (graph.exit text answering node).onward? = none) :
      Trail graph text answering id [{ node, exit := graph.exit text answering node }]
  /-- The turn goes on. -/
  | on {answering : Bool} {id target : String} {node : Node} {legs : List Leg}
      (found : graph.node? id = some node)
      (onward : (graph.exit text answering node).onward? = some target)
      (rest : Trail graph text false target legs) :
      Trail graph text answering id ({ node, exit := graph.exit text answering node } :: legs)

variable {graph : Graph} {text id target : String} {answering : Bool} {legs whole : List Leg}
  {position : Position} {hops : Nat} {node : Node}

/-- The way of a turn that does not stop at its limit is a trail. -/
theorem trail_of_route
    (stops : (graph.route text hops answering id).all (fun leg => leg.exit.onward?.isSome) =
      false) :
    graph.Trail text answering id (graph.route text hops answering id) := by
  induction hops generalizing answering id with
  | zero => cases stops
  | succ hops inductionHypothesis =>
      cases found : graph.node? id with
      | none =>
          rw [route, found] at stops
          cases stops
      | some node =>
          rw [route_succ found] at stops ⊢
          cases onward : (graph.exit text answering node).onward? with
          | none => exact .stop found onward
          | some target =>
              simp only [onward, List.all_cons, Option.isSome_some, Bool.true_and] at stops ⊢
              exact .on found onward (inductionHypothesis stops)

/-- Only legs that park an execution are waited for. -/
theorem target?_eq_none
    {leg : Leg}
    (notParked : leg.exit ≠ .park) :
    graph.target? leg = none := by
  unfold target?
  split
  · rename_i parked
    exact (notParked parked).elim
  · rfl

theorem awaited?_cons
    {leg : Leg}
    (onward : leg.exit.onward? = some target) :
    graph.awaited? (leg :: legs) = graph.awaited? legs := by
  have notParked : leg.exit ≠ .park := by
    intro parked
    rw [parked] at onward
    cases onward
  rw [awaited?, List.findSome?_cons, target?_eq_none notParked, awaited?]

/-- How a trail begins. -/
theorem Trail.eq
    (trail : graph.Trail text answering id legs)
    (found : graph.node? id = some node) :
    match (graph.exit text answering node).onward? with
    | none => legs = [{ node, exit := graph.exit text answering node }]
    | some target => ∃ rest, graph.Trail text false target rest ∧
        legs = { node, exit := graph.exit text answering node } :: rest := by
  cases trail with
  | stop named stops =>
      cases named.symm.trans found
      rw [stops]
  | on named onward rest =>
      cases named.symm.trans found
      rw [onward]
      exact ⟨_, rest, rfl⟩

/-- Where a trail ends at a delay with an edge, the execution runs, and it stands at that delay; it
does not wait, unless it did so where the trail begins. -/
theorem Trail.parked
    (trail : graph.Trail text answering position.node legs)
    (awaited : graph.awaited? legs = some target)
    (active : position.status = .active)
    (ready : position.waiting = true → ¬ graph.IsDelay position.node) :
    (position.travel (legs.map Leg.exit)).status = .active ∧
      (position.travel (legs.map Leg.exit)).waiting = false ∧
      graph.IsDelay (position.travel (legs.map Leg.exit)).node ∧
      graph.nextTarget? (position.travel (legs.map Leg.exit)).node = some target := by
  generalize stands : position.node = id at trail
  induction trail generalizing position with
  | @stop answering id node found stops =>
      have parks :
          graph.target? { node, exit := graph.exit text answering node } = some target := by
        simpa [awaited?] using awaited
      unfold target? at parks
      split at parks
      · rename_i exit_eq
        have exit_eq : graph.exit text answering node = .park := exit_eq
        have stays : Exit.park.leave position = position := by
          simp [Exit.leave, active]
        have isDelay : graph.IsDelay position.node := by
          rw [stands]
          exact ⟨node, found, kind_of_exit_eq_park exit_eq⟩
        simp only [Position.travel, List.map_cons, List.map_nil, List.foldl_cons, List.foldl_nil,
          exit_eq, stays]
        refine ⟨active, ?_, isDelay, ?_⟩
        · cases waiting : position.waiting with
          | false => rfl
          | true => exact (ready waiting isDelay).elim
        · rw [stands, ← id_of_node? found]
          exact parks
      · cases parks
  | @on answering id next node legs found onward rest inductionHypothesis =>
      rw [awaited?_cons onward] at awaited
      generalize graph.exit text answering node = taken at onward ⊢
      obtain rfl := Exit.eq_advance onward
      rw [List.map_cons, Position.travel, List.foldl_cons, Exit.leave_advance active,
        ← Position.travel]
      refine inductionHypothesis awaited active ?_ rfl
      rintro ⟨⟩

/-- The nodes of a trail, without delays. -/
def undelayedNodes (legs : List Leg) : List Node :=
  legs.map fun leg => leg.node.undelayed

/-- Without delays, a trail goes on where it would have ended at a delay with an edge. -/
theorem Trail.undelayed
    (trail : graph.Trail text answering id legs)
    (straight : graph.undelayed.Trail text answering id whole) :
    match graph.awaited? legs with
    | some target => ∃ back, graph.undelayed.Trail text false target back ∧
        whole.map Leg.node = undelayedNodes legs ++ back.map Leg.node
    | none => whole.map Leg.node = undelayedNodes legs := by
  induction trail generalizing whole with
  | @stop answering id node found stops =>
      have foundToo : graph.undelayed.node? id = some node.undelayed := by
        rw [node?_undelayed, found, Option.map_some]
      have begins := straight.eq foundToo
      by_cases kind : node.kind = .delay
      · rw [exit_undelayed_of_delay kind] at begins
        have exit_eq : graph.exit text answering node =
            if (graph.nextTarget? node.id).isSome then .park else .complete := by
          simp [exit, kind]
        cases next : graph.nextTarget? node.id with
        | none =>
            rw [next] at begins exit_eq
            have ended : graph.awaited? [{ node, exit := graph.exit text answering node }] =
                none := by
              simp [awaited?, target?, exit_eq]
            rw [ended, begins]
            rfl
        | some target =>
            rw [next] at begins exit_eq
            have parked : graph.awaited? [{ node, exit := graph.exit text answering node }] =
                some target := by
              simp [awaited?, target?, exit_eq, next]
            obtain ⟨rest, trail, rfl⟩ := begins
            rw [parked]
            exact ⟨rest, trail, rfl⟩
      · have notParked : graph.exit text answering node ≠ .park :=
          fun parks => kind (kind_of_exit_eq_park parks)
        have ended : graph.awaited? [{ node, exit := graph.exit text answering node }] = none := by
          rw [awaited?, List.findSome?_cons, target?_eq_none notParked, List.findSome?_nil]
        rw [Node.undelayed_eq kind, exit_undelayed kind, stops] at begins
        rw [ended, begins]
        simp [undelayedNodes, Node.undelayed_eq kind]
  | @on answering id next node legs found onward rest inductionHypothesis =>
      have kind : node.kind ≠ .delay := by
        intro kind
        simp only [exit, kind] at onward
        split at onward <;> cases onward
      have foundToo : graph.undelayed.node? id = some node := by
        rw [node?_undelayed, found, Option.map_some, Node.undelayed_eq kind]
      have begins := straight.eq foundToo
      rw [exit_undelayed kind, onward] at begins
      obtain ⟨further, trail, rfl⟩ := begins
      have further := inductionHypothesis trail
      rw [awaited?_cons onward]
      cases awaited : graph.awaited? legs with
      | none =>
          rw [awaited] at further
          rw [List.map_cons, further]
          simp [undelayedNodes, Node.undelayed_eq kind]
      | some target =>
          rw [awaited] at further
          obtain ⟨back, trail, further⟩ := further
          refine ⟨back, trail, ?_⟩
          rw [List.map_cons, further]
          simp [undelayedNodes, Node.undelayed_eq kind]

end Graph
end Flow
end ChatFlow
