import ChatFlow.Engine.Walk
import ChatFlow.Proofs.Turn.Moves

/-!
# What a whole turn keeps

A turn makes moves only, however far it walks, and it halts only with faults that callees showed.
So every property that the moves keep holds of each scene that a turn passes through.
-/

namespace ChatFlow

open Process

/-- A call changes a row or fails, or does both. -/
def Site.Replaces
    (site : Site) (scene : Scene) (changed : Instant → ExecutionRow)
    (outcome : Except Fault Unit) (after : Scene) : Prop :=
  (∃ now, site.clock now ∧ after = scene.withStore (scene.store.replace (changed now)) ∧
      (outcome = .ok () ∨ ∃ fault, site.faults fault ∧ outcome = .error fault)) ∨
    after = scene ∧ ∃ fault, site.faults fault ∧ outcome = .error fault

section Replacing

variable {site : Site} {scene after : Scene} {row : ExecutionRow} {conversation : Conversation}
  {flow target : String} {waiting : Bool} {outcome : Except Fault Unit}

/-- A call that changes a row when it goes well changes it or fails, or does both. -/
theorem Site.replaces_of_inversion
    {served : Instant → Choice → Except Fault Unit × Scene}
    {changed : Instant → ExecutionRow}
    (goesWell : ∀ now choice,
      served now choice = (.ok (), scene.withStore (scene.store.replace (changed now))))
    (inverted :
      (∃ now choice, site.clock now ∧ outcome = (served now choice).1 ∧
        after = (served now choice).2) ∨
      ∃ fault, site.faults fault ∧ some (.error fault) = some outcome ∧
        (after = scene ∨ ∃ now choice, site.clock now ∧ after = (served now choice).2)) :
    site.Replaces scene changed outcome after := by
  rcases inverted with ⟨now, choice, onClock, rfl, rfl⟩ |
    ⟨fault, shown, fails, rfl | ⟨now, choice, onClock, rfl⟩⟩
  · rw [goesWell]
    exact .inl ⟨now, onClock, rfl, .inl rfl⟩
  · cases fails
    exact .inr ⟨rfl, fault, shown, rfl⟩
  · cases fails
    rw [goesWell]
    exact .inl ⟨now, onClock, rfl, .inr ⟨fault, shown, rfl⟩⟩

theorem Site.Answers.advance
    (kept : scene.store.WellKept)
    (member : row ∈ scene.store.executions)
    (active : row.status = .active)
    (sameConversation : row.conversation = conversation)
    (sameFlow : row.flow = flow)
    (answered : site.Answers (.advance conversation flow target waiting) scene outcome
      after) :
    site.Replaces scene (fun now => row.moved now target waiting) outcome after := by
  subst sameConversation sameFlow
  refine replaces_of_inversion ?_ answered.inversion
  intro now choice
  simp only [Scene.serve, kept.advance_eq member active]

theorem Site.Answers.setWaiting
    (kept : scene.store.WellKept)
    (member : row ∈ scene.store.executions)
    (active : row.status = .active)
    (sameConversation : row.conversation = conversation)
    (sameFlow : row.flow = flow)
    (answered : site.Answers (.setWaiting conversation flow waiting) scene outcome
      after) :
    site.Replaces scene (fun now => { row with waiting, updated := Timestamp.print now })
      outcome after := by
  subst sameConversation sameFlow
  refine replaces_of_inversion ?_ answered.inversion
  intro now choice
  simp only [Scene.serve, kept.setWaiting_eq member active]
  rfl

theorem Site.Answers.complete
    (kept : scene.store.WellKept)
    (member : row ∈ scene.store.executions)
    (active : row.status = .active)
    (sameConversation : row.conversation = conversation)
    (sameFlow : row.flow = flow)
    (answered : site.Answers (.complete conversation flow) scene outcome after) :
    site.Replaces scene
      (fun now => { row with
        status := .completed, last := some row.node, node := "end", waiting := false,
        updated := Timestamp.print now })
      outcome after := by
  subst sameConversation sameFlow
  refine replaces_of_inversion ?_ answered.inversion
  intro now choice
  simp only [Scene.serve, kept.complete_eq member active]

/-- What follows a change of a row is safe when it is safe where the row was changed. -/
theorem Site.Replaces.safe
    {changed : Instant → ExecutionRow}
    {property : Scene → Prop}
    {post : Except Fault α → Scene → Prop}
    {next : Unit → Process α}
    (replaces : site.Replaces scene changed outcome after)
    (holds : property scene)
    (rest : ∀ now, site.clock now →
      (next ()).Safe site.Answers property post
        (scene.withStore (scene.store.replace (changed now))))
    (halts : ∀ fault after, site.faults fault → post (.error fault) after) :
    ((orHalt outcome).andThen next).Safe site.Answers property post after := by
  rcases replaces with ⟨now, onClock, rfl, rfl | ⟨fault, shown, rfl⟩⟩ | ⟨rfl, fault, shown, rfl⟩
  · exact rest now onClock
  · exact ⟨(rest now onClock).holds, halts fault _ shown⟩
  · exact ⟨holds, halts fault _ shown⟩

end Replacing

namespace Turn

variable {engine : Engine} {site : Site} {graph : Flow.Graph} {execution : Execution}
  {row : ExecutionRow} {scene after : Scene} {node : Flow.Node} {turn : Turn}
  {property : Scene → Prop} {id : String}

/-- A call that is beside the point leaves a process safe when all that may follow is safe. -/
theorem Kept.safe_step
    {request : Call}
    {post : Except Fault α → Scene → Prop}
    {next : request.Outcome → Process α}
    (kept : Kept engine site graph id property)
    (isAside : request.isAside = true)
    (holds : property scene)
    (rest : ∀ outcome after, site.Answers request scene outcome after → property after →
      (next outcome).Safe site.Answers property post after) :
    (Process.step request next).Safe site.Answers property post scene := by
  refine ⟨holds, ?_⟩
  intro outcome after answered
  obtain ⟨rows, queue⟩ := answered.of_isAside isAside
  exact rest outcome after answered (kept scene after holds (.aside rows queue))

/-- The calls of a turn at a node show what callees show. -/
theorem shows_of_answers
    {request : Call}
    {outcome : request.Outcome}
    (allowed : StepCall engine graph site.clock execution node request)
    (answered : site.Answers request scene outcome after) :
    site.Shows request outcome := by
  refine answered.shows ?_
  intro now choice onClock
  cases request with
  | now => exact onClock
  | acquire | release | resolveFlow | flow | activeExecution | executionById
  | latestExecution | createExecution | advance | setWaiting | complete => cases allowed
  | _ =>
      intro fault same
      cases same

/-- What a step at a node does keeps the property, and leaves the turn there. -/
theorem step_safe
    (kept : Kept engine site graph execution.id property)
    (isAt : turn.At execution)
    (stands : Stands site graph execution row scene)
    (found : graph.node? row.node = some node)
    (holds : property scene)
    (answering : Bool) :
    (step engine graph node answering turn).Safe site.Answers property
      (fun result after =>
        site.Yields engine
          (fun result => result.1.Fits graph node ∧ result.2.At execution) result ∧
        ∃ changed, changed.node = row.node ∧ Stands site graph execution changed after)
      scene := by
  have safe : (step engine graph node answering turn).Safe site.Answers
      (fun after => property after ∧
        ∃ changed, changed.node = row.node ∧ Stands site graph execution changed after)
      (fun result _ => site.Yields engine
        (fun result => result.1.Fits graph node ∧ result.2.At execution) result)
      scene := by
    refine (behaves_step isAt answering).safe ?_ ⟨holds, row, rfl, stands⟩
    rintro request before outcome after allowed ⟨keeps, changed, same, stood⟩ answered
    have foundStill : graph.node? changed.node = some node := by
      rw [same]
      exact found
    obtain ⟨move, moved, sameNode, stays⟩ := stood.answered foundStill allowed answered
    exact ⟨⟨kept before after keeps move, moved, sameNode.trans same, stays⟩,
      shows_of_answers allowed answered⟩
  exact safe.relax (fun _ keeps => keeps.1) fun _ _ keeps yields => ⟨yields, keeps.2⟩

/-- A turn that changed no more than its stage and its captured fields stands where it stood. -/
theorem Stands.of_at
    (stands : Stands site graph execution row scene)
    (isAt : turn.At execution) :
    Stands site graph turn.execution row scene where
  kept := stands.kept
  member := stands.member
  active := stands.active
  id_eq := stands.id_eq.trans isAt.id_eq.symm
  flow_eq := stands.flow_eq.trans isAt.flow_eq.symm
  conversation_eq := stands.conversation_eq.trans isAt.conversation_eq.symm
  node_eq := stands.node_eq.trans isAt.node_eq.symm
  known := stands.known
  placed := stands.placed
  arrived := stands.arrived

/-- A turn that moves its row stands where the row was moved. -/
theorem Stands.moved
    {target : String}
    {waiting : Bool}
    {now : Instant}
    (stands : Stands site graph turn.execution row scene)
    (edge : graph.hasEdge row.node target = true)
    (parks : waiting = true → ¬ graph.IsDelay target)
    (onClock : site.clock now) :
    Stands site graph (turn.moveTo target waiting).execution (row.moved now target waiting)
      (scene.withStore (scene.store.replace (row.moved now target waiting))) := by
  refine stands.replace rfl rfl rfl stands.active rfl rfl rfl rfl
    (Flow.Graph.exists_target edge) ?_
  intro isDelay
  refine .inr ⟨?_, now, onClock, rfl⟩
  cases waiting with
  | false => rfl
  | true => exact (parks rfl isDelay).elim

/-- To follow a transition keeps the property.  Where the turn goes on afterwards, it stands. -/
theorem follow_safe
    {transition : Transition}
    (kept : Kept engine site graph turn.execution.id property)
    (stands : Stands site graph turn.execution row scene)
    (found : graph.node? row.node = some node)
    (fits : transition.Fits graph node)
    (holds : property scene) :
    (turn.follow transition).Safe site.Answers property
      (fun result after =>
        match result with
        | .ok next => next.execution.id = turn.execution.id ∧
            (transition.goesOn = true →
              ∃ moved, Stands site graph next.execution moved after)
        | .error fault => site.faults fault)
      scene := by
  have sameId := Flow.Graph.id_of_node? found
  have delayed := Flow.Graph.isDelay_iff found
  have changes {now : Instant} {changed : ExecutionRow} (onClock : site.clock now)
      (change : row.Changes graph now changed) :
      property (scene.withStore (scene.store.replace changed)) :=
    kept scene _ holds
      (.change onClock stands.member stands.id_eq stands.active stands.known change)
  cases transition with
  | advance target =>
      obtain ⟨edge, passed⟩ := fits
      rw [sameId] at edge
      refine ⟨holds, fun outcome after answered => ?_⟩
      refine (answered.advance stands.kept stands.member stands.active stands.conversation_eq
        stands.flow_eq).safe holds ?_ fun _ _ shown => shown
      intro now onClock
      exact ⟨changes onClock (.advance edge (mt delayed.mp passed) (by simp)), rfl,
        fun _ => ⟨_, stands.moved edge (by simp) onClock⟩⟩
  | advanceAndWait target =>
      obtain ⟨edge, passed, parks⟩ := fits
      rw [sameId] at edge
      refine ⟨holds, fun outcome after answered => ?_⟩
      refine (answered.advance stands.kept stands.member stands.active stands.conversation_eq
        stands.flow_eq).safe holds ?_ fun _ _ shown => shown
      intro now onClock
      exact ⟨changes onClock (.advance edge (mt delayed.mp passed) fun _ => parks), rfl, nofun⟩
  | wait =>
      refine ⟨holds, fun outcome after answered => ?_⟩
      refine (answered.setWaiting stands.kept stands.member stands.active stands.conversation_eq
        stands.flow_eq).safe holds ?_ fun _ _ shown => shown
      intro now onClock
      exact ⟨changes onClock (.wait (mt delayed.mp fits)), rfl, nofun⟩
  | scheduled item =>
      refine kept.safe_step rfl holds ?_
      intro _ after _ still
      exact ⟨still, rfl, nofun⟩
  | complete =>
      refine ⟨holds, fun outcome after answered => ?_⟩
      refine (answered.complete stands.kept stands.member stands.active stands.conversation_eq
        stands.flow_eq).safe holds ?_ fun _ _ shown => shown
      intro now onClock
      have last : graph.IsDelay row.node → graph.nextTarget? row.node = none := by
        intro isDelay
        rw [← sameId]
        exact fits (delayed.mp isDelay)
      refine kept.safe_step rfl (changes onClock (.complete last)) ?_
      intro _ after _ still
      exact ⟨still, rfl, nofun⟩

/-- A walk keeps the property from wherever a turn stands. -/
theorem walk_safe
    (kept : Kept engine site graph turn.execution.id property)
    (stands : Stands site graph turn.execution row scene)
    (holds : property scene)
    (hops : Nat)
    (answering : Bool) :
    (walk engine graph hops answering turn).Safe site.Answers property
      (fun result _ =>
        site.Yields engine (fun next => next.execution.id = turn.execution.id) result)
      scene := by
  induction hops generalizing turn row scene answering with
  | zero =>
      refine kept.safe_step rfl holds ?_
      intro _ after _ still
      exact ⟨still, rfl⟩
  | succ hops inductionHypothesis =>
      obtain ⟨node, found⟩ := stands.placed
      have required : graph.require turn.execution.node = .ok node := by
        rw [← stands.node_eq]
        exact Flow.Graph.require_eq_ok found
      unfold walk
      simp only [required, bind_eq_andThen, orFail, andThen_done]
      refine kept.safe_step rfl holds ?_
      intro _ entered answered still
      have stood := stands.aside (answered.of_isAside rfl).1
      have visiting : ({ turn with visited := turn.visited ++ [node.id] } : Turn).At
          turn.execution := rfl
      refine (step_safe kept visiting stood found still answering).andThen ?_ ?_
      · rintro ⟨transition, next⟩ stepped keeps ⟨⟨fits, isAt⟩, changed, same, stays⟩
        have foundStill : graph.node? changed.node = some node := by
          rw [same]
          exact found
        have keptStill : Kept engine site graph next.execution.id property := by
          rw [isAt.id_eq]
          exact kept
        refine (follow_safe keptStill (stays.of_at isAt) foundStill fits keeps).andThen ?_ ?_
        · rintro moved followed goes ⟨sameId, stoodThere⟩
          dsimp only
          split
          · rename_i goesOn
            obtain ⟨row, there⟩ := stoodThere goesOn
            have keptThere : Kept engine site graph moved.execution.id property := by
              rw [sameId]
              exact keptStill
            refine (inductionHypothesis keptThere there goes false).weaken ?_
            rintro (fault | last) _ _ yields
            · exact yields
            · exact yields.trans (sameId.trans isAt.id_eq)
          · exact ⟨goes, sameId.trans isAt.id_eq⟩
        · exact fun fault _ _ shown => .inl shown
      · exact fun fault _ _ halts => halts.1

/-- A walk keeps the property, too, while it writes the user's text down. -/
theorem logInput_safe
    (kept : Kept engine site graph id property)
    (holds : property scene) :
    turn.logInput.Safe site.Answers property
      (fun result _ => site.Yields engine (fun _ => True) result) scene := by
  unfold logInput
  split
  · refine (within_logExchange turn.input.text "").safe ?_ holds
    intro request before outcome after allowed keeps answered
    have isAside : request.isAside = true := by
      rcases allowed with rfl | ⟨_, _, rfl⟩ <;> rfl
    have stepCall : StepCall engine graph site.clock turn.execution graph.start request := by
      rcases allowed with rfl | ⟨_, _, rfl⟩ <;> trivial
    obtain ⟨rows, queue⟩ := answered.of_isAside isAside
    exact ⟨kept before after keeps (.aside rows queue), shows_of_answers stepCall answered⟩
  · exact ⟨holds, trivial⟩

/-- A whole turn keeps the property, and halts only with faults that callees showed. -/
theorem perform_safe
    (kept : Kept engine site graph execution.id property)
    (stands : Stands site graph execution row scene)
    (holds : property scene)
    (input : TurnInput) :
    (perform engine graph execution input).Safe site.Answers property
      (fun result _ => site.Yields engine (fun _ => True) result) scene := by
  unfold perform
  refine (walk_safe kept stands holds _ _).andThen ?_ fun _ _ _ halts => halts
  intro turn walked keeps _
  refine (logInput_safe kept keeps).andThen ?_ fun _ _ _ halts => halts
  intro _ written still _
  exact ⟨still, trivial⟩

end Turn
end ChatFlow
