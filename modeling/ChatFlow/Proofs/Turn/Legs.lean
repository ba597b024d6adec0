import ChatFlow.Proofs.Turn.Bearing
import ChatFlow.Proofs.Turn.Script

/-!
# Turns leg by leg

A walk is a sequence of visits: at each node the turn enters it, does what it says, and takes the
exit.  An `Account` says what holds once a turn has taken some legs, and that each visit adds its
leg to what holds.  Then it holds of the whole route at the end.
-/

namespace ChatFlow

open Process

namespace Turn

/-- Visits a node: enters it, does what it says, and goes where it says. -/
def visit (engine : Engine) (graph : Flow.Graph) (node : Flow.Node) (answering : Bool)
    (turn : Turn) : Process (Transition × Turn) :=
  (turn.enter node).andThen fun turn =>
    (step engine graph node answering turn).andThen fun result =>
      (result.2.follow result.1).andThen fun moved => .done (result.1, moved)

variable {engine : Engine} {graph : Flow.Graph} {node : Flow.Node} {turn after : Turn}
  {transition : Transition} {answering : Bool} {hops : Nat}

/-- A walk visits the node where it stands, and goes on from there if it is told so. -/
theorem walk_succ (found : graph.node? turn.execution.node = some node) :
    walk engine graph (hops + 1) answering turn =
      (visit engine graph node answering turn).andThen fun result =>
        if result.1.goesOn then walk engine graph hops false result.2 else .done result.2 := by
  rw [walk]
  simp only [Flow.Graph.require_eq_ok found, bind_eq_andThen, orFail, andThen_done, visit,
    andThen_assoc, pure_eq_done]

/-! ## Visits -/

/-- What a turn carries along after it has visited a node. -/
structure Visits
    (graph : Flow.Graph) (turn : Turn) (node : Flow.Node) (answering : Bool)
    (transition : Transition) (after : Turn) : Prop where
  exit_eq : transition.exit = graph.exit turn.input.text answering node
  fits : transition.Fits graph node
  moves : ∃ stayed, Stays { turn with visited := turn.visited ++ [node.id] } stayed ∧
    after = { stayed.take transition.exit with
      scheduled := transition.item?.or turn.scheduled }

/-- To follow a transition is to take its exit, and to wait for its continuation. -/
theorem within_follow (transition : Transition) :
    (turn.follow transition).Within (fun request => request.item? = none) (fun _ _ => True)
      (fun result => ∀ moved, result = .ok moved →
        moved = { turn.take transition.exit with
          scheduled := transition.item?.or turn.scheduled }) := by
  cases transition with
  | advance | advanceAndWait | wait =>
      simp only [follow, ask, bind_eq_andThen, andThen_step, andThen_done, pure_eq_done]
      refine ⟨rfl, fun outcome _ => ?_⟩
      cases outcome with
      | ok _ =>
          rintro _ ⟨⟩
          rfl
      | error _ =>
          rintro _ ⟨⟩
  | scheduled item =>
      refine ⟨rfl, fun _ _ => ?_⟩
      rintro _ ⟨⟩
      rfl
  | complete =>
      simp only [follow, publish, ask, bind_eq_andThen, andThen_step, andThen_done, pure_eq_done]
      refine ⟨rfl, fun outcome _ => ?_⟩
      cases outcome with
      | ok _ =>
          refine ⟨rfl, fun _ _ => ?_⟩
          rintro _ ⟨⟩
          rfl
      | error _ =>
          rintro _ ⟨⟩

/-- At a node a turn queues continuations only where that is a delay, and leaves the node along an
edge, by the exit that is settled. -/
theorem within_step_exit (answering : Bool) :
    (step engine graph node answering turn).Within
      (fun request => request.item?.isSome = true → node.kind = .delay) (fun _ _ => True)
      (fun result => ∀ transition stayed, result = .ok (transition, stayed) →
        transition.Fits graph node ∧
          transition.exit = graph.exit turn.input.text answering node ∧ Stays turn stayed) := by
  have behaves : Behaves engine .anywhere graph turn.execution node
      (fun result => (result.1.Fits graph node ∧
        result.1.exit = graph.exit turn.input.text answering node) ∧ Stays turn result.2)
      (step engine graph node answering turn) := behaves_step_exit (.refl turn) answering
  refine behaves.weaken ?_ (fun request outcome _ => Site.shows_anywhere request outcome) ?_
  · intro request allowed
    cases request with
    | enqueue item => exact fun _ => allowed.kind
    | _ => exact nofun
  · rintro _ yields transition stayed rfl
    exact ⟨yields.1.1, yields.1.2, yields.2⟩

/-- Whatever the outcomes of its calls are, a visit leaves the node by the exit that is settled. -/
theorem within_visit :
    (visit engine graph node answering turn).Within (fun _ => True) (fun _ _ => True)
      (fun result => ∀ transition after, result = .ok (transition, after) →
        Visits graph turn node answering transition after) := by
  refine ⟨trivial, fun _ _ => ?_⟩
  have steps : (step engine graph node answering
      { turn with visited := turn.visited ++ [node.id] }).Within (fun _ => True) _ _ :=
    (within_step_exit answering).weaken (fun _ _ => trivial) (fun _ _ shown => shown)
      fun _ settled => settled
  refine steps.andThen ?_ ?_
  · rintro ⟨transition, stayed⟩ settled
    obtain ⟨fits, exit_eq, stays⟩ := settled _ _ rfl
    have follows : (stayed.follow transition).Within _ _ _ := within_follow transition
    refine (follows.weaken (fun _ _ => trivial) (fun _ _ shown => shown) fun _ moves =>
      moves).andThen ?_ ?_
    · rintro moved moves _ _ ⟨⟩
      refine ⟨exit_eq, fits, stayed, stays, ?_⟩
      rw [moves _ rfl, stays.scheduled_eq]
    · rintro _ _ _ _ ⟨⟩
  · rintro _ _ _ _ ⟨⟩

theorem bears_follow (transition : Transition) :
    Bears (fun _ => True) (turn.follow transition) := by
  have goesWell {request : Call} {outcome : request.Outcome}
      (bearable : request.Bearable outcome) (needed : request.isSpare = false) (fault : Fault) :
      request.failure? fault ≠ some outcome :=
    fun fails => bearable.not_fails needed ⟨fault, fails⟩
  cases transition with
  | advance | advanceAndWait | wait =>
      refine bears_step fun outcome bearable => (bears_orHalt fun fault failed => ?_).andThen ?_
      · exact goesWell bearable rfl fault (by rw [failed]; rfl)
      · exact fun _ _ => trivial
  | scheduled item => exact bears_step fun _ _ => trivial
  | complete =>
      refine bears_step fun outcome bearable => (bears_orHalt fun fault failed => ?_).andThen ?_
      · exact goesWell bearable rfl fault (by rw [failed]; rfl)
      · exact fun _ _ => bears_step fun _ _ => trivial

/-- A visit ends well, unless the wait of a delay cannot be told. -/
theorem bears_visit :
    Bears (fun result => ∀ item ∈ result.1.item?, item.Resumes graph node turn)
      (visit engine graph node answering turn) := by
  refine bears_step fun _ _ => (bears_step_item answering).andThen ?_
  rintro ⟨transition, stayed⟩ resumes
  exact (bears_follow transition).andThen fun _ _ => bears_done resumes

/-- How a visit ends when all its calls are borne. -/
def Settles
    (graph : Flow.Graph) (turn : Turn) (node : Flow.Node) (answering : Bool) :
    Except Fault (Transition × Turn) → Prop
  | .ok (transition, after) => Visits graph turn node answering transition after ∧
      ∀ item ∈ transition.item?, item.Resumes graph node turn
  | .error fault => ∃ text, fault = .error (.scheduler text)

/-- Against obliging callees a visit ends so. -/
theorem visit_settles
    {σ : Type}
    {site : Site}
    {manner : Answering σ}
    {before : Transcript σ} :
    (visit engine graph node answering turn).Safe (site.Obliges manner) (fun _ => True)
      (fun result _ => Settles graph turn node answering result) before := by
  have known : (visit engine graph node answering turn).Within _ _ _ :=
    within_visit.and bears_visit
  refine (known.safe ?_ trivial).weaken ?_
  · exact fun _ _ _ _ _ _ obliged => ⟨trivial, trivial, obliged.bearable⟩
  · rintro (fault | ⟨transition, moved⟩) _ _ ⟨visits, resumes⟩
    · exact resumes
    · exact ⟨visits _ _ rfl, resumes⟩

/-- Where a turn goes on by itself, it was moved to the node of the exit. -/
theorem Visits.of_onward
    {target : String}
    (visits : Visits graph turn node answering transition after)
    (onward : transition.exit.onward? = some target) :
    after.execution.node = target ∧ after.input = turn.input ∧
      ∃ next, graph.node? target = some next := by
  obtain ⟨_, fits, stayed, stays, rfl⟩ := visits
  match transition, onward with
  | .advance target, rfl => exact ⟨rfl, stays.input_eq, Flow.Graph.exists_target fits.1⟩

end Turn

/-- Whether a call only looks at the clock, writes to the history, or tells something other than
that a node is entered. -/
def Call.isIdle : Call → Bool
  | .now | .appendHistory .. => true
  | .publish (.entered ..) => false
  | .publish _ => true
  | _ => false

namespace Turn

variable {σ : Type} {site : Site} {manner : Answering σ} {engine : Engine} {graph : Flow.Graph}
  {holds : List Leg → Turn → Transcript σ → Prop} {before : Transcript σ}

/-- What holds once a turn has taken some legs. -/
structure Account
    (site : Site) (manner : Answering σ) (engine : Engine) (graph : Flow.Graph)
    (holds : List Leg → Turn → Transcript σ → Prop) : Prop where
  /-- A visit adds its leg to legs that all go on. -/
  visit : ∀ legs turn before node answering, holds legs turn before →
    (∀ leg ∈ legs, leg.exit.onward?.isSome = true) →
    graph.node? turn.execution.node = some node →
    (Turn.visit engine graph node answering turn).Safe (site.Obliges manner) (fun _ => True)
      (fun result after => ∀ transition moved, result = .ok (transition, moved) →
        holds (legs ++ [{ node, exit := transition.exit }]) moved after)
      before
  /-- It does not matter what idle calls do. -/
  idle : ∀ legs turn request before outcome after, holds legs turn before →
    request.isIdle = true → site.Obliges manner request before outcome after →
    holds legs turn after
  /-- It does not matter why the turn stops. -/
  limited : ∀ legs turn state, holds legs turn state →
    holds legs { turn with hopLimit := true } state

/-- What holds in two ways holds at once. -/
theorem Account.and
    {also : List Leg → Turn → Transcript σ → Prop}
    (account : Account site manner engine graph holds)
    (other : Account site manner engine graph also) :
    Account site manner engine graph
      (fun legs turn after => holds legs turn after ∧ also legs turn after) where
  visit legs turn before node answering both goOn found := by
    refine ((account.visit legs turn before node answering both.1 goOn found).and
      (other.visit legs turn before node answering both.2 goOn found)).relax
        (fun _ _ => trivial) ?_
    exact fun _ _ _ adds transition moved same => ⟨adds.1 _ _ same, adds.2 _ _ same⟩
  idle legs turn request before outcome after both idle obliged :=
    ⟨account.idle _ _ _ _ _ _ both.1 idle obliged, other.idle _ _ _ _ _ _ both.2 idle obliged⟩
  limited _ _ _ both := ⟨account.limited _ _ _ both.1, other.limited _ _ _ both.2⟩

/-- A turn stands at no node, and may not stop there. -/
def Lost (graph : Flow.Graph) (hops : Nat) (id : String) : Prop :=
  hops ≠ 0 ∧ graph.node? id = none

/-- How a walk breaks off when all its calls are borne: a wait cannot be told, or the turn stands
at no node. -/
def Breaks (graph : Flow.Graph) (hops : Nat) (id : String) (fault : Fault) : Prop :=
  (∃ text, fault = .error (.scheduler text)) ∨ Lost graph hops id

/-- A walk takes its whole route. -/
theorem Account.walk
    {text : String}
    (account : Account site manner engine graph holds)
    (turn : Turn)
    (legs : List Leg)
    (given : turn.input.text = text)
    (begins : holds legs turn before)
    (goOn : ∀ leg ∈ legs, leg.exit.onward?.isSome = true)
    (hops : Nat)
    (answering : Bool) :
    (walk engine graph hops answering turn).Safe (site.Obliges manner) (fun _ => True)
      (fun
        | .ok moved, after =>
            holds (legs ++ graph.route text hops answering turn.execution.node) moved after
        | .error fault, _ => Breaks graph hops turn.execution.node fault)
      before := by
  induction hops generalizing turn legs before answering with
  | zero =>
      refine ⟨trivial, fun _ after obliged => ⟨trivial, ?_⟩⟩
      rw [Flow.Graph.route, List.append_nil]
      exact account.limited _ _ _ (account.idle _ _ _ _ _ _ begins rfl obliged)
  | succ hops inductionHypothesis =>
      cases found : graph.node? turn.execution.node with
      | none =>
          have missing : graph.require turn.execution.node =
              .error (.nodeNotFound graph.id turn.execution.node) := by
            simp [Flow.Graph.require, found]
          unfold Turn.walk
          rw [missing]
          exact ⟨trivial, .inr ⟨hops.succ_ne_zero, found⟩⟩
      | some node =>
          rw [walk_succ found, Flow.Graph.route_succ found]
          have visited : (Turn.visit engine graph node answering turn).Safe (site.Obliges manner)
              (fun _ => True) _ before :=
            ((account.visit legs turn before node answering begins goOn found).and
              visit_settles).relax (fun _ _ => trivial) fun _ _ _ both => both
          refine visited.andThen ?_ ?_
          · rintro ⟨transition, moved⟩ after _ ⟨takes, visits, _⟩
            have exit_eq : transition.exit = graph.exit text answering node := by
              rw [← given]
              exact visits.exit_eq
            have there := takes _ _ rfl
            rw [exit_eq] at there
            dsimp only
            rw [Transition.goesOn_eq]
            cases onward : transition.exit.onward? with
            | none =>
                rw [exit_eq] at onward
                rw [onward]
                exact ⟨trivial, there⟩
            | some target =>
                obtain ⟨node_eq, input_eq, next, foundNext⟩ := visits.of_onward onward
                rw [exit_eq] at onward
                rw [onward]
                have goOn : ∀ leg ∈ legs ++ [{ node, exit := graph.exit text answering node }],
                    leg.exit.onward?.isSome = true := by
                  intro leg member
                  rcases List.mem_append.mp member with old | last
                  · exact goOn leg old
                  · rw [List.mem_singleton.mp last, onward]
                    rfl
                have walks := inductionHypothesis moved _ (by rw [input_eq, given]) there goOn false
                rw [node_eq, List.append_assoc] at walks
                refine walks.weaken ?_
                rintro (fault | last) _ _ ends
                · rcases ends with untold | ⟨_, missing⟩
                  · exact .inl untold
                  · rw [foundNext] at missing
                    cases missing
                · exact ends
          · rintro fault after _ ⟨_, untold⟩
            exact .inl untold

/-- To write the user's text down takes idle calls only, and ends well. -/
theorem within_logInput_of_bearable {turn : Turn} :
    turn.logInput.Within (fun request => request.isIdle = true) Call.Bearable
      (fun result => result = .ok ()) := by
  unfold logInput
  split
  · refine ⟨rfl, fun time _ => ⟨rfl, fun outcome bearable => ?_⟩⟩
    cases outcome with
    | ok _ => rfl
    | error fault =>
        obtain ⟨error, rfl⟩ := exists_error_of_bearable bearable rfl
        rfl
  · rfl

/-- A turn takes all its legs. -/
theorem Account.perform
    {execution : Execution}
    {input : TurnInput}
    (account : Account site manner engine graph holds)
    (begins : holds [] { execution, input } before) :
    (perform engine graph execution input).Safe (site.Obliges manner) (fun _ => True)
      (fun
        | .ok report, after =>
            ∃ turn, report = turn.report ∧ holds (way engine graph execution input) turn after
        | .error fault, _ => Breaks graph engine.settings.maxHops execution.node fault)
      before := by
  refine (account.walk { execution, input } [] rfl begins nofun engine.settings.maxHops
    input.isReply).andThen ?_ fun _ _ _ breaks => breaks
  intro turn after _ takes
  have takes : holds (way engine graph execution input) turn after := takes
  have writes : turn.logInput.Safe (site.Obliges manner)
      (holds (way engine graph execution input) turn) (fun result _ => result = .ok ()) after := by
    refine within_logInput_of_bearable.safe ?_ takes
    intro request before outcome after idle there obliged
    exact ⟨account.idle _ _ _ _ _ _ there idle obliged, obliged.bearable⟩
  have written : turn.logInput.Safe (site.Obliges manner) (fun _ => True)
      (fun result last => holds (way engine graph execution input) turn last ∧ result = .ok ())
      after :=
    writes.relax (fun _ _ => trivial) fun _ _ there ends => ⟨there, ends⟩
  refine written.andThen ?_ ?_
  · rintro _ last _ ⟨there, _⟩
    exact ⟨trivial, turn, rfl, there⟩
  · rintro _ _ _ ⟨_, ⟨⟩⟩

end Turn
end ChatFlow
