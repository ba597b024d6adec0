import ChatFlow.Proofs.Support
import ChatFlow.Proofs.Turn.Legs

/-!
# Parked executions

A turn that comes to a delay queues a continuation there, and these are two steps.  So where callees
support it, a turn leaves an execution parked at a delay without a continuation only if it stopped
on its hop limit in between, or was cut short because it could not be told when the wait is over.
-/

namespace ChatFlow

open Process

/-- An execution runs and stands at a delay, where it does not wait for a reply. -/
structure Flow.Library.Parked (library : Library) (graph : Graph) (row : ExecutionRow) : Prop where
  active : row.status = .active
  ready : row.waiting = false
  known : library.get row.flow = .ok graph
  isDelay : graph.IsDelay row.node

/-- It may be that nobody can tell when the wait of a node is over. -/
def Engine.Untellable (engine : Engine) (clock : Instant → Prop) (node : Flow.Node) : Prop :=
  Delay.span engine.settings.defaultDelay node ≤ Span.longest →
    ∃ now, clock now ∧
      ¬ now.after (Delay.span engine.settings.defaultDelay node) ≤ Instant.latest

namespace Turn

/-- Why an execution is parked after a turn that may have been cut short. -/
inductive Accounts (engine : Engine) (site : Site) (graph : Flow.Graph) (before after : Scene)
    (row : ExecutionRow) (isCut : Prop) : Prop
  /-- A continuation was queued for it. -/
  | queued {item : Continuation} (isNew : item ∈ before.queuedSince after)
      (awaits : site.library.Awaits item graph row)
  /-- The turn stopped at the delay on its hop limit. -/
  | hopLimit {hops : Nat}
      (told : Event.hopLimit row.conversation row.node hops ∈ before.publishedSince after)
  /-- The turn was cut short because the wait could not be told. -/
  | untellable {node : Flow.Node} (found : graph.node? row.node = some node)
      (untellable : engine.Untellable site.clock node) (isCut : isCut)

/-- It is accounted for that the execution with an id is parked, if it is. -/
def AccountsFor
    (engine : Engine) (site : Site) (graph : Flow.Graph) (id : String) (before : Scene)
    (isCut : Prop) (after : Scene) : Prop :=
  ∀ row ∈ after.store.executions, row.id = id → site.library.Parked graph row →
    Accounts engine site graph before after row isCut

variable {engine : Engine} {site : Site} {graph : Flow.Graph} {execution : Execution}
  {row : ExecutionRow} {start scene after : Scene} {node : Flow.Node} {turn : Turn} {id : String}
  {isCut : Prop}

/-- It is enough to account for the one row with the id. -/
theorem accountsFor_of_mem
    (kept : after.store.WellKept)
    (member : row ∈ after.store.executions)
    (id_eq : row.id = id)
    (accounts : site.library.Parked graph row →
      Accounts engine site graph start after row isCut) :
    AccountsFor engine site graph id start isCut after := by
  intro other otherMember same parked
  obtain rfl := kept.eq_of_id member otherMember (id_eq.trans same.symm)
  exact accounts parked

/-- Nothing has to be accounted for where a turn is cut short at another node than a delay. -/
theorem accountsFor_of_passed
    (stands : Stands site graph execution row after)
    (passed : ¬ graph.IsDelay row.node) :
    AccountsFor engine site graph execution.id start isCut after :=
  accountsFor_of_mem stands.kept stands.member stands.id_eq fun parked =>
    (passed parked.isDelay).elim

/-- What is accounted for is so later, and from earlier on. -/
theorem AccountsFor.extend
    {earlier later : Scene}
    {wasCut : Prop}
    (accounts : AccountsFor engine site graph id start wasCut after)
    (front : earlier.Grows start)
    (back : after.Grows later)
    (rows : later.store.executions = after.store.executions)
    (lasts : wasCut → isCut) :
    AccountsFor engine site graph id earlier isCut later := by
  intro row member same parked
  rw [rows] at member
  cases accounts row member same parked with
  | queued isNew awaits =>
      exact .queued (Scene.mem_drop_of_prefix front.queued back.queued isNew) awaits
  | hopLimit told => exact .hopLimit (Scene.mem_drop_of_prefix front.events back.events told)
  | untellable found untellable wasCut => exact .untellable found untellable (lasts wasCut)

/-! ## Delays -/

/-- The time at which a wait is over is found out, unless it cannot be told. -/
theorem dueAfter_safe :
    (dueAfter (Delay.span engine.settings.defaultDelay node)).Safe site.Supports (fun _ => True)
      (fun result after => after = scene ∧
        ∀ fault, result = .error fault → engine.Untellable site.clock node) scene := by
  unfold dueAfter
  split
  · refine ⟨trivial, fun now after supported => ?_⟩
    obtain ⟨rfl, onClock⟩ := supported.answered.now
    show (ite _ _ _ : Process Instant).Safe _ _ _ _
    split
    · exact ⟨trivial, rfl, nofun⟩
    · rename_i late
      exact ⟨trivial, rfl, fun _ _ _ => ⟨now, onClock, late⟩⟩
  · rename_i long
    exact ⟨trivial, rfl, fun _ _ short => (long short).elim⟩

/-- At a delay a continuation is queued, unless nothing follows or the wait cannot be told. -/
def Delays (engine : Engine) (site : Site) (graph : Flow.Graph) (node : Flow.Node) (turn : Turn)
    (scene after : Scene) : Except Fault Transition → Prop
  | .ok (.scheduled item) => item.Resumes graph node turn ∧ after.queued = scene.queued ++ [item]
  | .ok transition => transition = .complete
  | .error _ => engine.Untellable site.clock node

theorem delay_safe :
    (delay engine graph turn node).Safe site.Supports (fun _ => True)
      (fun result after => after.store = scene.store ∧
        Delays engine site graph node turn scene after result) scene := by
  unfold delay
  cases next : graph.nextTarget? node.id with
  | none => exact ⟨trivial, rfl, rfl⟩
  | some target =>
      refine dueAfter_safe.andThen ?_ ?_
      · rintro due _ _ ⟨rfl, _⟩
        refine ⟨trivial, fun outcome after supported => ?_⟩
        obtain ⟨rfl, rfl⟩ := supported.enqueue
        exact ⟨trivial, rfl, ⟨target, due, next, rfl⟩, rfl⟩
      · rintro fault _ _ ⟨rfl, untellable⟩
        exact ⟨rfl, untellable fault rfl⟩

/-! ## Walks -/

/-- Where a turn waits for a reply, or completes its execution, it does not leave it parked. -/
theorem follow_unparked
    {transition : Transition}
    (stands : Stands site graph turn.execution row scene)
    (stops : transition.goesOn = false)
    (unscheduled : transition.item? = none) :
    (turn.follow transition).Safe site.Supports (fun _ => True)
      (fun _ after => ∀ row ∈ after.store.executions, row.id = turn.execution.id →
        ¬ site.library.Parked graph row) scene := by
  have changes {changed : ExecutionRow} {after : Scene}
      (rows : after.store.executions = (scene.store.replace changed).executions)
      (sameId : changed.id = row.id) (sameFlow : changed.flow = row.flow)
      (sameConversation : changed.conversation = row.conversation)
      (leaves : ¬ site.library.Parked graph changed) :
      ∀ row ∈ after.store.executions, row.id = turn.execution.id →
        ¬ site.library.Parked graph row := by
    rw [rows]
    intro other member names
    have kept := stands.kept.replace stands.member stands.active sameId sameConversation sameFlow
    obtain rfl := kept.eq_of_id member (Store.mem_replace_self stands.member sameId.symm)
      (names.trans (sameId.trans stands.id_eq).symm)
    exact leaves
  cases transition with
  | advance target => cases stops
  | scheduled item => cases unscheduled
  | advanceAndWait target =>
      refine ⟨trivial, fun outcome after supported => ?_⟩
      obtain ⟨now, _, rfl, rfl⟩ := supported.advance stands.kept stands.member stands.active
        stands.conversation_eq stands.flow_eq
      exact ⟨trivial, changes rfl rfl rfl rfl fun parked => absurd parked.ready nofun⟩
  | wait =>
      refine ⟨trivial, fun outcome after supported => ?_⟩
      obtain ⟨now, rfl, rfl⟩ := supported.setWaiting stands.kept stands.member stands.active
        stands.conversation_eq stands.flow_eq
      exact ⟨trivial, changes rfl rfl rfl rfl fun parked => absurd parked.ready nofun⟩
  | complete =>
      refine ⟨trivial, fun outcome after supported => ?_⟩
      obtain ⟨now, rfl, rfl⟩ := supported.complete stands.kept stands.member stands.active
        stands.conversation_eq stands.flow_eq
      refine ⟨trivial, fun outcome later supported => ⟨trivial, ?_⟩⟩
      exact changes (supported.answered.of_isAside rfl).1 rfl rfl rfl
        fun parked => absurd parked.active nofun

/-- After a visit the turn stands where it goes on, or it is accounted for that the execution is
parked, if it is. -/
def Reckons
    (engine : Engine) (site : Site) (graph : Flow.Graph) (id : String) (start after : Scene) :
    Except Fault (Transition × Turn) → Prop
  | .ok (transition, moved) =>
      if transition.goesOn then
        moved.execution.id = id ∧ ∃ row, Stands site graph moved.execution row after
      else AccountsFor engine site graph id start False after
  | .error _ => AccountsFor engine site graph id start True after

/-- A turn that does not go on from a node ends there, and it leaves the execution parked only if it
waits for a continuation. -/
theorem follow_reckons
    {transition : Transition}
    (stands : Stands site graph turn.execution row scene)
    (stops : transition.goesOn = false)
    (unscheduled : transition.item? = none) :
    ((turn.follow transition).andThen fun moved => .done (transition, moved)).Safe site.Supports
      (fun _ => True)
      (fun result after => Reckons engine site graph turn.execution.id start after result)
      scene := by
  refine (follow_unparked stands stops unscheduled).andThen ?_ ?_
  · intro moved after _ unparked
    refine ⟨trivial, ?_⟩
    simp only [Reckons, stops]
    exact fun row member names parked => (unparked row member names parked).elim
  · exact fun fault after _ unparked row member names parked =>
      (unparked row member names parked).elim

/-- A turn that comes to a delay ends there. -/
theorem visit_reckons_of_delay
    (stands : Stands site graph turn.execution row scene)
    (found : graph.node? row.node = some node)
    (isDelay : node.kind = .delay)
    (grown : start.Grows scene)
    (answering : Bool) :
    (visit engine graph node answering turn).Safe site.Supports (fun _ => True)
      (fun result after => Reckons engine site graph turn.execution.id start after result)
      scene := by
  refine ⟨trivial, fun _ entered supported => ?_⟩
  have stands := stands.aside (supported.answered.of_isAside rfl).1
  have grown := grown.trans supported.answered.grows
  let visiting : Turn := { turn with visited := turn.visited ++ [node.id] }
  have stands : Stands site graph visiting.execution row entered := stands
  have stepped : step engine graph node answering visiting =
      (delay engine graph visiting node).andThen fun transition =>
        .done (transition, visiting) := by
    simp only [step, isDelay]
    rfl
  change ((step engine graph node answering visiting).andThen fun result =>
    (result.2.follow result.1).andThen fun moved => .done (result.1, moved)).Safe _ _ _ _
  rw [stepped, andThen_assoc]
  refine (Site.safe_grows delay_safe grown).andThen ?_ ?_
  · rintro transition parked _ ⟨⟨store_eq, delays⟩, _⟩
    have stood : Stands site graph visiting.execution row parked := stands.aside (by rw [store_eq])
    cases transition with
    | scheduled item =>
        obtain ⟨⟨target, due, next, rfl⟩, queued_eq⟩ := delays
        refine ⟨trivial, fun _ after supported => ⟨trivial, ?_⟩⟩
        have aside := supported.answered.of_isAside rfl
        have still := stood.aside aside.1
        refine accountsFor_of_mem still.kept still.member still.id_eq fun parked => ?_
        refine .queued (grown.mem_queuedSince (aside.2.trans queued_eq)) ?_
        refine ⟨stands.id_eq, parked.active, parked.ready, parked.known, parked.isDelay, ?_⟩
        rw [← Flow.Graph.id_of_node? found]
        exact Flow.Graph.hasEdge_of_nextTarget? next
    | complete => exact follow_reckons stood rfl rfl
    | advance | advanceAndWait | wait => cases delays
  · rintro fault after _ ⟨⟨store_eq, untellable⟩, _⟩
    have stood : Stands site graph visiting.execution row after := stands.aside (by rw [store_eq])
    exact accountsFor_of_mem stood.kept stood.member stood.id_eq fun _ =>
      .untellable found untellable trivial

/-- A turn that comes to another node goes on from there, or does not leave the execution
parked. -/
theorem visit_reckons_of_passed
    (stands : Stands site graph turn.execution row scene)
    (found : graph.node? row.node = some node)
    (passed : node.kind ≠ .delay)
    (answering : Bool) :
    (visit engine graph node answering turn).Safe site.Supports (fun _ => True)
      (fun result after => Reckons engine site graph turn.execution.id start after result)
      scene := by
  refine ⟨trivial, fun _ entered supported => ?_⟩
  have stands := stands.aside (supported.answered.of_isAside rfl).1
  let visiting : Turn := { turn with visited := turn.visited ++ [node.id] }
  have stands : Stands site graph visiting.execution row entered := stands
  have anyScene : Kept engine site graph visiting.execution.id fun _ => True :=
    fun _ _ _ _ => trivial
  have isAt : visiting.At visiting.execution := rfl
  have stepped := (step_safe anyScene isAt stands found trivial answering).narrow
    fun _ _ _ _ supported => Site.Supports.answered supported
  change ((step engine graph node answering visiting).andThen fun result =>
    (result.2.follow result.1).andThen fun moved => .done (result.1, moved)).Safe _ _ _ _
  refine stepped.andThen ?_ ?_
  · rintro ⟨transition, stayed⟩ after _ ⟨⟨fits, isAt⟩, changed, sameNode, stays⟩
    have stays := stays.of_at isAt
    have same : stayed.execution.id = turn.execution.id := isAt.id_eq
    rw [← same]
    cases transition with
    | advance target =>
        refine ⟨trivial, fun outcome moved supported => ?_⟩
        obtain ⟨now, onClock, rfl, rfl⟩ := supported.advance stays.kept stays.member stays.active
          stays.conversation_eq stays.flow_eq
        have edge : graph.hasEdge changed.node target = true := by
          rw [sameNode, ← Flow.Graph.id_of_node? found]
          exact fits.1
        exact ⟨trivial, rfl, _, stays.moved edge nofun onClock⟩
    | scheduled => exact (passed fits).elim
    | advanceAndWait | wait | complete => exact follow_reckons stays rfl rfl
  · rintro fault after _ ⟨_, changed, sameNode, stays⟩
    refine accountsFor_of_passed stays ?_
    rw [sameNode, Flow.Graph.isDelay_iff found]
    exact passed

/-- A walk accounts for an execution that it leaves parked. -/
theorem walk_accounts
    (stands : Stands site graph turn.execution row scene)
    (grown : start.Grows scene)
    (hops : Nat)
    (answering : Bool) :
    (walk engine graph hops answering turn).Safe site.Supports (fun _ => True)
      (fun result after => AccountsFor engine site graph turn.execution.id start
        (∃ fault, result = .error fault) after) scene := by
  induction hops generalizing turn row scene answering with
  | zero =>
      refine ⟨trivial, fun _ after supported => ⟨trivial, ?_⟩⟩
      have stood := stands.aside (supported.answered.of_isAside rfl).1
      refine accountsFor_of_mem stood.kept stood.member stood.id_eq fun _ => ?_
      have told : Event.hopLimit row.conversation row.node turn.visited.length ∈
          start.publishedSince after := by
        apply grown.mem_publishedSince
        rw [supported.publish, stands.conversation_eq, stands.node_eq]
        rfl
      exact .hopLimit told
  | succ hops inductionHypothesis =>
      obtain ⟨node, found⟩ := stands.placed
      have visits : (visit engine graph node answering turn).Safe site.Supports (fun _ => True)
          (fun result after => Reckons engine site graph turn.execution.id start after result)
          scene := by
        by_cases isDelay : node.kind = .delay
        · exact visit_reckons_of_delay stands found isDelay grown answering
        · exact visit_reckons_of_passed stands found isDelay answering
      rw [stands.node_eq] at found
      rw [walk_succ found]
      refine (Site.safe_grows visits grown).andThen ?_ ?_
      · rintro ⟨transition, moved⟩ after _ ⟨reckons, grownThere⟩
        dsimp only [Reckons] at reckons ⊢
        split
        · rename_i goesOn
          rw [if_pos goesOn] at reckons
          obtain ⟨same, stood, standsThere⟩ := reckons
          rw [← same]
          exact inductionHypothesis standsThere grownThere false
        · rename_i stops
          rw [if_neg stops] at reckons
          exact ⟨trivial, reckons.extend (.refl _) (.refl _) rfl False.elim⟩
      · rintro fault after _ ⟨reckons, _⟩
        exact reckons.extend (.refl _) (.refl _) rfl fun _ => ⟨fault, rfl⟩

/-! ## Whole turns -/

/-- To write the user's text down touches no row. -/
theorem logInput_safe_rows :
    turn.logInput.Safe site.Supports (fun _ => True)
      (fun _ after => after.store.executions = scene.store.executions) scene := by
  have within : turn.logInput.Within (fun request => request.isAside = true) (fun _ _ => True)
      fun _ => True := within_logInput rfl fun _ => rfl
  have keeps : turn.logInput.Safe site.Supports
      (fun after => after.store.executions = scene.store.executions) (fun _ _ => True) scene := by
    refine within.safe ?_ rfl
    intro request before outcome after isAside same supported
    exact ⟨(supported.answered.of_isAside isAside).1.trans same, trivial⟩
  exact keeps.relax (fun _ _ => trivial) fun _ _ same _ => same

/-- A turn accounts for an execution that it leaves parked, even when it is cut short. -/
theorem perform_accounts
    (stands : Stands site graph execution row scene)
    (input : TurnInput) :
    (perform engine graph execution input).Safe site.Supports (fun _ => True)
      (fun result after => AccountsFor engine site graph execution.id scene
        (∃ fault, result = .error fault) after) scene := by
  have walked : (walk engine graph engine.settings.maxHops input.isReply
      { execution, input }).Safe site.Supports (fun _ => True) _ scene :=
    walk_accounts stands (.refl scene) _ _
  unfold perform
  refine walked.andThen ?_ fun fault after _ accounts =>
    accounts.extend (.refl _) (.refl _) rfl fun _ => ⟨fault, rfl⟩
  intro turn there _ accounts
  have logged : turn.logInput.Safe site.Supports (fun _ => True) _ there :=
    Site.safe_grows logInput_safe_rows (.refl there)
  refine logged.andThen ?_ ?_
  · rintro _ after _ ⟨rows, grown⟩
    exact ⟨trivial, accounts.extend (.refl _) grown rows nofun⟩
  · rintro fault after _ ⟨rows, grown⟩
    exact accounts.extend (.refl _) grown rows nofun

end Turn
end ChatFlow
