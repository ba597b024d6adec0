import ChatFlow.Proofs.Engine.Openings
import ChatFlow.Proofs.Turn.Aftermath
import ChatFlow.Proofs.Turn.Parking

/-!
# Turns of requests

A request performs one turn at most.  Before and behind the turn nothing happens but the move of its
row to where the turn begins, so that what the whole leaves behind is what the turn leaves behind.
This holds wherever callees support turns, whatever else they keep in mind.
-/

namespace ChatFlow

open Process

/-! ## Silence -/

section Silence

variable {τ : Type}

/-- Callees support turns at a site, in scenes that their states show. -/
def Site.Hosts (site : Site) (view : τ → Scene) (answers : Answering τ) : Prop :=
  ∀ ⦃request before outcome after⦄, answers request before outcome after →
    site.Supports request (view before) outcome (view after)

/-- Only calls are made that have no part in what is said. -/
def Quietly (answers : Answering τ) : τ → τ → Prop :=
  Relation.ReflTransGen fun before after =>
    ∃ request outcome, Call.isSilent request = true ∧ answers request before outcome after

/-- Nothing happens but that locks are taken or released and events are published. -/
structure Still (answers : Answering τ) (view : τ → Scene) (before after : τ) : Prop where
  untouched : (view before).Untouched (view after)
  quietly : Quietly answers before after

variable {site : Site} {answers : Answering τ} {view : τ → Scene} {first second third : τ}
  {request : Call} {outcome : request.Outcome}

theorem Still.refl (answers : Answering τ) (view : τ → Scene) (state : τ) :
    Still answers view state state :=
  ⟨.refl _, .refl⟩

theorem Still.trans
    (before : Still answers view first second)
    (after : Still answers view second third) :
    Still answers view first third :=
  ⟨before.untouched.trans after.untouched, before.quietly.trans after.quietly⟩

theorem Still.call
    (still : Still answers view first second)
    (answered : answers request second outcome third)
    (untouched : (view second).Untouched (view third))
    (silent : request.isSilent = true) :
    Still answers view first third :=
  ⟨still.untouched.trans untouched, still.quietly.tail ⟨request, outcome, silent, answered⟩⟩

/-- What is only read is still there. -/
theorem Still.read
    (still : Still answers view first second)
    (answered : answers request second outcome third)
    (same : view third = view second)
    (silent : request.isSilent = true) :
    Still answers view first third :=
  still.call answered (by rw [same]; exact .refl _) silent

theorem Quietly.grows
    (quietly : Quietly answers first second)
    (hosts : site.Hosts view answers) :
    (view first).Grows (view second) := by
  induction quietly with
  | refl => exact .refl _
  | tail _ step inductionHypothesis =>
      obtain ⟨_, _, _, answered⟩ := step
      exact inductionHypothesis.trans (hosts answered).answered.grows

end Silence

/-! ## Turns -/

/-- A row is where the turn of an opening begins. -/
def Opening.Places (opening : Opening) (site : Site) (row : ExecutionRow) : Prop :=
  match opening.detour with
  | none => row = opening.row
  | some target => ∃ now, site.clock now ∧ row = opening.row.moved now target false

/-- A message finds the execution that the store names for its conversation, and a continuation
the one that it names itself. -/
def Scene.Finds (scene : Scene) : Request → ExecutionRow → Prop
  | .message message, row => ∀ execution,
      scene.store.active? message.conversation = some execution → execution = row.toExecution
  | .continuation item, row => row.id = item.execution

/-- The turn of an opening is performed.  Before it the row is moved to where it begins, and behind
it nothing happens. -/
inductive Engine.Performs {τ : Type} (engine : Engine) (site : Site) (answers : Answering τ)
    (view : τ → Scene) (opening : Opening) (before : τ) (turned : Except Fault TurnReport)
    (after : τ) : Prop
  | perform {begun ended : τ} {row : ExecutionRow} (quietly : Quietly answers before begun)
      (kept : (view begun).store.WellKept) (member : row ∈ (view begun).store.executions)
      (places : opening.Places site row)
      (others : ∀ other ∈ (view begun).store.executions, other.id ≠ row.id →
        other ∈ (view before).store.executions)
      (performs : Ends answers
        (Turn.perform engine opening.graph opening.execution opening.input) begun turned ended)
      (still : Still answers view ended after)

/-- A request performs the turn of an opening that it comes by, or it does nothing. -/
inductive Engine.Attends {τ : Type} (engine : Engine) (site : Site) (answers : Answering τ)
    (view : τ → Scene) (request : Request) (idle : Prop) (told : Except Fault TurnReport → Prop)
    (before after : τ) : Prop
  | idle (still : Still answers view before after) (holds : idle)
  | turn {opening : Opening} {turned : Except Fault TurnReport}
      (begins : site.Begins (view before) request opening)
      (finds : (view before).Finds request opening.row)
      (performs : engine.Performs site answers view opening before turned after)
      (tells : told turned)

/-- What is reported of a message that begins a turn. -/
def InboundOutcome.ofTurn : Except Fault TurnReport → InboundOutcome
  | .ok report => .processed report
  | .error fault => .failed fault.text

/-- What is reported of a continuation that begins a turn. -/
def ResumeOutcome.ofTurn : Except Fault TurnReport → Except Fault ResumeOutcome
  | .ok report => .ok (.resumed report)
  | .error (.error error) => .error (.error error)
  | .error (.panic message) => .error (.error (.scheduler ("resume panicked: " ++ message)))

namespace Opening

variable {site : Site} {scene : Scene} {request : Request} {opening : Opening}
  {row : ExecutionRow}

/-- The row is the one of the opening, but for where it stands. -/
theorem Places.exists_eq (places : opening.Places site row) :
    ∃ node last waiting updated, row = { opening.row with node, last, waiting, updated } := by
  unfold Places at places
  split at places
  · exact ⟨_, _, _, _, places⟩
  · obtain ⟨_, _, rfl⟩ := places
    exact ⟨_, _, _, _, rfl⟩

theorem Places.id_eq (places : opening.Places site row) : row.id = opening.row.id := by
  obtain ⟨_, _, _, _, rfl⟩ := places.exists_eq
  rfl

theorem Places.flow_eq (places : opening.Places site row) : row.flow = opening.row.flow := by
  obtain ⟨_, _, _, _, rfl⟩ := places.exists_eq
  rfl

theorem Places.active
    (places : opening.Places site row)
    (begins : site.Begins scene request opening) :
    row.status = .active := by
  obtain ⟨_, _, _, _, rfl⟩ := places.exists_eq
  exact active_of_begins begins

/-- The row tells of the execution that the turn walks. -/
theorem Places.tells
    (places : opening.Places site row)
    (begins : site.Begins scene request opening) :
    row.Tells opening.execution := by
  cases begins with
  | fresh | standing =>
      obtain rfl := places
      exact ExecutionRow.tells_toExecution _
  | overdue _ _ _ _ ready | wake _ _ _ _ ready =>
      obtain ⟨now, _, rfl⟩ := places
      refine ⟨⟨rfl, rfl, rfl, ?_⟩, rfl, rfl⟩
      simp [Opening.execution, Execution.position, ExecutionRow.position,
        ExecutionRow.toExecution, ExecutionRow.moved, ready]

end Opening

namespace Engine

variable {τ α : Type} {site : Site} {answers : Answering τ} {view : τ → Scene} {engine : Engine}
  {before middle after : τ} {opening : Opening} {request : Request} {graph : Flow.Graph}
  {row : ExecutionRow}

/-- Nothing happens behind a turn. -/
theorem Performs.still
    {turned : Except Fault TurnReport}
    (performs : engine.Performs site answers view opening before turned middle)
    (still : Still answers view middle after) :
    engine.Performs site answers view opening before turned after := by
  cases performs with
  | perform quietly kept member places others performs left =>
      exact .perform quietly kept member places others performs (left.trans still)

/-- What is done under a lock is reported in another way. -/
theorem Attends.later
    {idle later : Prop}
    {told tells : Except Fault TurnReport → Prop}
    (attends : engine.Attends site answers view request idle told before middle)
    (still : Still answers view middle after)
    (idles : idle → later)
    (reports : ∀ turned, told turned → tells turned) :
    engine.Attends site answers view request later tells before after := by
  cases attends with
  | idle calm holds => exact .idle (calm.trans still) (idles holds)
  | turn begins finds performs holds =>
      exact .turn begins finds (performs.still still) (reports _ holds)

/-- A process under a lock is performed, or it is not, and nothing happens. -/
theorem ends_underLock
    {process : Process α}
    {conversation : Conversation}
    {result : Except Fault (Option (Except Fault α))}
    (hosts : site.Hosts view answers)
    (ends : Ends answers (underLock conversation process) before result after) :
    (result = .ok none ∧ Still answers view before after) ∨
      ∃ inner locked ended, result = .ok (some inner) ∧ Still answers view before locked ∧
        Ends answers process locked inner ended ∧ Still answers view ended after := by
  obtain ⟨taken, locked, asked, ends⟩ := Ends.of_step ends
  have entered := (Still.refl answers view before).call asked
    ((hosts asked).answered.untouched_of_isLock rfl) rfl
  obtain ⟨taken, rfl⟩ := (hosts asked).acquire
  match taken, ends with
  | false, ends =>
      obtain ⟨rfl, rfl⟩ := ends.of_done
      exact .inl ⟨rfl, entered⟩
  | true, ends =>
      have ends : Ends _ (process.contain.andThen fun result =>
          (release conversation).andThen fun _ => .done (some result)) locked _ _ := ends
      rcases ends.andThen_cases with ⟨inner, ended, performed, ends⟩ | ⟨fault, rfl, halts⟩
      · obtain ⟨_, ⟨⟩, performed⟩ := performed.of_contain
        obtain ⟨released, there, asked, ends⟩ := Ends.of_step ends
        have left := (Still.refl answers view ended).call asked
          ((hosts asked).answered.untouched_of_isLock rfl) rfl
        obtain rfl := (hosts asked).release
        obtain ⟨rfl, rfl⟩ := ends.of_done
        exact .inr ⟨inner, locked, ended, rfl, entered, performed, left⟩
      · obtain ⟨_, ⟨⟩, _⟩ := halts.of_contain

/-! ## Messages -/

/-- No turn is reported of a message, and when it is told that a delay is pending, there is an
execution of its conversation parked at one. -/
def Refuses (site : Site) (scene : Scene) (message : InboundMessage)
    (result : Except Fault InboundOutcome) : Prop :=
  (∀ report, result ≠ .ok (.processed report)) ∧
    (result = .ok (.skipped .delayPending) → ∃ graph, ∃ row ∈ scene.store.executions,
      row.conversation = message.conversation ∧ site.library.Parked graph row)

/-- How a message is processed. -/
abbrev Handles (engine : Engine) (site : Site) (answers : Answering τ) (view : τ → Scene)
    (message : InboundMessage) (result : Except Fault InboundOutcome) (before after : τ) : Prop :=
  engine.Attends site answers view (.message message) (Refuses site (view before) message result)
    (fun turned => result = turned.map .processed) before after

variable {message : InboundMessage} {result : Except Fault InboundOutcome}

theorem refuses_error {scene : Scene} {fault : Fault} :
    Refuses site scene message (.error fault) :=
  ⟨nofun, nofun⟩

theorem refuses_delayPending
    {scene : Scene}
    (member : row ∈ scene.store.executions)
    (own : row.conversation = message.conversation)
    (parked : site.library.Parked graph row) :
    Refuses site scene message (.ok (.skipped .delayPending)) :=
  ⟨nofun, fun _ => ⟨graph, row, member, own, parked⟩⟩

theorem handles_of_halt
    {fault : Fault}
    (still : Still answers view before middle)
    (ends : Ends answers (.halt fault) middle result after) :
    engine.Handles site answers view message result before after := by
  obtain ⟨rfl, rfl⟩ := ends.of_halt
  exact .idle still refuses_error

theorem ends_accept
    (begins : site.Begins (view before) (.message message) opening)
    (finds : (view before).Finds (.message message) opening.row)
    (hosts : site.Hosts view answers)
    (quietly : Quietly answers before middle)
    (kept : (view middle).store.WellKept)
    (member : row ∈ (view middle).store.executions)
    (places : opening.Places site row)
    (others : ∀ other ∈ (view middle).store.executions, other.id ≠ row.id →
      other ∈ (view before).store.executions)
    (ends : Ends answers (engine.accept opening.graph opening.execution opening.input) middle
      result after) :
    engine.Handles site answers view message result before after := by
  obtain ⟨_, accepted, asked, ends⟩ := Ends.of_step ends
  have rows := ((hosts asked).answered.of_isAside rfl).1
  have ends : Ends _ ((Turn.perform engine opening.graph opening.execution opening.input).andThen
      fun report => .done (InboundOutcome.processed report)) accepted _ _ := ends
  obtain ⟨turned, performed, told⟩ := ends.of_andThen_done
  refine .turn begins finds (.perform (quietly.tail ⟨_, _, rfl, asked⟩) (kept.of_eq rows) ?_ places
    ?_ performed (.refl _ _ _)) told
  · rw [rows]
    exact member
  · rw [rows]
    exact others

theorem ends_begin
    (hosts : site.Hosts view answers)
    (kept : (view before).store.WellKept)
    (idle : (view before).store.active? message.conversation = none)
    (still : Still answers view before middle)
    (ends : Ends answers (engine.begin message) middle result after) :
    engine.Handles site answers view message result before after := by
  obtain ⟨_, resolved, asked, ends⟩ := Ends.of_step ends
  obtain ⟨rfl, same⟩ := (hosts asked).resolveFlow
  have still := still.read asked same rfl
  cases resolves : site.library.resolve message.conversation.device message.text with
  | error error =>
      rw [resolves] at ends
      exact handles_of_halt still ends
  | ok found =>
      rw [resolves] at ends
      cases found with
      | none =>
          obtain ⟨rfl, rfl⟩ := Ends.of_done ends
          exact .idle still ⟨nofun, nofun⟩
      | some graph =>
          obtain ⟨_, created, asked, ends⟩ := Ends.of_step ends
          have rows := still.untouched.executions_eq
          have unmet : ∀ row ∈ (view before).store.executions,
              row.conversation = message.conversation → row.status ≠ .active :=
            fun row member own => Store.of_active?_eq_none idle member own
          rcases (hosts asked).createExecution (by rwa [rows]) with
            ⟨stamp, onClock, unused, scene_eq, rfl⟩ | ⟨same, fault, rfl⟩
          · rw [rows] at unused
            have executions_eq : (view created).store.executions =
                (view before).store.executions ++
                  [Store.freshRow stamp message.conversation graph.id graph.start.id] := by
              rw [scene_eq, ← rows]
              rfl
            have begins : site.Begins (view before) (.message message) _ :=
              .fresh onClock unmet unused resolves
            refine ends_accept begins ?_ hosts (still.quietly.tail ⟨_, _, rfl, asked⟩)
              ((kept.append unused unmet).of_eq executions_eq) ?_ rfl ?_ ends
            · intro execution found
              rw [idle] at found
              cases found
            · rw [executions_eq]
              exact List.mem_append_right _ (List.mem_singleton.mpr rfl)
            · rw [executions_eq]
              intro other member different
              rcases List.mem_append.mp member with old | new
              · exact old
              · exact (different (by rw [List.mem_singleton.mp new])).elim
          · exact handles_of_halt (still.read asked same rfl) ends

/-- To find out whether a delay is overdue, nothing is done. -/
theorem ends_isOverdue
    {execution : Execution}
    {node : Flow.Node}
    {overdue : Except Fault Bool}
    (hosts : site.Hosts view answers)
    (ends : Ends answers (engine.isOverdue execution node) before overdue after) :
    Still answers view before after := by
  unfold isOverdue at ends
  dsimp only at ends
  split at ends
  · obtain ⟨_, rfl⟩ := ends.of_halt
    exact .refl _ _ _
  · split at ends
    · obtain ⟨now, there, asked, ends⟩ := Ends.of_step ends
      have still := (Still.refl answers view before).read asked (hosts asked).answered.now.1 rfl
      dsimp only [andThen_done] at ends
      split at ends
      · obtain ⟨_, rfl⟩ := ends.of_done
        exact still
      · obtain ⟨_, rfl⟩ := ends.of_halt
        exact still
    · obtain ⟨_, rfl⟩ := ends.of_done
      exact .refl _ _ _

/-- A message finds a running execution. -/
structure Meeting (site : Site) (message : InboundMessage) (scene : Scene) (graph : Flow.Graph)
    (row : ExecutionRow) : Prop where
  kept : scene.store.WellKept
  member : row ∈ scene.store.executions
  own : row.conversation = message.conversation
  active : row.status = .active
  known : site.library.get row.flow = .ok graph
  finds : scene.Finds (.message message) row

theorem ends_standing
    (hosts : site.Hosts view answers)
    (meeting : Meeting site message (view before) graph row)
    (last : row.waiting = false → graph.IsDelay row.node → graph.nextTarget? row.node = none)
    (still : Still answers view before middle)
    (ends : Ends answers
      (engine.accept graph row.toExecution (.ofMessage message row.waiting)) middle result after) :
    engine.Handles site answers view message result before after := by
  have rows := still.untouched.executions_eq
  have begins : site.Begins (view before) (.message message) _ :=
    .standing meeting.member meeting.own meeting.active meeting.known last
  refine ends_accept begins meeting.finds hosts still.quietly (meeting.kept.of_eq rows) ?_ rfl ?_
    ends
  · rw [rows]
    exact meeting.member
  · rw [rows]
    exact fun _ member _ => member

/-- An execution that is moved away from its delay goes on behind it. -/
theorem exists_moved
    {target : String}
    {conversation : Conversation}
    {outcome : Except Fault Unit}
    (hosts : site.Hosts view answers)
    (kept : (view before).store.WellKept)
    (member : row ∈ (view before).store.executions)
    (active : row.status = .active)
    (own : row.conversation = conversation)
    (still : Still answers view before middle)
    (asked : answers (.advance conversation row.flow target false) middle outcome after) :
    outcome = .ok () ∧ Quietly answers before after ∧ (view after).store.WellKept ∧
      ∃ now, site.clock now ∧ row.moved now target false ∈ (view after).store.executions ∧
        ∀ other ∈ (view after).store.executions, other.id ≠ row.id →
          other ∈ (view before).store.executions := by
  have rows := still.untouched.executions_eq
  rw [← rows] at member
  obtain ⟨now, onClock, rfl, scene_eq⟩ :=
    (hosts asked).advance (kept.of_eq rows) member active own rfl
  refine ⟨rfl, still.quietly.tail ⟨_, _, rfl, asked⟩, ?_, now, onClock, ?_, ?_⟩
  · rw [scene_eq]
    exact (kept.of_eq rows).replace member active rfl rfl rfl
  · rw [scene_eq]
    exact Store.mem_replace_self member rfl
  · rw [scene_eq, ← rows]
    intro other otherMember different
    rcases Store.mem_replace otherMember with rfl | ⟨old, _⟩
    · exact (different rfl).elim
    · exact old

theorem ends_interrupt
    (hosts : site.Hosts view answers)
    (meeting : Meeting site message (view before) graph row)
    (ready : row.waiting = false)
    (still : Still answers view before middle)
    (ends : Ends answers (engine.interrupt graph row.toExecution message) middle result after) :
    engine.Handles site answers view message result before after := by
  have standing {there : τ} (still : Still answers view before there)
      (last : graph.IsDelay row.node → graph.nextTarget? row.node = none)
      (ends : Ends answers (engine.accept graph row.toExecution (.ofMessage message false)) there
        result after) :
      engine.Handles site answers view message result before after := by
    rw [← ready] at ends
    exact ends_standing hosts meeting (fun _ => last) still ends
  unfold interrupt at ends
  cases found : graph.node? row.node with
  | none =>
      have missing : graph.require row.toExecution.node =
          .error (.nodeNotFound graph.id row.node) := by
        simp [Flow.Graph.require, ExecutionRow.toExecution, found]
      rw [missing] at ends
      exact handles_of_halt still ends
  | some node =>
      have there : graph.require row.toExecution.node = .ok node :=
        Flow.Graph.require_eq_ok found
      rw [there] at ends
      simp only [orFail, bind_eq_andThen, andThen_done] at ends
      split at ends
      · rename_i notDelay
        refine standing still ?_ ends
        rintro ⟨other, named, kind⟩
        rw [found] at named
        cases named
        exact (notDelay kind).elim
      · rename_i kind
        have isDelay : graph.IsDelay row.node := ⟨node, found, not_not.mp kind⟩
        rcases ends.andThen_cases with ⟨overdue, checked, asked, ends⟩ | ⟨fault, rfl, asked⟩
        · have still := still.trans (ends_isOverdue hosts asked)
          split at ends
          · obtain ⟨_, skipped, asked, ends⟩ := Ends.of_step ends
            obtain ⟨rfl, rfl⟩ := Ends.of_done ends
            exact .idle (still.call asked (hosts asked).answered.publish rfl)
              (refuses_delayPending meeting.member meeting.own
                ⟨meeting.active, ready, meeting.known, isDelay⟩)
          · have same : node.id = row.node := Flow.Graph.id_of_node? found
            rw [same] at ends
            cases next : graph.nextTarget? row.node with
            | none =>
                rw [next] at ends
                exact standing still (fun _ => next) ends
            | some target =>
                rw [next] at ends
                obtain ⟨_, moved, asked, ends⟩ := Ends.of_step ends
                obtain ⟨rfl, quietly, kept, now, onClock, placed, others⟩ :=
                  exists_moved hosts meeting.kept meeting.member meeting.active meeting.own still
                    asked
                have begins : site.Begins (view before) (.message message) _ :=
                  .overdue meeting.member meeting.own meeting.active meeting.known ready isDelay
                    next
                exact ends_accept begins meeting.finds hosts quietly kept placed
                  ⟨now, onClock, rfl⟩ others ends
        · exact .idle (still.trans (ends_isOverdue hosts asked)) refuses_error

theorem ends_process
    (hosts : site.Hosts view answers)
    (kept : (view before).store.WellKept)
    (still : Still answers view before middle)
    (ends : Ends answers (engine.process message) middle result after) :
    engine.Handles site answers view message result before after := by
  obtain ⟨_, looked, asked, ends⟩ := Ends.of_step ends
  obtain ⟨rfl, same⟩ := (hosts asked).activeExecution
  have active_eq : (view middle).store.active? message.conversation =
      (view before).store.active? message.conversation := by
    simp only [Store.active?, Store.rowsOf, still.untouched.executions_eq]
  rw [active_eq] at ends
  have still := still.read asked same rfl
  cases running : (view before).store.active? message.conversation with
  | none =>
      rw [running] at ends
      exact ends_begin hosts kept running still ends
  | some execution =>
      rw [running] at ends
      obtain ⟨row, member, own, active, rfl⟩ := Store.of_active?_eq_some running
      obtain ⟨_, known, asked, ends⟩ := Ends.of_step ends
      obtain ⟨rfl, same⟩ := (hosts asked).flow
      have still := still.read asked same rfl
      cases get : site.library.get row.flow with
      | error error =>
          have get : site.library.get row.toExecution.flow = .error error := get
          rw [get] at ends
          exact handles_of_halt still ends
      | ok graph =>
          have served : site.library.get row.toExecution.flow = .ok graph := get
          rw [served] at ends
          have meeting : Meeting site message (view before) graph row := by
            refine ⟨kept, member, own, active, get, fun execution found => ?_⟩
            rw [running] at found
            exact (Option.some.inj found).symm
          simp only [Except.mapError, orHalt, andThen_done, bind_eq_andThen] at ends
          split at ends
          · rename_i waits
            have waits : row.waiting = true := waits
            rw [← waits] at ends
            exact ends_standing hosts meeting (fun ready => by rw [waits] at ready; cases ready)
              still ends
          · rename_i ready
            exact ends_interrupt hosts meeting (Bool.eq_false_iff.mpr ready) still ends

/-- A message performs one turn, or it does nothing. -/
theorem ends_handleInbound
    (hosts : site.Hosts view answers)
    (kept : (view before).store.WellKept)
    (ends : Ends answers (engine.handleInbound message) before result after) :
    engine.Attends site answers view (.message message) (Refuses site (view before) message result)
      (fun turned => result = .ok (.ofTurn turned)) before after := by
  rcases ends.andThen_cases with ⟨taken, released, locked, ends⟩ | ⟨fault, rfl, locked⟩
  · rcases ends_underLock hosts locked with
      ⟨⟨⟩, still⟩ | ⟨inner, inside, ended, ⟨⟩, entered, done, left⟩
    · obtain ⟨_, skipped, asked, ends⟩ := Ends.of_step ends
      obtain ⟨rfl, rfl⟩ := Ends.of_done ends
      exact .idle (still.call asked (hosts asked).answered.publish rfl) ⟨nofun, nofun⟩
    · have handles := ends_process hosts kept entered done
      match inner, ends with
      | .error fault, ends =>
          obtain ⟨rfl, rfl⟩ := Ends.of_done ends
          refine handles.later left (fun _ => ⟨nofun, nofun⟩) ?_
          rintro (fault | report) ⟨⟩
          rfl
      | .ok outcome, ends =>
          obtain ⟨rfl, rfl⟩ := Ends.of_done ends
          refine handles.later left (fun refuses => refuses) ?_
          rintro (fault | report) ⟨⟩
          rfl
  · rcases ends_underLock hosts locked with ⟨⟨⟩, _⟩ | ⟨_, _, _, ⟨⟩, _⟩

/-! ## Continuations -/

variable {item : Continuation} {outcome : Except Fault ResumeOutcome}

/-- How a continuation is taken up whose execution is known. -/
abbrev Resumes (engine : Engine) (site : Site) (answers : Answering τ) (view : τ → Scene)
    (graph : Flow.Graph) (row : ExecutionRow) (item : Continuation)
    (outcome : Except Fault ResumeOutcome) (before after : τ) : Prop :=
  engine.Attends site answers view (.continuation item)
    (outcome = .ok .stale ∧ ¬ site.library.Awaits item graph row)
    (fun turned => outcome = turned.map .resumed) before after

theorem ends_takeUp
    (hosts : site.Hosts view answers)
    (kept : (view before).store.WellKept)
    (member : row ∈ (view before).store.executions)
    (own : row.conversation = item.conversation)
    (names : row.id = item.execution)
    (known : site.library.get row.flow = .ok graph)
    (still : Still answers view before middle)
    (ends : Ends answers (engine.takeUp item) middle outcome after) :
    engine.Resumes site answers view graph row item outcome before after := by
  obtain ⟨_, looked, asked, ends⟩ := Ends.of_step ends
  obtain ⟨rfl, same⟩ := (hosts asked).executionById
  have rows := still.untouched.executions_eq
  have found : (view middle).store.byId? item.execution = some row.toExecution := by
    rw [← names]
    apply (kept.of_eq rows).byId?_eq
    rw [rows]
    exact member
  rw [found] at ends
  have still := still.read asked same rfl
  obtain ⟨_, there, asked, ends⟩ := Ends.of_step ends
  obtain ⟨rfl, same⟩ := (hosts asked).flow
  have still := still.read asked same rfl
  have get : site.library.get row.toExecution.flow = .ok graph := known
  rw [get] at ends
  simp only [Except.mapError, orHalt, andThen_done, bind_eq_andThen] at ends
  split at ends
  · rename_i parked
    have awaits := (isParkedBefore_iff known names).mp parked
    obtain ⟨_, moved, asked, ends⟩ := Ends.of_step ends
    obtain ⟨rfl, quietly, kept, now, onClock, placed, others⟩ :=
      exists_moved hosts kept member awaits.active own still asked
    obtain ⟨_, resumed, asked, ends⟩ := Ends.of_step ends
    have rows := ((hosts asked).answered.of_isAside rfl).1
    have begins : site.Begins (view before) (.continuation item) _ :=
      .wake member own awaits.active known awaits.ready awaits.isDelay awaits.edge
    have ends : Ends _ ((Turn.perform engine graph
        { row.toExecution with node := item.target, last := some row.node }
        (.ofPayload item.payload)).andThen fun report => .done (ResumeOutcome.resumed report))
        resumed _ _ := ends
    obtain ⟨turned, performed, told⟩ := ends.of_andThen_done
    refine .turn begins names (.perform (quietly.tail ⟨_, _, rfl, asked⟩) (kept.of_eq rows) ?_
      ⟨now, onClock, rfl⟩ ?_ performed (.refl _ _ _)) told
    · rw [rows]
      exact placed
    · rw [rows]
      exact others
  · rename_i passed
    obtain ⟨rfl, rfl⟩ := Ends.of_done ends
    exact .idle still ⟨rfl, fun awaits => passed ((isParkedBefore_iff known names).mpr awaits)⟩

/-- A continuation whose execution is known performs one turn, or it does nothing: then the
conversation is locked, or the execution does not await it. -/
theorem ends_resume
    (hosts : site.Hosts view answers)
    (kept : (view before).store.WellKept)
    (member : row ∈ (view before).store.executions)
    (own : row.conversation = item.conversation)
    (names : row.id = item.execution)
    (known : site.library.get row.flow = .ok graph)
    (ends : Ends answers (engine.resume item) before outcome after) :
    engine.Attends site answers view (.continuation item)
      (outcome = .ok .busy ∨ outcome = .ok .stale ∧ ¬ site.library.Awaits item graph row)
      (fun turned => outcome = ResumeOutcome.ofTurn turned) before after := by
  rcases ends.andThen_cases with ⟨taken, released, locked, ends⟩ | ⟨fault, rfl, locked⟩
  · rcases ends_underLock hosts locked with
      ⟨⟨⟩, still⟩ | ⟨inner, inside, ended, ⟨⟩, entered, done, left⟩
    · obtain ⟨rfl, rfl⟩ := Ends.of_done ends
      exact .idle still (.inl rfl)
    · have resumes := ends_takeUp hosts kept member own names known entered done
      match inner, ends with
      | .error (.error error), ends | .error (.panic message), ends =>
          obtain ⟨rfl, rfl⟩ := Ends.of_halt ends
          refine resumes.later left nofun ?_
          rintro (fault | report) ⟨⟩
          rfl
      | .ok outcome, ends =>
          obtain ⟨rfl, rfl⟩ := Ends.of_done ends
          refine resumes.later left .inr ?_
          rintro (fault | report) ⟨⟩
          rfl
  · rcases ends_underLock hosts locked with ⟨⟨⟩, _⟩ | ⟨_, _, _, ⟨⟩, _⟩

end Engine

/-! ## What is said -/

section Said

variable {σ : Type} {site : Site} {cast : Cast σ} {engine : Engine} {before after : Transcript σ}
  {opening : Opening} {request : Request} {report : TurnReport}

theorem Site.hosts_obliges (site : Site) (manner : Answering σ) :
    site.Hosts Transcript.scene (site.Obliges manner) :=
  fun _ _ _ _ obliged => obliged.supports

/-- Where only such calls are made, nothing is said. -/
theorem Quietly.eq
    (quietly : Quietly (site.Obliges cast.manner) before after) :
    after.state = before.state ∧ after.lines = before.lines := by
  induction quietly with
  | refl => exact ⟨rfl, rfl⟩
  | tail _ step inductionHypothesis =>
      obtain ⟨_, _, silent, obliged⟩ := step
      obtain ⟨state_eq, lines_eq⟩ := Turn.eq_of_silent silent obliged
      exact ⟨state_eq.trans inductionHypothesis.1, lines_eq.trans inductionHypothesis.2⟩

/-- A request that performs a turn leaves behind what the turn does. -/
theorem Engine.Performs.exists_leaves
    (begins : site.Begins before.scene request opening)
    (performs : engine.Performs site (site.Obliges cast.manner) Transcript.scene opening before
      (.ok report) after) :
    ∃ stored, Turn.Leaves cast engine opening.graph opening.execution opening.input
      (opening.way engine) before report after stored := by
  obtain ⟨quietly, kept, member, places, _, ends, still⟩ := performs
  obtain ⟨stored, leaves⟩ :=
    Turn.exists_leaves kept member (places.active begins) (places.tells begins) ends
  obtain ⟨state_eq, lines_eq⟩ := quietly.eq
  obtain ⟨laterState_eq, laterLines_eq⟩ := still.quietly.eq
  have begun := leaves.said
  rw [Turn.prologue, Turn.recital, state_eq, lines_eq] at begun
  have rows := still.untouched.executions_eq
  refine ⟨stored, { leaves with
    kept := leaves.kept.of_eq rows
    member := ?_
    said := ?_
    lines_eq := ?_ }⟩
  · rw [rows]
    exact leaves.member
  · rw [Turn.prologue, Turn.recital, Opening.way, begun]
    exact Recital.ext rfl rfl rfl rfl rfl laterState_eq.symm laterLines_eq.symm
  · rw [laterLines_eq, ← lines_eq]
    exact leaves.lines_eq

variable {message : InboundMessage} {item : Continuation} {graph : Flow.Graph}
  {row : ExecutionRow}

/-- A message that is processed begins a turn, and what is left behind is what the turn leaves. -/
theorem Engine.exists_leaves_of_processed
    (kept : before.scene.store.WellKept)
    (ends : Ends (site.Obliges cast.manner) (engine.handleInbound message) before
      (.ok (.processed report)) after) :
    ∃ opening stored, site.Begins before.scene (.message message) opening ∧
      before.scene.Finds (.message message) opening.row ∧
      Turn.Leaves cast engine opening.graph opening.execution opening.input (opening.way engine)
        before report after stored := by
  have hosts := site.hosts_obliges cast.manner
  rcases ends_handleInbound hosts kept ends with ⟨_, refused, _⟩ | ⟨begins, finds, performs, told⟩
  · exact (refused report rfl).elim
  · rename_i opening turned
    cases turned with
    | error fault => cases told
    | ok own =>
        obtain rfl : report = own := by
          cases told
          rfl
        obtain ⟨stored, leaves⟩ := performs.exists_leaves begins
        exact ⟨opening, stored, begins, finds, leaves⟩

/-- A continuation that an execution awaits is taken up, unless the conversation is locked, and
what is left behind is what its turn leaves. -/
theorem Engine.exists_leaves_of_resumed
    {outcome : ResumeOutcome}
    (kept : before.scene.store.WellKept)
    (member : row ∈ before.scene.store.executions)
    (own : row.conversation = item.conversation)
    (awaits : site.library.Awaits item graph row)
    (free : outcome ≠ .busy)
    (ends : Ends (site.Obliges cast.manner) (engine.resume item) before (.ok outcome) after) :
    ∃ report stored, outcome = .resumed report ∧
      Turn.Leaves cast engine graph
        { row.toExecution with node := item.target, last := some row.node }
        (.ofPayload item.payload)
        (Turn.way engine graph
          { row.toExecution with node := item.target, last := some row.node }
          (.ofPayload item.payload)) before report after stored := by
  have hosts := site.hosts_obliges cast.manner
  rcases ends_resume hosts kept member own awaits.id_eq awaits.known ends with
    ⟨_, ⟨⟨⟩⟩ | ⟨_, fresh⟩⟩ | ⟨begins, finds, performs, told⟩
  · exact (free rfl).elim
  · exact (fresh awaits).elim
  · rename_i opening turned
    rcases turned with (_ | _) | report
    · cases told
    · cases told
    · cases told
      obtain ⟨stored, leaves⟩ := performs.exists_leaves begins
      cases begins with
      | wake otherMember _ _ known =>
          obtain rfl := kept.eq_of_id member otherMember (awaits.id_eq.trans finds.symm)
          obtain rfl : graph = _ := Except.ok.inj (awaits.known.symm.trans known)
          exact ⟨report, stored, rfl, leaves⟩

end Said
end ChatFlow
