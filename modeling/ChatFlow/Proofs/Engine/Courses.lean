import ChatFlow.Proofs.Engine.Openings

/-!
# The course of a request

A request is quiet till it begins a turn, and follows the script of the turn's opening from then
on.  This is proved function by function; whatever fails, and wherever it fails, ends the course
there.
-/

namespace ChatFlow

open Process

variable {site : Site} {engine : Engine} {scene : Scene} {request : Request} {opening : Opening}
  {journal after : Journal} {α β : Type}

/-- A process is quiet, till it is under way from an opening to which the request comes.  When it
ends before, it reports no turn. -/
def Engine.Comes
    (engine : Engine) (site : Site) (scene : Scene) (request : Request)
    (report? : α → Option TurnReport) (process : Process α) (journal : Journal) : Prop :=
  process.Till Call.isLoud site.Notes (Journal.Calm scene)
    (fun result _ => ∀ value, result = .ok value → report? value = none)
    (fun process journal => ∃ opening, site.Begins scene request opening ∧
      opening.Underway engine report? process journal)
    journal

namespace Engine

variable {report? : α → Option TurnReport} {later? : β → Option TurnReport}

/-! ## Rules -/

theorem comes_of_underway
    {process : Process α}
    (begins : site.Begins scene request opening)
    (underway : opening.Underway engine report? process journal) :
    engine.Comes site scene request report? process journal :=
  till_of_begun ⟨opening, begins, underway⟩

theorem comes_done
    {value : α}
    (calm : journal.Calm scene)
    (silent : report? value = none) :
    engine.Comes site scene request report? (.done value) journal := by
  refine .inl ⟨calm, ?_⟩
  rintro _ ⟨rfl⟩
  exact silent

theorem comes_halt
    {fault : Fault}
    (calm : journal.Calm scene) :
    engine.Comes site scene request report? (.halt fault) journal :=
  .inl ⟨calm, nofun⟩

theorem comes_step
    {call : Call}
    {next : call.Outcome → Process α}
    (isQuiet : call.isLoud = false)
    (calm : journal.Calm scene)
    (rest : ∀ outcome after, site.Notes call journal outcome after →
      engine.Comes site scene request report? (next outcome) after) :
    engine.Comes site scene request report? (.step call next) journal :=
  .inl ⟨isQuiet, calm, rest⟩

/-- What was read is gone on with, or a fault ends the process. -/
theorem comes_orHalt
    {found : Scene}
    {served outcome : Except Fault β}
    {next : β → Process α}
    (reads : site.Reads found served outcome after.scene)
    (calm : after.Calm scene)
    (rest : ∀ value, served = .ok value →
      engine.Comes site scene request report? (next value) after) :
    engine.Comes site scene request report? ((orHalt outcome).andThen next) after := by
  cases outcome with
  | error fault => exact comes_halt calm
  | ok value =>
      rcases reads with ⟨_, rfl | ⟨_, _, ⟨⟩⟩⟩
      exact rest value rfl

/-- What follows a process on its course may begin a turn itself, but not a second one. -/
theorem Comes.andThen
    {process : Process α}
    {next : α → Process β}
    (comes : engine.Comes site scene request report? process journal)
    (rest : ∀ value after, after.Calm scene → report? value = none →
      engine.Comes site scene request later? (next value) after)
    (goesOn : ∀ value, (next value).Within (fun request => request.isMark = false)
      (fun _ _ => True) fun result => ∀ later report, result = .ok later →
        later? later = some report → report? value = some report) :
    engine.Comes site scene request later? (process.andThen next) journal := by
  refine Till.andThen comes ?_ ?_ ?_
  · exact fun value after calm silent => rest value after calm (silent value rfl)
  · exact fun _ _ _ _ => nofun
  · rintro process after ⟨opening, begins, underway⟩
    exact ⟨opening, begins, underway.andThen goesOn⟩

theorem Comes.contain
    {process : Process α}
    (comes : engine.Comes site scene request report? process journal) :
    engine.Comes site scene request (fun result => result.toOption.bind report?)
      process.contain journal := by
  refine Till.contain comes ?_ ?_
  · rintro (fault | value) after silent _ ⟨rfl⟩
    · rfl
    · exact silent value rfl
  · rintro process after ⟨opening, begins, underway⟩
    exact ⟨opening, begins, underway.contain⟩

/-- A process looks around, and what it finds has a property. -/
abbrev Looks
    (site : Site) (scene : Scene) (property : α → Prop) (process : Process α)
    (journal : Journal) : Prop :=
  process.Till Call.isLoud site.Notes (Journal.Calm scene)
    (fun result _ => ∀ value, result = .ok value → property value) (fun _ _ => False) journal

/-- What was read is looked at further, or a fault ends the process. -/
theorem looks_orHalt
    {found : Scene}
    {served outcome : Except Fault β}
    {property : α → Prop}
    {next : β → Process α}
    (reads : site.Reads found served outcome after.scene)
    (calm : after.Calm scene)
    (rest : ∀ value, served = .ok value → Looks site scene property (next value) after) :
    Looks site scene property ((orHalt outcome).andThen next) after := by
  cases outcome with
  | error fault => exact .inl ⟨calm, nofun⟩
  | ok value =>
      rcases reads with ⟨_, rfl | ⟨_, _, ⟨⟩⟩⟩
      exact rest value rfl

/-- What follows a process that looks around goes on with what was found. -/
theorem Looks.andThen
    {property : β → Prop}
    {process : Process β}
    {next : β → Process α}
    (looks : Looks site scene property process journal)
    (rest : ∀ value after, after.Calm scene → property value →
      engine.Comes site scene request report? (next value) after) :
    engine.Comes site scene request report? (process.andThen next) journal := by
  refine Till.andThen looks ?_ ?_ ?_
  · exact fun value after calm holds => rest value after calm (holds value rfl)
  · exact fun _ _ _ _ => nofun
  · exact fun _ _ => False.elim

/-! ## Turns -/

/-- The turn of an opening follows the script of its legs. -/
theorem scripted_turn (active : opening.row.status = .active) :
    (Turn.perform engine opening.graph opening.execution opening.input).Scripted Call.isMark
      (opening.Told engine some)
      (some ((opening.way engine).flatMap
        (Leg.calls opening.row.conversation opening.row.flow))) := by
  have activeThere : opening.execution.status = .active := by
    rw [← active, Opening.execution]
    split <;> rfl
  have conversation_eq : opening.execution.conversation = opening.row.conversation := by
    rw [Opening.execution]
    split <;> rfl
  have flow_eq : opening.execution.flow = opening.row.flow := by
    rw [Opening.execution]
    split <;> rfl
  rw [← conversation_eq, ← flow_eq]
  refine (Turn.scripted_perform activeThere opening.input).weaken ?_
  rintro left _ completes report _ rfl ⟨rfl⟩
  exact completes

/-- A turn that a message starts follows the script of its legs. -/
theorem scripted_accept (active : opening.row.status = .active) :
    (engine.accept opening.graph opening.execution opening.input).Scripted Call.isMark
      (opening.Told engine InboundOutcome.report?)
      (some ((opening.way engine).flatMap
        (Leg.calls opening.row.conversation opening.row.flow))) := by
  refine scripted_step_of_not_marked rfl fun _ => ?_
  refine (scripted_turn active).andThen ?_ fun _ _ _ => Opening.told_error
  intro left report told
  apply scripted_done
  rintro _ other ⟨rfl⟩ ⟨rfl⟩
  exact told report report rfl rfl

theorem scripted_wake
    (active : opening.row.status = .active)
    (event : Event)
    (beside : (Call.publish event).isMark = false) :
    ((publish event).andThen fun _ =>
      (Turn.perform engine opening.graph opening.execution opening.input).andThen fun report =>
        .done (ResumeOutcome.resumed report)).Scripted Call.isMark
      (opening.Told engine ResumeOutcome.report?)
      (some ((opening.way engine).flatMap
        (Leg.calls opening.row.conversation opening.row.flow))) := by
  refine scripted_step_of_not_marked beside fun _ => ?_
  refine (scripted_turn active).andThen ?_ fun _ _ _ => Opening.told_error
  intro left report told
  apply scripted_done
  rintro _ other ⟨rfl⟩ ⟨rfl⟩
  exact told report report rfl rfl

/-- A turn that moves its row away from a delay first follows the script of its opening. -/
theorem scripted_detour
    {target : String}
    {next : Process α}
    (away : opening.detour = some target)
    (scripted : next.Scripted Call.isMark (opening.Told engine report?)
      (some ((opening.way engine).flatMap
        (Leg.calls opening.row.conversation opening.row.flow)))) :
    (Process.step (.advance opening.row.conversation opening.row.flow target false)
      fun outcome : Except Fault Unit => (orHalt outcome).andThen fun _ => next).Scripted
      Call.isMark (opening.Told engine report?) (some (opening.script engine)) := by
  rw [Opening.script, Opening.departureCalls, away]
  refine scripted_step_of_marked rfl fun outcome => ?_
  apply scripted_orHalt
  · simp [Call.Fails, Call.failure?, eq_comm]
  · exact scripted
  · exact fun _ => Opening.told_error

/-- A process that follows the script of its opening is under way. -/
theorem underway_of_scripted
    {process : Process α}
    (quiet : ∀ request ∈ journal.calls, request.isLoud = false)
    (held : journal.scene.store.Holds opening.row)
    (scripted : process.Scripted Call.isMark (opening.Told engine report?)
      (some (opening.script engine))) :
    opening.Underway engine report? process journal := by
  refine ⟨⟨_, scripted, ?_⟩, ?_⟩
  · rw [filter_isMark_of_quiet quiet]
    rfl
  · rwa [ExecutionRow.writeAll_of_quiet quiet]

/-- A row that was there is there while nothing happens. -/
theorem holds_of_calm
    {row : ExecutionRow}
    (calm : journal.Calm scene)
    (member : row ∈ scene.store.executions) :
    journal.scene.store.Holds row := by
  apply Store.Holds.of_mem
  rw [calm.untouched.executions_eq]
  exact member

/-! ## Messages -/

theorem accept_comes
    (begins : site.Begins scene request opening)
    (straight : opening.detour = none)
    (active : opening.row.status = .active)
    (quiet : ∀ request ∈ journal.calls, request.isLoud = false)
    (held : journal.scene.store.Holds opening.row) :
    engine.Comes site scene request InboundOutcome.report?
      (engine.accept opening.graph opening.row.toExecution opening.input) journal := by
  have execution_eq : opening.execution = opening.row.toExecution := by
    rw [Opening.execution, straight]
  have script_eq : opening.script engine =
      (opening.way engine).flatMap (Leg.calls opening.row.conversation opening.row.flow) := by
    rw [Opening.script, Opening.departureCalls, straight]
    rfl
  apply comes_of_underway begins
  apply underway_of_scripted quiet held
  rw [script_eq, ← execution_eq]
  exact scripted_accept active

theorem begin_comes
    {message : InboundMessage}
    (calm : journal.Calm scene)
    (idle : ∀ row ∈ scene.store.executions, row.conversation = message.conversation →
      row.status ≠ .active) :
    engine.Comes site scene (.message message) InboundOutcome.report? (engine.begin message)
      journal := by
  refine comes_step rfl calm fun outcome after noted => ?_
  have reads := noted.answers.resolveFlow
  have calmAfter := calm.noted rfl noted (by rw [reads.1]; exact .refl _)
  refine comes_orHalt reads calmAfter fun resolved? same => ?_
  cases resolved? with
  | none => exact comes_done calmAfter rfl
  | some graph =>
      have resolved : site.library.resolve message.conversation.device message.text =
          .ok (some graph) := eq_ok_of_mapError same
      refine comes_step rfl calmAfter fun outcome later noted => ?_
      have quiet := noted.quiet rfl calmAfter.quiet
      have idleThere : ∀ row ∈ after.scene.store.executions,
          row.conversation = message.conversation → row.status ≠ .active := by
        rw [calmAfter.untouched.executions_eq]
        exact idle
      rcases noted.answers.createExecution idleThere with
        ⟨stamp, onClock, unused, scene_eq, created⟩ | ⟨scene_eq, fault, rfl, _⟩
      · rw [calmAfter.untouched.executions_eq] at unused
        have begins : site.Begins scene (.message message) _ :=
          .fresh onClock idle unused resolved
        have held : later.scene.store.Holds
            (Store.freshRow stamp message.conversation graph.id graph.start.id) := by
          apply Store.Holds.of_mem
          simp [scene_eq, Scene.withStore]
        rcases created with rfl | ⟨fault, _, rfl⟩
        · exact accept_comes begins rfl rfl quiet held
        · apply comes_of_underway begins
          apply underway_of_scripted quiet held
          exact Opening.told_error
      · refine comes_halt (calmAfter.noted rfl noted ?_)
        rw [scene_eq]
        exact .refl _

/-- To find out whether a delay is long over, a message looks at the clock at most. -/
theorem isOverdue_looks
    (calm : journal.Calm scene)
    (execution : Execution)
    (node : Flow.Node) :
    Looks site scene (fun _ => True) (engine.isOverdue execution node) journal := by
  unfold isOverdue
  dsimp only
  split
  · exact .inl ⟨calm, fun _ _ => trivial⟩
  · split
    · refine .inl ⟨rfl, calm, fun now after noted => ?_⟩
      have calmAfter : after.Calm scene :=
        calm.noted rfl noted (by rw [noted.answers.now.1]; exact .refl _)
      show Looks site scene (fun _ => True) (ite _ _ _) after
      split
      · exact .inl ⟨calmAfter, fun _ _ => trivial⟩
      · exact .inl ⟨calmAfter, fun _ _ => trivial⟩
    · exact .inl ⟨calm, fun _ _ => trivial⟩

theorem interrupt_comes
    {message : InboundMessage}
    {graph : Flow.Graph}
    {row : ExecutionRow}
    (calm : journal.Calm scene)
    (member : row ∈ scene.store.executions)
    (own : row.conversation = message.conversation)
    (active : row.status = .active)
    (known : site.library.get row.flow = .ok graph)
    (ready : row.waiting = false) :
    engine.Comes site scene (.message message) InboundOutcome.report?
      (engine.interrupt graph row.toExecution message) journal := by
  have standing (last : graph.IsDelay row.node → graph.nextTarget? row.node = none) :
      site.Begins scene (.message message)
        { graph, row, input := .ofMessage message false } := by
    have begins : site.Begins scene (.message message) _ :=
      .standing member own active known fun _ => last
    rwa [ready] at begins
  have accepts {later : Journal} (calm : later.Calm scene)
      (last : graph.IsDelay row.node → graph.nextTarget? row.node = none) :
      engine.Comes site scene (.message message) InboundOutcome.report?
        (engine.accept graph row.toExecution (.ofMessage message false)) later :=
    accept_comes (standing last) rfl active calm.quiet (holds_of_calm calm member)
  unfold interrupt
  cases found : graph.node? row.node with
  | none =>
      have missing : graph.require row.toExecution.node =
          .error (.nodeNotFound graph.id row.node) := by
        simp [Flow.Graph.require, ExecutionRow.toExecution, found]
      rw [missing]
      exact comes_halt calm
  | some node =>
      have required : graph.require row.toExecution.node = .ok node :=
        Flow.Graph.require_eq_ok found
      have sameNode := Flow.Graph.id_of_node? found
      have delayed := Flow.Graph.isDelay_iff found
      simp only [required, bind_eq_andThen, orFail, andThen_done]
      split
      · rename_i passed
        exact accepts calm fun isDelay => (passed (delayed.mp isDelay)).elim
      · rename_i notPassed
        have kind : node.kind = .delay := not_not.mp notPassed
        refine (isOverdue_looks calm row.toExecution node).andThen ?_
        intro overdue after calm _
        cases overdue with
        | false =>
            refine comes_step rfl calm fun _ later noted => ?_
            exact comes_done (calm.noted rfl noted noted.answers.publish) rfl
        | true =>
            rw [sameNode]
            cases next : graph.nextTarget? row.node with
            | none => exact accepts calm fun _ => next
            | some target =>
                have begins : site.Begins scene (.message message) _ :=
                  .overdue member own active known ready (delayed.mpr kind) next
                apply comes_of_underway begins
                apply underway_of_scripted calm.quiet (holds_of_calm calm member)
                rw [← own]
                exact scripted_detour rfl (scripted_accept active)

/-- A message whose conversation is locked is on its course. -/
theorem process_comes
    {message : InboundMessage}
    (calm : journal.Calm scene) :
    engine.Comes site scene (.message message) InboundOutcome.report? (engine.process message)
      journal := by
  refine comes_step rfl calm fun outcome after noted => ?_
  have reads := noted.answers.activeExecution
  have calmAfter := calm.noted rfl noted (by rw [reads.1]; exact .refl _)
  refine comes_orHalt reads calmAfter fun active? same => ?_
  cases found : journal.scene.store.active? message.conversation with
  | none =>
      rw [found] at same
      cases same
      refine begin_comes calmAfter fun row member => ?_
      rw [← calm.untouched.executions_eq] at member
      exact Store.of_active?_eq_none found member
  | some execution =>
      rw [found] at same
      cases same
      obtain ⟨row, member, own, active, rfl⟩ := Store.of_active?_eq_some found
      rw [calm.untouched.executions_eq] at member
      refine comes_step rfl calmAfter fun outcome later noted => ?_
      have reads := noted.answers.flow
      have calmLater := calmAfter.noted rfl noted (by rw [reads.1]; exact .refl _)
      refine comes_orHalt reads calmLater fun graph same => ?_
      have known : site.library.get row.flow = .ok graph := eq_ok_of_mapError same
      split
      · rename_i waiting
        have waiting : row.waiting = true := waiting
        have begins : site.Begins scene (.message message) _ :=
          .standing member own active known fun ready => by simp [waiting] at ready
        rw [waiting] at begins
        exact accept_comes begins rfl active calmLater.quiet (holds_of_calm calmLater member)
      · rename_i notWaiting
        exact interrupt_comes calmLater member own active known (Bool.eq_false_iff.mpr notWaiting)

/-! ## Continuations -/

/-- The execution that a continuation means is one of its conversation. -/
theorem executionOf_looks
    {item : Continuation}
    (calm : journal.Calm scene)
    (knows : scene.Knows (.continuation item)) :
    Looks site scene
      (fun found => ∀ execution, found = some execution →
        ∃ row ∈ scene.store.executions, row.conversation = item.conversation ∧
          execution = row.toExecution)
      (executionOf item) journal := by
  refine .inl ⟨rfl, calm, fun outcome after noted => ?_⟩
  have reads := noted.answers.executionById
  have calmAfter := calm.noted rfl noted (by rw [reads.1]; exact .refl _)
  refine looks_orHalt reads calmAfter fun found? same => ?_
  cases found : journal.scene.store.byId? item.execution with
  | some execution =>
      rw [found] at same
      cases same
      refine .inl ⟨calmAfter, ?_⟩
      rintro _ ⟨rfl⟩ _ ⟨rfl⟩
      obtain ⟨row, member, id_eq, rfl⟩ := Store.of_byId?_eq_some found
      rw [calm.untouched.executions_eq] at member
      exact ⟨row, member, knows row member id_eq, rfl⟩
  | none =>
      rw [found] at same
      cases same
      refine .inl ⟨rfl, calmAfter, fun outcome later noted => ?_⟩
      have reads := noted.answers.latestExecution
      have calmLater := calmAfter.noted rfl noted (by rw [reads.1]; exact .refl _)
      change Looks site scene _ (orHalt outcome) later
      rw [← andThen_done_right (orHalt outcome)]
      refine looks_orHalt reads calmLater fun found? same => .inl ⟨calmLater, ?_⟩
      rintro _ ⟨rfl⟩ execution rfl
      obtain ⟨row, member, own, _, rfl⟩ := Store.of_latest?_eq_some (Except.ok.inj same)
      rw [calmAfter.untouched.executions_eq] at member
      exact ⟨row, member, own, rfl⟩

/-- A continuation whose conversation is locked is on its course. -/
theorem takeUp_comes
    {item : Continuation}
    (calm : journal.Calm scene)
    (knows : scene.Knows (.continuation item)) :
    engine.Comes site scene (.continuation item) ResumeOutcome.report? (engine.takeUp item)
      journal := by
  refine (executionOf_looks calm knows).andThen ?_
  intro found after calm means
  cases found with
  | none => exact comes_done calm rfl
  | some execution =>
      obtain ⟨row, member, own, rfl⟩ := means execution rfl
      refine comes_step rfl calm fun outcome later noted => ?_
      have reads := noted.answers.flow
      have calmLater := calm.noted rfl noted (by rw [reads.1]; exact .refl _)
      refine comes_orHalt reads calmLater fun graph same => ?_
      have known : site.library.get row.flow = .ok graph := eq_ok_of_mapError same
      dsimp only
      split
      · rename_i parked
        simp only [isParkedBefore, Execution.isActive, ExecutionRow.toExecution, Bool.and_eq_true,
          beq_iff_eq, Bool.not_eq_true', Option.any_eq_true] at parked
        obtain ⟨⟨⟨active, ready⟩, node, isNode, kind⟩, edge⟩ := parked
        have begins : site.Begins scene (.continuation item) _ :=
          .wake member own active known ready ⟨node, isNode, kind⟩ edge
        apply comes_of_underway begins
        apply underway_of_scripted calmLater.quiet (holds_of_calm calmLater member)
        rw [← own]
        exact scripted_detour rfl (scripted_wake active _ rfl)
      · exact comes_done calmLater rfl

/-! ## Locks -/

/-- A process under a lock is on its course when it is so without one. -/
theorem underLock_comes
    {process : Process α}
    {conversation : Conversation}
    (calm : journal.Calm scene)
    (comes : ∀ locked : Journal, locked.Calm scene →
      engine.Comes site scene request report? process locked) :
    engine.Comes site scene request
      (fun result => result.bind fun kept => kept.toOption.bind report?)
      (underLock conversation process) journal := by
  refine comes_step rfl calm fun outcome locked noted => ?_
  have calmLocked := calm.noted rfl noted (noted.answers.untouched_of_isLock rfl)
  rcases outcome with fault | _ | _
  · exact comes_halt calmLocked
  · exact comes_done calmLocked rfl
  · refine (comes locked calmLocked).contain.andThen ?_ ?_
    · intro result after calm silent
      refine comes_step rfl calm fun outcome released noted => ?_
      have calmReleased := calm.noted rfl noted (noted.answers.untouched_of_isLock rfl)
      rcases outcome with (error | message) | value
      · exact comes_done calmReleased silent
      · exact comes_halt calmReleased
      · exact comes_done calmReleased silent
    · intro result
      refine ⟨rfl, fun outcome _ => ?_⟩
      rcases outcome with (error | message) | value
      · rintro _ report ⟨rfl⟩ reports
        exact reports
      · rintro _ _ ⟨⟩
      · rintro _ report ⟨rfl⟩ reports
        exact reports

theorem handleInbound_comes
    {message : InboundMessage}
    (calm : journal.Calm scene) :
    engine.Comes site scene (.message message) InboundOutcome.report?
      (engine.handleInbound message) journal := by
  refine (underLock_comes calm fun locked calm => process_comes calm).andThen ?_ ?_
  · rintro (_ | fault | outcome) after calm silent
    · refine comes_step rfl calm fun _ skipped noted => ?_
      exact comes_done (calm.noted rfl noted noted.answers.publish) rfl
    · exact comes_done calm rfl
    · exact comes_done calm silent
  · rintro (_ | fault | outcome)
    · refine ⟨rfl, fun _ _ => ?_⟩
      rintro _ report ⟨rfl⟩ ⟨⟩
    · rintro _ report ⟨rfl⟩ ⟨⟩
    · rintro _ report ⟨rfl⟩ reports
      exact reports

theorem resume_comes
    {item : Continuation}
    (calm : journal.Calm scene)
    (knows : scene.Knows (.continuation item)) :
    engine.Comes site scene (.continuation item) ResumeOutcome.report? (engine.resume item)
      journal := by
  refine (underLock_comes calm fun locked calm => takeUp_comes calm knows).andThen ?_ ?_
  · rintro (_ | (error | text) | outcome) after calm silent
    · exact comes_done calm rfl
    · exact comes_halt calm
    · exact comes_halt calm
    · exact comes_done calm silent
  · rintro (_ | (error | text) | outcome)
    · rintro _ report ⟨rfl⟩ ⟨⟩
    · rintro _ _ ⟨⟩
    · rintro _ _ ⟨⟩
    · rintro _ report ⟨rfl⟩ reports
      exact reports

/-- Every request is on its course: it is quiet till it begins a turn, and follows the script of
that turn from then on. -/
theorem serve_comes (knows : scene.Knows request) :
    engine.Comes site scene request Verdict.report? (engine.serve request) { scene } := by
  have calm : Journal.Calm scene { scene } := ⟨.refl scene, nofun⟩
  cases request with
  | message message =>
      refine (handleInbound_comes calm).andThen ?_ ?_
      · exact fun outcome after calm silent => comes_done calm silent
      · rintro outcome _ report ⟨rfl⟩ reports
        exact reports
  | continuation item =>
      refine (resume_comes calm knows).andThen ?_ ?_
      · exact fun outcome after calm silent => comes_done calm silent
      · rintro outcome _ report ⟨rfl⟩ reports
        exact reports

/-- At every point of its service a request has been quiet, and makes no loud call next; or it is
under way from an opening to which it came. -/
theorem course_of_reaches
    {rest : Process Verdict}
    (knows : scene.Knows request)
    (reaches : Reaches site.Notes (engine.serve request, { scene }) (rest, journal)) :
    (journal.Calm scene ∧
        (∀ call next, rest = .step call next → call.isLoud = false) ∧
        ∀ verdict, rest = .done verdict → verdict.report? = none) ∨
      ∃ opening, site.Begins scene request opening ∧
        opening.Underway engine Verdict.report? rest journal := by
  have begins : engine.Comes site scene request Verdict.report? (engine.serve request) { scene } :=
    serve_comes knows
  have lasts (before after : Process Verdict × Journal)
      (under : ∃ opening, site.Begins scene request opening ∧
        opening.Underway engine Verdict.report? before.1 before.2)
      (step : Process.Step site.Notes before after) :
      ∃ opening, site.Begins scene request opening ∧
        opening.Underway engine Verdict.report? after.1 after.2 := by
    obtain ⟨opening, begins, underway⟩ := under
    exact ⟨opening, begins, underway.step step⟩
  have till : engine.Comes site scene request Verdict.report? rest journal :=
    till_of_reaches reaches begins lasts
  cases rest with
  | done verdict =>
      rcases till with ⟨calm, silent⟩ | under
      · refine .inl ⟨calm, fun _ _ => nofun, ?_⟩
        rintro _ ⟨rfl⟩
        exact silent verdict rfl
      · exact .inr under
  | halt fault =>
      rcases till with ⟨calm, _⟩ | under
      · exact .inl ⟨calm, fun _ _ => nofun, fun _ => nofun⟩
      · exact .inr under
  | step call next =>
      rcases till with ⟨isQuiet, calm, _⟩ | under
      · refine .inl ⟨calm, ?_, fun _ => nofun⟩
        rintro _ _ ⟨⟩
        exact isQuiet
      · exact .inr under

end Engine
end ChatFlow
