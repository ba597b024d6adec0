import ChatFlow.Proofs.Rehearsal.Histories
import ChatFlow.Proofs.Turn.Aftermath

/-!
# Fields that are captured at a stage

Rules are registered for stages on devices.  When a turn comes to a stage, the rules for it set
their fields one after the other, in the order in which they were registered, so that the last rule
for a field decides.  What they set is what the turn knows from then on, and what the store keeps.
-/

namespace ChatFlow

open Text (lowerAscii isBlank trim)

/-! ## Rules that were registered -/

/-- A rule that was registered for a stage on a device. -/
structure Registration where
  /-- The device. -/
  device : String
  /-- The stage, as it was given. -/
  stage : String
  /-- The rule. -/
  rule : Capture
deriving DecidableEq, Inhabited, Repr

namespace Registration

/-- The rule is for a stage on a device.  Blanks around a stage and the case of ASCII letters do not
matter. -/
def Applies (device stage : String) (registration : Registration) : Prop :=
  registration.device = device ∧ lowerAscii (trim registration.stage) = lowerAscii (trim stage)

instance (device stage : String) (registration : Registration) :
    Decidable (registration.Applies device stage) :=
  inferInstanceAs (Decidable (_ ∧ _))

/-- The field that is set at a stage on a device, and its value: a fixed one, which may be missing,
or the user's text without the blanks around it, unless that is blank. -/
def setting? (device stage input : String) (registration : Registration) :
    Option (String × String) :=
  if registration.Applies device stage then
    match registration.rule.input with
    | .fixed => some (registration.rule.field, registration.rule.value.getD "")
    | .userInput => if isBlank input then none else some (registration.rule.field, trim input)
  else none

/-- The fields after the rule has set its field at a stage on a device, if it sets one there. -/
def set (device stage input : String) (vars : Keyed String) (registration : Registration) :
    Keyed String :=
  match registration.setting? device stage input with
  | some (field, value) => Keyed.insert field value vars
  | none => vars

/-- The row in which a rule is kept. -/
def row (registration : Registration) : CaptureRow where
  device := registration.device
  stage := trim registration.stage
  capture := registration.rule

end Registration

/-- The store after rules were registered, one after the other. -/
def Store.register (store : Store) (registered : List Registration) : Store :=
  registered.foldl
    (fun store registration =>
      store.addCapture registration.device registration.stage registration.rule)
    store

/-- The rules that a store keeps are the registered ones. -/
def Store.HasRegistered (store : Store) (registered : List Registration) : Prop :=
  store.captures = (({} : Store).register registered).captures

/-- The fields after the registered rules have set theirs at a stage on a device, one after the
other. -/
def captured
    (registered : List Registration) (device stage input : String) (vars : Keyed String) :
    Keyed String :=
  registered.foldl (Registration.set device stage input) vars

section
variable {registered : List Registration} {device stage input : String} {vars : Keyed String}

/-- Rules for other stages and other devices change nothing. -/
theorem captured_filter :
    captured (registered.filter fun registration => registration.Applies device stage)
        device stage input vars =
      captured registered device stage input vars := by
  rw [captured, captured, List.foldl_filter]
  congr 1
  funext vars registration
  by_cases applies : registration.Applies device stage
  · rw [if_pos (decide_eq_true applies)]
  · rw [if_neg (by simpa using applies), Registration.set, Registration.setting?, if_neg applies]

/-- The last rule that sets a field decides on its value. -/
theorem get?_captured (field : String) :
    Keyed.get? field (captured registered device stage input vars) =
      (registered.reverse.findSome? fun registration =>
        (registration.setting? device stage input).bind fun set =>
          if set.1 = field then some set.2 else none).or (Keyed.get? field vars) := by
  unfold captured
  induction registered generalizing vars with
  | nil => rfl
  | cons registration registered inductionHypothesis =>
      rw [List.foldl_cons, inductionHypothesis, List.reverse_cons, List.findSome?_append,
        Option.or_assoc, Registration.set]
      congr 1
      rw [List.findSome?_singleton]
      cases registration.setting? device stage input with
      | none => rfl
      | some set =>
          dsimp only
          rw [Keyed.get?_insert, Option.bind_some]
          by_cases same : set.1 = field
          · rw [if_pos same.symm, if_pos same, Option.some_or]
          · rw [if_neg (Ne.symm same), if_neg same, Option.none_or]

/-- The fields stay in order. -/
theorem sorted_captured (sorted : vars.Sorted) :
    (captured registered device stage input vars).Sorted := by
  unfold captured
  induction registered generalizing vars with
  | nil => exact sorted
  | cons registration registered inductionHypothesis =>
      refine inductionHypothesis ?_
      rw [Registration.set]
      split
      · exact sorted.insert
      · exact sorted

/-- Registered rules are kept in the order of their registration. -/
theorem Store.captures_register (store : Store) (registered : List Registration) :
    (store.register registered).captures =
      store.captures ++ registered.map Registration.row := by
  induction registered generalizing store with
  | nil => exact (List.append_nil _).symm
  | cons registration registered inductionHypothesis =>
      rw [register, List.foldl_cons, ← register, inductionHypothesis, List.map_cons,
        ← List.singleton_append, ← List.append_assoc]
      rfl

/-- Where a rule applies, it sets its field to the value that it gives. -/
theorem Registration.setting?_of_applies
    {registration : Registration}
    (applies : registration.Applies device stage) :
    registration.setting? device stage input =
      (registration.rule.valueFor? input).map fun value => (registration.rule.field, value) := by
  rw [setting?, if_pos applies, Capture.valueFor?]
  cases registration.rule.input with
  | fixed => rfl
  | userInput => cases isBlank input <;> rfl

/-- What the rules set that the store finds is what the registered rules set. -/
theorem Store.HasRegistered.overlay_capturesOf
    {store : Store}
    (has : store.HasRegistered registered)
    (device stage input : String)
    (vars : Keyed String) :
    Capture.overlay input (store.capturesOf device stage) vars =
      captured registered device stage input vars := by
  have rows : store.captures = registered.map Registration.row :=
    has.trans (captures_register _ _)
  have found_iff (registration : Registration) :
      (registration.row.device == device &&
        Text.equalIgnoringAsciiCase registration.row.stage (trim stage)) = true ↔
          registration.Applies device stage := by
    rw [Bool.and_eq_true, beq_iff_eq, Text.equalIgnoringAsciiCase, beq_iff_eq]
    exact Iff.rfl
  -- Both sides pass the registered rules in one order, and agree on each rule.
  rw [Capture.overlay, capturesOf, rows, List.foldl_map, List.foldl_filter, List.foldl_map,
    captured]
  congr 1
  funext vars registration
  rw [Registration.set]
  by_cases applies : registration.Applies device stage
  · rw [if_pos ((found_iff registration).mpr applies), Registration.setting?_of_applies applies,
      show registration.row.capture = registration.rule from rfl]
    cases registration.rule.valueFor? input <;> rfl
  · rw [if_neg (mt (found_iff registration).mp applies), Registration.setting?, if_neg applies]

end

/-! ## A turn at a stage -/

namespace Store.Write

variable {store : Store} {id : String} {execution : Execution}

/-- A write that names an execution is read from it. -/
theorem byId?_perform_self
    (write : Write)
    (proper : write.IsProper)
    (names : write.id? = some id)
    (known : store.byId? id = some execution)
    (stamp : Stamp) :
    (write.perform stamp store).2.byId? id =
      some (write.effect (Timestamp.parse (Timestamp.print stamp.now)) execution) := by
  obtain ⟨row, -, id_eq, rfl⟩ := of_byId?_eq_some known
  cases write with
  | setStage named stage | saveVariables named vars =>
      obtain rfl := Option.some.inj names
      have owned : row.toExecution.id == named := beq_iff_eq.mpr id_eq
      rw [byId?_perform proper (Option.some_ne_none _).symm, known, Option.map_some, shown]
      exact congrArg some (if_pos owned)
  | advance | setWaiting | complete | appendHistory => cases names

/-- It is not read from any other execution. -/
theorem byId?_perform_of_ne
    {other : String}
    (write : Write)
    (proper : write.IsProper)
    (names : write.id? = some id)
    (different : other ≠ id)
    (stamp : Stamp) :
    (write.perform stamp store).2.byId? other = store.byId? other := by
  cases write with
  | setStage named stage | saveVariables named vars =>
      obtain rfl := Option.some.inj names
      rw [byId?_perform proper (Option.some_ne_none _).symm]
      cases known : store.byId? other with
      | none => rfl
      | some execution =>
          obtain ⟨row, -, id_eq, rfl⟩ := of_byId?_eq_some known
          have apart : row.toExecution.id ≠ named := by
            rw [← id_eq] at different
            exact different
          rw [Option.map_some, shown, if_neg (by simpa [owns] using apart)]
  | advance | setWaiting | complete | appendHistory => cases names

end Store.Write

namespace Turn

open Process Rehearsal

variable {script : Script} {world : World} {engine : Engine} {node : Flow.Node} {turn : Turn}
  {registered : List Registration}

/-- The turn with its execution at a stage, where fields are captured. -/
def atStage (turn : Turn) (stage : String) (vars : Keyed String) : Turn :=
  { turn with execution := { turn.execution with stage := some stage, vars } }

/-- The fields of a turn after the registered rules have set theirs at a stage. -/
def capturedAt (turn : Turn) (registered : List Registration) (stage : String) : Keyed String :=
  captured registered turn.conversation.device stage turn.input.text turn.execution.vars

/-- A stage is stored where nobody else holds the database. -/
theorem run_setStage (free : world.session.database.held = false) (stage : String) :
    (turn.setStage stage).run (World.answer script) world =
      (.ok (turn.atStage stage turn.execution.vars),
        world.withStore (world.session.database.store.setStage world.session.now
          turn.execution.id (some stage))) := by
  simp only [setStage, Process.ask, Process.run, World.answer, World.change_of_free free, orHalt,
    bind_eq_andThen, andThen_step, andThen_done, pure_eq_done]
  rfl

/-- Fields are captured, and stored if a rule sets one. -/
theorem run_captureFields
    (world : World)
    (turn : Turn)
    (stores : script.captures = .store)
    (captures : engine.hasCaptures = true)
    (free : world.session.database.held = false)
    (has : world.session.database.store.HasRegistered registered)
    (stage : String) :
    ∃ later,
      (captureFields engine turn stage).run (World.answer script) world =
        (.ok { turn with execution :=
          { turn.execution with vars := turn.capturedAt registered stage } }, later) ∧
      (later = world ∧ turn.capturedAt registered stage = turn.execution.vars ∨
        later = world.withStore (world.session.database.store.saveVariables world.session.now
          turn.execution.id (turn.capturedAt registered stage))) := by
  have overlaid := has.overlay_capturesOf turn.conversation.device stage turn.input.text
    turn.execution.vars
  have found : World.answer script (.captureRules turn.conversation.device stage) world =
      (.ok (world.session.database.store.capturesOf turn.conversation.device stage), world) := by
    simp only [World.answer, stores]
  generalize world.session.database.store.capturesOf turn.conversation.device stage = rules
    at overlaid found
  simp only [captureFields, captures, Bool.not_true, Bool.false_eq_true, if_false,
    bind_eq_andThen, Process.ask, andThen_step, andThen_done, Process.run, found, orPanic]
  rw [capturedAt, ← overlaid]
  split
  · refine ⟨_, ?_, .inr rfl⟩
    simp only [andThen_done, Process.run, World.answer, World.change_of_free free, orHalt,
      pure_eq_done]
  · rename_i idle
    have same := overlay_eq_self (Bool.eq_false_iff.mpr idle) turn.execution.vars
    refine ⟨world, ?_, .inl ⟨rfl, same⟩⟩
    rw [same]
    rfl

/-- At a stage the turn captures what the registered rules set, and so does the store for its
execution; no other execution is touched, and no rule. -/
theorem run_step_of_stage
    {template stage : String}
    {stored : Execution}
    (stores : script.captures = .store)
    (captures : engine.hasCaptures = true)
    (free : world.session.database.held = false)
    (has : world.session.database.store.HasRegistered registered)
    (known : world.session.database.store.byId? turn.execution.id = some stored)
    (agrees : stored.vars = turn.execution.vars)
    (kind : node.kind = .stage)
    (given : stageTemplate? node = some template)
    (rendered : turn.render (trim template) = stage)
    (nonempty : stage ≠ "")
    (graph : Flow.Graph)
    (answering : Bool) :
    ∃ later,
      (step engine graph node answering turn).run (World.answer script) world =
        (.ok (.along graph node.id, turn.atStage stage (turn.capturedAt registered stage)), later) ∧
      later.session.database.store.byId? turn.execution.id =
        some { stored with
          stage := some stage
          vars := turn.capturedAt registered stage
          updated := Timestamp.parse (Timestamp.print world.session.now) } ∧
      (∀ other, other ≠ turn.execution.id → later.session.database.store.byId? other =
        world.session.database.store.byId? other) ∧
      later.session.database.store.captures = world.session.database.store.captures := by
  have sorted : (turn.capturedAt registered stage).Sorted := by
    obtain ⟨row, -, -, rfl⟩ := Store.of_byId?_eq_some known
    exact sorted_captured (agrees ▸ Store.sorted_decodeVariables row.vars)
  obtain ⟨later, ran, becomes⟩ :=
    run_captureFields
      (world.withStore (world.session.database.store.setStage world.session.now
        turn.execution.id (some stage)))
      (turn.atStage stage turn.execution.vars) stores captures free has stage
  have entered : (enterStage engine turn node).run (World.answer script) world =
      (.ok (turn.atStage stage (turn.capturedAt registered stage)), later) := by
    rw [enterStage, given]
    dsimp only
    rw [rendered, bind_eq_andThen, run_andThen, run_setStage free]
    dsimp only
    rw [if_neg (by simpa using nonempty)]
    exact ran
  refine ⟨later, ?_, ?_⟩
  · simp only [step, kind, bind_eq_andThen, pure_eq_done]
    rw [run_andThen, entered]
    rfl
  · let stamp : Stamp := ⟨world.session.now, ""⟩
    let label : Store.Write := .setStage turn.execution.id (some stage)
    let save : Store.Write := .saveVariables turn.execution.id (turn.capturedAt registered stage)
    have labelled := label.byId?_perform_self trivial rfl known stamp
    -- Where no rule sets a field nothing more is written, and the stored fields are as they were.
    rcases becomes with ⟨rfl, same⟩ | rfl
    · refine ⟨labelled.trans ?_,
        fun _ different => label.byId?_perform_of_ne trivial rfl different stamp, rfl⟩
      rw [show turn.capturedAt registered stage = stored.vars from same.trans agrees.symm]
      rfl
    · refine ⟨save.byId?_perform_self sorted rfl labelled stamp, ?_, rfl⟩
      intro other different
      exact (save.byId?_perform_of_ne sorted rfl different stamp).trans
        (label.byId?_perform_of_ne trivial rfl different stamp)

end Turn

/-! ## A whole turn -/

/-- What is said of the capture rules is what a store finds in which some were registered. -/
def Cast.FindsRegistered {σ : Type} (cast : Cast σ) (registered : List Registration) : Prop :=
  ∀ device stage state,
    cast.rules device stage state =
      (.ok ((({} : Store).register registered).capturesOf device stage), state)

namespace Recital

variable {σ : Type} {engine : Engine} {cast : Cast σ} {node : Flow.Node} {recital : Recital σ}
  {registered : List Registration}

/-- Showing media captures nothing. -/
theorem vars_present (url : String) (hint : Option Media.Kind) :
    (recital.present engine cast url hint).vars = recital.vars := by
  unfold present
  split
  · split <;> rfl
  · rfl

/-- Saying a text captures nothing. -/
theorem vars_sayTemplate (template : Option String) :
    (recital.sayTemplate template).vars = recital.vars := by
  cases template <;> rfl

/-- An answer of the text generator captures nothing. -/
theorem vars_obey (raw : String) : (recital.obey engine cast raw).vars = recital.vars := by
  have items (listed : List ReplyItem) (recital : Recital σ) :
      (listed.foldl (sayItem engine cast) recital).vars = recital.vars := by
    induction listed generalizing recital with
    | nil => rfl
    | cons item listed inductionHypothesis =>
        rw [List.foldl_cons, inductionHypothesis, sayItem]
        split
        · rfl
        · exact vars_present _ _
  unfold obey
  split
  · exact items _ _
  · split <;> rfl

theorem vars_consult : (recital.consult engine cast).vars = recital.vars := by
  unfold consult
  split
  · split
    · exact vars_obey _
    · rfl
  · rfl

/-- The fields after a node: at a stage, what the registered rules set there, and at any other node
what they were. -/
def varsAfter (recital : Recital σ) (registered : List Registration) (node : Flow.Node) :
    Keyed String :=
  match node.kind, Turn.stageTemplate? node with
  | .stage, some template =>
    let stage := recital.render (trim template)
    if stage.isEmpty then recital.vars
    else captured registered recital.conversation.device stage recital.text recital.vars
  | _, _ => recital.vars

/-- Only at a stage fields are captured. -/
theorem vars_speak
    (captures : engine.hasCaptures = true)
    (finds : cast.FindsRegistered registered)
    (recital : Recital σ)
    (node : Flow.Node) :
    (recital.speak engine cast node).vars = recital.varsAfter registered node := by
  unfold speak varsAfter
  cases node.kind with
  | stage =>
      simp only [enterStage]
      cases Turn.stageTemplate? node with
      | none => rfl
      | some template =>
          dsimp only
          split
          · rfl
          · have has : (({} : Store).register registered).HasRegistered registered := rfl
            have found := finds recital.conversation.device (recital.render (trim template))
              recital.state
            simp only [capture, captures, if_true]
            rw [found]
            exact has.overlay_capturesOf _ _ _ _
  | message => exact vars_sayTemplate _
  | image | audio | video =>
      simp only [showMedia]
      split
      · exact (vars_sayTemplate _).trans (vars_present _ _)
      · rfl
  | aiPrompt | advancedAiPrompt | prompt => exact vars_consult
  | _ => rfl

end Recital

namespace Turn

open Process Rehearsal

/-- At a stage that is not empty the registered rules for it set their fields, in the order of their
registration: the last rule for a field decides, and rules for other stages and devices change
nothing.  What they make of the fields is what the turn goes on with, and what the store has of its
execution, while other executions stay as they are.  So it is for a whole turn: only stages change
the fields, everything that is said is rendered with the fields as they are by then, and the store
has them at the end. -/
theorem fields_captured
    {engine : Engine}
    (captures : engine.hasCaptures = true)
    (registered : List Registration) :
    (∀ (script : Script) (world : World) (graph : Flow.Graph) (node : Flow.Node) (answering : Bool)
        (turn : Turn) (stored : Execution) (template : String),
      script.captures = .store → world.session.database.held = false →
      world.session.database.store.HasRegistered registered →
      world.session.database.store.byId? turn.execution.id = some stored →
      stored.vars = turn.execution.vars →
      node.kind = .stage → stageTemplate? node = some template →
      turn.render (trim template) ≠ "" →
      let stage := turn.render (trim template)
      let vars := captured registered turn.conversation.device stage turn.input.text
        turn.execution.vars
      let staged := turn.atStage stage vars
      ∃ later,
        (step engine graph node answering turn).run (World.answer script) world =
          (.ok (.along graph node.id, staged), later) ∧
        (later.session.database.store.byId? turn.execution.id).map Execution.vars =
          some staged.context.vars ∧
        (∀ other, other ≠ turn.execution.id → later.session.database.store.byId? other =
          world.session.database.store.byId? other) ∧
        later.session.database.store.captures = world.session.database.store.captures) ∧
    (∀ device stage input vars field,
      Keyed.get? field (captured registered device stage input vars) =
        (registered.reverse.findSome? fun registration =>
          (registration.setting? device stage input).bind fun set =>
            if set.1 = field then some set.2 else none).or (Keyed.get? field vars)) ∧
    (∀ device stage input vars,
      captured registered device stage input vars =
        captured (registered.filter fun registration => registration.Applies device stage)
          device stage input vars) ∧
    ∀ (σ : Type) (site : Site) (cast : Cast σ) (graph : Flow.Graph) (input : TurnInput)
        (row : ExecutionRow) (before after : Transcript σ) (report : TurnReport),
      cast.FindsRegistered registered → before.scene.store.WellKept →
      row ∈ before.scene.store.executions → row.status = .active →
      Ends (site.Obliges cast.manner) (perform engine graph row.toExecution input) before
        (.ok report) after →
      let recited := (prologue row.toExecution input before).recite engine cast
      (∀ legs leg,
        (recited (legs ++ [leg])).vars = (recited legs).varsAfter registered leg.node) ∧
      ∃ stored ∈ after.scene.store.executions, stored.id = row.id ∧
        stored.toExecution.vars = (recited (way engine graph row.toExecution input)).vars ∧
        after.lines = (recited (way engine graph row.toExecution input)).lines := by
  refine ⟨?_, fun _ _ _ _ field => get?_captured field, fun _ _ _ _ => captured_filter.symm, ?_⟩
  · intro script world graph node answering turn stored template stores free has known agrees kind
      given nonempty stage vars staged
    obtain ⟨later, ran, shown, others, rules⟩ :=
      run_step_of_stage stores captures free has known agrees kind given rfl nonempty graph
        answering
    refine ⟨later, ran, ?_, others, rules⟩
    rw [shown]
    rfl
  · intro σ site cast graph input row before after report finds kept member active ends recited
    refine ⟨fun legs leg => ?_, ?_⟩
    · simp only [recited]
      rw [Recital.recite_append]
      exact Recital.vars_speak captures finds _ _
    · obtain ⟨stored, leaves⟩ :=
        exists_leaves kept member active row.tells_toExecution ends
      exact ⟨stored, leaves.member, leaves.id_eq, (congrArg Recital.vars leaves.said).symm,
        (congrArg Recital.lines leaves.said).symm⟩

end Turn

/-! ## A qualified lead -/

/-- The node at which a lead is qualified. -/
def Flow.Node.qualify : Flow.Node :=
  ⟨"qualify", .stage, [("stage", .string " Qualified ")]⟩

/-- A flow that notes the budget of a lead. -/
def Flow.Graph.qualifying : Flow.Graph where
  definition := (((Definition.blank "qualifying").addNode ⟨"start", .start, []⟩).addNode
    .qualify).addMessage "note" "Noted: \x7b\x7bbudget\x7d\x7d" |>.chain
      ["start", "qualify", "note"]
  start := ⟨"start", .start, []⟩
  sound := by decide
  start_found := rfl

/-- A site with that flow, where nothing fails. -/
def Site.qualifying : Site where
  library := .ofFlows [.qualifying] [{ device := "1", flow := "qualifying" }]
  faults _ := False
  clock _ := True

/-- The row of an execution that begins with an old budget. -/
def ExecutionRow.ofLead : ExecutionRow where
  id := "execution"
  flow := "qualifying"
  conversation := { phone := "2", device := "1" }
  node := "start"
  waiting := false
  vars := "\x7b\"budget\":\"300\"\x7d"
  created := Timestamp.print ⟨0⟩
  updated := Timestamp.print ⟨0⟩

namespace Turn

open Process Rehearsal

/-- Rules for leads. -/
def leadRules : List Registration :=
  [⟨"1", " Qualified", { input := .fixed, value := some "unknown", field := "budget" }⟩,
    ⟨"1", "QUALIFIED ", { input := .userInput, field := "budget" }⟩,
    ⟨"1", "qualified", { input := .fixed, field := "note" }⟩,
    ⟨"1", "lost", { input := .fixed, value := some "none", field := "budget" }⟩,
    ⟨"7", "qualified", { input := .fixed, value := some "none", field := "budget" }⟩]

/-- Where the row and the rules are stored. -/
def leadStore : Store :=
  ({ executions := [.ofLead] } : Store).register leadRules

/-- The row and the rules in a rehearsal. -/
def leadWorld : World where
  session := { database := { store := leadStore }, now := ⟨0⟩ }

/-- The turn of a lead who says how much can be spent. -/
def qualifying : Turn where
  execution := ExecutionRow.ofLead.toExecution
  input := { text := " 500 " }

/-- A cast that tells the rules for leads. -/
def leadCast : Cast Unit where
  verdict _ state := (.ok .image, state)
  rules device stage state :=
    (.ok ((({} : Store).register leadRules).capturesOf device stage), state)
  reply state := (.ok "", state)

theorem fits_leadCast : leadCast.Fits Site.qualifying :=
  ⟨nofun, nofun, nofun⟩

/-- Where the row is stored before the turn. -/
def unqualified : Transcript Unit where
  scene := { store := leadStore }
  state := ()

/-- The turn as a whole. -/
def qualified : Except Fault TurnReport × Transcript Unit :=
  (perform { hasCaptures := true } .qualifying ExecutionRow.ofLead.toExecution
    { text := " 500 " }).run (Site.qualifying.answerBy ⟨0⟩ leadCast) unqualified

theorem wellKept_unqualified : unqualified.scene.store.WellKept := by
  constructor
  · simp [unqualified, leadStore, leadRules, Store.register, Store.addCapture]
  · simp [unqualified, leadStore, leadRules, Store.register, Store.addCapture]

theorem ends_qualified :
    Ends (Site.qualifying.Obliges leadCast.manner)
      (perform { hasCaptures := true } .qualifying ExecutionRow.ofLead.toExecution
        { text := " 500 " }) unqualified qualified.1 qualified.2 :=
  Site.ends_answerBy trivial fits_leadCast _ _ (by decide +kernel)

theorem fields_captured_qualifying :
    (∃ later,
      (step { hasCaptures := true } .qualifying .qualify false qualifying).run (World.answer {})
          leadWorld =
        (.ok (.along .qualifying "qualify",
          qualifying.atStage "Qualified" [("budget", "500"), ("note", "")]), later) ∧
      (later.session.database.store.byId? "execution").map Execution.vars =
        some [("budget", "500"), ("note", "")]) ∧
    (∃ stored ∈ qualified.2.scene.store.executions,
      stored.toExecution.vars = [("budget", "500"), ("note", "")]) ∧
    qualified.2.lines.map Sent.body = ["Noted: 500"] := by
  obtain ⟨steps, -, -, performs⟩ :=
    fields_captured (show ({ hasCaptures := true } : Engine).hasCaptures = true from rfl) leadRules
  have named : qualifying.render (trim " Qualified ") = "Qualified" := by decide +kernel
  have set : captured leadRules "1" "Qualified" " 500 " qualifying.execution.vars =
      [("budget", "500"), ("note", "")] := by decide +kernel
  refine ⟨?_, ?_⟩
  · obtain ⟨later, ran, kept, -⟩ :=
      steps {} leadWorld .qualifying .qualify false qualifying ExecutionRow.ofLead.toExecution
        " Qualified " rfl rfl rfl (by decide +kernel) rfl rfl (by decide +kernel)
        (by rw [named]; decide)
    rw [named] at ran kept
    rw [show captured leadRules qualifying.conversation.device "Qualified" qualifying.input.text
      qualifying.execution.vars = [("budget", "500"), ("note", "")] from set] at ran kept
    exact ⟨later, ran, kept⟩
  · have ok : qualified.1.isOk = true := by decide +kernel
    obtain ⟨report, ends⟩ : ∃ report, qualified.1 = .ok report := by
      cases ended : qualified.1 with
      | ok report => exact ⟨report, rfl⟩
      | error fault =>
          rw [ended] at ok
          cases ok
    obtain ⟨-, stored, member, -, vars_eq, lines_eq⟩ :=
      performs Unit Site.qualifying leadCast .qualifying { text := " 500 " } .ofLead unqualified
        qualified.2 report (fun _ _ _ => rfl) wellKept_unqualified (List.mem_singleton.mpr rfl) rfl
        (ends ▸ ends_qualified)
    refine ⟨⟨stored, member, vars_eq.trans (by decide +kernel)⟩, ?_⟩
    rw [lines_eq]
    decide +kernel

end Turn

end ChatFlow
