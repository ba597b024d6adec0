import ChatFlow.Proofs.Engine.Courses
import ChatFlow.Proofs.Engine.Position

/-!
# Turns that are cut short

A turn may be cut short at any call.  Its row then stands where some of the turn's exits lead to,
and holds what was written so far: the nodes behind those exits were entered, and one more at
most, the one where the row stands.  There the next turn of the execution begins, so that no node
is entered again that was left already.
-/

namespace ChatFlow

open Process

namespace Opening

/-- The nodes that a turn has left by so many exits. -/
def passed (opening : Opening) (engine : Engine) (k : Nat) : List String :=
  ((opening.way engine).take (k - opening.departure.length)).map fun leg => leg.node.id

/-- The turn of an opening has come as far as `k` of its exits, and left its row there. -/
structure Cut
    (opening : Opening) (engine : Engine) (k : Nat) (journal : Journal) (row : ExecutionRow) :
    Prop where
  le_length : k ≤ (opening.exits engine).length
  member : row ∈ journal.scene.store.executions
  /-- It is what the calls made of the one that the turn began with. -/
  row_eq : row = { opening.row.writeAll journal.calls with updated := row.updated }
  /-- It stands where the exits lead to. -/
  position_eq : row.position = opening.row.position.travel ((opening.exits engine).take k)
  /-- The turn has entered the nodes that it left, and one more at most, where the row stands. -/
  entered_eq : enteredNodes journal.calls = opening.passed engine k ∨
    enteredNodes journal.calls = opening.passed engine k ++ [row.node]
  /-- The nodes are the first ones on the way of the turn. -/
  isPrefix : enteredNodes journal.calls <+: (opening.way engine).map fun leg => leg.node.id

variable {site : Site} {engine : Engine} {scene : Scene} {request : Request} {opening : Opening}
  {journal : Journal} {k : Nat} {taken : List Call}

/-! ## First calls -/

theorem enteredNodes_departureCalls : enteredNodes opening.departureCalls = [] := by
  rw [departureCalls]
  cases opening.detour <;> rfl

/-- The first calls of the legs take some exits, and enter the nodes that are left by them, perhaps
with the next one. -/
theorem exists_of_isPrefix_way
    (isPrefix : taken <+: (opening.way engine).flatMap
      (Leg.calls opening.row.conversation opening.row.flow)) :
    ∃ j ≤ (opening.way engine).length,
      opening.execution.position.after opening.row.conversation opening.row.flow taken =
        opening.execution.position.travel (((opening.way engine).take j).map Leg.exit) ∧
      (enteredNodes taken = ((opening.way engine).take j).map (fun leg => leg.node.id) ∨
        ∃ leg, (opening.way engine)[j]? = some leg ∧
          enteredNodes taken =
            ((opening.way engine).take j).map (fun leg => leg.node.id) ++ [leg.node.id]) := by
  obtain ⟨j, inside, rfl | ⟨leg, found, rfl⟩⟩ := exists_of_isPrefix isPrefix
  · exact ⟨j, inside, Position.after_legs, .inl enteredNodes_legs⟩
  · refine ⟨j, inside, ?_, .inr ⟨leg, found, ?_⟩⟩
    · rw [Position.after_append, Position.after_legs]
      rfl
    · rw [enteredNodes_append, enteredNodes_legs]
      rfl

/-- Some calls take the first `k` exits, and enter the nodes that are left by them, perhaps with
the next one. -/
structure Takes
    (opening : Opening) (engine : Engine) (taken : List Call) (k : Nat) : Prop where
  le_length : k ≤ (opening.exits engine).length
  /-- The calls move the row as the exits do. -/
  after_eq : opening.row.position.after opening.row.conversation opening.row.flow taken =
    opening.row.position.travel ((opening.exits engine).take k)
  /-- They enter the nodes that are left, and one more at most. -/
  entered_eq : enteredNodes taken = opening.passed engine k ∨
    ∃ j leg, k = opening.departure.length + j ∧ (opening.way engine)[j]? = some leg ∧
      enteredNodes taken = opening.passed engine k ++ [leg.node.id]

/-- The first calls of a script take some exits. -/
theorem exists_takes_of_isPrefix
    (begins : site.Begins scene request opening)
    (isPrefix : taken <+: opening.script engine) :
    ∃ k, opening.Takes engine taken k := by
  -- Either the call that moves the row was not made, or the others are the first ones of the legs.
  have moved (further : List Call)
      (isPrefix : further <+: (opening.way engine).flatMap
        (Leg.calls opening.row.conversation opening.row.flow))
      (taken_eq : taken = opening.departureCalls ++ further) :
      ∃ k, opening.Takes engine taken k := by
    have entered_eq : enteredNodes taken = enteredNodes further := by
      rw [taken_eq, enteredNodes_append, enteredNodes_departureCalls]
      rfl
    obtain ⟨j, inside, after_eq, entered⟩ := exists_of_isPrefix_way isPrefix
    refine ⟨opening.departure.length + j, ?_, ?_, ?_⟩
    · simpa [exits] using inside
    · rw [travel_exits begins, taken_eq, Position.after_append, after_departureCalls begins, after_eq]
    · rw [entered_eq, passed, Nat.add_sub_cancel_left]
      rcases entered with same | ⟨leg, found, same⟩
      · exact .inl same
      · exact .inr ⟨j, leg, rfl, found, same⟩
  cases away : opening.detour with
  | none =>
      rw [script, departureCalls, away] at isPrefix
      exact moved taken isPrefix (by simp [departureCalls, away])
  | some target =>
      rw [script, departureCalls, away] at isPrefix
      rcases List.prefix_cons_iff.mp isPrefix with rfl | ⟨further, rfl, beyond⟩
      · exact ⟨0, Nat.zero_le _, rfl, .inl (by simp [passed, enteredNodes])⟩
      · exact moved further beyond (by simp [departureCalls, away])

/-- The calls of a whole script take all exits. -/
theorem takes_script (begins : site.Begins scene request opening) :
    opening.Takes engine (opening.script engine) (opening.exits engine).length := by
  have length_eq : (opening.exits engine).length =
      opening.departure.length + (opening.way engine).length := by simp [exits]
  refine ⟨Nat.le_refl _, ?_, .inl ?_⟩
  · rw [length_eq, travel_exits begins, script, Position.after_append, after_departureCalls begins,
      Position.after_legs, List.take_length]
  · rw [length_eq, passed, Nat.add_sub_cancel_left, List.take_length, script,
      enteredNodes_append, enteredNodes_departureCalls, enteredNodes_legs]
    rfl

/-- After calls that take exits the row stands at the node that comes next, if there is one. -/
theorem Takes.node_eq
    {j : Nat}
    {leg : Leg}
    (begins : site.Begins scene request opening)
    (takes : opening.Takes engine taken (opening.departure.length + j))
    (found : (opening.way engine)[j]? = some leg) :
    (opening.row.position.after opening.row.conversation opening.row.flow taken).node =
      leg.node.id := by
  rw [takes.after_eq, travel_exits begins]
  exact (Flow.Graph.travel_take_route found (active_execution begins)).1

/-! ## Cuts -/

/-- What is under way was cut at the exits that its calls took. -/
theorem Underway.cut
    {report? : α → Option TurnReport}
    {process : Process α}
    (begins : site.Begins scene request opening)
    (underway : opening.Underway engine report? process journal)
    (takes : opening.Takes engine (journal.calls.filter Call.isMark) k) :
    ∃ row, opening.Cut engine k journal row := by
  obtain ⟨updated, member⟩ := underway.held
  have position_eq : (opening.row.writeAll journal.calls).position =
      opening.row.position.after opening.row.conversation opening.row.flow
        (journal.calls.filter Call.isMark) := ExecutionRow.position_writeAll
  refine ⟨_, takes.le_length, member, rfl, position_eq.trans takes.after_eq, ?_, ?_⟩
  · rw [← enteredNodes_filter]
    rcases takes.entered_eq with same | ⟨j, leg, rfl, found, same⟩
    · exact .inl same
    · have node_eq := takes.node_eq begins found
      rw [← position_eq] at node_eq
      exact .inr (by rw [same, ← node_eq]; rfl)
  · rw [← enteredNodes_filter]
    rcases takes.entered_eq with same | ⟨j, leg, rfl, found, same⟩
    · rw [same, passed]
      exact (List.take_prefix _ _).map _
    · have further : ((opening.way engine).take (j + 1)).map (fun leg => leg.node.id) =
          ((opening.way engine).take j).map (fun leg => leg.node.id) ++ [leg.node.id] := by
        simp [List.take_add_one, found]
      rw [same, passed, Nat.add_sub_cancel_left, ← further]
      exact (List.take_prefix _ _).map _

variable {later : Scene} {next : Request} {after : Journal} {i : Nat} {row stored : ExecutionRow}

/-- An opening that begins with a row that is there begins with it as it is, and leaves it where it
is unless it stands at a delay. -/
theorem row_eq_of_begins
    (kept : scene.store.WellKept)
    (begins : site.Begins scene request opening)
    (member : row ∈ scene.store.executions)
    (same : opening.row.id = row.id) :
    opening.row = row ∧ (opening.detour = none ∨
      site.library.get row.flow = .ok opening.graph ∧ opening.graph.IsDelay row.node) := by
  cases begins with
  | fresh _ _ unused => exact (unused row member same.symm).elim
  | standing found => exact ⟨kept.eq_of_id found member same, .inl rfl⟩
  | overdue found _ _ known _ isDelay | wake found _ _ known _ isDelay =>
      obtain rfl := kept.eq_of_id found member same
      exact ⟨rfl, .inr ⟨known, isDelay⟩⟩

/-- A turn that does not move its row first enters the node where the row stands first. -/
theorem Cut.head?_eq
    (cut : opening.Cut engine k journal row)
    (straight : opening.detour = none)
    (enters : enteredNodes journal.calls ≠ []) :
    (enteredNodes journal.calls).head? = some opening.row.node := by
  obtain ⟨behind, way_eq⟩ := cut.isPrefix
  cases entered : enteredNodes journal.calls with
  | nil => exact (enters entered).elim
  | cons node nodes =>
      rw [entered] at way_eq
      cases legs : opening.way engine with
      | nil => simp [legs] at way_eq
      | cons leg further =>
          have first : (opening.way engine)[0]? = some leg := by rw [legs]; rfl
          rw [legs, List.map_cons, List.cons_append, List.cons.injEq] at way_eq
          rw [List.head?_cons, way_eq.1, id_of_first_way straight first]

end Opening

namespace Engine

variable {site : Site} {engine : Engine} {scene : Scene} {request : Request} {journal : Journal}
  {rest : Process Verdict}

/-- At every point of its service a request did nothing and reports nothing, or the turn that it
began has come as far as some of its exits. -/
theorem exists_cut_of_reaches
    (knows : scene.Knows request)
    (reaches : Reaches site.Notes (engine.serve request, { scene }) (rest, journal)) :
    (scene.Untouched journal.scene ∧ enteredNodes journal.calls = [] ∧
        ∀ verdict, rest = .done verdict → verdict.report? = none) ∨
      ∃ opening k row, site.Begins scene request opening ∧ opening.Cut engine k journal row ∧
        ∀ verdict report, rest = .done verdict → verdict.report? = some report →
          k = (opening.exits engine).length := by
  rcases course_of_reaches knows reaches with ⟨calm, _, silent⟩ | ⟨opening, begins, underway⟩
  · refine .inl ⟨calm.untouched, ?_, silent⟩
    rw [← enteredNodes_filter, filter_isMark_of_quiet calm.quiet]
    rfl
  · by_cases reported : ∃ verdict report, rest = .done verdict ∧ verdict.report? = some report
    · obtain ⟨verdict, report, rfl, reports⟩ := reported
      obtain ⟨taken, _⟩ := underway.script_eq_of_report reports
      have takes : opening.Takes engine (opening.script engine) _ := Opening.takes_script begins
      rw [← taken] at takes
      obtain ⟨row, cut⟩ := underway.cut begins takes
      exact .inr ⟨opening, _, row, begins, cut, fun _ _ _ _ => rfl⟩
    · obtain ⟨left, _, remains⟩ := underway.pursues
      obtain ⟨k, takes⟩ := Opening.exists_takes_of_isPrefix begins remains.isPrefix
      obtain ⟨row, cut⟩ := underway.cut begins takes
      refine .inr ⟨opening, k, row, begins, cut, fun verdict report ends reports => ?_⟩
      exact (reported ⟨verdict, report, ends, reports⟩).elim

/-- Wherever a turn is cut short, its row stands where some whole number of its exits leads to,
and holds what was written so far.  The nodes behind those exits were entered, and one more at
most, the one where the row stands.  A turn that is not cut short has taken all exits.  While the
row is left as it is, the next turn of its execution begins there, unless it stands at a delay. -/
theorem cut_short
    (knows : scene.Knows request)
    (reaches : Reaches site.Notes (engine.serve request, { scene }) (rest, journal)) :
    (scene.Untouched journal.scene ∧ enteredNodes journal.calls = [] ∧
        ∀ verdict, rest = .done verdict → verdict.report? = none) ∨
      ∃ opening k row, site.Begins scene request opening ∧ opening.Cut engine k journal row ∧
        (∀ verdict report, rest = .done verdict → verdict.report? = some report →
          k = (opening.exits engine).length) ∧
        ∀ later next behind after, later.store.WellKept → later.Knows next →
          row ∈ later.store.executions →
          Reaches site.Notes (engine.serve next, { scene := later }) (behind, after) →
          enteredNodes after.calls = [] ∨
          row.status = .active ∧ (enteredNodes after.calls).head? = some row.node ∨
          (∃ graph, site.library.get row.flow = .ok graph ∧ graph.IsDelay row.node) ∨
          ∃ other i stored, site.Begins later next other ∧ other.Cut engine i after stored ∧
            other.row.id ≠ row.id := by
  rcases exists_cut_of_reaches knows reaches with calm | ⟨opening, k, row, begins, cut, ends⟩
  · exact .inl calm
  refine .inr ⟨opening, k, row, begins, cut, ends, ?_⟩
  intro later next behind after kept knowsNext member reachesNext
  rcases exists_cut_of_reaches knowsNext reachesNext with
    ⟨_, nothing, _⟩ | ⟨other, i, stored, beginsNext, cutNext, _⟩
  · exact .inl nothing
  by_cases enters : enteredNodes after.calls = []
  · exact .inl enters
  by_cases same : other.row.id = row.id
  · obtain ⟨row_eq, straight | ⟨known, isDelay⟩⟩ :=
      Opening.row_eq_of_begins kept beginsNext member same
    · rw [← row_eq]
      exact .inr (.inl ⟨Opening.active_of_begins beginsNext, cutNext.head?_eq straight enters⟩)
    · exact .inr (.inr (.inl ⟨_, known, isDelay⟩))
  · exact .inr (.inr (.inr ⟨other, i, stored, beginsNext, cutNext, same⟩))

/-- Everything goes well but for the queue, which panics. -/
def queueless (request : Call) (journal : Journal) : request.Outcome × Journal :=
  match request with
  | .enqueue _ => (.error (.panic "no queue"), journal)
  | request =>
    let (outcome, scene) := Site.roundabout.answer ⟨0⟩ {} request journal.scene
    (outcome, { scene, calls := journal.calls ++ [request] })

theorem notes_queueless (request : Call) (journal : Journal) :
    Site.roundabout.Notes request journal (queueless request journal).1
      (queueless request journal).2 := by
  cases request with
  | enqueue item => exact .failed trivial rfl
  | _ =>
      have onClock : Site.roundabout.clock ⟨0⟩ := trivial
      exact .well onClock {}

/-- A message that is to be delayed while the queue panics. -/
def delayedInVain : Except Fault Verdict × Journal :=
  (Engine.serve {} (.message .toRoundabout)).run queueless { scene := {} }

/-- It entered the delay, and its row stands there. -/
theorem cut_short_delayedInVain :
    delayedInVain.1 = .ok (.message (.failed "no queue")) ∧
    enteredNodes delayedInVain.2.calls = ["start", "wait"] ∧
    ∃ opening k row, Site.roundabout.Begins {} (.message .toRoundabout) opening ∧
      opening.Cut {} k delayedInVain.2 row := by
  have entered : enteredNodes delayedInVain.2.calls = ["start", "wait"] := by decide +kernel
  have knows : Scene.Knows {} (.message .toRoundabout) := trivial
  have ends : Ends Site.roundabout.Notes (Engine.serve {} (.message .toRoundabout))
      { scene := {} } delayedInVain.1 delayedInVain.2 :=
    ends_of_run queueless notes_queueless _ _
  refine ⟨by decide +kernel, entered, ?_⟩
  rcases cut_short knows ends with ⟨_, nothing, _⟩ | ⟨opening, k, row, begins, cut, _⟩
  · rw [entered] at nothing
    cases nothing
  · exact ⟨opening, k, row, begins, cut⟩

end Engine
end ChatFlow
