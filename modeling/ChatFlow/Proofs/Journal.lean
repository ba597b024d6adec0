import ChatFlow.Proofs.Process.Script
import ChatFlow.Proofs.Store.Rows

/-!
# Journals

A `Journal` is a scene together with the calls that had their effect on the way there, in order.
A call that fails may have had its effect nevertheless, and is then written down like any other.
Where a row was when the journal began, a row is later that the calls of the journal turned it
into: no call does anything else to it but to note the time.
-/

namespace ChatFlow

/-- A scene and the calls that had their effect. -/
structure Journal where
  scene : Scene
  calls : List Call := []

/-- How calls are answered at a site, and written down. -/
inductive Site.Notes (site : Site) (request : Call) (journal : Journal) :
    request.Outcome → Journal → Prop
  /-- The call goes well. -/
  | well {now : Instant} (onClock : site.clock now) (choice : Choice) :
      Notes site request journal
        (journal.scene.serve site.library site.stale now choice request).1
        { scene := (journal.scene.serve site.library site.stale now choice request).2
          calls := journal.calls ++ [request] }
  /-- The call fails without an effect. -/
  | failed {fault : Fault} {outcome : request.Outcome} (shown : site.faults fault)
      (fails : request.failure? fault = some outcome) :
      Notes site request journal outcome journal
  /-- The call fails, but not before it had its effect. -/
  | failedLate {fault : Fault} {outcome : request.Outcome} {now : Instant}
      (shown : site.faults fault) (fails : request.failure? fault = some outcome)
      (onClock : site.clock now) (choice : Choice) :
      Notes site request journal outcome
        { scene := (journal.scene.serve site.library site.stale now choice request).2
          calls := journal.calls ++ [request] }

namespace Site

variable {site : Site} {request : Call} {outcome : request.Outcome} {before after : Journal}

/-- What is written down was answered. -/
theorem Notes.answers (noted : site.Notes request before outcome after) :
    site.Answers request before.scene outcome after.scene := by
  cases noted with
  | well onClock choice => exact .well onClock choice
  | failed shown fails => exact .failed shown fails
  | failedLate shown fails onClock choice => exact .failedLate shown fails onClock choice

theorem Answers.notes
    {scene : Scene}
    (before : Journal)
    (answered : site.Answers request before.scene outcome scene) :
    ∃ calls, site.Notes request before outcome { scene, calls } := by
  cases answered with
  | well onClock choice => exact ⟨_, .well onClock choice⟩
  | failed shown fails => exact ⟨_, .failed shown fails⟩
  | failedLate shown fails onClock choice => exact ⟨_, .failedLate shown fails onClock choice⟩

/-- A call had its effect, or it failed and nothing happened. -/
theorem Notes.effect (noted : site.Notes request before outcome after) :
    (after.calls = before.calls ++ [request] ∧ ∃ now choice, site.clock now ∧
      after.scene = (before.scene.serve site.library site.stale now choice request).2) ∨
    after = before ∧ request.Fails outcome := by
  cases noted with
  | well onClock choice => exact .inl ⟨rfl, _, choice, onClock, rfl⟩
  | failed _ fails => exact .inr ⟨rfl, _, fails⟩
  | failedLate _ _ onClock choice => exact .inl ⟨rfl, _, choice, onClock, rfl⟩

/-- Every run can be written down. -/
theorem exists_notes
    {process rest : Process α}
    {scene : Scene}
    (before : Journal)
    (reaches : Process.Reaches site.Answers (process, before.scene) (rest, scene)) :
    ∃ calls, Process.Reaches site.Notes (process, before) (rest, { scene, calls }) := by
  suffices general : ∀ moment, Process.Reaches site.Answers (process, before.scene) moment →
      ∃ calls, Process.Reaches site.Notes (process, before)
        (moment.1, { scene := moment.2, calls }) from general _ reaches
  intro moment reaches
  induction reaches with
  | refl => exact ⟨before.calls, .refl⟩
  | tail _ step inductionHypothesis =>
      obtain ⟨calls, reached⟩ := inductionHypothesis
      cases step with
      | @call request _ scene _ _ answered =>
          obtain ⟨later, noted⟩ := Answers.notes { scene, calls } answered
          exact ⟨later, reached.tail (.call noted)⟩

end Site

/-! ## Rows -/

namespace ExecutionRow

/-- What a call makes of a row, but for the time that it notes there. -/
def write (row : ExecutionRow) : Call → ExecutionRow
  | .advance conversation flow node waiting =>
      if row.runsIn conversation flow then { row with last := some row.node, node, waiting }
      else row
  | .setWaiting conversation flow waiting =>
      if row.runsIn conversation flow then { row with waiting } else row
  | .complete conversation flow =>
      if row.runsIn conversation flow then
        { row with
          status := .completed, last := some row.node, node := "end", waiting := false }
      else row
  | .setStage id stage => if row.id = id then { row with stage } else row
  | .saveVariables id vars =>
      if row.id = id then { row with vars := Store.encodeVariables vars } else row
  | _ => row

/-- What calls make of a row. -/
def writeAll (row : ExecutionRow) (calls : List Call) : ExecutionRow :=
  calls.foldl write row

variable {row : ExecutionRow} {request : Call} {calls : List Call}

@[simp] theorem writeAll_nil : row.writeAll [] = row := rfl

@[simp] theorem writeAll_cons :
    row.writeAll (request :: calls) = (row.write request).writeAll calls := rfl

theorem writeAll_concat :
    row.writeAll (calls ++ [request]) = (row.writeAll calls).write request := by
  simp [writeAll]

end ExecutionRow

namespace Store

variable {store : Store} {row : ExecutionRow}

/-- The store holds a row, whenever it was last changed. -/
def Holds (store : Store) (row : ExecutionRow) : Prop :=
  ∃ updated, { row with updated } ∈ store.executions

theorem Holds.of_mem (member : row ∈ store.executions) : store.Holds row :=
  ⟨row.updated, member⟩

/-- A row that is changed is held as it was changed, where the store changes its rows one by
one. -/
theorem Holds.map
    {after : Store}
    {changed : ExecutionRow}
    {change : ExecutionRow → ExecutionRow}
    (held : store.Holds row)
    (rows : after.executions = store.executions.map change)
    (changes : ∀ updated, ∃ later,
      change { row with updated } = { changed with updated := later }) :
    after.Holds changed := by
  obtain ⟨updated, member⟩ := held
  obtain ⟨later, same⟩ := changes updated
  refine ⟨later, ?_⟩
  rw [rows, ← same]
  exact List.mem_map_of_mem member

theorem Holds.insertActive
    (held : store.Holds row)
    (stamp : Stamp)
    (conversation : Conversation)
    (flow node : String)
    (waiting : Bool) :
    (store.insertActive stamp conversation flow node waiting).Holds row := by
  obtain ⟨updated, member⟩ := held
  refine ⟨updated, ?_⟩
  unfold Store.insertActive
  split
  · exact member
  · exact List.mem_append_left _ member

theorem Holds.updateActive
    {changed : ExecutionRow}
    {change : ExecutionRow → ExecutionRow}
    (held : store.Holds row)
    (conversation : Conversation)
    (flow : String)
    (changes : ∀ updated, ∃ later,
      change { row with updated } = { changed with updated := later }) :
    (store.updateActive conversation flow change).Holds
      (if row.runsIn conversation flow then changed else row) := by
  refine held.map rfl fun updated => ?_
  change ∃ later, (if row.runsIn conversation flow = true then _ else _) = _
  split
  · exact changes updated
  · exact ⟨updated, rfl⟩

theorem Holds.updateById
    {changed : ExecutionRow}
    {change : ExecutionRow → ExecutionRow}
    (held : store.Holds row)
    (id : String)
    (changes : ∀ updated, ∃ later,
      change { row with updated } = { changed with updated := later }) :
    (store.updateById id change).Holds (if row.id = id then changed else row) := by
  refine held.map rfl fun updated => ?_
  change ∃ later, (if row.id = id then _ else _) = _
  split
  · exact changes updated
  · exact ⟨updated, rfl⟩

/-- A row does not run where no row does. -/
theorem Holds.runsIn_eq_false
    {conversation : Conversation}
    {flow : String}
    (held : store.Holds row)
    (inactive : ¬ store.isActiveIn conversation flow = true) :
    row.runsIn conversation flow = false := by
  obtain ⟨updated, member⟩ := held
  rw [isActiveIn, List.any_eq_true] at inactive
  refine Bool.eq_false_iff.mpr fun runs => inactive ⟨_, member, ?_⟩
  exact runs

end Store

variable {site : Site} {request : Call} {scene : Scene} {row : ExecutionRow} {now : Instant}
  {choice : Choice}

/-- A call that goes well makes of a row what it writes there. -/
theorem Scene.holds_serve (held : scene.store.Holds row) :
    (scene.serve site.library site.stale now choice request).2.store.Holds (row.write request) := by
  cases request with
  | acquire conversation =>
      unfold Scene.serve
      split
      · exact held
      · simp only [Scene.withStore, Store.acquireAt]
        split
        · exact held
        · split <;> exact held
  | createExecution conversation flow node =>
      simp only [Scene.serve, Scene.withStore, Store.create]
      split <;> exact held.insertActive _ _ _ _ _
  | advance conversation flow node waiting =>
      simp only [Scene.serve, Scene.withStore, Store.advance]
      split
      · refine held.updateActive _ _ ?_
        exact fun _ => ⟨_, rfl⟩
      · rename_i inactive
        simp only [ExecutionRow.write, held.runsIn_eq_false inactive]
        exact held.insertActive _ _ _ _ _
  | setWaiting conversation flow waiting =>
      simp only [Scene.serve, Scene.withStore, Store.setWaiting]
      split
      · refine held.updateActive _ _ ?_
        exact fun _ => ⟨_, rfl⟩
      · rename_i inactive
        simp only [ExecutionRow.write, held.runsIn_eq_false inactive]
        exact held
  | complete conversation flow =>
      refine held.updateActive _ _ ?_
      exact fun _ => ⟨_, rfl⟩
  | setStage id stage =>
      refine held.updateById _ ?_
      exact fun _ => ⟨_, rfl⟩
  | saveVariables id vars =>
      refine held.updateById _ ?_
      exact fun _ => ⟨_, rfl⟩
  | _ => exact held

/-- Every call leaves the store well kept. -/
theorem Scene.wellKept_serve (kept : scene.store.WellKept) :
    (scene.serve site.library site.stale now choice request).2.store.WellKept := by
  cases request with
  | acquire conversation =>
      unfold Scene.serve
      split
      · exact kept
      · simp only [Scene.withStore, Store.acquireAt]
        split
        · exact kept.of_eq rfl
        · split
          · exact kept
          · exact kept.of_eq rfl
  | createExecution conversation flow node =>
      simp only [Scene.serve, Scene.withStore, Store.create]
      split <;> exact kept.insertActive
  | advance conversation flow node waiting =>
      simp only [Scene.serve, Scene.withStore, Store.advance]
      split
      · exact kept.updateActive ⟨fun _ => rfl, fun _ => rfl, fun _ => rfl, fun _ active => active⟩
      · exact kept.insertActive
  | setWaiting conversation flow waiting =>
      simp only [Scene.serve, Scene.withStore, Store.setWaiting]
      split
      · exact kept.updateActive ⟨fun _ => rfl, fun _ => rfl, fun _ => rfl, fun _ active => active⟩
      · exact kept
  | complete conversation flow =>
      refine kept.updateActive ⟨fun _ => rfl, fun _ => rfl, fun _ => rfl, ?_⟩
      rintro _ ⟨⟩
  | setStage id stage =>
      exact kept.updateById ⟨fun _ => rfl, fun _ => rfl, fun _ => rfl, fun _ active => active⟩
  | saveVariables id vars =>
      exact kept.updateById ⟨fun _ => rfl, fun _ => rfl, fun _ => rfl, fun _ active => active⟩
  | _ => exact kept.of_eq rfl

namespace Site.Notes

variable {outcome : request.Outcome} {before after : Journal}

theorem wellKept
    (noted : site.Notes request before outcome after)
    (kept : before.scene.store.WellKept) :
    after.scene.store.WellKept := by
  rcases noted.effect with ⟨_, now, choice, _, scene_eq⟩ | ⟨rfl, _⟩
  · rw [scene_eq]
    exact Scene.wellKept_serve kept
  · exact kept

/-- A row is what the calls of the journal made of it. -/
theorem holds
    (noted : site.Notes request before outcome after)
    (held : before.scene.store.Holds (row.writeAll before.calls)) :
    after.scene.store.Holds (row.writeAll after.calls) := by
  rcases noted.effect with ⟨calls_eq, now, choice, _, scene_eq⟩ | ⟨rfl, _⟩
  · rw [scene_eq, calls_eq, ExecutionRow.writeAll_concat]
    exact Scene.holds_serve held
  · exact held

/-- On a run a row becomes what the calls of the run make of it. -/
theorem holds_of_reaches
    {before after : Process α × Journal}
    (held : before.2.scene.store.Holds (row.writeAll before.2.calls))
    (reaches : Process.Reaches site.Notes before after) :
    after.2.scene.store.Holds (row.writeAll after.2.calls) := by
  induction reaches with
  | refl => exact held
  | tail _ step inductionHypothesis =>
      cases step with
      | call noted => exact noted.holds inductionHypothesis

theorem wellKept_of_reaches
    {before after : Process α × Journal}
    (kept : before.2.scene.store.WellKept)
    (reaches : Process.Reaches site.Notes before after) :
    after.2.scene.store.WellKept := by
  induction reaches with
  | refl => exact kept
  | tail _ step inductionHypothesis =>
      cases step with
      | call noted => exact noted.wellKept inductionHypothesis

end Site.Notes

/-! ## Scripts -/

/-- What is left of a script after some of its calls; nothing may be left before its end. -/
def Remains (script taken : List Call) : Option (List Call) → Prop
  | some rest => taken ++ rest = script
  | none => taken <+: script

/-- The calls that were taken are the first ones of the script. -/
theorem Remains.isPrefix
    {script taken : List Call}
    {left : Option (List Call)}
    (remains : Remains script taken left) :
    taken <+: script := by
  cases left with
  | none => exact remains
  | some rest => exact ⟨rest, remains⟩

/-- A process follows a script of marked calls, of which a journal holds the first ones. -/
def Process.Pursues
    (marked : Call → Bool) (post : Option (List Call) → Except Fault α → Prop)
    (script : List Call) (process : Process α) (journal : Journal) : Prop :=
  ∃ left, process.Scripted marked post left ∧
    Remains script (journal.calls.filter marked) left

namespace Process.Pursues

variable {marked : Call → Bool} {post : Option (List Call) → Except Fault α → Prop}
  {script : List Call} {before after : Process α × Journal}

theorem step
    (pursues : before.1.Pursues marked post script before.2)
    (step : Process.Step site.Notes before after) :
    after.1.Pursues marked post script after.2 := by
  cases step with
  | @call request next journal later outcome noted =>
      obtain ⟨left, scripted, remains⟩ := pursues
      cases isMarked : marked request with
      | false =>
          rw [Process.Scripted, if_neg (Bool.eq_false_iff.mp isMarked)] at scripted
          refine ⟨left, scripted outcome, ?_⟩
          rcases noted.effect with ⟨calls_eq, _⟩ | ⟨rfl, _⟩
          · simpa [calls_eq, isMarked] using remains
          · exact remains
      | true =>
          rw [Process.Scripted, if_pos isMarked] at scripted
          obtain ⟨rest, rfl, follows⟩ := scripted
          rcases noted.effect with ⟨calls_eq, _⟩ | ⟨rfl, fails⟩
          · have taken : later.calls.filter marked = journal.calls.filter marked ++ [request] := by
              simp [calls_eq, isMarked]
            by_cases fails : request.Fails outcome
            · refine ⟨none, (follows outcome).1 fails, ?_⟩
              rw [taken]
              exact ⟨rest, by simpa [Remains] using remains⟩
            · refine ⟨some rest, (follows outcome).2 fails, ?_⟩
              rw [taken]
              simpa [Remains] using remains
          · exact ⟨none, (follows outcome).1 fails, remains.isPrefix⟩

theorem reaches
    (pursues : before.1.Pursues marked post script before.2)
    (reaches : Process.Reaches site.Notes before after) :
    after.1.Pursues marked post script after.2 := by
  induction reaches with
  | refl => exact pursues
  | tail _ step inductionHypothesis => exact inductionHypothesis.step step

end Process.Pursues
end ChatFlow
