import ChatFlow.Proofs.Engine.Position

/-!
# Continuations that are taken up again

Once a continuation was taken up, its execution has gone on along the edges from the target, and
wherever it has come to since, the target leads there.  So the continuation can be taken up again
only at a delay from which the target can be reached both ways.
-/

namespace ChatFlow

open Process

namespace Flow.Library

variable {library : Library} {scene after : Scene} {item : Continuation}
  {row changed : ExecutionRow}

/-- The execution that a continuation names has come from its target to where it stands, if it
still runs. -/
structure Passed (library : Library) (item : Continuation) (scene : Scene) : Prop where
  /-- The execution is there. -/
  present : ∃ row ∈ scene.store.executions, row.id = item.execution
  /-- The target leads to where it stands. -/
  leads : ∀ row ∈ scene.store.executions, row.id = item.execution → row.status = .active →
    ∀ graph, library.get row.flow = .ok graph → graph.Leads item.target row.node

/-- Whether a target was passed is seen by the executions. -/
theorem Passed.of_eq
    (passed : library.Passed item scene)
    (rows : after.store.executions = scene.store.executions) :
    library.Passed item after := by
  constructor
  · rw [rows]
    exact passed.present
  · rw [rows]
    exact passed.leads

/-- A target stays passed when a row stays where it is or moves along an edge. -/
theorem Passed.replace
    (passed : library.Passed item scene)
    (member : row ∈ scene.store.executions)
    (sameId : changed.id = row.id)
    (sameFlow : changed.flow = row.flow)
    (goesOn : changed.status = .active → row.status = .active ∧
      ∀ graph, library.get row.flow = .ok graph → graph.Leads row.node changed.node) :
    library.Passed item (scene.withStore (scene.store.replace changed)) := by
  constructor
  · obtain ⟨old, oldMember, names⟩ := passed.present
    by_cases same : old.id = changed.id
    · exact ⟨changed, Store.mem_replace_self oldMember same, same.symm.trans names⟩
    · exact ⟨old, Store.mem_replace_of_ne oldMember same, names⟩
  · intro other otherMember names active graph known
    rcases Store.mem_replace otherMember with rfl | ⟨old, _⟩
    · obtain ⟨wasActive, leads⟩ := goesOn active
      rw [sameFlow] at known
      exact (passed.leads row member (sameId.symm.trans names) wasActive graph known).trans
        (leads graph known)
    · exact passed.leads other old names active graph known

/-- A target is passed when a row is moved there. -/
theorem passed_of_moved
    {now : Instant}
    (member : row ∈ scene.store.executions)
    (names : row.id = item.execution) :
    library.Passed item
      (scene.withStore (scene.store.replace (row.moved now item.target false))) := by
  constructor
  · exact ⟨_, Store.mem_replace_self member rfl, names⟩
  · intro other otherMember otherNames _ graph _
    rcases Store.mem_replace otherMember with rfl | ⟨old, different⟩
    · exact .refl
    · exact (different (otherNames.trans names.symm)).elim

end Flow.Library

namespace Site

variable {site : Site} {engine : Engine} {scene after : Scene} {item : Continuation}
  {row changed : ExecutionRow} {graph : Flow.Graph}

/-- Nothing that an engine does takes a target back. -/
theorem passed_preserved : site.Preserved engine (site.library.Passed item) where
  untouched _ _ passed untouched := passed.of_eq untouched.executions_eq
  opens := by
    intro scene request graph row middle sound passed offered opens
    cases opens with
    | @fresh message _ stamp onClock idle unused known =>
        obtain ⟨old, oldMember, names⟩ := passed.present
        constructor
        · exact ⟨old, List.mem_append_left _ oldMember, names⟩
        · intro other member otherNames active otherGraph otherKnown
          rcases List.mem_append.mp member with otherOld | last
          · exact passed.leads other otherOld otherNames active otherGraph otherKnown
          · obtain rfl := List.mem_singleton.mp last
            exact (unused old oldMember (names.trans otherNames.symm)).elim
    | standing => exact passed
    | overdue onClock laterOnClock member active ready known found kind late next =>
        refine passed.replace member rfl rfl fun _ => ⟨active, fun other otherKnown => ?_⟩
        rw [known] at otherKnown
        cases otherKnown
        exact .single (Flow.Graph.hasEdge_of_nextTarget? next)
    | wake onClock member awaits =>
        refine passed.replace member rfl rfl fun _ => ⟨awaits.active, fun other otherKnown => ?_⟩
        rw [awaits.known] at otherKnown
        cases otherKnown
        exact .single awaits.edge
  moves := by
    intro graph id before after passed move
    cases move with
    | aside rows queue => exact passed.of_eq rows
    | change onClock member id_eq active known changes =>
        refine passed.replace member changes.id_eq changes.flow_eq fun running =>
          ⟨active, fun other otherKnown => ?_⟩
        rw [known] at otherKnown
        cases otherKnown
        cases changes with
        | advance edge _ _ => exact .single edge
        | wait | annotate => exact .refl
        | complete => cases running
    | queue => exact passed.of_eq rfl

/-- A continuation that was taken up has passed its target. -/
theorem passed_of_resumed
    {report : TurnReport}
    (sound : site.library.Sound scene)
    (offered : scene.Offers (.continuation item))
    (resumed : Ends site.Answers (engine.resume item) scene (.ok (.resumed report)) after) :
    site.library.Passed item after := by
  have preserved : site.Preserved engine (site.library.Passed item) := passed_preserved
  refine ((Engine.resume_safe sound offered preserved.untouched ?_).ends resumed).2
  intro locked graph row middle untouched opens
  refine ⟨?_, preserved.moves graph row.id⟩
  cases opens with
  | wake onClock member awaits => exact Flow.Library.passed_of_moved member awaits.id_eq

/-- What is not awaited is not taken up, and nothing happens. -/
theorem untouched_of_unawaited
    {result : Except Fault ResumeOutcome}
    (sound : site.library.Sound scene)
    (offered : scene.Offers (.continuation item))
    (unawaited : ∀ graph, ∀ row ∈ scene.store.executions, ¬ site.library.Awaits item graph row)
    (ends : Ends site.Answers (engine.resume item) scene result after) :
    scene.Untouched after ∧ (result = .ok .stale ∨ result = .ok .busy ∨
      ∃ fault, result = .error fault ∧ Engine.Fails site fault) := by
  have safe : (engine.resume item).Safe site.Answers
      (fun after => scene.Untouched after ∨ False)
      (engine.TakesUp site scene item fun _ => False) scene := by
    refine Engine.resume_safe sound offered (fun _ _ impossible _ => impossible) ?_
    intro locked graph row middle untouched opens
    cases opens with
    | wake onClock member awaits =>
        rw [untouched.executions_eq] at member
        exact (unawaited _ _ member awaits).elim
  obtain ⟨untouched | impossible, takesUp⟩ := safe.ends ends
  · refine ⟨untouched, ?_⟩
    match result, takesUp with
    | .ok .stale, _ => exact .inl rfl
    | .ok .busy, _ => exact .inr (.inl rfl)
    | .error fault, .inl fails => exact .inr (.inr ⟨fault, rfl, fails⟩)
  · exact impossible.elim

end Site

namespace Engine

variable {site : Site} {engine : Engine} {scene resumed later final : Scene}
  {item : Continuation}

/-- Once a continuation was taken up, it is not taken up again and nothing happens, whatever the
engine has done in between, unless its execution stands at a delay that lies on a cycle through
the target.  There it is not found stale. -/
theorem resume_again
    {flows : List Flow.Graph}
    {bindings : List Binding}
    {report : TurnReport}
    {result : Except Fault ResumeOutcome}
    (library_eq : site.library = .ofFlows flows bindings)
    (reachable : site.Reachable engine scene)
    (offered : scene.Offers (.continuation item))
    (resumes : Ends site.Answers (engine.resume item) scene (.ok (.resumed report)) resumed)
    (evolves : site.Evolves engine resumed later)
    (ends : Ends site.Answers (engine.resume item) later result final) :
    (later.Untouched final ∧ (result = .ok .stale ∨ result = .ok .busy ∨
      ∃ fault, result = .error fault ∧ Fails site fault)) ∨
    ∃ graph, ∃ row ∈ later.store.executions, site.library.Awaits item graph row ∧
      graph.Leads item.target row.node ∧ graph.LeadsOn row.node row.node ∧
      result ≠ .ok .stale := by
  have filed : site.library.Filed := by
    rw [library_eq]
    exact Flow.Library.filed_ofFlows flows bindings
  have sound := reachable.sound filed
  have serves := Site.serves_of_resume offered resumes
  have reachableResumed : site.Reachable engine resumed := reachable.tail serves
  have reachableLater : site.Reachable engine later := reachableResumed.trans evolves
  have soundLater := reachableLater.sound filed
  have offeredLater : later.Offers (.continuation item) :=
    (Site.offers_preserved.evolves filed sound offered (.head serves evolves)).2
  have passed : site.library.Passed item later :=
    (Site.passed_preserved.evolves filed (reachableResumed.sound filed)
      (Site.passed_of_resumed sound offered resumes) evolves).2
  by_cases awaited : ∃ graph, ∃ row ∈ later.store.executions, site.library.Awaits item graph row
  · right
    obtain ⟨graph, row, member, awaits⟩ := awaited
    have leads := passed.leads row member awaits.id_eq awaits.active graph awaits.known
    refine ⟨graph, row, member, awaits, leads, .head' awaits.edge leads, ?_⟩
    rintro rfl
    have safe : (engine.resume item).Safe site.Answers (fun after => later.Untouched after ∨ True)
        (engine.TakesUp site later item fun _ => True) later :=
      resume_safe soundLater offeredLater (fun _ _ _ _ => trivial) fun _ _ _ _ _ _ =>
        ⟨trivial, fun _ _ _ _ => trivial⟩
    exact (safe.ends ends).2.2 graph row member awaits
  · left
    refine Site.untouched_of_unawaited soundLater offeredLater ?_ ends
    intro graph row member awaits
    exact awaited ⟨graph, row, member, awaits⟩

end Engine

/-- The continuation that is queued when the message comes to the delay of the roundabout. -/
def Continuation.ofRoundabout : Continuation where
  execution := ""
  flow := "roundabout"
  target := "talk"
  conversation := { phone := "2", device := "1" }
  payload := "go"
  due := ⟨5000000000⟩

/-- What is reported of a round that begins six seconds from the start. -/
def TurnReport.ofRoundabout : TurnReport where
  execution := ""
  flow := "roundabout"
  visited := ["talk", "wait"]
  dispatched := 1
  final := "wait"
  waiting := false
  completed := false
  scheduled := some { Continuation.ofRoundabout with due := ⟨11000000000⟩ }
  hopLimit := false

namespace Engine

/-- The scene after the continuation was taken up six seconds from the start. -/
def goRound (scene : Scene) : Scene :=
  ((resume {} .ofRoundabout).run (Site.roundabout.answer ⟨6000000000⟩ {}) scene).2

theorem ends_goRound
    {scene : Scene}
    (resumes : ((resume {} .ofRoundabout).run (Site.roundabout.answer ⟨6000000000⟩ {}) scene).1 =
      .ok (.resumed .ofRoundabout)) :
    Ends Site.roundabout.Answers (resume {} .ofRoundabout) scene (.ok (.resumed .ofRoundabout))
      (goRound scene) := by
  rw [← resumes]
  exact ends_of_run _ (Site.answers_answer trivial {}) _ _

/-- On the roundabout the exception arises: the execution is back at its delay. -/
theorem resume_again_roundabout :
    ∃ graph, ∃ row ∈ (goRound .roundabout).store.executions,
      Site.roundabout.library.Awaits .ofRoundabout graph row ∧ graph.Leads "talk" row.node ∧
      graph.LeadsOn row.node row.node ∧
      (.ok (.resumed .ofRoundabout) : Except Fault ResumeOutcome) ≠ .ok .stale := by
  refine (resume_again rfl reachable_roundabout ⟨.ofRoundabout, by decide +kernel, .refl _⟩
    (ends_goRound (by decide +kernel)) .refl (ends_goRound (by decide +kernel))).resolve_left ?_
  rintro ⟨_, stale | busy | ⟨_, ⟨⟩, _⟩⟩
  · cases stale
  · cases busy

/-- So one continuation can be taken up twice though nothing fails: on the roundabout the second
time sends the message again and queues a third continuation. -/
theorem resumed_twice_roundabout :
    Site.roundabout.Reachable {} .roundabout ∧
    Scene.roundabout.Offers (.continuation .ofRoundabout) ∧
    Ends Site.roundabout.Answers (resume {} .ofRoundabout) .roundabout
      (.ok (.resumed .ofRoundabout)) (goRound .roundabout) ∧
    Ends Site.roundabout.Answers (resume {} .ofRoundabout) (goRound .roundabout)
      (.ok (.resumed .ofRoundabout)) (goRound (goRound .roundabout)) ∧
    (goRound .roundabout).sent.length = 1 ∧
    (goRound (goRound .roundabout)).sent.length = 2 ∧
    (goRound .roundabout).queued.length = 2 ∧
    (goRound (goRound .roundabout)).queued.length = 3 :=
  ⟨reachable_roundabout, ⟨.ofRoundabout, by decide +kernel, .refl _⟩,
    ends_goRound (by decide +kernel), ends_goRound (by decide +kernel),
    by decide +kernel, by decide +kernel, by decide +kernel, by decide +kernel⟩

end Engine
end ChatFlow
