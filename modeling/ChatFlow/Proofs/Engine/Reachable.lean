import ChatFlow.Proofs.Engine.Serving

/-!
# Reachable scenes

A scene is reachable when requests lead there from an empty one, each served to its end or cut
short at any call.  Every reachable scene is in order: all that a request does to a scene, on
opening and in its turn, leaves it so.
-/

namespace ChatFlow

open Process

namespace Flow.Library

variable {library : Library} {scene : Scene} {graph : Graph} {row changed : ExecutionRow}
  {now : Instant}

/-- The empty scene is in order. -/
theorem sound_empty : library.Sound {} where
  kept := Store.wellKept_empty
  known := by simp
  placed := by simp
  parked := by simp
  named := by simp

/-- A scene stays in order when a running row is moved to a place that is in order. -/
theorem Sound.replace
    (sound : library.Sound scene)
    (member : row ∈ scene.store.executions)
    (active : row.status = .active)
    (known : library.get row.flow = .ok graph)
    (sameId : changed.id = row.id)
    (sameFlow : changed.flow = row.flow)
    (sameConversation : changed.conversation = row.conversation)
    (placed : changed.status = .active → (∃ node, graph.node? changed.node = some node) ∧
      ∀ last, changed.last = some last → graph.hasEdge last changed.node = true)
    (parked : changed.status = .active → changed.waiting = true →
      ¬ graph.IsDelay changed.node) :
    library.Sound (scene.withStore (scene.store.replace changed)) where
  kept := sound.kept.replace member active sameId sameConversation sameFlow
  known := by
    intro other otherMember
    rcases Store.mem_replace otherMember with rfl | ⟨old, _⟩
    · rw [sameFlow]
      exact ⟨graph, known⟩
    · exact sound.known other old
  placed := by
    intro other otherMember otherActive otherGraph otherKnown
    rcases Store.mem_replace otherMember with rfl | ⟨old, _⟩
    · rw [sameFlow, known] at otherKnown
      cases otherKnown
      exact placed otherActive
    · exact sound.placed other old otherActive otherGraph otherKnown
  parked := by
    intro other otherMember otherActive waiting otherGraph otherKnown
    rcases Store.mem_replace otherMember with rfl | ⟨old, _⟩
    · rw [sameFlow, known] at otherKnown
      cases otherKnown
      exact parked otherActive waiting
    · exact sound.parked other old otherActive waiting otherGraph otherKnown
  named := by
    intro item queued
    obtain ⟨other, old, id_eq, flow_eq, conversation_eq⟩ := sound.named item queued
    by_cases same : other.id = changed.id
    · obtain rfl := sound.kept.eq_of_id old member (same.trans sameId)
      exact ⟨changed, Store.mem_replace_self old same, sameId.trans id_eq,
        sameFlow.trans flow_eq, sameConversation.trans conversation_eq⟩
    · exact ⟨other, Store.mem_replace_of_ne old same, id_eq, flow_eq, conversation_eq⟩

/-- A scene stays in order when a running row moves along an edge. -/
theorem Sound.moved
    {target : String}
    {waiting : Bool}
    (sound : library.Sound scene)
    (member : row ∈ scene.store.executions)
    (active : row.status = .active)
    (known : library.get row.flow = .ok graph)
    (edge : graph.hasEdge row.node target = true)
    (parks : waiting = true → ¬ graph.IsDelay target) :
    library.Sound (scene.withStore (scene.store.replace (row.moved now target waiting))) := by
  refine sound.replace member active known rfl rfl rfl ?_ fun _ => parks
  rintro _
  refine ⟨Flow.Graph.exists_target edge, ?_⟩
  rintro last ⟨⟩
  exact edge

end Flow.Library

namespace Site

variable {site : Site} {engine : Engine} {scene before after middle : Scene}
  {request : Request} {graph : Flow.Graph} {row changed : ExecutionRow} {id : String}
  {now : Instant}

/-- A request is served, to its end or only up to some call. -/
inductive Serves (site : Site) (engine : Engine) : Scene → Scene → Prop
  | serve {before after : Scene} {request : Request} {rest : Process Verdict}
      (offered : before.Offers request)
      (reaches : Reaches site.Answers (engine.serve request, before) (rest, after)) :
      Serves site engine before after

/-- Any number of requests is served. -/
abbrev Evolves (site : Site) (engine : Engine) : Scene → Scene → Prop :=
  Relation.ReflTransGen (Serves site engine)

/-- Requests lead from an empty scene to this one. -/
abbrev Reachable (site : Site) (engine : Engine) (scene : Scene) : Prop :=
  site.Evolves engine {} scene

/-- Every way to serve a request to its end serves it. -/
theorem serves_of_ends
    {result : Except Fault Verdict}
    (offered : before.Offers request)
    (ends : Ends site.Answers (engine.serve request) before result after) :
    site.Serves engine before after :=
  .serve offered ends

/-- To take up a continuation that is on offer is to serve a request. -/
theorem serves_of_resume
    {item : Continuation}
    {result : Except Fault ResumeOutcome}
    (offered : before.Offers (.continuation item))
    (ends : Ends site.Answers (engine.resume item) before result after) :
    site.Serves engine before after :=
  .serve offered (reaches_andThen _ ends)

/-! ## Order is kept -/

/-- However a request opens, the scene stays in order. -/
theorem sound_opens
    (sound : site.library.Sound scene)
    (opens : site.Opens engine scene request graph row middle) :
    site.library.Sound middle := by
  cases opens with
  | @fresh message _ stamp onClock idle unused known =>
      have split {other : ExecutionRow}
          (member : other ∈ scene.store.executions ++
            [Store.freshRow stamp message.conversation graph.id graph.start.id]) :
          other ∈ scene.store.executions ∨
            other = Store.freshRow stamp message.conversation graph.id graph.start.id := by
        simpa using member
      constructor
      · exact sound.kept.append unused idle
      · intro other member
        rcases split member with old | rfl
        · exact sound.known other old
        · exact ⟨graph, known⟩
      · intro other member active otherGraph otherKnown
        rcases split member with old | rfl
        · exact sound.placed other old active otherGraph otherKnown
        · obtain rfl : graph = otherGraph := by
            simpa [Store.freshRow, known] using otherKnown
          exact ⟨⟨graph.start, graph.node?_start.1⟩, nofun⟩
      · intro other member active waiting otherGraph otherKnown
        rcases split member with old | rfl
        · exact sound.parked other old active waiting otherGraph otherKnown
        · cases waiting
      · intro item queued
        obtain ⟨other, old, names⟩ := sound.named item queued
        exact ⟨other, List.mem_append_left _ old, names⟩
  | standing => exact sound
  | overdue onClock laterOnClock member active ready known found kind late next =>
      exact sound.moved member active known (Flow.Graph.hasEdge_of_nextTarget? next) (by simp)
  | wake onClock member awaits =>
      exact sound.moved member awaits.active awaits.known awaits.edge (by simp)

/-- The moves of a turn leave the scene in order. -/
theorem sound_kept : Turn.Kept engine site graph id site.library.Sound := by
  intro before after sound move
  cases move with
  | aside rows queue => exact sound.aside rows queue
  | change onClock member id_eq active known changes =>
      obtain ⟨placed, edges⟩ := sound.placed _ member active graph known
      cases changes with
      | advance edge passed parks => exact sound.moved member active known edge parks
      | wait passed =>
          exact sound.replace member active known rfl rfl rfl (fun _ => ⟨placed, edges⟩)
            fun _ _ => passed
      | complete last => exact sound.replace member active known rfl rfl rfl nofun nofun
      | annotate passed =>
          exact sound.replace member active known rfl rfl rfl (fun _ => ⟨placed, edges⟩)
            fun _ _ => passed
  | @queue row node item member id_eq active known dated found ready follows =>
      refine { sound with named := ?_ }
      intro other queued
      rcases List.mem_append.mp queued with old | last
      · exact sound.named other old
      · obtain rfl := List.mem_singleton.mp last
        exact ⟨row, member, follows.execution_eq.symm, follows.flow_eq.symm,
          follows.conversation_eq.symm⟩

/-! ## Runs -/

/-- A property that nothing takes away that an engine does to scenes in order. -/
structure Preserved (site : Site) (engine : Engine) (property : Scene → Prop) : Prop where
  /-- It is not about locks and events. -/
  untouched : ∀ before after, property before → before.Untouched after → property after
  /-- Openings keep it. -/
  opens : ∀ scene request graph row middle, site.library.Sound scene → property scene →
    scene.Offers request → site.Opens engine scene request graph row middle → property middle
  /-- The moves of turns keep it. -/
  moves : ∀ graph id, Turn.Kept engine site graph id property

/-- Order is preserved. -/
theorem sound_preserved : site.Preserved engine site.library.Sound where
  untouched _ _ sound untouched := sound.aside untouched.executions_eq untouched.queued_eq
  opens _ _ _ _ _ sound _ _ opens := sound_opens sound opens
  moves _ _ := sound_kept

/-- What was offered remains on offer. -/
theorem offers_preserved : site.Preserved engine fun scene => scene.Offers request where
  untouched before after offered untouched := by
    cases request with
    | message message => trivial
    | continuation item =>
        obtain ⟨queued, isQueued, same⟩ := offered
        rw [← untouched.queued_eq] at isQueued
        exact ⟨queued, isQueued, same⟩
  opens scene _ _ _ _ _ offered _ opens := by
    cases opens <;> exact offered
  moves graph id before after offered move := by
    cases request with
    | message message => trivial
    | continuation item =>
        obtain ⟨queued, isQueued, same⟩ := offered
        cases move with
        | aside rows queue =>
            rw [← queue] at isQueued
            exact ⟨queued, isQueued, same⟩
        | change => exact ⟨queued, isQueued, same⟩
        | queue => exact ⟨queued, List.mem_append_left _ isQueued, same⟩

/-- What is preserved holds throughout the service of a request. -/
theorem Preserved.serve_safe
    {property : Scene → Prop}
    (preserved : site.Preserved engine property)
    (filed : site.library.Filed)
    (sound : site.library.Sound scene)
    (holds : property scene)
    (offered : scene.Offers request) :
    (engine.serve request).Safe site.Answers property (engine.Meets site scene property request)
      scene := by
  refine (Engine.serve_safe filed sound offered preserved.untouched ?_).relax ?_
    fun _ _ _ meets => meets
  · intro locked graph row middle untouched opens
    have offeredStill := (offers_preserved : site.Preserved engine _).untouched scene locked offered
      untouched
    have soundStill := sound.aside untouched.executions_eq untouched.queued_eq
    have holdsStill := preserved.untouched scene locked holds untouched
    exact ⟨preserved.opens locked request graph row middle soundStill holdsStill offeredStill opens,
      preserved.moves graph row.id⟩
  · rintro after (untouched | keeps)
    · exact preserved.untouched scene after holds untouched
    · exact keeps

/-- What is preserved lasts, and so does order. -/
theorem Preserved.evolves
    {property : Scene → Prop}
    (preserved : site.Preserved engine property)
    (filed : site.library.Filed)
    (sound : site.library.Sound before)
    (holds : property before)
    (evolves : site.Evolves engine before after) :
    site.library.Sound after ∧ property after := by
  induction evolves with
  | refl => exact ⟨sound, holds⟩
  | tail _ serves inductionHypothesis =>
      obtain ⟨soundThere, holdsThere⟩ := inductionHypothesis
      cases serves with
      | serve offered reaches =>
          have preservedSound : site.Preserved engine site.library.Sound := sound_preserved
          have soundly := preservedSound.serve_safe filed soundThere soundThere offered
          have safely := preserved.serve_safe filed soundThere holdsThere offered
          exact ⟨(soundly.reaches reaches).holds, (safely.reaches reaches).holds⟩

/-- Every reachable scene is in order. -/
theorem Reachable.sound
    (reachable : site.Reachable engine scene)
    (filed : site.library.Filed) :
    site.library.Sound scene :=
  (sound_preserved.evolves filed Flow.Library.sound_empty Flow.Library.sound_empty reachable).1

end Site
end ChatFlow
