import ChatFlow.Proofs.Delay.Tracking

/-!
# Runs with delays

Requests are served one after the other, and the clock goes forward from one to the next but stands
still within each.  A continuation is delivered as often as one likes, though not before it is due.
Then on flows in which no delay lies on a cycle each continuation is taken up at most once, and no
execution leaves a delay before its continuation is due.
-/

namespace ChatFlow

open Process

/-- A request that was served, and what became of it. -/
structure Episode where
  /-- The time at which it was served. -/
  now : Instant
  /-- The request. -/
  request : Request
  /-- The scene that it found. -/
  before : Scene
  /-- Its result. -/
  result : Except Fault Verdict
  /-- The scene that it left. -/
  after : Scene

namespace Episode

/-- The episode takes up a continuation. -/
def Resumes (episode : Episode) (item : Continuation) : Prop :=
  ∃ retried report, episode.request = .continuation retried ∧ retried.Retries item ∧
    episode.result = .ok (.continuation (.resumed report))

/-- The episode changes the execution that a continuation names. -/
def Moves (episode : Episode) (item : Continuation) : Prop :=
  ∃ row ∈ episode.before.store.executions, ∃ changed ∈ episode.after.store.executions,
    row.id = item.execution ∧ changed.id = item.execution ∧ changed ≠ row

/-- After the episode a continuation is of no use. -/
inductive Spends (episode : Episode) (item : Continuation) : Prop
  /-- The episode took it up. -/
  | resumes (resumes : episode.Resumes item)
  /-- It was queued when the episode changed its execution. -/
  | moves (queued : item ∈ episode.before.queued) (moves : episode.Moves item)
  /-- Its execution does not run any more. -/
  | finishes {row : ExecutionRow} (member : row ∈ episode.after.store.executions)
      (names : row.id = item.execution) (finished : row.status ≠ .active)

end Episode

namespace Site

/-- An episode takes place at a site, and not before some time. -/
structure Plays (site : Site) (engine : Engine) (time : Instant) (episode : Episode) : Prop where
  /-- The clock has not gone back. -/
  later : time ≤ episode.now
  /-- The clock can show the time. -/
  onClock : site.clock episode.now
  /-- A continuation is not delivered before it is due. -/
  due : episode.before.IsDue episode.now episode.request
  /-- The request is served to its end. -/
  ends : Ends (site.moment episode.now).Answers (engine.serve episode.request) episode.before
    episode.result episode.after

/-- Episodes that take place one after the other, from a scene at a time. -/
inductive Run (site : Site) (engine : Engine) : Instant → Scene → List Episode → Prop
  | done {time : Instant} {scene : Scene} : Run site engine time scene []
  | play {time : Instant} {episode : Episode} {episodes : List Episode}
      (plays : site.Plays engine time episode)
      (rest : Run site engine episode.now episode.after episodes) :
      Run site engine time episode.before (episode :: episodes)

variable {site : Site} {engine : Engine} {now time : Instant} {scene before after : Scene}
  {item : Continuation} {request : Request} {episode : Episode} {episodes : List Episode}

/-! ## One episode -/

/-- A scene in order in which continuations are tracked is such a scene after any request, and
nothing has gone back. -/
theorem advances_of_ends
    (site : Site)
    {result : Except Fault Verdict}
    (filed : site.library.Filed)
    (stored : now.IsStored)
    (still : ∀ other, site.clock other → other = now)
    (sound : site.library.Sound before)
    (tracked : site.library.Tracked engine now before)
    (due : before.IsDue now request)
    (ends : Ends site.Answers (engine.serve request) before result after) :
    site.library.Sound after ∧ site.library.Tracked engine now after ∧
      site.library.Advances engine now before after := by
  let property : Scene → Prop := fun after => site.library.Sound after ∧
    site.library.Tracked engine now after ∧ site.library.Advances engine now before after
  have stable (middle after : Scene) (holds : property middle)
      (untouched : middle.Untouched after) : property after := by
    obtain ⟨sound, tracked, advances⟩ := holds
    have stays : site.library.Advances engine now middle after :=
      Flow.Library.advances_of_eq untouched.executions_eq
    exact ⟨sound.aside untouched.executions_eq untouched.queued_eq,
      tracked.advance stays untouched.queued_eq, advances.trans stays⟩
  have holds : property before := ⟨sound, tracked, .refl before⟩
  have safe : (engine.serve request).Safe site.Answers
      (fun after => before.Untouched after ∨ property after)
      (engine.Meets site before property request) before := by
    refine Engine.serve_safe filed sound due.offers stable ?_
    intro locked graph row middle untouched opens
    obtain ⟨soundLocked, trackedLocked, advances⟩ := stable before locked holds untouched
    have dueLocked : locked.IsDue now request := by
      cases request with
      | message message => trivial
      | continuation item =>
          obtain ⟨queued, isQueued, rest⟩ := due
          rw [← untouched.queued_eq] at isQueued
          exact ⟨queued, isQueued, rest⟩
    have opened := advances_of_opens still soundLocked trackedLocked dueLocked opens
    refine ⟨⟨sound_opens soundLocked opens, ?_, advances.trans opened⟩, ?_⟩
    · refine trackedLocked.advance opened ?_
      cases opens <;> rfl
    · rintro middle after ⟨sound, tracked, advances⟩ move
      exact ⟨sound_kept middle after sound move, tracked_of_move stored still sound tracked move,
        advances.trans (advances_of_move sound move)⟩
  rcases (safe.ends ends).1 with untouched | holds
  · exact stable before after holds untouched
  · exact holds

/-- An episode leaves a scene in order in which continuations are tracked, and takes nothing
back. -/
theorem Plays.advances
    (plays : site.Plays engine time episode)
    (filed : site.library.Filed)
    (stored : episode.now.IsStored)
    (sound : site.library.Sound episode.before)
    (tracked : site.library.Tracked engine episode.now episode.before) :
    site.library.Sound episode.after ∧
      site.library.Tracked engine episode.now episode.after ∧
      site.library.Advances engine episode.now episode.before episode.after :=
  advances_of_ends (site.moment episode.now) filed stored (fun _ same => same) sound tracked
    plays.due plays.ends

/-- An episode takes no target back. -/
theorem Plays.passed
    (plays : site.Plays engine time episode)
    (filed : site.library.Filed)
    (sound : site.library.Sound episode.before)
    (passed : site.library.Passed item episode.before) :
    site.library.Passed item episode.after := by
  have preserved : (site.moment episode.now).Preserved engine (site.library.Passed item) :=
    passed_preserved
  have serves := serves_of_ends plays.due.offers plays.ends
  exact (preserved.evolves filed sound passed (.single serves)).2

/-- An execution that changes while its continuation is queued leaves it behind. -/
theorem behind_of_moves
    (sound : site.library.Sound episode.before)
    (tracked : site.library.Tracked engine now episode.before)
    (advances : site.library.Advances engine now episode.before episode.after)
    (soundAfter : site.library.Sound episode.after)
    (unwound : site.library.IsUnwound item.flow)
    (queued : item ∈ episode.before.queued)
    (moves : episode.Moves item) :
    site.library.Behind now item episode.after := by
  obtain ⟨row, member, changed, changedMember, names, changedNames, different⟩ := moves
  rcases tracked item queued unwound with ⟨parked, parkedMember, graph, node, ahead⟩ | behind
  · obtain rfl := sound.kept.eq_of_id parkedMember member (ahead.id_eq.trans names.symm)
    rcases advances.ahead item parked graph node unwound ahead member with stays | behind
    · exact (different (soundAfter.kept.eq_of_id changedMember stays
        (changedNames.trans names.symm))).elim
    · exact behind
  · exact advances.behind item behind

/-- Retries of a continuation have passed the same target. -/
theorem passed_of_retries
    {retried : Continuation}
    (retries : retried.Retries item)
    (passed : site.library.Passed retried scene) :
    site.library.Passed item scene := by
  rw [retries] at passed
  exact ⟨passed.present, passed.leads⟩

/-- An episode that takes up a continuation does so on offer. -/
theorem Plays.ends_resume
    (plays : site.Plays engine time episode)
    (asked : episode.request = .continuation item) :
    episode.before.Offers (.continuation item) ∧
      ∃ result, Ends (site.moment episode.now).Answers (engine.resume item) episode.before result
          episode.after ∧
        episode.result = result.map .continuation := by
  have due := plays.due
  have ends := plays.ends
  rw [asked] at due ends
  exact ⟨due.offers, ends.of_andThen_done⟩

/-- A continuation that an episode spends has passed its target. -/
theorem passed_of_spends
    (filed : site.library.Filed)
    (sound : site.library.Sound episode.before)
    (tracked : site.library.Tracked engine episode.now episode.before)
    (stored : episode.now.IsStored)
    (unwound : site.library.IsUnwound item.flow)
    (plays : site.Plays engine time episode)
    (spends : episode.Spends item) :
    site.library.Passed item episode.after := by
  obtain ⟨soundAfter, _, advances⟩ :=
    plays.advances filed stored sound tracked
  cases spends with
  | resumes resumes =>
      obtain ⟨retried, report, asked, retries, resumed⟩ := resumes
      obtain ⟨offered, result, ends, same⟩ := plays.ends_resume asked
      rw [resumed] at same
      have passed : (site.moment episode.now).library.Passed retried episode.after := by
        cases result with
        | error fault => cases same
        | ok outcome =>
            cases same
            exact passed_of_resumed sound offered ends
      exact passed_of_retries retries passed
  | moves queued moves =>
      exact (behind_of_moves sound tracked advances soundAfter unwound queued moves).1
  | @finishes row member names finished =>
      refine ⟨⟨row, member, names⟩, ?_⟩
      intro other otherMember otherNames active
      obtain rfl := soundAfter.kept.eq_of_id otherMember member (otherNames.trans names.symm)
      exact (finished active).elim

/-- A continuation that has passed its target is not taken up. -/
theorem not_resumes_of_passed
    (sound : site.library.Sound episode.before)
    (unwound : site.library.IsUnwound item.flow)
    (plays : site.Plays engine time episode)
    (passed : site.library.Passed item episode.before) :
    ¬ episode.Resumes item := by
  rintro ⟨retried, report, asked, retries, resumed⟩
  obtain ⟨offered, result, ends, same⟩ := plays.ends_resume asked
  rw [resumed] at same
  have unawaited : ∀ graph, ∀ row ∈ episode.before.store.executions,
      ¬ site.library.Awaits retried graph row := by
    intro graph row member awaits
    obtain ⟨queued, isQueued, isRetry⟩ := offered
    obtain ⟨other, otherMember, otherNames, otherFlow, _⟩ := sound.named queued isQueued
    have names : row.id = item.execution := by rw [awaits.id_eq, retries]
    have sameName : other.id = row.id := by rw [otherNames, awaits.id_eq, isRetry]
    obtain rfl := sound.kept.eq_of_id otherMember member sameName
    have sameFlow : other.flow = item.flow := by
      have queuedFlow : retried.flow = queued.flow := by rw [isRetry]
      have itemFlow : retried.flow = item.flow := by rw [retries]
      rw [otherFlow, ← queuedFlow, itemFlow]
    have unwoundHere : graph.Unwound := by
      apply unwound graph
      rw [← sameFlow, awaits.known]
    have edge := awaits.edge
    rw [show retried.target = item.target by rw [retries]] at edge
    exact unwoundHere.not_hasEdge awaits.isDelay
      (passed.leads other member names awaits.active graph awaits.known) edge
  have outcome : episode.before.Untouched episode.after ∧ (result = .ok .stale ∨
      result = .ok .busy ∨
      ∃ fault, result = .error fault ∧ Engine.Fails (site.moment episode.now) fault) :=
    untouched_of_unawaited sound offered unawaited ends
  rcases outcome.2 with rfl | rfl | ⟨fault, rfl, _⟩
  · cases same
  · cases same
  · cases same

/-- A continuation that is delivered is taken up, or nothing happens. -/
theorem resumes_or_untouched
    (calm : ∀ fault, ¬ site.faults fault)
    (canWait : engine.CanWait site.clock)
    (sound : site.library.Sound episode.before)
    (plays : site.Plays engine time episode)
    (asked : episode.request = .continuation item) :
    episode.Resumes item ∨
      episode.before.Untouched episode.after ∧
        (episode.result = .ok (.continuation .stale) ∨
          episode.result = .ok (.continuation .busy)) := by
  have momentCanWait : engine.CanWait (site.moment episode.now).clock := by
    intro node
    refine ⟨(canWait node).1, ?_⟩
    rintro _ rfl
    exact (canWait node).2 _ plays.onClock
  have noFault (fault : Fault) (fails : Engine.Fails (site.moment episode.now) fault) : False := by
    rcases fails with shown | ⟨_, shown, _⟩
    · exact calm _ shown
    · exact calm _ shown
  obtain ⟨offered, result, ends, same⟩ := plays.ends_resume asked
  have safe : (engine.resume item).Safe (site.moment episode.now).Answers
      (fun after => episode.before.Untouched after ∨ True)
      (engine.TakesUp (site.moment episode.now) episode.before item fun _ => True)
      episode.before :=
    Engine.resume_safe sound offered (fun _ _ _ _ => trivial) fun _ _ _ _ _ _ =>
      ⟨trivial, fun _ _ _ _ => trivial⟩
  have takesUp := (safe.ends ends).2
  match result, takesUp with
  | .ok (.resumed report), _ => exact .inl ⟨item, report, asked, .refl item, same⟩
  | .ok .stale, ⟨untouched, _⟩ => exact .inr ⟨untouched, .inl same⟩
  | .ok .busy, untouched => exact .inr ⟨untouched, .inr same⟩
  | .error fault, .inl fails => exact (noFault fault fails).elim
  | .error fault, .inr ⟨_, _, cannotWait⟩ => exact (cannotWait momentCanWait).elim

/-! ## All episodes -/

/-- A continuation that has passed its target is not taken up any more. -/
theorem not_resumes_of_run
    (filed : site.library.Filed)
    (stored : ∀ now, site.clock now → now.IsStored)
    (unwound : site.library.IsUnwound item.flow)
    (sound : site.library.Sound scene)
    (tracked : site.library.Tracked engine time scene)
    (passed : site.library.Passed item scene)
    (run : site.Run engine time scene episodes) :
    ∀ episode ∈ episodes, ¬ episode.Resumes item := by
  induction run with
  | done => simp
  | @play time episode episodes plays rest inductionHypothesis =>
      obtain ⟨soundAfter, trackedAfter, advances⟩ :=
        plays.advances filed (stored _ plays.onClock) sound (tracked.later plays.later)
      have passedAfter := plays.passed filed sound passed
      intro other member
      rcases List.mem_cons.mp member with rfl | later
      · exact not_resumes_of_passed sound unwound plays passed
      · exact inductionHypothesis soundAfter trackedAfter passedAfter other later

/-- Nothing is tracked in the empty scene. -/
theorem tracked_empty : site.library.Tracked engine time {} := by
  intro item queued
  cases queued

/-- What is true of every episode that takes place in order, with continuations tracked, and of
every two of them. -/
theorem episodes_of_run
    (filed : site.library.Filed)
    (stored : ∀ now, site.clock now → now.IsStored)
    (sound : site.library.Sound scene)
    (tracked : site.library.Tracked engine time scene)
    (run : site.Run engine time scene episodes) :
    (episodes.Pairwise fun first second => ∀ item, site.library.IsUnwound item.flow →
      first.Spends item → ¬ second.Resumes item) ∧
    ∀ episode ∈ episodes, ∃ time, site.Plays engine time episode ∧
      site.library.Sound episode.before ∧
      site.library.Tracked engine episode.now episode.before := by
  induction run with
  | done => simp
  | @play time episode episodes plays rest inductionHypothesis =>
      have trackedNow := tracked.later plays.later
      have isStored := stored _ plays.onClock
      obtain ⟨soundAfter, trackedAfter, _⟩ := plays.advances filed isStored sound trackedNow
      obtain ⟨apart, each⟩ := inductionHypothesis soundAfter trackedAfter
      refine ⟨List.pairwise_cons.mpr ⟨?_, apart⟩, ?_⟩
      · intro second member item unwound spends
        have passed := passed_of_spends filed sound trackedNow isStored unwound plays spends
        exact not_resumes_of_run filed stored unwound soundAfter trackedAfter passed rest second
          member
      · intro other member
        rcases List.mem_cons.mp member with rfl | later
        · exact ⟨time, plays, sound, trackedNow⟩
        · exact each other later

/-- On flows in which no delay lies on a cycle, a continuation that was taken up, whose execution
has changed since it was queued, or whose execution has ended is never taken up; a continuation
that is not taken up changes nothing; and no execution leaves the delay where a continuation was
queued before that is due, until when it awaits the continuation there. -/
theorem passed_once_never_early
    {flows : List Flow.Graph}
    {bindings : List Binding}
    (library_eq : site.library = .ofFlows flows bindings)
    (stored : ∀ now, site.clock now → now.IsStored)
    (calm : ∀ fault, ¬ site.faults fault)
    (canWait : engine.CanWait site.clock)
    (run : site.Run engine time {} episodes) :
    (episodes.Pairwise fun first second => ∀ item, site.library.IsUnwound item.flow →
      first.Spends item → ¬ second.Resumes item) ∧
    (∀ episode ∈ episodes, ∀ item, episode.request = .continuation item →
      episode.Resumes item ∨
        episode.before.Untouched episode.after ∧
          (episode.result = .ok (.continuation .stale) ∨
            episode.result = .ok (.continuation .busy))) ∧
    (∀ episode ∈ episodes, ∀ item ∈ episode.before.queued, site.library.IsUnwound item.flow →
      episode.Moves item → item.due ≤ episode.now) ∧
    ∀ episode ∈ episodes, ∀ item ∈ episode.after.queued, site.library.IsUnwound item.flow →
      item.due ≤ episode.now ∨
        ∃ graph, ∃ row ∈ episode.after.store.executions, site.library.Awaits item graph row := by
  have filed : site.library.Filed := by
    rw [library_eq]
    exact Flow.Library.filed_ofFlows flows bindings
  obtain ⟨apart, each⟩ := episodes_of_run filed stored Flow.Library.sound_empty tracked_empty run
  refine ⟨apart, ?_, ?_, ?_⟩
  · intro episode member item asked
    obtain ⟨time, plays, sound, _⟩ := each episode member
    exact resumes_or_untouched calm canWait sound plays asked
  · intro episode member item queued unwound moves
    obtain ⟨time, plays, sound, tracked⟩ := each episode member
    obtain ⟨soundAfter, _, advances⟩ :=
      plays.advances filed (stored _ plays.onClock) sound tracked
    exact (behind_of_moves sound tracked advances soundAfter unwound queued moves).2
  · intro episode member item queued unwound
    obtain ⟨time, plays, sound, tracked⟩ := each episode member
    obtain ⟨_, trackedAfter, _⟩ := plays.advances filed (stored _ plays.onClock) sound tracked
    rcases trackedAfter item queued unwound with ⟨row, rowMember, graph, node, ahead⟩ | behind
    · exact .inr ⟨graph, row, rowMember, ahead.awaits⟩
    · exact .inl behind.2

end Site

/-- A flow that waits five seconds before its only message. -/
def Flow.Graph.straight : Flow.Graph where
  definition := ((((Definition.blank "straight").addNode ⟨"start", .start, []⟩).addDelay
    "wait" 5).addMessage "talk" "Hi").chain ["start", "wait", "talk"]
  start := ⟨"start", .start, []⟩
  sound := by decide
  start_found := rfl

/-- A site with that flow and a clock that shows two times. -/
def Site.straight : Site where
  library := .ofFlows [.straight] [{ device := "1", flow := "straight" }]
  faults _ := False
  clock now := now ∈ [⟨0⟩, ⟨6000000000⟩]

/-- The continuation that is queued at the delay. -/
def Continuation.ofStraight : Continuation where
  execution := ""
  flow := "straight"
  target := "talk"
  conversation := { phone := "2", device := "1" }
  payload := "go"
  due := ⟨5000000000⟩

/-- A request that goes well there. -/
def Episode.straight (now : Instant) (request : Request) (before : Scene) : Episode :=
  let answered := (Engine.serve {} request).run (Site.straight.answer now {}) before
  { now, request, before, result := answered.1, after := answered.2 }

/-- What is reported when the continuation is taken up. -/
def TurnReport.ofStraight : TurnReport where
  execution := ""
  flow := "straight"
  visited := ["talk"]
  dispatched := 1
  final := "end"
  waiting := false
  completed := true
  scheduled := none
  hopLimit := false

/-- A message comes, and then its continuation, twice. -/
def Episode.straightRun : List Episode :=
  let message : InboundMessage :=
    { conversation := { phone := "2", device := "1" }, text := "go" }
  let first := straight ⟨0⟩ (.message message) {}
  let second := straight ⟨6000000000⟩ (.continuation .ofStraight) first.after
  let third := straight ⟨6000000000⟩ (.continuation .ofStraight) second.after
  [first, second, third]

namespace Site

theorem plays_straight
    (later : time ≤ now)
    (onClock : straight.clock now)
    (due : before.IsDue now request) :
    straight.Plays {} time (.straight now request before) where
  later := later
  onClock := onClock
  due := due
  ends := ends_of_run _ (answers_answer (by trivial) {}) _ _

theorem run_straight : straight.Run {} ⟨0⟩ {} Episode.straightRun := by
  have zero : straight.clock ⟨0⟩ := by simp [straight]
  have six : straight.clock ⟨6000000000⟩ := by simp [straight]
  refine .play (plays_straight (by decide) zero (by trivial)) ?_
  refine .play (plays_straight (by decide) six ?_) ?_
  · exact ⟨.ofStraight, by decide +kernel, .refl _, by decide⟩
  refine .play (plays_straight (by decide) six ?_) .done
  exact ⟨.ofStraight, by decide +kernel, .refl _, by decide⟩

theorem isUnwound_straight : straight.library.IsUnwound "straight" := by
  intro graph known
  obtain rfl : Flow.Graph.straight = graph := Except.ok.inj known
  have edge {source target : String} (edge : Flow.Graph.straight.hasEdge source target = true) :
      source = "start" ∧ target = "wait" ∨ source = "wait" ∧ target = "talk" := by
    simp only [Flow.Graph.hasEdge, Flow.Graph.outgoing_eq_filter, List.any_eq_true,
      List.mem_filter, beq_iff_eq] at edge
    obtain ⟨edge, ⟨member, rfl⟩, rfl⟩ := edge
    have edges : Flow.Graph.straight.definition.edges =
      [{ source := "start", target := "wait" }, { source := "wait", target := "talk" }] := rfl
    rw [edges] at member
    rcases List.mem_cons.mp member with rfl | member
    · exact .inl ⟨rfl, rfl⟩
    · obtain rfl := List.mem_singleton.mp member
      exact .inr ⟨rfl, rfl⟩
  have path {source target : String} (path : Flow.Graph.straight.LeadsOn source target) :
      source = "start" ∧ (target = "wait" ∨ target = "talk") ∨
        source = "wait" ∧ target = "talk" := by
    induction path with
    | single first =>
        rcases edge first with ⟨rfl, rfl⟩ | ⟨rfl, rfl⟩
        · exact .inl ⟨rfl, .inl rfl⟩
        · exact .inr ⟨rfl, rfl⟩
    | tail _ last inductionHypothesis =>
        rcases edge last with ⟨rfl, rfl⟩ | ⟨rfl, rfl⟩
        · simp at inductionHypothesis
        · exact .inl ⟨by simpa using inductionHypothesis, .inr rfl⟩
  intro id _ loop
  rcases path loop with ⟨rfl, same | same⟩ | ⟨rfl, same⟩
  · simp at same
  · simp at same
  · simp at same

/-- On that flow the continuation is taken up when it is due, and not a second time. -/
theorem passed_once_never_early_straight :
    straight.Run {} ⟨0⟩ {} Episode.straightRun ∧
    (∃ second ∈ Episode.straightRun, second.Resumes .ofStraight) ∧
    Episode.straightRun.Pairwise fun first second =>
      first.Spends .ofStraight → ¬ second.Resumes .ofStraight := by
  have stored (now : Instant) (onClock : straight.clock now) : now.IsStored := by
    simp only [straight, List.mem_cons, List.not_mem_nil, or_false] at onClock
    rcases onClock with rfl | rfl
    · decide
    · decide
  have canWait : Engine.CanWait {} straight.clock := by
    refine Engine.canWait_of_le (by decide) ?_
    intro now onClock
    simp only [straight, List.mem_cons, List.not_mem_nil, or_false] at onClock
    rcases onClock with rfl | rfl
    · decide
    · decide
  have facts := passed_once_never_early rfl stored (fun _ => id) canWait run_straight
  refine ⟨run_straight, ?_, facts.1.imp fun apart => apart .ofStraight isUnwound_straight⟩
  exact ⟨_, .tail _ (.head _), .ofStraight, .ofStraight, rfl, .refl _, by decide +kernel⟩

end Site
end ChatFlow
