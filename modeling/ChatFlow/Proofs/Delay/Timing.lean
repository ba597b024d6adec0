import ChatFlow.Flow.Builder
import ChatFlow.Proofs.Delay.Couriers
import ChatFlow.Proofs.Time.Timestamp
import ChatFlow.Proofs.Turn.Bearing

/-!
# Times that the engine computes

The engine computes when a delay is over, when an execution has stood at one for too long, and when
a refused continuation is tried again.  A time can be told up to the end of the year 262142, so that
only waits of some 252143 years can be added to the times of the years 1970 to 9999.  Waits that
delay nodes name are far shorter, but those that are set are not bounded: with longer ones nothing
is scheduled, and to queue something again breaks off.  To look for overdue delays breaks off as
well, unless the wait is too long to be computed with at all; and where the tries take more seconds
than there are words, delays may be found overdue too early.
-/

namespace ChatFlow

/-! ## The years 1970 to 9999 -/

/-- An instant lies in the years 1970 to 9999. -/
def Instant.IsModern (instant : Instant) : Prop :=
  ⟨0⟩ ≤ instant ∧ instant ≤ Instant.endOfYears

namespace Span

/-- The time from the first to the last moment of the years 1970 to 9999. -/
def modern : Span := Instant.spanUntil ⟨0⟩ Instant.endOfYears

/-- The longest span after which the last moment of these years can still be told. -/
def reach : Span := Instant.endOfYears.spanUntil Instant.latest

theorem nanos_modern : modern.nanos = 253402300799999999999 := rfl

theorem nanos_reach : reach.nanos = 7956864576000000000000 := rfl

theorem nanos_longest : longest.nanos = 9223372036854775807000000 := rfl

/-- Spans are compared by their nanoseconds. -/
theorem le_iff {left right : Span} : left ≤ right ↔ left.nanos ≤ right.nanos := Iff.rfl

theorem nanos_ofSeconds (seconds : Nat) : (ofSeconds seconds).nanos = seconds * 1000000000 := rfl

/-- Waits within reach are no longer than the longest that can be computed with. -/
theorem le_longest_of_reach
    {wait : Span}
    (within : wait ≤ reach) :
    wait ≤ longest := by
  rw [le_iff, nanos_reach] at within
  rw [le_iff, nanos_longest]
  omega

/-- Those that cannot be computed with are longer than these years. -/
theorem modern_le_of_long
    {wait : Span}
    (long : ¬ wait ≤ longest) :
    modern ≤ wait := by
  rw [le_iff, nanos_longest] at long
  rw [le_iff, nanos_modern]
  omega

end Span

namespace Instant

variable {now : Instant} {wait : Span}

theorem isModern_first : IsModern ⟨0⟩ := ⟨Int.le_refl 0, by decide⟩

theorem isModern_last : IsModern endOfYears := ⟨by decide, Int.le_refl _⟩

/-- A wait within reach leads from the years 1970 to 9999 to a time that can be told. -/
theorem IsModern.after_le_latest
    (isModern : now.IsModern)
    (within : wait ≤ Span.reach) :
    now.after wait ≤ latest := by
  obtain ⟨_, upper⟩ := isModern
  change now.nanos ≤ 253402300799999999999 at upper
  rw [Span.le_iff, Span.nanos_reach] at within
  change now.nanos + wait.nanos ≤ 8210266876799999999999
  omega

/-- A longer wait leads further from their last moment. -/
theorem after_le_latest_iff : endOfYears.after wait ≤ latest ↔ wait ≤ Span.reach := by
  rw [Span.le_iff, Span.nanos_reach]
  change (253402300799999999999 : Int) + wait.nanos ≤ 8210266876799999999999 ↔ _
  omega

/-- The time between two moments of these years is not longer than they are. -/
theorem IsModern.not_after_lt
    {earlier : Instant}
    (isModern : now.IsModern)
    (earlierIsModern : earlier.IsModern)
    (long : Span.modern ≤ wait) :
    ¬ earlier.after wait < now := by
  obtain ⟨_, upper⟩ := isModern
  obtain ⟨lower, _⟩ := earlierIsModern
  change now.nanos ≤ 253402300799999999999 at upper
  change 0 ≤ earlier.nanos at lower
  rw [Span.le_iff, Span.nanos_modern] at long
  change ¬ earlier.nanos + wait.nanos < now.nanos
  omega

/-- A shorter time passes between the first and the last of them. -/
theorem after_first_lt_last
    (short : ¬ Span.modern ≤ wait) :
    (⟨0⟩ : Instant).after wait < endOfYears := by
  rw [Span.le_iff, Span.nanos_modern] at short
  change (0 : Int) + wait.nanos < 253402300799999999999
  omega

end Instant

namespace Engine

open Process

variable {engine : Engine} {graph : Flow.Graph} {node : Flow.Node} {site : Site} {now : Instant}
  {choice : Choice} {scene : Scene}

/-! ## What is expected -/

/-- How long an execution may stand at a delay: the wait of the delay, the time that a lock may be
held, and all tries of a continuation. -/
def fullPatience (engine : Engine) (node : Flow.Node) : Span :=
  Delay.span engine.settings.defaultDelay node + engine.settings.lockStaleAfter +
    Span.ofSeconds (engine.settings.resumeRetrySecs * engine.settings.resumeMaxAttempts)

/-- In the years 1970 to 9999, where all calls go well, a turn at a node queues a continuation along
the first edge for the time when the node's wait is over. -/
def SchedulesExactly (engine : Engine) (graph : Flow.Graph) (node : Flow.Node) : Prop :=
  ∀ (turn : Turn) (target : String) (site : Site) (now : Instant) (choice : Choice) (scene : Scene),
    graph.nextTarget? node.id = some target → now.IsModern →
      let item := turn.continuation target
        (now.after (Delay.span engine.settings.defaultDelay node))
      (Turn.delay engine graph turn node).run (site.answer now choice) scene =
        (.ok (.scheduled item), { scene with queued := scene.queued ++ [item] })

/-- In these years an execution is found overdue at a node exactly when the full time that it may
stand there has passed since its last change. -/
def TellsOverdueExactly (engine : Engine) (node : Flow.Node) : Prop :=
  ∀ (execution : Execution) (site : Site) (now : Instant) (choice : Choice) (scene : Scene),
    execution.updated.IsModern → now.IsModern →
      (engine.isOverdue execution node).run (site.answer now choice) scene =
        (.ok (decide (execution.updated.after (engine.fullPatience node) < now)), scene)

/-- In these years a continuation that may be tried again is queued again, for the time when the
wait between two tries is over. -/
def RequeuesExactly (engine : Engine) : Prop :=
  ∀ (item : Continuation) (site : Site) (now : Instant) (choice : Choice) (scene : Scene),
    item.attempt + 1 < Word.shortCount →
      item.attempt + 1 < engine.settings.resumeMaxAttempts → now.IsModern →
      let retry : Continuation :=
        { item with
          attempt := item.attempt + 1
          due := now.after (Span.ofSeconds engine.settings.resumeRetrySecs) }
      (engine.requeue item).run (site.answer now choice) scene =
        (.ok (), { scene with queued := scene.queued ++ [retry] })

/-! ## Scheduling -/

/-- The end of a wait that can be computed with is found if it can be told. -/
theorem run_dueAfter_of_short
    {wait : Span}
    (short : wait ≤ Span.longest) :
    (Turn.dueAfter wait).run (site.answer now choice) scene =
      if now.after wait ≤ Instant.latest then (.ok (now.after wait), scene)
      else (.error (.error (.scheduler "delay out of range")), scene) := by
  rw [Turn.dueAfter, if_pos short]
  change (ite _ _ _ : Process Instant).run _ scene = _
  split <;> rfl

/-- Any other wait is an error. -/
theorem run_dueAfter_of_long
    {wait : Span}
    (long : ¬ wait ≤ Span.longest) :
    (Turn.dueAfter wait).run (site.answer now choice) scene =
      (.error (.error (.scheduler
        "delay out of range: Source duration value is out of range for the target type")), scene) := by
  rw [Turn.dueAfter, if_neg long]
  rfl

/-- So is every wait of which the end cannot be told. -/
theorem run_dueAfter_of_late
    {wait : Span}
    (late : ¬ now.after wait ≤ Instant.latest) :
    ∃ text, (Turn.dueAfter wait).run (site.answer now choice) scene =
      (.error (.error (.scheduler text)), scene) := by
  by_cases short : wait ≤ Span.longest
  · rw [run_dueAfter_of_short short, if_neg late]
    exact ⟨_, rfl⟩
  · exact ⟨_, run_dueAfter_of_long short⟩

/-- A turn at a delay queues its continuation when it has found the end of the wait. -/
theorem run_delay
    {turn : Turn}
    {target : String}
    (next : graph.nextTarget? node.id = some target) :
    (Turn.delay engine graph turn node).run (site.answer now choice) scene =
      match (Turn.dueAfter (Delay.span engine.settings.defaultDelay node)).run
        (site.answer now choice) scene with
      | (.ok due, after) =>
        (.ok (.scheduled (turn.continuation target due)),
          { after with queued := after.queued ++ [turn.continuation target due] })
      | (.error fault, after) => (.error fault, after) := by
  unfold Turn.delay
  rw [next]
  dsimp only
  rw [bind_eq_andThen, run_andThen]
  rcases (Turn.dueAfter _).run (site.answer now choice) scene with ⟨_ | due, after⟩ <;> rfl

/-- A node schedules exactly when it has no edge to go on along, or its wait is within reach. -/
theorem schedulesExactly_iff :
    engine.SchedulesExactly graph node ↔ graph.nextTarget? node.id = none ∨
      Delay.span engine.settings.defaultDelay node ≤ Span.reach := by
  cases next : graph.nextTarget? node.id with
  | none =>
      refine iff_of_true (fun turn target site now choice scene found _ => ?_) (.inl rfl)
      rw [next] at found
      cases found
  | some target =>
      rw [or_iff_right nofun]
      constructor
      · intro exactly
        have scheduled := exactly default target .anywhere .endOfYears {} {} next
          Instant.isModern_last
        rw [← Instant.after_le_latest_iff]
        by_contra late
        obtain ⟨text, failed⟩ := run_dueAfter_of_late late
        rw [run_delay next, failed] at scheduled
        cases scheduled
      · intro within turn target site now choice scene next isModern
        rw [run_delay next, run_dueAfter_of_short (Span.le_longest_of_reach within),
          if_pos (isModern.after_le_latest within)]

/-! ## Looking for overdue delays -/

variable {execution : Execution}

/-- More seconds than there are words cannot be added up. -/
theorem run_isOverdue_of_overflow
    (overflow : Span.ofSeconds Word.count ≤ engine.patience node) :
    (engine.isOverdue execution node).run (site.answer now choice) scene =
      (.error (.panic "overflow when adding durations"), scene) := by
  unfold isOverdue
  dsimp only
  rw [if_pos overflow]
  rfl

/-- With a patience that cannot be computed with, nothing is overdue. -/
theorem run_isOverdue_of_long
    (fits : ¬ Span.ofSeconds Word.count ≤ engine.patience node)
    (long : ¬ engine.patience node ≤ Span.longest) :
    (engine.isOverdue execution node).run (site.answer now choice) scene = (.ok false, scene) := by
  unfold isOverdue
  dsimp only
  rw [if_neg fits, if_neg long]
  rfl

/-- A patience that can be computed with can be added up. -/
theorem fits_of_short
    (short : engine.patience node ≤ Span.longest) :
    ¬ Span.ofSeconds Word.count ≤ engine.patience node := by
  rw [Span.le_iff, Span.nanos_longest] at short
  rw [Span.le_iff, Span.nanos_ofSeconds, Word.count]
  omega

/-- With such a one, an execution is overdue when the patience is over; if that cannot be told, to
look for it breaks off. -/
theorem run_isOverdue_of_short
    (short : engine.patience node ≤ Span.longest) :
    (engine.isOverdue execution node).run (site.answer now choice) scene =
      if execution.updated.after (engine.patience node) ≤ Instant.latest then
        (.ok (decide (execution.updated.after (engine.patience node) < now)), scene)
      else (.error (.panic "`DateTime + TimeDelta` overflowed"), scene) := by
  unfold isOverdue
  dsimp only
  rw [if_neg (fits_of_short short), if_pos short]
  change (ite _ _ _ : Process Bool).run _ scene = _
  split <;> rfl

/-- The patience is the full one when the seconds of all tries fit a word. -/
theorem patience_eq_of_fits
    (fits : engine.settings.resumeRetrySecs * engine.settings.resumeMaxAttempts < Word.count) :
    engine.patience node = engine.fullPatience node := by
  rw [patience, fullPatience, retrySpan, Nat.mod_eq_of_lt fits]

/-- It is never longer than the full one. -/
theorem patience_le_fullPatience : engine.patience node ≤ engine.fullPatience node :=
  Nat.add_le_add_left (Nat.mul_le_mul_right _ (Nat.mod_le _ _)) _

/-- When the seconds of all tries do not fit, the full one is longer than all time. -/
theorem modern_le_fullPatience
    (overflow : Word.count ≤
      engine.settings.resumeRetrySecs * engine.settings.resumeMaxAttempts) :
    Span.modern ≤ engine.fullPatience node := by
  change 253402300799999999999 ≤
    (Delay.span engine.settings.defaultDelay node).nanos + engine.settings.lockStaleAfter.nanos +
      engine.settings.resumeRetrySecs * engine.settings.resumeMaxAttempts * 1000000000
  rw [Word.count] at overflow
  omega

/-- An execution cannot stand anywhere for longer than all time. -/
theorem decide_eq_false_of_modern
    {wait : Span}
    (isModern : now.IsModern)
    (changed : execution.updated.IsModern)
    (long : Span.modern ≤ wait) :
    decide (execution.updated.after wait < now) = false :=
  decide_eq_false (isModern.not_after_lt changed long)

/-- When executions are found overdue at the right time, the patience is one of these. -/
theorem TellsOverdueExactly.patience_cases
    (exactly : engine.TellsOverdueExactly node) :
    ¬ Span.ofSeconds Word.count ≤ engine.patience node ∧
      (¬ engine.patience node ≤ Span.longest ∨
        engine.patience node ≤ Span.reach ∧
          (engine.settings.resumeRetrySecs * engine.settings.resumeMaxAttempts < Word.count ∨
            Span.modern ≤ engine.patience node)) := by
  let early : Execution := { (default : Execution) with updated := ⟨0⟩ }
  let late : Execution := { (default : Execution) with updated := .endOfYears }
  refine ⟨fun overflow => ?_, ?_⟩
  · have told := exactly early .anywhere ⟨0⟩ {} {} Instant.isModern_first Instant.isModern_first
    rw [run_isOverdue_of_overflow overflow] at told
    cases told
  · refine Classical.or_iff_not_imp_left.mpr fun notLong => ?_
    have short := Classical.not_not.mp notLong
    have within : engine.patience node ≤ Span.reach := by
      rw [← Instant.after_le_latest_iff]
      by_contra untold
      have told := exactly late .anywhere ⟨0⟩ {} {} Instant.isModern_last Instant.isModern_first
      rw [run_isOverdue_of_short short, if_neg untold] at told
      cases told
    refine ⟨within, Nat.lt_or_ge _ _ |>.imp_right fun overflow => ?_⟩
    -- Were the patience shorter than all time, something would be found overdue too early.
    by_contra tooShort
    have told := exactly early .anywhere .endOfYears {} {} Instant.isModern_first Instant.isModern_last
    rw [run_isOverdue_of_short short, if_pos (Instant.isModern_first.after_le_latest within),
      decide_eq_false_of_modern Instant.isModern_last Instant.isModern_first
        (modern_le_fullPatience overflow),
      decide_eq_true (Instant.after_first_lt_last tooShort)] at told
    cases told

/-- Executions are found overdue at the right time when the patience can be added up, and either
cannot be computed with, or is within reach and is the full one or longer than all time. -/
theorem tellsOverdueExactly_iff :
    engine.TellsOverdueExactly node ↔
      ¬ Span.ofSeconds Word.count ≤ engine.patience node ∧
        (¬ engine.patience node ≤ Span.longest ∨
          engine.patience node ≤ Span.reach ∧
            (engine.settings.resumeRetrySecs * engine.settings.resumeMaxAttempts < Word.count ∨
              Span.modern ≤ engine.patience node)) := by
  refine ⟨TellsOverdueExactly.patience_cases, ?_⟩
  rintro ⟨fits, long | ⟨within, full⟩⟩ execution site now choice scene changed isModern
  · have modern_le : Span.modern ≤ engine.fullPatience node :=
      Nat.le_trans (Span.modern_le_of_long long) patience_le_fullPatience
    rw [run_isOverdue_of_long fits long, decide_eq_false_of_modern isModern changed modern_le]
  · rw [run_isOverdue_of_short (Span.le_longest_of_reach within),
      if_pos (changed.after_le_latest within)]
    rcases full with productFits | modern_le
    · rw [patience_eq_of_fits productFits]
    · rw [decide_eq_false_of_modern isModern changed modern_le,
        decide_eq_false_of_modern isModern changed
          (Nat.le_trans modern_le patience_le_fullPatience)]

/-! ## Queueing again -/

/-- A wait within reach is waited for before the next try. -/
theorem retryAt?_of_reach
    (isModern : now.IsModern)
    (within : Span.ofSeconds engine.settings.resumeRetrySecs ≤ Span.reach) :
    engine.settings.retryAt? now =
      some (now.after (Span.ofSeconds engine.settings.resumeRetrySecs)) := by
  have told := isModern.after_le_latest within
  rw [Span.le_iff, Span.nanos_ofSeconds, Span.nanos_reach] at within
  have seconds : Word.signed engine.settings.resumeRetrySecs = engine.settings.resumeRetrySecs :=
    Word.signed_of_lt _ (by rw [Word.signedCount]; omega)
  have due : now.shiftMillis (engine.settings.resumeRetrySecs * 1000) =
      now.after (Span.ofSeconds engine.settings.resumeRetrySecs) := by
    simp only [Instant.shiftMillis, Instant.after, Span.nanos_ofSeconds, nanosPerMilli,
      Instant.mk.injEq]
    omega
  have early : Instant.earliest ≤ now.after (Span.ofSeconds engine.settings.resumeRetrySecs) :=
    Int.le_trans (Int.le_trans (by decide) isModern.1) (Instant.le_after _ _)
  have small : (engine.settings.resumeRetrySecs : Int).natAbs ≤ (Word.signedCount - 1) / 1000 := by
    rw [Int.natAbs_natCast, Word.signedCount]
    omega
  rw [EngineSettings.retryAt?, seconds, due, if_pos ⟨small, early, told⟩]

/-- The time of the next try is one that can be told. -/
theorem le_latest_of_retryAt?
    {due : Instant}
    (told : engine.settings.retryAt? now = some due) :
    due ≤ Instant.latest := by
  unfold EngineSettings.retryAt? at told
  dsimp only at told
  split at told
  · rename_i tellable
    cases told
    exact tellable.2.2
  · cases told

/-- A continuation that may be tried again is queued for the time of its next try, if that can be
told; otherwise to queue it breaks off. -/
theorem run_requeue
    {item : Continuation}
    (small : item.attempt + 1 < Word.shortCount)
    (left : item.attempt + 1 < engine.settings.resumeMaxAttempts) :
    (∃ due, engine.settings.retryAt? now = some due ∧
      (engine.requeue item).run (site.answer now choice) scene =
        (.ok (), { scene with
          queued := scene.queued ++ [{ item with attempt := item.attempt + 1, due }] })) ∨
    engine.settings.retryAt? now = none ∧
      ∃ text, (engine.requeue item).run (site.answer now choice) scene =
        (.error (.panic text), scene) := by
  rcases engine.requeue_cases item small with ⟨spent, _⟩ | ⟨_, next, asks, told⟩
  · omega
  · rw [asks]
    change (∃ due, _ ∧ (next now).run _ scene = _) ∨ _ ∧ ∃ text, (next now).run _ scene = _
    rcases told now with ⟨due, tellable, same⟩ | ⟨untellable, text, same⟩
    · refine .inl ⟨due, tellable, ?_⟩
      rw [same]
      rfl
    · refine .inr ⟨untellable, text, ?_⟩
      rw [same]
      rfl

/-- Continuations are queued again at the right time exactly when none is tried a second time, or
the wait between two tries is within reach. -/
theorem requeuesExactly_iff :
    engine.RequeuesExactly ↔ engine.settings.resumeMaxAttempts ≤ 1 ∨
      Span.ofSeconds engine.settings.resumeRetrySecs ≤ Span.reach := by
  constructor
  · refine fun exactly => or_iff_not_imp_left.mpr fun several => ?_
    let item : Continuation := ⟨"", "", "", ⟨"", ""⟩, "", ⟨0⟩, 0⟩
    have small : item.attempt + 1 < Word.shortCount := by decide
    have left : item.attempt + 1 < engine.settings.resumeMaxAttempts := by
      change 0 + 1 < _
      omega
    have queued := exactly item .anywhere .endOfYears {} {} small left Instant.isModern_last
    rw [← Instant.after_le_latest_iff]
    rcases run_requeue small left with ⟨due, told, same⟩ | ⟨_, text, same⟩
    · rw [same] at queued
      obtain rfl : due = _ := by
        simpa using queued
      exact le_latest_of_retryAt? told
    · rw [same] at queued
      cases queued
  · rintro (single | within) item site now choice scene small left isModern
    · omega
    · rcases run_requeue small left with ⟨due, told, same⟩ | ⟨untold, _⟩
      · rw [retryAt?_of_reach isModern within] at told
        cases told
        exact same
      · rw [retryAt?_of_reach isModern within] at untold
        cases untold

/-! ## All times -/

/-- When the full patience is within reach, all times are computed exactly. -/
theorem times_exactly_of_reach
    (within : engine.fullPatience node ≤ Span.reach) :
    engine.SchedulesExactly graph node ∧ engine.TellsOverdueExactly node ∧
      engine.RequeuesExactly := by
  have full : (engine.fullPatience node).nanos =
      (Delay.span engine.settings.defaultDelay node).nanos + engine.settings.lockStaleAfter.nanos +
        engine.settings.resumeRetrySecs * engine.settings.resumeMaxAttempts * 1000000000 := rfl
  rw [Span.le_iff, full, Span.nanos_reach] at within
  have fits : engine.settings.resumeRetrySecs * engine.settings.resumeMaxAttempts < Word.count := by
    rw [Word.count]
    omega
  have patience_le : engine.patience node ≤ Span.reach := by
    rw [patience_eq_of_fits fits, Span.le_iff, full, Span.nanos_reach]
    exact within
  refine ⟨schedulesExactly_iff.mpr (.inr ?_), tellsOverdueExactly_iff.mpr ⟨?_, .inr ?_⟩,
    requeuesExactly_iff.mpr (or_iff_not_imp_left.mpr fun several => ?_)⟩
  · rw [Span.le_iff, Span.nanos_reach]
    omega
  · exact fits_of_short (Span.le_longest_of_reach patience_le)
  · exact ⟨patience_le, .inl fits⟩
  · have tries := Nat.le_mul_of_pos_right engine.settings.resumeRetrySecs
      (Nat.zero_lt_of_lt (Nat.lt_of_not_le several))
    rw [Span.le_iff, Span.nanos_ofSeconds, Span.nanos_reach]
    omega

/-- In the years 1970 to 9999 a turn queues its continuation for the right time exactly when there
is none to queue or the wait is within reach.  An execution is found overdue at the right time
exactly when the patience can be added up, and either cannot be computed with, or is within reach
and is the full one or longer than all time.  A continuation is queued again for the right time
exactly when none is tried a second time or the wait between two tries is within reach. -/
theorem times_exactly_iff (engine : Engine) (graph : Flow.Graph) (node : Flow.Node) :
    (engine.SchedulesExactly graph node ↔ graph.nextTarget? node.id = none ∨
      Delay.span engine.settings.defaultDelay node ≤ Span.reach) ∧
    (engine.TellsOverdueExactly node ↔
      ¬ Span.ofSeconds Word.count ≤ engine.patience node ∧
        (¬ engine.patience node ≤ Span.longest ∨
          engine.patience node ≤ Span.reach ∧
            (engine.settings.resumeRetrySecs * engine.settings.resumeMaxAttempts < Word.count ∨
              Span.modern ≤ engine.patience node))) ∧
    (engine.RequeuesExactly ↔ engine.settings.resumeMaxAttempts ≤ 1 ∨
      Span.ofSeconds engine.settings.resumeRetrySecs ≤ Span.reach) :=
  ⟨schedulesExactly_iff, tellsOverdueExactly_iff, requeuesExactly_iff⟩

/-- With the usual settings, all times are computed exactly at every node. -/
theorem times_exactly_usual (graph : Flow.Graph) (node : Flow.Node) :
    SchedulesExactly {} graph node ∧ TellsOverdueExactly {} node ∧ RequeuesExactly {} := by
  refine times_exactly_of_reach ?_
  have wait : (Delay.span (Span.ofSeconds 5) node).nanos ≤ Delay.longest.nanos := by
    rcases Delay.span_eq_default_or_le (Span.ofSeconds 5) node with same | bounded
    · rw [same]
      decide
    · exact bounded
  rw [Span.le_iff, Span.nanos_reach]
  change (Delay.span (Span.ofSeconds 5) node).nanos + 30000000000 + 10000000000 ≤ _
  change _ ≤ 31622400000000000 at wait
  omega

end Engine

/-- A flow that waits as long as is set before its only message. -/
def Flow.Graph.pausing : Flow.Graph where
  definition := ((((Definition.blank "pausing").addNode ⟨"start", .start, []⟩).addNode
    ⟨"wait", .delay, []⟩).addMessage "talk" "Hi").chain ["start", "wait", "talk"]
  start := ⟨"start", .start, []⟩
  sound := by decide
  start_found := rfl

namespace Engine

/-- With locks that may be held for ten trillion seconds, to look for overdue delays breaks off, and
with four tries a quarter of all words apart, a delay of five seconds is found overdue after 36.
With the longest wait that can be set nothing is scheduled, and with the longest one between two
tries, to queue a continuation again breaks off. -/
theorem not_times_exactly :
    let wait : Flow.Node := ⟨"wait", .delay, []⟩
    let parked : Execution := { (default : Execution) with updated := ⟨0⟩ }
    let item : Continuation := ⟨"", "", "", ⟨"", ""⟩, "", ⟨0⟩, 0⟩
    let guarding : Engine := { settings := { lockStaleSecs := 10000000000000 } }
    let wrapping : Engine :=
      { settings := { resumeRetrySecs := 4611686018427387904, resumeMaxAttempts := 4 } }
    let waiting : Engine := { settings := { defaultDelaySecs := 9223372036854775807 } }
    let giving : Engine := { settings := { resumeRetrySecs := 9223372036854775807 } }
    ((guarding.isOverdue parked wait).run (Site.anywhere.answer ⟨0⟩ {}) {} =
        (.error (.panic "`DateTime + TimeDelta` overflowed"), {}) ∧
      ¬ guarding.TellsOverdueExactly wait) ∧
    ((wrapping.isOverdue parked wait).run (Site.anywhere.answer ⟨36000000000⟩ {}) {} =
        (.ok true, {}) ∧
      ¬ wrapping.TellsOverdueExactly wait) ∧
    ((Turn.delay waiting .pausing default wait).run (Site.anywhere.answer ⟨0⟩ {}) {} =
        (.error (.error (.scheduler
          "delay out of range: Source duration value is out of range for the target type")), {}) ∧
      ¬ waiting.SchedulesExactly .pausing wait) ∧
    ((giving.requeue item).run (Site.anywhere.answer ⟨0⟩ {}) {} =
        (.error (.panic "TimeDelta::seconds out of bounds"), {}) ∧
      ¬ giving.RequeuesExactly) := by
  intro wait parked item guarding wrapping waiting giving
  have next : Flow.Graph.pausing.nextTarget? wait.id = some "talk" := by decide
  refine ⟨⟨?_, ?_⟩, ⟨?_, ?_⟩, ⟨?_, ?_⟩, rfl, ?_⟩
  · rw [run_isOverdue_of_short (by decide), if_neg (by decide)]
  · rw [tellsOverdueExactly_iff]
    decide
  · rw [run_isOverdue_of_short (by decide), if_pos (by decide), decide_eq_true (by decide)]
  · rw [tellsOverdueExactly_iff]
    decide
  · rw [run_delay next, run_dueAfter_of_long (by decide)]
  · rw [schedulesExactly_iff]
    decide
  · rw [requeuesExactly_iff]
    decide

end Engine
end ChatFlow
