import ChatFlow.Proofs.Engine.Conduct
import ChatFlow.Proofs.Engine.Diary
import ChatFlow.Proofs.Turn.Story

/-!
# The story of a request

A request announces its turn, and publishes nothing else when it reports one.  So the story of the
turn, behind its announcement, is all that shows of the request; and the observers hear what the
callers publish, in order.
-/

namespace ChatFlow

open Process

namespace Engine

variable {engine : Engine} {input : TurnInput}

/-- Nothing shows of a request before its turn, and after it nothing but the story of the turn. -/
theorem conducts_story :
    engine.Conducts input (fun trace => Trace.story trace = []) fun report trace =>
      ∃ conversation opening, opening.isOpening = true ∧
        report.Story conversation [opening] (Trace.story trace) where
  waits unseen isMute :=
    (Trace.story_concat_of_none (Exchange.beat?_of_isMute isMute)).trans unseen
  leaves := by
    rintro report trace exchange ⟨conversation, opening, isOpening, story⟩ isMute
    refine ⟨conversation, opening, isOpening, ?_⟩
    rwa [Trace.story_concat_of_none (Exchange.beat?_of_isMute isMute)]
  performs := by
    intro trace opening unseen isOpening graph execution isReply
    have announced : Trace.story (trace ++ [⟨.publish opening, ()⟩]) = [opening].map Beat.told := by
      rw [Trace.story_concat, unseen]
      rfl
    refine (Turn.story_perform (by simpa using isOpening) announced).weaken ?_
    exact fun result trace _ story report same =>
      ⟨execution.conversation, opening, isOpening, story report same⟩

end Engine

variable {ι : Type} {site : Site} {before after : Scene} {told : List (ι × Exchange)}
  {exchange : Exchange}

/-- Only what is published is heard. -/
theorem Site.Answers.events_eq
    (answered : site.Answers exchange.request before exchange.outcome after) :
    after.events = before.events ++ Beat.events exchange.beat?.toList := by
  obtain ⟨request, outcome⟩ := exchange
  have unheard
      (silent : ∀ now choice,
        (before.serve site.library site.stale now choice request).2.events = before.events) :
      after.events = before.events := by
    rcases answered.effect with rfl | ⟨now, choice, _, rfl⟩
    · rfl
    · exact silent now choice
  cases request with
  | publish event =>
      rcases answered.inversion with ⟨_, _, _, _, rfl⟩ | ⟨_, _, fails, _⟩
      · rfl
      · cases fails
  | acquire conversation =>
      refine (unheard fun now choice => ?_).trans (List.append_nil _).symm
      simp only [Scene.serve]
      split <;> rfl
  | _ => exact (unheard fun now choice => rfl).trans (List.append_nil _).symm

/-- What is heard is what the callers publish, in order. -/
theorem Site.Hears.events_eq (hears : site.Hears before told after) :
    after.events = before.events ++ Beat.events (Trace.story (told.map Prod.snd)) := by
  induction hears with
  | nothing => exact (List.append_nil _).symm
  | call hears answered inductionHypothesis =>
      rw [answered.events_eq, inductionHypothesis, List.map_append, List.map_singleton,
        Trace.story_concat, Beat.events_append, List.append_assoc]

/-- The events, the report and the sends of a turn tell one story: the nodes that were entered are
those that are reported; as many messages are told to be handed over as are reported, and as were
accepted, and each attempt is followed at once by the tidings of it, before the next node is
entered; and how the turn ended is told as it is reported, by at most one event, which is the last
one.  This is so of every turn that is performed to its end, and of every request that reports a
turn, which is announced by one event before.  Whoever makes calls at the same time, what is heard
is what is published, in order. -/
theorem one_story :
    (∀ engine graph execution input report trace,
      Ends recording (Turn.perform engine graph execution input) [] (.ok report) trace →
        report.Story execution.conversation [] (Trace.story trace)) ∧
    (∀ (engine : Engine) request verdict report trace,
      Ends recording (engine.serve request) [] (.ok verdict) trace →
      verdict.report? = some report →
        ∃ conversation opening, opening.isOpening = true ∧
          report.Story conversation [opening] (Trace.story trace)) ∧
    ∀ (site : Site) (before after : Scene) (told : List (ι × Exchange)),
      site.Hears before told after →
        after.events = before.events ++ Beat.events (Trace.story (told.map Prod.snd)) := by
  refine ⟨?_, ?_, fun site before after told hears => hears.events_eq⟩
  · intro engine graph execution input report trace ends
    have unseen : Trace.story [] = ([] : List Event).map Beat.told := rfl
    obtain ⟨_, told⟩ := (Turn.story_perform (List.forall_mem_nil _) unseen).ends ends
    exact told report rfl
  · intro engine request verdict report trace ends reports
    obtain ⟨_, held⟩ := (Engine.reports_serve Engine.conducts_story rfl).ends ends
    exact held verdict report rfl reports

namespace Engine

/-- Ana is greeted, in a turn and in two requests. -/
theorem one_story_greetings :
    (greeterTurn.1 = .ok .ofAnaResumed ∧
      TurnReport.ofAnaResumed.Story greeter.conversation [] (Trace.story greeterTurn.2.2) ∧
      (Beat.accepted (Trace.story greeterTurn.2.2)).map Rehearsal.Sent.body = ["Hi Ana"]) ∧
    (greeted.1 = .ok (.message (.processed .ofAna)) ∧
      ∃ conversation opening, opening.isOpening = true ∧
        TurnReport.ofAna.Story conversation [opening] (Trace.story greeted.2.2)) ∧
    greetedLater.2.1.events = Beat.events (Trace.story (greetingsTold.map Prod.snd)) := by
  obtain ⟨turns, requests, heard⟩ := @one_story Bool
  have turned : greeterTurn.1 = .ok .ofAnaResumed := by decide +kernel
  have handled : greeted.1 = .ok (.message (.processed .ofAna)) := by decide +kernel
  have turnEnds := ends_greeterTurn
  have handledEnds := ends_recording (ends_greet (.message .ofAna) {})
  rw [turned] at turnEnds
  rw [show (greet (.message .ofAna) {}).1 = _ from handled] at handledEnds
  refine ⟨⟨turned, turns _ _ _ _ _ _ turnEnds, by decide +kernel⟩,
    ⟨handled, requests _ _ _ _ _ handledEnds rfl⟩, ?_⟩
  exact heard Site.greeting {} _ greetingsTold hears_greetings

end Engine
end ChatFlow
