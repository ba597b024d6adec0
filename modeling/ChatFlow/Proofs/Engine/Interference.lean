import ChatFlow.Proofs.Delay.Postponing
import ChatFlow.Proofs.Engine.Ownership
import ChatFlow.Proofs.Engine.Reachable
import ChatFlow.Proofs.Engine.Renaming

/-!
# Conversations do not interfere

Requests of many conversations are served one after the other on one store.  As long as no
continuation names an execution of another conversation, each conversation fares as it would alone:
all that a scene shows of it, and all that its requests are told, is the same, but for the ids of
executions, when no other request is ever served.
-/

namespace ChatFlow

open Process

variable {callees : Callees} {engine : Engine} {request : Request} {charge : Charge} {call : Call}
  {scene : Scene} {conversation : Conversation} {naming : Naming}

/-! ## One request -/

/-- Answers the calls of a request one after the other, each at its time. -/
def Callees.answering (callees : Callees) (stamps : Nat → Stamp) (call : Call)
    (before : Scene × Nat) : call.Outcome × (Scene × Nat) :=
  let (outcome, after) := callees.answer (stamps before.2) call before.1
  (outcome, after, before.2 + 1)

/-- A request is on its way, in its own charge, and beside it the same request with other ids. -/
structure Request.Underway
    (request : Request) (naming : Naming) (post : α → β → Prop) (scene : Scene) (charge : Charge)
    (process : Process α) (other : Process β) : Prop where
  akin : process.Akin naming request.conversation post other
  minds : process.Minds request (fun _ charge => charge.isInside = false) charge
  minding : request.Minding scene charge

section Runs

variable {α β : Type} {process : Process α} {other : Process β} {post : α → β → Prop}
  {stamps : Nat → Stamp} {made : Nat}

/-- A request calls only what is its own, and is on its way still when that is answered. -/
theorem Request.Underway.step
    {next : call.Outcome → Process α}
    (underway : request.Underway naming post scene charge (.step call next) other)
    (callees : Callees)
    (stamp : Stamp) :
    call.Concerns request.conversation ∧ call.Owns request.conversation scene ∧
      ∃ goesOn, other = .step (call.rename naming) goesOn ∧
        request.Underway naming post (callees.answer stamp call scene).2
          (charge.next call (callees.answer stamp call scene).1)
          (next (callees.answer stamp call scene).1)
          (goesOn (call.renameOutcome naming (callees.answer stamp call scene).1)) := by
  obtain ⟨concerns, goesOn, other_eq, rest⟩ := underway.akin
  obtain ⟨allows, following⟩ := underway.minds
  obtain ⟨finds, mindingThen⟩ := underway.minding.answer allows concerns
  exact ⟨concerns, underway.minding.owns_call allows, goesOn, other_eq, rest _ finds,
    following _ finds, mindingThen⟩

/-- What a request does to the rows: each was there before or has one of its ids, and the store is
well kept still. -/
theorem stems_run (underway : request.Underway naming post scene charge process other) :
    (process.run (callees.answering stamps) (scene, made)).2.1.store.WellKept ∧
      ∀ row ∈ (process.run (callees.answering stamps) (scene, made)).2.1.store.executions,
        (∃ old ∈ scene.store.executions, old.id = row.id) ∨
          ∃ later, row.id = (stamps later).freshId := by
  induction process generalizing other scene charge made with
  | done value => exact ⟨underway.minding.kept, fun row member => .inl ⟨row, member, rfl⟩⟩
  | halt fault => exact ⟨underway.minding.kept, fun row member => .inl ⟨row, member, rfl⟩⟩
  | step call next inductionHypothesis =>
      obtain ⟨concerns, _, goesOn, rfl, onward⟩ := underway.step callees (stamps made)
      obtain ⟨kept, stems⟩ := inductionHypothesis _ onward
      refine ⟨kept, fun row member => ?_⟩
      rcases stems row member with ⟨old, oldMember, id_eq⟩ | fresh
      · rcases Callees.stems_answer concerns oldMember with ⟨first, firstMember, same, _⟩ | ⟨new, _⟩
        · exact .inl ⟨first, firstMember, same.trans id_eq⟩
        · exact .inr ⟨made, id_eq.symm.trans new⟩
      · exact .inr fresh

/-- A request does nothing to the parts of other conversations. -/
theorem part_run_of_ne
    (different : request.conversation ≠ conversation)
    (underway : request.Underway naming post scene charge process other) :
    (process.run (callees.answering stamps) (scene, made)).2.1.part conversation =
      scene.part conversation := by
  induction process generalizing other scene charge made with
  | done value => rfl
  | halt fault => rfl
  | step call next inductionHypothesis =>
      obtain ⟨concerns, owns, goesOn, rfl, onward⟩ := underway.step callees (stamps made)
      exact (inductionHypothesis _ onward).trans
        (Callees.part_answer_of_ne concerns owns different)

/-- In the part of its conversation a request fares as in the whole scene, be it with other ids. -/
theorem run_part
    (injective : Function.Injective naming)
    (distinct : Function.Injective fun made => (stamps made).freshId)
    (unused : ∀ later, made ≤ later → ∀ row ∈ scene.store.executions,
      row.id ≠ (stamps later).freshId)
    (underway : request.Underway naming post scene charge process other) :
    Agree post (process.run (callees.answering stamps) (scene, made)).1
        (other.run (callees.answering fun made => (stamps made).rename naming)
          ((scene.part request.conversation).rename naming, made)).1 ∧
      (other.run (callees.answering fun made => (stamps made).rename naming)
          ((scene.part request.conversation).rename naming, made)).2.1 =
        ((process.run (callees.answering stamps) (scene, made)).2.1.part
          request.conversation).rename naming := by
  induction process generalizing other scene charge made with
  | done value =>
      obtain ⟨renamed, rfl, holds⟩ := underway.akin
      exact ⟨.ok holds, rfl⟩
  | halt fault =>
      obtain rfl := underway.akin
      exact ⟨.error fault, rfl⟩
  | step call next inductionHypothesis =>
      obtain ⟨concerns, owns, goesOn, rfl, onward⟩ := underway.step callees (stamps made)
      have answer_eq : callees.answer ((stamps made).rename naming) (call.rename naming)
          ((scene.part request.conversation).rename naming) =
            (call.renameOutcome naming (callees.answer (stamps made) call scene).1,
              ((callees.answer (stamps made) call scene).2.part request.conversation).rename
                naming) := by
        rw [Callees.answer_rename injective,
          Callees.answer_part concerns owns (unused made le_rfl)]
      have unusedThen : ∀ later, made + 1 ≤ later →
          ∀ row ∈ (callees.answer (stamps made) call scene).2.store.executions,
            row.id ≠ (stamps later).freshId := by
        intro later isLater row member
        rcases Callees.stems_answer concerns member with ⟨old, oldMember, id_eq, _⟩ | ⟨new, _⟩
        · rw [← id_eq]
          exact unused later (by omega) old oldMember
        · rw [new]
          intro same
          have := distinct same
          omega
      simp only [Process.run, Callees.answering, answer_eq]
      exact inductionHypothesis _ unusedThen onward

end Runs

/-! ## Many requests -/

/-- A request that comes at some time. -/
structure Visit where
  request : Request
  /-- When its calls are answered, one after the other, and the ids for rows that they may add. -/
  stamps : Nat → Stamp

namespace Visit

/-- The visit with other ids. -/
def rename (naming : Naming) (visit : Visit) : Visit where
  request := visit.request.rename naming
  stamps made := (visit.stamps made).rename naming

/-- No id is given out twice. -/
structure Distinct (visits : List Visit) : Prop where
  injective : ∀ visit ∈ visits, Function.Injective fun made => (visit.stamps made).freshId
  apart : visits.Pairwise fun first second => ∀ made madeToo,
    (first.stamps made).freshId ≠ (second.stamps madeToo).freshId

/-- Later visits give out other ids. -/
theorem Distinct.cons
    {visit : Visit}
    {visits : List Visit}
    (distinct : Distinct (visit :: visits)) :
    (∀ later ∈ visits, ∀ made madeToo,
      (visit.stamps made).freshId ≠ (later.stamps madeToo).freshId) ∧ Distinct visits := by
  obtain ⟨apart, rest⟩ := List.pairwise_cons.mp distinct.apart
  exact ⟨apart, fun later member => distinct.injective later (List.mem_cons_of_mem _ member), rest⟩

end Visit

namespace Callees

/-- Serves a request from its first call to its end. -/
def receive (callees : Callees) (engine : Engine) (visit : Visit) (scene : Scene) :
    Except Fault Verdict × Scene :=
  let (verdict, after) :=
    (engine.serve visit.request).run (callees.answering visit.stamps) (scene, 0)
  (verdict, after.1)

/-- Serves requests one after the other, and tells who was told what. -/
def receiveAll (callees : Callees) (engine : Engine) :
    List Visit → Scene → List (Conversation × Except Fault Verdict) × Scene
  | [], scene => ([], scene)
  | visit :: visits, scene =>
    let (verdict, after) := callees.receive engine visit scene
    let (told, last) := callees.receiveAll engine visits after
    ((visit.request.conversation, verdict) :: told, last)

/-- No continuation names an execution of another conversation when it is taken up. -/
def Honest (callees : Callees) (engine : Engine) : List Visit → Scene → Prop
  | [], _ => True
  | visit :: visits, scene => visit.request.Owns scene ∧
      callees.Honest engine visits (callees.receive engine visit scene).2

instance decidableHonest (callees : Callees) (engine : Engine) :
    (visits : List Visit) → (scene : Scene) → Decidable (callees.Honest engine visits scene)
  | [], _ => inferInstanceAs (Decidable True)
  | visit :: visits, scene =>
      have := callees.decidableHonest engine visits (callees.receive engine visit scene).2
      inferInstanceAs (Decidable (visit.request.Owns scene ∧
        callees.Honest engine visits (callees.receive engine visit scene).2))

end Callees

/-- What was told, with other ids. -/
def Verdict.renameTold (naming : Naming) (told : Conversation × Except Fault Verdict) :
    Conversation × Except Fault Verdict :=
  (told.1, told.2.map (Verdict.rename naming))

namespace Callees

variable {visit : Visit} {visits : List Visit}

theorem underway_serve
    (kept : scene.store.WellKept)
    (owns : request.Owns scene) :
    request.Underway naming (fun verdict other => other = verdict.rename naming) scene .outside
      (engine.serve request) (engine.serve (request.rename naming)) :=
  ⟨engine.akin_serve request, engine.minds_serve request, kept, owns, trivial⟩

theorem conversation_rename (request : Request) :
    (request.rename naming).conversation = request.conversation := by
  cases request <;> rfl

/-- A visit does nothing to the parts of other conversations. -/
theorem part_receive_of_ne
    (kept : scene.store.WellKept)
    (owns : visit.request.Owns scene)
    (different : visit.request.conversation ≠ conversation) :
    (callees.receive engine visit scene).2.part conversation = scene.part conversation :=
  part_run_of_ne different (@underway_serve engine visit.request scene id kept owns)

/-- A visit fares in the part of its conversation, with other ids, as it fares in the scene. -/
theorem receive_part
    (injective : Function.Injective naming)
    (distinct : Function.Injective fun made => (visit.stamps made).freshId)
    (unused : ∀ made, ∀ row ∈ scene.store.executions, row.id ≠ (visit.stamps made).freshId)
    (kept : scene.store.WellKept)
    (owns : visit.request.Owns scene) :
    callees.receive engine (visit.rename naming)
        ((scene.part visit.request.conversation).rename naming) =
      ((callees.receive engine visit scene).1.map (Verdict.rename naming),
        ((callees.receive engine visit scene).2.part visit.request.conversation).rename
          naming) := by
  have underway : visit.request.Underway naming _ scene .outside (engine.serve visit.request) _ :=
    underway_serve kept owns
  have runs : Agree _ (callees.receive engine visit scene).1 _ ∧ _ :=
    run_part injective distinct (fun later _ => unused later) underway
  obtain ⟨agree, scene_eq⟩ := runs
  exact Prod.ext agree.eq_map scene_eq

/-- The rows after a visit were there before, or have its ids. -/
theorem stems_receive
    (kept : scene.store.WellKept)
    (owns : visit.request.Owns scene) :
    (callees.receive engine visit scene).2.store.WellKept ∧
      ∀ row ∈ (callees.receive engine visit scene).2.store.executions,
        (∃ old ∈ scene.store.executions, old.id = row.id) ∨
          ∃ made, row.id = (visit.stamps made).freshId :=
  stems_run (@underway_serve engine visit.request scene id kept owns)

/-- Visits fare in the part of their conversation, with other ids, as they fare among others. -/
theorem receiveAll_part
    (injective : Function.Injective naming)
    (distinct : Visit.Distinct visits)
    (unused : ∀ visit ∈ visits, ∀ made, ∀ row ∈ scene.store.executions,
      row.id ≠ (visit.stamps made).freshId)
    (kept : scene.store.WellKept)
    (honest : callees.Honest engine visits scene) :
    callees.receiveAll engine
        ((visits.filter fun visit => visit.request.conversation == conversation).map
          (Visit.rename naming)) ((scene.part conversation).rename naming) =
      (((callees.receiveAll engine visits scene).1.filter fun told => told.1 == conversation).map
          (Verdict.renameTold naming),
        ((callees.receiveAll engine visits scene).2.part conversation).rename naming) := by
  induction visits generalizing scene with
  | nil => rfl
  | cons visit visits inductionHypothesis =>
      obtain ⟨owns, honestThen⟩ := honest
      have distinctHere := distinct.injective visit List.mem_cons_self
      obtain ⟨apart, distinctThen⟩ := distinct.cons
      have unusedHere := unused visit List.mem_cons_self
      obtain ⟨keptThen, stems⟩ : (callees.receive engine visit scene).2.store.WellKept ∧ _ :=
        stems_receive kept owns
      have unusedThen : ∀ later ∈ visits, ∀ made,
          ∀ row ∈ (callees.receive engine visit scene).2.store.executions,
            row.id ≠ (later.stamps made).freshId := by
        intro later laterMember made row member
        rcases stems row member with ⟨old, oldMember, id_eq⟩ | ⟨madeHere, id_eq⟩
        · rw [← id_eq]
          exact unused later (List.mem_cons_of_mem _ laterMember) made old oldMember
        · rw [id_eq]
          exact apart later laterMember madeHere made
      have rest := inductionHypothesis distinctThen unusedThen keptThen honestThen
      by_cases same : visit.request.conversation = conversation
      · subst same
        have renamed : (visit.rename naming).request.conversation = visit.request.conversation :=
          conversation_rename visit.request
        simp only [List.filter_cons, beq_self_eq_true, if_true, List.map_cons, receiveAll,
          receive_part injective distinctHere unusedHere kept owns, rest, renamed]
        rfl
      · have notHere : (visit.request.conversation == conversation) = false := by
          simpa using same
        rw [part_receive_of_ne kept owns same] at rest
        simp only [List.filter_cons, notHere, Bool.false_eq_true, if_false, receiveAll, rest]

end Callees

/-- Requests of any number of conversations are served one after the other, from an empty scene, by
callees that answer each request by what it says alone, and no id is given out twice.  Unless some
continuation names an execution of another conversation when it is taken up, every conversation
fares as it would alone: if only its own requests are served, at the same times and be it with
other ids, then all that the scene shows of it is the same but for ids, and so is all that its
requests are told. -/
theorem no_interference
    (visits : List Visit)
    (injective : Function.Injective naming)
    (distinct : Visit.Distinct visits)
    (honest : callees.Honest engine visits {}) :
    callees.receiveAll engine
        ((visits.filter fun visit => visit.request.conversation == conversation).map
          (Visit.rename naming)) {} =
      (((callees.receiveAll engine visits {}).1.filter fun told => told.1 == conversation).map
          (Verdict.renameTold naming),
        ((callees.receiveAll engine visits {}).2.part conversation).rename naming) :=
  Callees.receiveAll_part injective distinct (by simp) Store.wellKept_empty honest

/-! ## What was queued -/

namespace Callees

variable {visits : List Visit}

/-- The site where such callees are. -/
def site (callees : Callees) : Site :=
  { callees with faults := fun _ => True, clock := fun _ => True }

/-- They answer as callees may. -/
theorem answers_answer (callees : Callees) (stamp : Stamp) (call : Call) (scene : Scene) :
    callees.site.Answers call scene (callees.answer stamp call scene).1
      (callees.answer stamp call scene).2 := by
  have well (choice : Choice) : callees.site.Answers call scene _ _ :=
    @Site.Answers.well callees.site call scene stamp.now trivial choice
  cases call with
  | readHistory conversation limit =>
      exact well { entries := scene.store.readHistory conversation limit }
  | captureRules device stage =>
      simp only [answer]
      cases callees.rules device stage with
      | ok rules => exact well { rules }
      | error fault => exact .failed trivial rfl
  | sendText device phone text =>
      simp only [answer]
      cases callees.text device phone text with
      | ok value => exact well {}
      | error fault => exact .failed trivial rfl
  | sendMedia device phone url kind =>
      simp only [answer]
      cases callees.media device phone url kind with
      | ok value => exact well {}
      | error fault => exact .failed trivial rfl
  | classify url =>
      simp only [answer]
      cases callees.kind url with
      | ok kind => exact well { kind }
      | error fault => exact .failed trivial rfl
  | generate request =>
      simp only [answer]
      cases callees.reply request with
      | ok reply => exact well { reply }
      | error fault => exact .failed trivial rfl
  | _ => exact well { freshId := stamp.freshId }

/-- A continuation that is taken up was queued before. -/
def Offered (callees : Callees) (engine : Engine) : List Visit → Scene → Prop
  | [], _ => True
  | visit :: visits, scene => scene.Offers visit.request ∧
      callees.Offered engine visits (callees.receive engine visit scene).2

/-- A visit serves a request to its end. -/
theorem serves_receive
    {visit : Visit}
    (offered : scene.Offers visit.request) :
    callees.site.Serves engine scene (callees.receive engine visit scene).2 := by
  let answers : Answering (Scene × Nat) := fun call before outcome after =>
    callees.site.Answers call before.1 outcome after.1
  have ends : Ends answers (engine.serve visit.request) (scene, 0) _ _ :=
    ends_of_run (callees.answering visit.stamps)
      (fun call before => callees.answers_answer _ call before.1) _ _
  refine Site.serves_of_ends offered
    (ends.lift (fun moment : Process Verdict × Scene × Nat => (moment.1, moment.2.1)) ?_)
  rintro _ _ ⟨answered⟩
  exact .call answered

/-- What was queued names the execution that queued it, and so no continuation names an execution
of another conversation. -/
theorem honest_of_offered
    (filed : callees.library.Filed)
    (reachable : callees.site.Reachable engine scene)
    (offered : callees.Offered engine visits scene) :
    callees.Honest engine visits scene := by
  induction visits generalizing scene with
  | nil => trivial
  | cons visit visits inductionHypothesis =>
      obtain ⟨offeredHere, offeredThen⟩ := offered
      refine ⟨?_, inductionHypothesis (reachable.tail (serves_receive offeredHere)) offeredThen⟩
      have sound : callees.site.library.Sound scene := reachable.sound filed
      cases isIt : visit.request with
      | message message => trivial
      | continuation item =>
          rw [isIt] at offeredHere
          obtain ⟨queued, member, retries⟩ := offeredHere
          obtain ⟨other, otherMember, id_eq, _, same⟩ := sound.named queued member
          intro row member named
          rw [retries] at named ⊢
          rw [sound.kept.eq_of_id member otherMember (named.trans id_eq.symm)]
          exact same

end Callees

/-! ## Greetings to two users -/

namespace Visit

/-- A visit all of whose calls are answered at once, with ids that bear a mark. -/
def marked (visit : Char × Request) : Visit where
  request := visit.2
  stamps made := ⟨⟨0⟩, String.ofList (visit.1 :: List.replicate made '+')⟩

/-- Visits with different marks give out different ids. -/
theorem distinct_marked
    {visits : List (Char × Request)}
    (nodup : (visits.map Prod.fst).Nodup) :
    Distinct (visits.map marked) where
  injective := by
    intro visit member made madeToo same
    obtain ⟨_, _, rfl⟩ := List.mem_map.mp member
    have lengths := congrArg List.length (String.ofList_inj.mp same)
    simpa using lengths
  apart := by
    rw [List.pairwise_map]
    refine (List.pairwise_map.mp nodup).imp ?_
    intro first second different made madeToo same
    simp [marked, different] at same

end Visit

namespace Callees

/-- Callees at the greeting's site that never fail. -/
def greeting : Callees where
  library := Site.greeting.library
  rules _ _ := .ok []
  text _ _ _ := .ok ()
  media _ _ _ _ := .ok ()
  kind _ := .ok .image
  reply _ := .ok ""

/-- Another user of the same device. -/
def ben : Conversation := { phone := "3", device := "1" }

/-- Her continuation, under the id that her execution is given. -/
def ofAna : Continuation := { Continuation.ofAna with execution := "a+++" }

/-- Two users write, and the continuation of the first one is taken up. -/
def greetings : List Visit :=
  [('a', .message .ofAna), ('b', .message { InboundMessage.ofAna with conversation := ben }),
    ('c', .continuation ofAna)].map Visit.marked

/-- Her continuation is taken up in the other user's name. -/
def forgery : Visit :=
  .marked ('b', .continuation { ofAna with conversation := ben })

/-- She writes, and then this happens. -/
def forgeries : List Visit :=
  [.marked ('a', .message .ofAna), forgery]

/-- Other ids for all executions. -/
def elsewhere : Naming :=
  ("elsewhere-" ++ ·)

theorem injective_elsewhere : Function.Injective elsewhere := by
  intro first second same
  exact (String.append_right_inj _).mp same

end Callees

theorem no_interference_greetings :
    Visit.Distinct Callees.greetings ∧ Callees.greeting.Honest {} Callees.greetings {} ∧
    ((Callees.greeting.receiveAll {} Callees.greetings {}).2.part
      Callees.ofAna.conversation).sent.map Rehearsal.Sent.body = ["Hi \x7b\x7bname\x7d\x7d"] ∧
    Callees.greeting.receiveAll {}
        ((Callees.greetings.filter fun visit =>
          visit.request.conversation == Callees.ofAna.conversation).map
            (Visit.rename Callees.elsewhere)) {} =
      (((Callees.greeting.receiveAll {} Callees.greetings {}).1.filter fun told =>
          told.1 == Callees.ofAna.conversation).map (Verdict.renameTold Callees.elsewhere),
        ((Callees.greeting.receiveAll {} Callees.greetings {}).2.part
          Callees.ofAna.conversation).rename Callees.elsewhere) := by
  have distinct : Visit.Distinct Callees.greetings := Visit.distinct_marked (by decide)
  have honest : Callees.greeting.Honest {} Callees.greetings {} := by decide +kernel
  exact ⟨distinct, honest, by decide +kernel,
    no_interference Callees.greetings Callees.injective_elsewhere distinct honest⟩

/-- The other user's request is told of her turn, though there is nothing to take up when only his
own requests are served, whatever the ids are. -/
theorem interference_forgery :
    Visit.Distinct Callees.forgeries ∧ ¬ ∃ naming, Function.Injective naming ∧
      (Callees.greeting.receiveAll {}
        ((Callees.forgeries.filter fun visit => visit.request.conversation == Callees.ben).map
          (Visit.rename naming)) {}).1 =
        ((Callees.greeting.receiveAll {} Callees.forgeries {}).1.filter
          fun told => told.1 == Callees.ben).map (Verdict.renameTold naming) := by
  have distinct : Visit.Distinct Callees.forgeries :=
    @Visit.distinct_marked [('a', .message .ofAna),
      ('b', .continuation { Callees.ofAna with conversation := Callees.ben })] (by decide)
  refine ⟨distinct, ?_⟩
  rintro ⟨naming, injective, same⟩
  have resumed : (Callees.greeting.receiveAll {} Callees.forgeries {}).1.filter
      (fun told => told.1 == Callees.ben) = [(Callees.ben, .ok (.continuation (.resumed
        { TurnReport.ofAnaResumed with execution := "a+++" })))] := by decide +kernel
  have missing : ((Callees.greeting.receiveAll {} [Callees.forgery] {}).1.filter
      fun told => told.1 == Callees.ben) = [(Callees.ben, .ok (.continuation .missing))] := by
    decide +kernel
  -- Alone he is told the same under all ids, since nothing is there that he could name.
  have renamed : Callees.greeting.receiveAll {}
      (([Callees.forgery].filter fun visit => visit.request.conversation == Callees.ben).map
        (Visit.rename naming)) ((Scene.part Callees.ben {}).rename naming) =
      (((Callees.greeting.receiveAll {} [Callees.forgery] {}).1.filter fun told =>
          told.1 == Callees.ben).map (Verdict.renameTold naming),
        ((Callees.greeting.receiveAll {} [Callees.forgery] {}).2.part Callees.ben).rename naming) :=
    Callees.receiveAll_part injective distinct.cons.2 (by simp) Store.wellKept_empty
      (by decide +kernel)
  have alone : (Callees.greeting.receiveAll {}
      ((Callees.forgeries.filter fun visit => visit.request.conversation == Callees.ben).map
        (Visit.rename naming)) {}).1 = [(Callees.ben, .ok (.continuation .missing))] := by
    show (Callees.greeting.receiveAll {}
      (([Callees.forgery].filter fun visit => visit.request.conversation == Callees.ben).map
        (Visit.rename naming)) ((Scene.part Callees.ben {}).rename naming)).1 = _
    rw [renamed, missing]
    rfl
  rw [alone, resumed] at same
  cases same

end ChatFlow
