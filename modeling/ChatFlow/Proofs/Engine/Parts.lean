import ChatFlow.Proofs.Scene
import ChatFlow.Proofs.Store.Parts

/-!
# Parts of a scene

A scene shows of each conversation its rows, what was sent to it, what was queued for it and what
was told about it.  Where callees answer a request by what it says alone, a call of a conversation
sees no more than this part of the scene, and does nothing to the other parts.
-/

namespace ChatFlow

namespace Scene

/-- What a scene shows of a conversation. -/
def part (conversation : Conversation) (scene : Scene) : Scene where
  store := scene.store.part conversation
  sent := scene.sent.filter fun sent =>
    sent.device == conversation.device && sent.phone == conversation.phone
  queued := scene.queued.filter fun item => item.conversation == conversation
  events := scene.events.filter fun event => event.conversation == conversation

/-- The scene with other ids. -/
def rename (naming : Naming) (scene : Scene) : Scene where
  store := scene.store.rename naming
  sent := scene.sent
  queued := scene.queued.map (Continuation.rename naming)
  events := scene.events.map (Event.rename naming)

/-- What is sent to one conversation is not shown of another. -/
theorem part_send_of_ne
    {conversation other : Conversation}
    (different : conversation ≠ other)
    (scene : Scene)
    (media : Option Media.Kind)
    (body : String) :
    (scene.send { device := conversation.device, phone := conversation.phone, media, body }).part
      other = scene.part other := by
  have notTo : (conversation.device == other.device && conversation.phone == other.phone) =
      false := by
    rw [Bool.and_eq_false_iff, beq_eq_false_iff_ne, beq_eq_false_iff_ne, ← not_and_or]
    rintro ⟨sameDevice, samePhone⟩
    cases conversation
    cases other
    cases sameDevice
    cases samePhone
    exact different rfl
  simp [send, part, List.filter_append, notTo]

end Scene

/-- The stamp with another id. -/
def Stamp.rename (naming : Naming) (stamp : Stamp) : Stamp :=
  { stamp with freshId := naming stamp.freshId }

/-- Callees that answer a request by what it says alone. -/
structure Callees where
  /-- The flows. -/
  library : Flow.Library := {}
  /-- The age beyond which a lock counts as abandoned. -/
  stale : Span := Span.ofSeconds 30
  /-- The capture rules of a stage on a device. -/
  rules : String → String → Except Fault (List Capture)
  /-- Whether a text can be sent, from a device to a phone. -/
  text : String → String → String → Except Fault Unit
  /-- Whether media can be sent, from a device to a phone. -/
  media : String → String → String → Media.Kind → Except Fault Unit
  /-- What is found when media is looked at. -/
  kind : String → Except Fault Media.Kind
  /-- What the text generator answers. -/
  reply : AiRequest → Except Fault String

namespace Callees

/-- How a call is answered. -/
def answer (callees : Callees) (stamp : Stamp) : (call : Call) → Scene → call.Outcome × Scene
  | .readHistory conversation limit, scene =>
      (.ok (scene.store.readHistory conversation limit), scene)
  | .captureRules device stage, scene => (callees.rules device stage, scene)
  | .sendText device phone text, scene =>
      match callees.text device phone text with
      | .ok _ => (.ok (), scene.send { device, phone, media := none, body := text })
      | .error fault => (.error fault, scene)
  | .sendMedia device phone url kind, scene =>
      match callees.media device phone url kind with
      | .ok _ => (.ok (), scene.send { device, phone, media := some kind, body := url })
      | .error fault => (.error fault, scene)
  | .classify url, scene => (callees.kind url, scene)
  | .generate request, scene => (callees.reply request, scene)
  | call, scene =>
      scene.serve callees.library callees.stale stamp.now { freshId := stamp.freshId } call

end Callees

/-- What a call names is an execution of a conversation. -/
def Call.Owns (conversation : Conversation) (scene : Scene) : Call → Prop
  | .executionById id | .setStage id _ | .saveVariables id _ =>
      ∀ row ∈ scene.store.executions, row.id = id → row.conversation = conversation
  | _ => True

namespace Callees

variable {callees : Callees} {stamp : Stamp} {call : Call} {scene : Scene} {naming : Naming}
  {conversation other : Conversation}

/-- A call of a conversation is answered by the part of the scene that shows the conversation, and
changes what it shows. -/
theorem answer_part
    (concerns : call.Concerns conversation)
    (owns : call.Owns conversation scene)
    (unused : ∀ row ∈ scene.store.executions, row.id ≠ stamp.freshId) :
    callees.answer stamp call (scene.part conversation) =
      ((callees.answer stamp call scene).1,
        (callees.answer stamp call scene).2.part conversation) := by
  cases call with
  | acquire about =>
      obtain rfl := concerns
      simp only [answer, Scene.serve, Bool.false_eq_true, if_false, Scene.withStore, Scene.part,
        Store.acquireAt_part]
  | release about =>
      obtain rfl := concerns
      simp only [answer, Scene.serve, Scene.withStore, Scene.part, Store.release_part]
  | activeExecution about =>
      obtain rfl := concerns
      simp only [answer, Scene.serve, Scene.part, Store.active?_part]
  | executionById id =>
      simp only [answer, Scene.serve, Scene.part, Store.byId?_part owns]
  | latestExecution about flow =>
      obtain rfl := concerns
      simp only [answer, Scene.serve, Scene.part, Store.latest?_part]
  | createExecution about flow node =>
      obtain rfl := concerns
      simp only [answer, Scene.serve, Scene.withStore, Scene.part, Store.create_part unused]
  | advance about flow node waiting =>
      obtain rfl := concerns
      simp only [answer, Scene.serve, Scene.withStore, Scene.part, Store.advance_part unused]
  | setWaiting about flow waiting =>
      obtain rfl := concerns
      simp only [answer, Scene.serve, Scene.withStore, Scene.part, Store.setWaiting_part]
  | complete about flow =>
      obtain rfl := concerns
      simp only [answer, Scene.serve, Scene.withStore, Scene.part,
        Store.complete_part]
  | setStage id stage =>
      simp only [answer, Scene.serve, Scene.withStore, Scene.part, Store.setStage_part]
  | saveVariables id vars =>
      simp only [answer, Scene.serve, Scene.withStore, Scene.part, Store.saveVariables_part]
  | appendHistory about entry =>
      obtain rfl := concerns
      simp only [answer, Scene.serve, Scene.withStore, Scene.part, Store.appendHistory_part]
  | readHistory about limit =>
      obtain rfl := concerns
      simp only [answer, Scene.part, Store.readHistory_part]
  | sendText device phone text =>
      obtain ⟨rfl, rfl⟩ := concerns
      simp only [answer]
      split
      · simp [Scene.send, Scene.part]
      · rfl
  | sendMedia device phone url kind =>
      obtain ⟨rfl, rfl⟩ := concerns
      simp only [answer]
      split
      · simp [Scene.send, Scene.part]
      · rfl
  | enqueue item =>
      obtain rfl := concerns
      simp [answer, Scene.serve, Scene.part]
  | publish event =>
      obtain rfl := concerns
      simp [answer, Scene.serve, Scene.part]
  | resolveFlow | flow | captureRules | classify | generate | now | pause => rfl

/-- It does nothing to the other parts. -/
theorem part_answer_of_ne
    (concerns : call.Concerns conversation)
    (owns : call.Owns conversation scene)
    (different : conversation ≠ other) :
    (callees.answer stamp call scene).2.part other = scene.part other := by
  cases call with
  | acquire about =>
      obtain rfl := concerns
      simp only [answer, Scene.serve, Bool.false_eq_true, if_false, Scene.withStore, Scene.part,
        Store.part_acquireAt_of_ne different]
  | release about =>
      obtain rfl := concerns
      simp only [answer, Scene.serve, Scene.withStore, Scene.part,
        Store.part_release_of_ne different]
  | createExecution about flow node =>
      obtain rfl := concerns
      simp only [answer, Scene.serve, Scene.withStore, Scene.part,
        Store.part_create_of_ne different]
  | advance about flow node waiting =>
      obtain rfl := concerns
      simp only [answer, Scene.serve, Scene.withStore, Scene.part,
        Store.part_advance_of_ne different]
  | setWaiting about flow waiting =>
      obtain rfl := concerns
      simp only [answer, Scene.serve, Scene.withStore, Scene.part,
        Store.part_setWaiting_of_ne different]
  | complete about flow =>
      obtain rfl := concerns
      simp only [answer, Scene.serve, Scene.withStore, Scene.part,
        Store.part_complete_of_ne different]
  | setStage id stage =>
      simp only [answer, Scene.serve, Scene.withStore, Scene.part,
        Store.part_setStage_of_ne different owns]
  | saveVariables id vars =>
      simp only [answer, Scene.serve, Scene.withStore, Scene.part,
        Store.part_saveVariables_of_ne different owns]
  | appendHistory about entry =>
      obtain rfl := concerns
      simp only [answer, Scene.serve, Scene.withStore, Scene.part,
        Store.part_appendHistory_of_ne different]
  | sendText device phone text =>
      obtain ⟨rfl, rfl⟩ := concerns
      simp only [answer]
      split
      · exact Scene.part_send_of_ne different _ _ _
      · rfl
  | sendMedia device phone url kind =>
      obtain ⟨rfl, rfl⟩ := concerns
      simp only [answer]
      split
      · exact Scene.part_send_of_ne different _ _ _
      · rfl
  | enqueue item =>
      obtain rfl := concerns
      simp [answer, Scene.serve, Scene.part, different]
  | publish event =>
      obtain rfl := concerns
      simp [answer, Scene.serve, Scene.part, different]
  | activeExecution | executionById | latestExecution | readHistory | resolveFlow | flow
  | captureRules | classify | generate | now | pause => rfl

/-- It does not matter what the ids are. -/
theorem answer_rename (injective : Function.Injective naming) :
    callees.answer (stamp.rename naming) (call.rename naming) (scene.rename naming) =
      (call.renameOutcome naming (callees.answer stamp call scene).1,
        (callees.answer stamp call scene).2.rename naming) := by
  cases call with
  | acquire about =>
      simp only [Call.rename, answer, Scene.serve, Bool.false_eq_true, if_false, Scene.withStore,
        Scene.rename, Stamp.rename, Store.acquireAt_rename]
      rfl
  | activeExecution about =>
      simp only [Call.rename, answer, Scene.serve, Scene.rename, Store.active?_rename]
      rfl
  | executionById id =>
      simp only [Call.rename, answer, Scene.serve, Scene.rename, Store.byId?_rename injective]
      rfl
  | latestExecution about flow =>
      simp only [Call.rename, answer, Scene.serve, Scene.rename, Store.latest?_rename]
      rfl
  | createExecution about flow node =>
      simp only [Call.rename, answer, Scene.serve, Scene.withStore, Scene.rename, Stamp.rename,
        Store.create_rename injective]
      cases (scene.store.create stamp about flow node).1 <;> rfl
  | advance about flow node waiting =>
      simp only [Call.rename, answer, Scene.serve, Scene.withStore, Scene.rename, Stamp.rename,
        Store.advance_rename injective]
      rfl
  | setWaiting about flow waiting =>
      simp only [Call.rename, answer, Scene.serve, Scene.withStore, Scene.rename, Stamp.rename,
        Store.setWaiting_rename]
      rfl
  | complete about flow =>
      simp only [Call.rename, answer, Scene.serve, Scene.withStore, Scene.rename, Stamp.rename,
        Store.complete_rename]
      rfl
  | setStage id stage =>
      simp only [Call.rename, answer, Scene.serve, Scene.withStore, Scene.rename, Stamp.rename,
        Store.setStage_rename injective]
      rfl
  | saveVariables id vars =>
      simp only [Call.rename, answer, Scene.serve, Scene.withStore, Scene.rename, Stamp.rename,
        Store.saveVariables_rename injective]
      rfl
  | sendText device phone text =>
      simp only [Call.rename, answer]
      split <;> rfl
  | sendMedia device phone url kind =>
      simp only [Call.rename, answer]
      split <;> rfl
  | enqueue item =>
      simp [Call.rename, Call.renameOutcome, answer, Scene.serve, Scene.rename]
  | publish event =>
      simp [Call.rename, Call.renameOutcome, answer, Scene.serve, Scene.rename]
  | release | appendHistory | readHistory | resolveFlow | flow | captureRules | classify | generate
  | now | pause => rfl

end Callees
end ChatFlow
