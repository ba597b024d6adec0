import ChatFlow.Proofs.Engine.Lookups
import ChatFlow.Proofs.Reply.Blanks
import ChatFlow.Proofs.Turn.Paths
import ChatFlow.Proofs.Turn.Slots

/-!
# Blank messages

A node that lets the text generator answer sends the items of the answer or, when the answer is no
reply, the answer itself.  An answer that is blank is not sent, and neither is an item that is
written as a blank object; but a blank plain text in the response of a reply is sent as it is.  The
text that is sent in place of media that cannot be used comes from the settings.
-/

namespace ChatFlow

open Process

/-! ## Filled messages -/

/-- A message that is to be sent is not blank. -/
def Call.IsFilled : Call → Prop
  | .sendText _ _ text => Text.isBlank text = false
  | .sendMedia _ _ url _ => Text.isBlank url = false
  | _ => True

/-- The text generator gives one answer, if it gives any. -/
def Call.Tells (raw : String) : (request : Call) → request.Outcome → Prop
  | .generate _, outcome => ∀ told, outcome = .ok told → told = raw
  | _, _ => True

/-- What a slot is filled with is not blank. -/
def Slot.IsFilled (engine : Engine) : Slot → Prop
  | .text body => Text.isBlank body = false
  | .media url =>
    Text.isBlank url = false ∧
      (engine.hasValidator = true → Text.isBlank engine.settings.mediaFallbackText = false)

/-- A process sends nothing blank when the text generator gives one answer. -/
abbrev Process.NeverBlank (raw : String) (process : Process α) : Prop :=
  process.Within Call.IsFilled (Call.Tells raw) fun _ => True

namespace Turn

variable {engine : Engine} {graph : Flow.Graph} {node : Flow.Node} {turn : Turn} {raw : String}
  {answering : Bool} {request : AiRequest}

/-! ## Sending -/

theorem neverBlank_settled
    (kind body : String)
    (outcome : Except Fault Unit) :
    ((orPanic outcome).andThen fun result => turn.settle node kind body result).NeverBlank raw := by
  rcases outcome with (error | reason) | _
  · exact ⟨trivial, fun _ _ => trivial⟩
  · trivial
  · refine ⟨trivial, fun _ _ => ⟨trivial, fun time _ => ⟨trivial, fun written _ => ?_⟩⟩⟩
    rcases written with (error | reason) | _ <;> trivial

theorem canEnd_settled (kind body : String) :
    ((orPanic (.ok ())).andThen fun result => turn.settle node kind body result).CanEnd
      (Call.Tells raw) :=
  ⟨(), trivial, (default : Instant), trivial, .ok (), trivial, trivial⟩

theorem neverBlank_sendText_iff (text : String) :
    (turn.sendText node text).NeverBlank raw ↔ Text.isBlank text = false :=
  ⟨fun never => never.1, fun filled => ⟨filled, fun _ _ => neverBlank_settled _ _ _⟩⟩

theorem canEnd_sendText (text : String) : (turn.sendText node text).CanEnd (Call.Tells raw) :=
  ⟨.ok (), trivial, canEnd_settled _ _⟩

/-- Media or the text in its place is sent. -/
theorem neverBlank_sendMedia_iff (url : String) (hint : Option Media.Kind) :
    (sendMedia engine turn node url hint).NeverBlank raw ↔ (Slot.media url).IsFilled engine := by
  unfold sendMedia mediaKind? Slot.IsFilled
  cases engine.hasValidator with
  | false =>
      constructor
      · intro never
        exact ⟨never.1, nofun⟩
      · rintro ⟨filled, -⟩
        exact ⟨filled, fun _ _ => neverBlank_settled _ _ _⟩
  | true =>
      constructor
      · intro never
        have asMedia := (never.2 (.ok .image) trivial).1
        have asText := (never.2 (.error (.error default)) trivial).1
        exact ⟨asMedia, fun _ => asText⟩
      · rintro ⟨filled, inPlace⟩
        refine ⟨trivial, fun seen _ => ?_⟩
        rcases seen with (error | reason) | kind
        · exact (neverBlank_sendText_iff _).mpr (inPlace rfl)
        · trivial
        · exact ⟨filled, fun _ _ => neverBlank_settled _ _ _⟩

theorem canEnd_sendMedia (url : String) (hint : Option Media.Kind) :
    (sendMedia engine turn node url hint).CanEnd (Call.Tells raw) := by
  unfold sendMedia mediaKind?
  cases engine.hasValidator with
  | false => exact ⟨.ok (), trivial, canEnd_settled _ _⟩
  | true => exact ⟨.ok .image, trivial, .ok (), trivial, canEnd_settled _ _⟩

theorem neverBlank_sendItem_iff (item : ReplyItem) :
    (sendItem engine turn node item).NeverBlank raw ↔ (Slot.ofItem item).IsFilled engine := by
  unfold sendItem Slot.ofItem
  cases item.media with
  | none => exact neverBlank_sendText_iff _
  | some hint => exact neverBlank_sendMedia_iff _ _

theorem canEnd_sendItem (item : ReplyItem) :
    (sendItem engine turn node item).CanEnd (Call.Tells raw) := by
  unfold sendItem
  cases item.media with
  | none => exact canEnd_sendText _
  | some hint => exact canEnd_sendMedia _ _

/-- Once an item was sent, the others are, whatever became of it. -/
theorem neverBlank_item_andThen_iff
    {item : ReplyItem}
    {rest : List ReplyItem}
    {next : Turn → Process Turn}
    (others : ∀ moved, (next moved).NeverBlank raw ↔
      ∀ slot ∈ rest.map Slot.ofItem, slot.IsFilled engine) :
    ((sendItem engine turn node item).andThen next).NeverBlank raw ↔
      ∀ slot ∈ (item :: rest).map Slot.ofItem, slot.IsFilled engine := by
  rw [List.map_cons, List.forall_mem_cons, ← neverBlank_sendItem_iff]
  exact within_andThen_iff (canEnd_sendItem item) others

theorem neverBlank_sendFurther_iff (items : List ReplyItem) :
    (sendFurther engine node items turn).NeverBlank raw ↔
      ∀ slot ∈ items.map Slot.ofItem, slot.IsFilled engine := by
  induction items generalizing turn with
  | nil => exact ⟨fun _ => nofun, fun _ => trivial⟩
  | cons item rest inductionHypothesis =>
      have goesOn : ((sendItem engine turn node item).andThen
            (sendFurther engine node rest)).NeverBlank raw ↔
          ∀ slot ∈ (item :: rest).map Slot.ofItem, slot.IsFilled engine :=
        neverBlank_item_andThen_iff fun _ => inductionHypothesis
      unfold sendFurther
      dsimp only
      split
      · exact goesOn
      · exact ⟨fun never => goesOn.mp (never.2 () trivial),
          fun filled => ⟨trivial, fun _ _ => goesOn.mpr filled⟩⟩

theorem neverBlank_sendItems_iff (items : List ReplyItem) :
    (sendItems engine node items turn).NeverBlank raw ↔
      ∀ slot ∈ items.map Slot.ofItem, slot.IsFilled engine := by
  cases items with
  | nil => exact ⟨fun _ => nofun, fun _ => trivial⟩
  | cons item rest => exact neverBlank_item_andThen_iff fun _ => neverBlank_sendFurther_iff rest

/-! ## Answers -/

/-- An answer is sent without blanks exactly when none of its slots is blank. -/
theorem neverBlank_obey_iff (answer : String) :
    (obey engine turn node answer).NeverBlank raw ↔
      ∀ slot ∈ Slot.ofAnswer answer, slot.IsFilled engine := by
  unfold obey Slot.ofAnswer
  cases Reply.ofText answer with
  | ok reply =>
      dsimp only
      cases reply.stage with
      | none => exact neverBlank_sendItems_iff _
      | some stage =>
          change (Process.step _ _).NeverBlank raw ↔ _
          constructor
          · intro never
            exact (neverBlank_sendItems_iff _).mp (never.2 (.ok ()) trivial)
          · intro filled
            refine ⟨trivial, fun outcome _ => ?_⟩
            cases outcome with
            | ok _ => exact (neverBlank_sendItems_iff _).mpr filled
            | error fault => trivial
  | error fault =>
      dsimp only
      cases blank : Text.isBlank answer with
      | true => exact ⟨fun _ => nofun, fun _ => trivial⟩
      | false =>
          rw [if_neg Bool.false_ne_true, if_neg Bool.false_ne_true, neverBlank_sendText_iff]
          simp [Slot.IsFilled]

/-- What comes back from the text generator is obeyed, if it is an answer. -/
theorem neverBlank_answered
    {outcome : Except Fault String}
    (told : Call.Tells raw (.generate request) outcome)
    (filled : ∀ slot ∈ Slot.ofAnswer raw, slot.IsFilled engine) :
    ((orPanic outcome).andThen fun
      | .ok answer => obey engine turn node answer
      | .error _ => .done turn).NeverBlank raw := by
  rcases outcome with (error | reason) | answer
  · trivial
  · trivial
  · obtain rfl := told answer rfl
    rw [orPanic, andThen_done]
    dsimp only
    rwa [neverBlank_obey_iff]

theorem neverBlank_consult_iff (turn : Turn) (node : Flow.Node) :
    (consult engine turn node).NeverBlank raw ↔
      (engine.hasGenerator = true → ∀ slot ∈ Slot.ofAnswer raw, slot.IsFilled engine) := by
  unfold consult
  simp only [bind_eq_andThen, pure_eq_done, ask, andThen_step, andThen_done]
  cases engine.hasGenerator with
  | false =>
      constructor
      · intro _ available
        cases available
      · exact fun _ => trivial
  | true =>
      rw [if_neg (by decide)]
      constructor
      · intro never _
        have answered := (never.2 (.ok []) trivial).2 (.ok raw)
          fun _ same => (Except.ok.inj same).symm
        simp only [orPanic, andThen_done] at answered
        rwa [← neverBlank_obey_iff]
      · intro filled
        have quiet : (turn.recent engine).NeverBlank raw :=
          (within_recent (by trivial)).weaken (fun _ filled => filled) (fun _ _ _ => trivial)
            fun _ done => done
        refine quiet.andThen (fun history _ => ?_) fun _ _ => trivial
        exact ⟨trivial, fun outcome told => neverBlank_answered told (filled rfl)⟩

/-- A node that lets the text generator answer sends what the answer says, and nothing else. -/
theorem neverBlank_step_iff (ai : node.kind.isAi = true) :
    (step engine graph node answering turn).NeverBlank raw ↔
      (engine.hasGenerator = true → ∀ slot ∈ Slot.ofAnswer raw, slot.IsFilled engine) := by
  rw [← neverBlank_consult_iff turn node]
  unfold step
  cases kind : node.kind with
  | aiPrompt | advancedAiPrompt | prompt =>
      exact ⟨fun never => never.of_andThen,
        fun never => never.andThen (fun _ _ => trivial) fun _ _ => trivial⟩
  | _ => rw [kind] at ai; cases ai

end Turn

namespace Slot

variable {engine : Engine} {reply : Reply} {raw : String}

/-- What stands in the place of an item is not blank exactly when the item is not, and neither is
the text that is sent when media cannot be used. -/
theorem isFilled_ofItem_iff (item : ReplyItem) :
    (ofItem item).IsFilled engine ↔
      item.isBlank = false ∧ (engine.hasValidator = true → item.media.isSome = true →
        Text.isBlank engine.settings.mediaFallbackText = false) := by
  unfold ofItem IsFilled ReplyItem.isBlank
  cases item.media <;> simp

/-- The slots of a reply are filled exactly when it has no blank item, and there is a text for media
that cannot be used. -/
theorem isFilled_ofAnswer_iff (read : Reply.ofText raw = .ok reply) :
    (∀ slot ∈ ofAnswer raw, slot.IsFilled engine) ↔
      reply.items.filter ReplyItem.isBlank = [] ∧
        (engine.hasValidator = true → (∃ item ∈ reply.items, item.media.isSome = true) →
          Text.isBlank engine.settings.mediaFallbackText = false) := by
  simp only [ofAnswer, read, List.forall_mem_map, isFilled_ofItem_iff, List.filter_eq_nil_iff,
    Bool.not_eq_true]
  constructor
  · intro filled
    refine ⟨fun item member => (filled item member).1, ?_⟩
    rintro validates ⟨item, member, media⟩
    exact (filled item member).2 validates media
  · rintro ⟨filled, inPlace⟩ item member
    exact ⟨filled item member, fun validates media => inPlace validates ⟨item, member, media⟩⟩

/-- An answer that is no reply is sent as it is, unless it is blank. -/
theorem isFilled_of_not_reply
    {fault : Reply.Fault}
    (read : Reply.ofText raw = .error fault) :
    ∀ slot ∈ ofAnswer raw, slot.IsFilled engine := by
  simp only [ofAnswer, read]
  cases blank : Text.isBlank raw with
  | true => nofun
  | false => simp [IsFilled, blank]

end Slot

namespace Turn

/-- The blank items of a reply are the blank plain texts of its response, and no others.  A node
that lets the text generator answer sends nothing blank exactly when there are none, and there is a
text for media that cannot be used.  What is no reply is never sent blank. -/
theorem blank_only_by_plain_texts
    (engine : Engine)
    (graph : Flow.Graph)
    (node : Flow.Node)
    (answering : Bool)
    (turn : Turn)
    (raw : String)
    (ai : node.kind.isAi = true) :
    (∀ reply, Reply.ofText raw = .ok reply →
      ∃ response, Reply.response? raw = some response ∧
        reply.items.filter ReplyItem.isBlank = Reply.blankItems response ∧
        ((step engine graph node answering turn).NeverBlank raw ↔
          (engine.hasGenerator = true → Reply.blankItems response = [] ∧
            (engine.hasValidator = true → (∃ item ∈ reply.items, item.media.isSome = true) →
              Text.isBlank engine.settings.mediaFallbackText = false)))) ∧
    ∀ fault, Reply.ofText raw = .error fault →
      (step engine graph node answering turn).NeverBlank raw := by
  constructor
  · intro reply read
    obtain ⟨response, written, blanks⟩ := Reply.filter_isBlank_of_ofText read
    refine ⟨response, written, blanks, ?_⟩
    rw [neverBlank_step_iff ai, Slot.isFilled_ofAnswer_iff read, blanks]
  · intro fault read
    exact (neverBlank_step_iff ai).mpr fun _ => Slot.isFilled_of_not_reply read

/-- A node that lets the text generator answer. -/
def adviser : Flow.Node where
  id := "advise"
  kind := .aiPrompt

/-- A reply whose response is one text. -/
def plainReply (text : String) : String :=
  "\x7b\"Response\":\"" ++ text ++ "\"\x7d"

theorem ofText_plainReply_hi :
    (Reply.ofText (plainReply "Hi")).toOption = some ⟨none, [⟨none, "Hi"⟩]⟩ := by
  decide +kernel

theorem ofText_plainReply_blank :
    (Reply.ofText (plainReply " ")).toOption = some ⟨none, [⟨none, " "⟩]⟩ := by
  decide +kernel

/-- What is accepted is a result. -/
theorem eq_ok_of_toOption
    {result : Except Reply.Fault Reply}
    {reply : Reply}
    (accepted : result.toOption = some reply) :
    result = .ok reply := by
  cases result with
  | error fault => cases accepted
  | ok value => rw [Option.some.inj accepted]

/-- A reply that is a word is sent. -/
theorem blank_only_by_plain_texts_hi :
    adviser.kind.isAi = true ∧ Reply.ofText (plainReply "Hi") = .ok ⟨none, [⟨none, "Hi"⟩]⟩ ∧
      (step { hasGenerator := true } .advice adviser false default).NeverBlank
        (plainReply "Hi") := by
  have read := eq_ok_of_toOption ofText_plainReply_hi
  obtain ⟨accepted, -⟩ := blank_only_by_plain_texts { hasGenerator := true } .advice adviser false
    default (plainReply "Hi") rfl
  obtain ⟨response, -, blanks, never⟩ := accepted _ read
  refine ⟨rfl, read, never.mpr fun _ => ⟨?_, nofun⟩⟩
  rw [← blanks]
  decide +kernel

/-- A reply that is a blank text is accepted with a blank item, and the blank text is sent. -/
theorem blank_by_plain_text :
    adviser.kind.isAi = true ∧ Reply.ofText (plainReply " ") = .ok ⟨none, [⟨none, " "⟩]⟩ ∧
      Text.isBlank " " = true ∧
      ¬ (step { hasGenerator := true } .advice adviser false default).NeverBlank
        (plainReply " ") := by
  have read := eq_ok_of_toOption ofText_plainReply_blank
  refine ⟨rfl, read, by decide +kernel, ?_⟩
  rw [neverBlank_step_iff rfl, Slot.isFilled_ofAnswer_iff read]
  intro never
  exact absurd (never rfl).1 (by decide +kernel)

end Turn
end ChatFlow
