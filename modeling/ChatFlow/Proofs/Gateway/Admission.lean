import ChatFlow.Gateway.Routes
import ChatFlow.Proofs.Ingress.Shift
import ChatFlow.Proofs.Json.Strings

/-!
# Who comes in, and what is taken in

Where a token is set, a request that does not show it learns nothing: it is refused in the same way
whatever the store and the queue hold.  A message that comes in is accepted exactly when it stands
at the end of the queue afterwards, and whatever else becomes of it leaves the queue as it was.
What it says is what was written: a webhook that is written as a JSON object is read back as it is,
whatever its texts hold.
-/

namespace ChatFlow

/-! ## Webhooks in writing -/

namespace Gateway
namespace Webhook

open Json

/-- The body of a webhook. -/
def toText (webhook : Webhook) : String :=
  compact (.object
    [("phone", .string webhook.phone), ("device", .string webhook.device),
      ("message", .string webhook.message), ("name", .ofOption webhook.name)])

/-- A string is read back. -/
theorem readText_encodeString (text : String) (rest : List Char) :
    readText (encodeString text ++ rest) = .ok (text, rest) := by
  rw [encodeString_append, readText]
  simp (disch := decide) only [skipSpace_cons, readString_encode]

/-- A string or a null is read back. -/
theorem readOptionalText_encode (text : Option String) (rest : List Char) :
    readOptionalText (encode (.ofOption text) ++ rest) = .ok (text, rest) := by
  cases text with
  | none => rfl
  | some text =>
      have read := readText_encodeString text rest
      rw [encodeString_append] at read
      change readOptionalText (encodeString text ++ rest) = _
      rw [encodeString_append, readOptionalText]
      simp (disch := decide) only [skipSpace_cons]
      change (readText _).map _ = _
      rw [read]
      rfl

/-- A string is read back behind the colon of its field. -/
theorem readTextField_colon (text : String) (rest : List Char) :
    readTextField none (':' :: (encodeString text ++ rest)) = .ok (text, rest) := by
  rw [readTextField]
  simp (disch := decide) only [skipSpace_cons, readText_encodeString]
  rfl

/-- A field whose value is read back is followed by further fields after a comma. -/
theorem readFields_next
    {draft after : Draft}
    {key : String}
    {value rest : List Char}
    (count : Nat)
    (read : readField draft key (':' :: (value ++ ',' :: rest)) = .ok (after, ',' :: rest)) :
    readFields (count + 1) draft (encodeString key ++ ':' :: (value ++ ',' :: rest)) =
      readFields count after rest := by
  rw [encodeString_append, readFields]
  simp (disch := decide) only [skipSpace_cons, readString_encode, read]
  rfl

/-- A field whose value is read back is the last one before the closing brace. -/
theorem readFields_last
    {draft after : Draft}
    {key : String}
    {value rest : List Char}
    (count : Nat)
    (read : readField draft key (':' :: (value ++ '\x7d' :: rest)) = .ok (after, '\x7d' :: rest)) :
    readFields (count + 1) draft (encodeString key ++ ':' :: (value ++ '\x7d' :: rest)) =
      .ok (after, rest) := by
  rw [encodeString_append, readFields]
  simp (disch := decide) only [skipSpace_cons, readString_encode, read]
  rfl

/-- The fields of a webhook, up to the closing brace. -/
def fieldsText (webhook : Webhook) : List Char :=
  encodeString "phone" ++ ':' :: (encodeString webhook.phone ++ ',' ::
    (encodeString "device" ++ ':' :: (encodeString webhook.device ++ ',' ::
      (encodeString "message" ++ ':' :: (encodeString webhook.message ++ ',' ::
        (encodeString "name" ++ ':' :: (encode (.ofOption webhook.name) ++ ['\x7d'])))))))

theorem toList_toText (webhook : Webhook) :
    webhook.toText.toList = '\x7b' :: webhook.fieldsText := by
  simp [toText, compact, encode, encodeFields, fieldsText]

/-- Its fields are read back one after the other. -/
theorem readFields_fieldsText (webhook : Webhook) (count : Nat) :
    readFields (count + 4) {} webhook.fieldsText =
      .ok (⟨webhook.phone, webhook.device, webhook.message, some webhook.name⟩, []) := by
  have phone (rest : List Char) :
      readField {} "phone" (':' :: (encodeString webhook.phone ++ rest)) =
        .ok ({ phone := webhook.phone }, rest) := by
    simp only [readField, readTextField_colon, Except.map]
  have device (rest : List Char) :
      readField { phone := webhook.phone } "device"
          (':' :: (encodeString webhook.device ++ rest)) =
        .ok ({ phone := webhook.phone, device := webhook.device }, rest) := by
    simp only [readField, readTextField_colon, Except.map]
  have message (rest : List Char) :
      readField { phone := webhook.phone, device := webhook.device } "message"
          (':' :: (encodeString webhook.message ++ rest)) =
        .ok (⟨webhook.phone, webhook.device, webhook.message, none⟩, rest) := by
    simp only [readField, readTextField_colon, Except.map]
  have name (rest : List Char) :
      readField ⟨webhook.phone, webhook.device, webhook.message, none⟩ "name"
          (':' :: (encode (.ofOption webhook.name) ++ rest)) =
        .ok (⟨webhook.phone, webhook.device, webhook.message, some webhook.name⟩, rest) := by
    simp only [readField, skipSpace_cons (show isSpace ':' = false by decide),
      readOptionalText_encode, Except.map]
    rfl
  rw [fieldsText, readFields_next (count + 3) (phone _), readFields_next (count + 2) (device _),
    readFields_next (count + 1) (message _), readFields_last count (name _)]

/-- A webhook is read back as it was written. -/
theorem ofText_toText (webhook : Webhook) : ofText webhook.toText = .ok webhook := by
  obtain ⟨count, length⟩ : ∃ count, webhook.fieldsText.length = count + 4 := by
    refine ⟨_, (Nat.sub_add_cancel ?_).symm⟩
    simp only [fieldsText, List.length_append, List.length_cons]
    omega
  have read := webhook.readFields_fieldsText count
  obtain ⟨rest, opened⟩ : ∃ rest, webhook.fieldsText = '"' :: rest :=
    ⟨_, encodeString_append "phone" _⟩
  rw [← length, opened] at read
  rw [ofText, toList_toText, readRecord, opened]
  simp (disch := decide) only [skipSpace_cons, read]
  rfl

end Webhook
end Gateway

/-! ## Who comes in -/

open Text (isBlank trim)

/-- The pool with a message at the end of its queue. -/
def Ingress.Pool.takeIn (pool : Ingress.Pool) (message : InboundMessage) : Ingress.Pool :=
  { pool with
    queue := pool.queue ++ [{ number := pool.accepted, message, attempt := 1 }]
    accepted := pool.accepted + 1 }

/-- A pool takes messages: it works, and has a free slot. -/
def Ingress.Pool.Takes (pool : Ingress.Pool) : Prop :=
  pool.cancelled = false ∧ pool.closed = false ∧ 0 < pool.available

/-- A message makes the queue longer. -/
theorem Ingress.Pool.admit_ne (pool : Ingress.Pool) (message : InboundMessage) :
    pool.takeIn message ≠ pool := by
  intro same
  have length := congrArg (fun pool => pool.queue.length) same
  simp [takeIn] at length

namespace Gateway

namespace Request

/-- The value of the first header with a name. -/
def firstHeader? (request : Request) (name : String) : Option String :=
  (request.headers.find? fun header => Text.equalIgnoringAsciiCase header.1 name).map Prod.snd

/-- A request to take in a message. -/
def IsWebhook (request : Request) : Prop :=
  request.method = "POST" ∧ Route.ofSteps? request.steps = some .webhook

/-- A request to show the running execution of a conversation. -/
def IsLookup (request : Request) : Prop :=
  request.method = "GET" ∧
    ∃ device phone, Route.ofSteps? request.steps = some (.execution device phone)

/-- A request brings a message: its body is JSON of a bearable size, and says all that is
needed. -/
structure Brings (request : Request) (message : InboundMessage) : Prop where
  isJson : request.isJson = true
  isBearable : request.body.utf8ByteSize ≤ bodyLimit
  /-- The phone and the device, which must not be blank, are trimmed; the text stays as it is; the
  name is left out when it is blank. -/
  meaning : ∃ webhook, Webhook.ofText request.body = .ok webhook ∧
    isBlank webhook.phone = false ∧ isBlank webhook.device = false ∧
    message =
      { conversation := { phone := trim webhook.phone, device := trim webhook.device }
        text := webhook.message
        displayName := webhook.name.filter fun name => !isBlank name }

variable {request : Request} {message : InboundMessage} {token : String}

/-- Who does not show the token first may not come in. -/
theorem isAllowed_eq_false
    (unshown : request.firstHeader? "authorization" ≠ some ("Bearer " ++ token)) :
    request.isAllowed (some token) = false := by
  refine beq_eq_false_iff_ne.mpr fun shown => unshown ?_
  unfold header? at shown
  unfold firstHeader?
  split at shown
  · rename_i found
    split at shown
    · rw [found]
      exact shown
    · cases shown
  · cases shown

end Request

section Answers

variable {request : Request} {message : InboundMessage} {token : Option String} {store : Store}
  {pool : Ingress.Pool}

theorem decide_of_isWebhook (isWebhook : request.IsWebhook) :
    decide token store pool request =
      if request.isAllowed token then receive request else .reply { status := 401 } := by
  obtain ⟨method, route⟩ := isWebhook
  simp [decide, method, route, decideRoute]

theorem decide_of_isLookup
    {secret : String}
    (isLookup : request.IsLookup)
    (barred : request.isAllowed (some secret) = false) :
    decide (some secret) store pool request = .reply { status := 401 } := by
  obtain ⟨method, device, phone, route⟩ := isLookup
  simp [decide, method, route, decideRoute, barred]

/-- A webhook has a message unless its phone or its device is blank. -/
theorem Webhook.message?_eq_some_iff {webhook : Webhook} :
    webhook.message? = some message ↔
      isBlank webhook.phone = false ∧ isBlank webhook.device = false ∧
        message =
          { conversation := { phone := trim webhook.phone, device := trim webhook.device }
            text := webhook.message
            displayName := webhook.name.filter fun name => !isBlank name } := by
  unfold message?
  cases isBlank webhook.phone <;> cases isBlank webhook.device <;> simp [eq_comm]

/-- A request to take in a message submits the message that it brings, and when it brings none it
is refused. -/
theorem receive_cases (request : Request) :
    (∃ message, request.Brings message ∧ receive request = .enqueue message) ∨
    ∃ reply, (∀ message, ¬ request.Brings message) ∧ reply.status ≠ 202 ∧
      receive request = .reply reply := by
  unfold receive
  cases isJson : request.isJson with
  | false =>
      exact .inr ⟨_, fun _ brings => by simpa [isJson] using brings.isJson, by decide, rfl⟩
  | true =>
      rcases Nat.lt_or_ge bodyLimit request.body.utf8ByteSize with long | bearable
      · simp only [Bool.not_true, Bool.false_eq_true, if_false, if_pos long]
        exact .inr ⟨_, fun _ brings => Nat.not_le.mpr long brings.isBearable, by decide, rfl⟩
      · simp only [Bool.not_true, Bool.false_eq_true, if_false, if_neg (Nat.not_lt.mpr bearable)]
        cases read : Webhook.ofText request.body with
        | error fault =>
            have unsaid (message : InboundMessage) : ¬ request.Brings message := by
              rintro ⟨_, _, webhook, said, _⟩
              cases read.symm.trans said
            cases fault with
            | malformed => exact .inr ⟨_, unsaid, by decide, rfl⟩
            | misshapen => exact .inr ⟨_, unsaid, by decide, rfl⟩
        | ok webhook =>
            cases meaning : webhook.message? with
            | some message =>
                have said := Webhook.message?_eq_some_iff.mp meaning
                exact .inl ⟨message, ⟨isJson, bearable, webhook, read, said⟩, by simp [meaning]⟩
            | none =>
                have unsaid (message : InboundMessage) : ¬ request.Brings message := by
                  rintro ⟨_, _, webhook, said, meant⟩
                  cases read.symm.trans said
                  cases meaning.symm.trans (Webhook.message?_eq_some_iff.mpr meant)
                simp only [meaning]
                exact .inr ⟨_, unsaid, (by decide : 400 ≠ 202), rfl⟩

/-- A request to take in a message that comes in is accepted exactly when it brings a message and
the pool takes messages, which then stands at the end of the queue; otherwise nothing changes. -/
theorem answer_cases
    (isWebhook : request.IsWebhook)
    (allowed : request.isAllowed token = true)
    (store : Store)
    (pool : Ingress.Pool) :
    ((answer token store pool request).1.status = 202 ∧ pool.Takes ∧
      ∃ message, request.Brings message ∧
        (answer token store pool request).2 = pool.takeIn message) ∨
    ((answer token store pool request).1.status ≠ 202 ∧
      (answer token store pool request).2 = pool ∧
      ((∃ message, request.Brings message) → ¬ pool.Takes)) := by
  rw [answer, decide_of_isWebhook isWebhook, allowed, if_pos rfl]
  rcases receive_cases request with
    ⟨message, brings, received⟩ | ⟨reply, unbrought, refused, received⟩
  · rw [received]
    rcases pool.submit_cases message with
      ⟨shut, result⟩ | ⟨_, full, result⟩ | ⟨works, free, result⟩
    · have shutOut : ¬ pool.Takes := by
        rintro ⟨running, serving, _⟩
        simp [running, serving] at shut
      simp only [result]
      exact .inr ⟨(by decide : 503 ≠ 202), rfl, fun _ => shutOut⟩
    · have fullUp : ¬ pool.Takes := fun takes =>
        Nat.not_lt.mpr full (Nat.lt_of_sub_pos takes.2.2)
      simp only [result]
      exact .inr ⟨(by decide : 429 ≠ 202), rfl, fun _ => fullUp⟩
    · obtain ⟨running, serving⟩ := Bool.or_eq_false_iff.mp works
      simp only [result]
      exact .inl ⟨rfl, ⟨running, serving, Nat.sub_pos_of_lt free⟩, message, brings, rfl⟩
  · rw [received]
    exact .inr ⟨refused, rfl, fun ⟨message, brings⟩ => (unbrought message brings).elim⟩

end Answers

/-- Who does not show the token gets one and the same answer, whatever the store and the queue
hold, and leaves the queue as it is.  Who may hand over a message is told that it is accepted
exactly when it stands at the end of the queue afterwards: when the request brings one, and the
pool takes it.  With any other answer the queue stays as it is.  What a request brings is what was
written into it. -/
theorem admission :
    (∀ (token : String) (request : Request), request.IsWebhook ∨ request.IsLookup →
      request.firstHeader? "authorization" ≠ some ("Bearer " ++ token) →
      ∀ store pool, answer (some token) store pool request = ({ status := 401 }, pool)) ∧
    (∀ (token : Option String) (request : Request), request.IsWebhook →
      request.isAllowed token = true →
      ∀ store pool reply after, answer token store pool request = (reply, after) →
        (reply.status = 202 ↔ ∃ message, request.Brings message ∧ after = pool.takeIn message) ∧
        (reply.status = 202 ↔ (∃ message, request.Brings message) ∧ pool.Takes) ∧
        (reply.status ≠ 202 → after = pool)) ∧
    ∀ webhook : Webhook, Webhook.ofText webhook.toText = .ok webhook := by
  refine ⟨?_, ?_, Webhook.ofText_toText⟩
  · intro token request guarded unshown store pool
    have barred := Request.isAllowed_eq_false unshown
    rcases guarded with isWebhook | isLookup
    · rw [answer, decide_of_isWebhook isWebhook, barred]
      rfl
    · rw [answer, decide_of_isLookup isLookup barred]
  · intro token request isWebhook allowed store pool reply after answered
    have becomes := answer_cases isWebhook allowed store pool
    rw [answered] at becomes
    rcases becomes with ⟨accepted, takes, message, brings, rfl⟩ | ⟨refused, rfl, untaken⟩
    · exact ⟨iff_of_true accepted ⟨message, brings, rfl⟩,
        iff_of_true accepted ⟨⟨message, brings⟩, takes⟩, fun refused => (refused accepted).elim⟩
    · refine ⟨iff_of_false refused ?_, iff_of_false refused ?_, fun _ => rfl⟩
      · rintro ⟨message, _, same⟩
        exact Ingress.Pool.admit_ne _ message same.symm
      · rintro ⟨brought, takes⟩
        exact untaken brought takes

/-! ## A message from Ana -/

/-- What Ana's webhook says. -/
def Webhook.ofAna : Webhook where
  phone := " 2 "
  device := "1"
  message := " \"Hi\"\n"
  name := some " "

/-- A request that brings it, and shows a token. -/
def Request.ofAna (token : String) : Request where
  method := "POST"
  target := "/webhook"
  headers := [("Content-Type", "application/json"), ("Authorization", "Bearer " ++ token)]
  body := Webhook.ofAna.toText

/-- Her message: without the blanks around the phone, with those around the text, and without the
name, which is blank. -/
def messageOfAna : InboundMessage where
  conversation := { phone := "2", device := "1" }
  text := " \"Hi\"\n"

/-- A pool with one free slot. -/
def slot : Ingress.Pool where
  capacity := 1
  maxAttempts := 1

theorem admission_ana :
    answer (some "open") {} slot (.ofAna "sesame") = ({ status := 401 }, slot) ∧
    (answer (some "open") {} slot (.ofAna "open")).1.status = 202 ∧
    (answer (some "open") {} slot (.ofAna "open")).2 = slot.takeIn messageOfAna := by
  obtain ⟨gate, handover, reads⟩ := admission
  have brings : (Request.ofAna "open").Brings messageOfAna :=
    { isJson := by decide +kernel
      isBearable := by decide +kernel
      meaning := ⟨.ofAna, reads .ofAna, by decide +kernel, by decide +kernel, by decide +kernel⟩ }
  obtain ⟨accepted_iff, taken_iff, _⟩ :=
    handover (some "open") (.ofAna "open") ⟨rfl, by decide +kernel⟩ (by decide +kernel) {} slot
      (answer (some "open") {} slot (.ofAna "open")).1
      (answer (some "open") {} slot (.ofAna "open")).2 rfl
  have accepted := taken_iff.mpr ⟨⟨messageOfAna, brings⟩, rfl, rfl, by decide⟩
  obtain ⟨message, ⟨_, _, webhook, read, _, _, meant⟩, same⟩ := accepted_iff.mp accepted
  have webhook_eq : Webhook.ofAna = webhook := Except.ok.inj ((reads .ofAna).symm.trans read)
  have message_eq : message = messageOfAna := by
    rw [meant, ← webhook_eq]
    decide +kernel
  rw [message_eq] at same
  refine ⟨?_, accepted, same⟩
  exact gate "open" (.ofAna "sesame") (.inl ⟨rfl, by decide +kernel⟩) (by decide +kernel) {} slot

end Gateway
end ChatFlow
