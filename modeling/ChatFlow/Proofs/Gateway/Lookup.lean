import ChatFlow.Http.Url
import ChatFlow.Proofs.Engine.Traffic
import ChatFlow.Proofs.Gateway.Admission
import ChatFlow.Proofs.Text.Cuts
import Mathlib.Data.List.DropRight

/-!
# Who is found

When a message comes in, the blanks around the names of its conversation are left out.  When
somebody asks for the running execution of a conversation they are not, so that a conversation is
found under its names only as they are without these blanks, and not as they were handed over.

Percent signs do not matter for this: a name in which characters are written as their bytes in
hexadecimal is read back as it was.
-/

namespace ChatFlow

/-! ## Percent signs -/

/-- The bytes of an array from a place on are listed behind those that were listed before. -/
theorem toList_loop_eq (bytes : ByteArray) (index : Nat) (listed : List UInt8) :
    ByteArray.toList.loop bytes index listed =
      listed.reverse ++ bytes.data.toList.drop index := by
  fun_induction ByteArray.toList.loop bytes index listed with
  | case1 index listed inside inductionHypothesis =>
      have within : index < bytes.data.toList.length := inside
      have first : bytes.get! index = bytes.data.toList[index] :=
        getElem!_pos bytes.data index inside
      rw [inductionHypothesis, List.reverse_cons, List.append_assoc, List.singleton_append, first,
        ← List.drop_eq_getElem_cons within]
  | case2 index listed outside =>
      have none : bytes.data.toList.length ≤ index := Nat.le_of_not_lt outside
      rw [List.drop_of_length_le none, List.append_nil]

/-- The bytes of a character. -/
theorem toList_toUTF8_singleton (c : Char) :
    (String.singleton c).toUTF8.toList = String.utf8EncodeChar c := by
  rw [ByteArray.toList, toList_loop_eq, String.toUTF8, String.toByteArray_singleton,
    List.utf8Encode, List.toList_data_toByteArray]
  simp

/-- A digit has the value that it was written for. -/
theorem Text.upperHexDigit_spec :
    ∀ value < 16, isHexDigit (upperHexDigit value) = true ∧
      hexDigitValue (upperHexDigit value) = value := by
  decide

namespace Http

variable {set : List Char} {c : Char}

/-- A byte is read back. -/
theorem percentBytes_percentByte (byte : UInt8) (rest : List Char) :
    percentBytes (Url.percentByte byte ++ rest) = byte :: percentBytes rest := by
  have small : byte.toNat < 256 := byte.toNat_lt_size
  obtain ⟨isHigh, high⟩ := Text.upperHexDigit_spec (byte.toNat / 16) (by omega)
  obtain ⟨isLow, low⟩ := Text.upperHexDigit_spec (byte.toNat % 16) (by omega)
  have whole : byte.toNat / 16 * 16 + byte.toNat % 16 = byte.toNat := Nat.div_add_mod' _ _
  simp only [Url.percentByte, List.cons_append, List.nil_append, percentBytes, isHigh, isLow,
    Bool.and_self, if_true, high, low, whole, UInt8.ofNat_toNat]

/-- So are any bytes. -/
theorem percentBytes_flatMap_percentByte (bytes : List UInt8) (rest : List Char) :
    percentBytes (bytes.flatMap Url.percentByte ++ rest) = bytes ++ percentBytes rest := by
  induction bytes with
  | nil => rfl
  | cons byte bytes inductionHypothesis =>
      rw [List.flatMap_cons, List.append_assoc, percentBytes_percentByte, inductionHypothesis,
        List.cons_append]

/-- A character but the percent sign stands for its bytes. -/
theorem percentBytes_cons (other : c ≠ '%') (rest : List Char) :
    percentBytes (c :: rest) = String.utf8EncodeChar c ++ percentBytes rest := by
  rw [percentBytes, toList_toUTF8_singleton]
  rintro high low tail rfl
  exact (other rfl).elim

/-- Whichever characters are written as bytes, the bytes are those of the text. -/
theorem percentBytes_percentEncode (escapes : '%' ∈ set) (characters : List Char) :
    percentBytes (Url.percentEncode set characters) =
      characters.flatMap String.utf8EncodeChar := by
  induction characters with
  | nil => rfl
  | cons c rest inductionHypothesis =>
      rw [Url.percentEncode] at inductionHypothesis
      rw [Url.percentEncode, List.flatMap_cons, List.flatMap_cons]
      split
      · rw [percentBytes_flatMap_percentByte, toList_toUTF8_singleton, inductionHypothesis]
      · rename_i plain
        have other : c ≠ '%' := by
          rintro rfl
          simp [escapes] at plain
        rw [List.singleton_append, percentBytes_cons other, inductionHypothesis]

/-- The text is read back. -/
theorem percentDecode?_percentEncode (escapes : '%' ∈ set) (text : String) :
    percentDecode? (Url.percentEncode set text.toList) = some text := by
  have bytes_eq : text.toList.flatMap String.utf8EncodeChar = text.toByteArray.data.toList := by
    rw [← String.utf8Encode_toList, List.utf8Encode, List.toList_data_toByteArray]
  rw [percentDecode?, percentBytes_percentEncode escapes, bytes_eq]
  exact dif_pos text.isValidUTF8

/-- A character that is to be written as its bytes does not stand for itself, unless it is needed
for writing bytes. -/
theorem not_mem_percentEncode
    (escaped : c ∈ set)
    (noPercent : c ≠ '%')
    (noDigit : Text.isHexDigit c = false)
    (characters : List Char) :
    c ∉ Url.percentEncode set characters := by
  rw [Url.percentEncode, List.mem_flatMap]
  rintro ⟨written, -, member⟩
  split at member
  · obtain ⟨byte, -, digit⟩ := List.mem_flatMap.mp member
    have small : byte.toNat < 256 := byte.toNat_lt_size
    have isHigh := (Text.upperHexDigit_spec (byte.toNat / 16) (by omega)).1
    have isLow := (Text.upperHexDigit_spec (byte.toNat % 16) (by omega)).1
    simp only [Url.percentByte, List.mem_cons, List.not_mem_nil, or_false] at digit
    rcases digit with percent | high | low
    · exact noPercent percent
    · rw [high, isHigh] at noDigit
      cases noDigit
    · rw [low, isLow] at noDigit
      cases noDigit
  · rename_i plain
    obtain rfl := List.mem_singleton.mp member
    simp [escaped] at plain

end Http

/-! ## Blanks -/

open Text (isBlank trim)

namespace Text

/-- Trimming leaves nothing to trim. -/
@[simp] theorem trim_trim (text : String) : trim (trim text) = trim text := by
  have trimChars_eq (characters : List Char) :
      trimChars characters = (characters.dropWhile isBlankChar).rdropWhile isBlankChar := rfl
  have front (characters : List Char) :
      (trimChars characters).dropWhile isBlankChar = trimChars characters := by
    cases trimmed : trimChars characters with
    | nil => rfl
    | cons c rest =>
        obtain ⟨blanks, whole⟩ :=
          List.rdropWhile_prefix isBlankChar (characters.dropWhile isBlankChar)
        have begins := List.head?_dropWhile_not isBlankChar characters
        rw [← whole, ← trimChars_eq, trimmed] at begins
        exact dropWhile_isBlankChar_of_not_blank c rest begins
  rw [trim, trim, String.toList_ofList, trimChars_eq (trimChars _), front, trimChars_eq,
    List.rdropWhile_idempotent]

/-- Parts that are put behind separators are found again. -/
theorem splitOnChar_append_flatMap
    {separator : Char}
    {part : List Char}
    {parts : List (List Char)}
    (absent : ∀ other ∈ part :: parts, separator ∉ other) :
    splitOnChar separator (part ++ parts.flatMap (separator :: ·)) = part :: parts := by
  induction parts generalizing part with
  | nil =>
      rw [List.flatMap_nil, List.append_nil]
      exact splitOnChar_of_not_mem (absent part List.mem_cons_self)
  | cons next parts inductionHypothesis =>
      obtain ⟨absentHere, absentThere⟩ := List.forall_mem_cons.mp absent
      rw [List.flatMap_cons, List.cons_append, splitOnChar_append_cons,
        splitOnChar_of_not_mem absentHere, inductionHypothesis absentThere, List.singleton_append]

end Text

/-- There are no blanks around the names of a conversation. -/
def Conversation.IsTrimmed (conversation : Conversation) : Prop :=
  trim conversation.phone = conversation.phone ∧ trim conversation.device = conversation.device

instance (conversation : Conversation) : Decidable conversation.IsTrimmed :=
  inferInstanceAs (Decidable (_ ∧ _))

/-! ## The conversations of executions -/

namespace Charge

variable {request : Request} {charge : Charge} {call : Call}

/-- Only by taking the lock a request comes inside. -/
theorem exists_acquire_of_isInside
    {outcome : call.Outcome}
    (outside : charge.isInside = false)
    (allows : charge.Allows request call)
    (inside : (charge.next call outcome).isInside = true) :
    call = .acquire request.conversation := by
  by_cases isAloof : call.isAloof = true
  · rw [next_of_isAloof isAloof, outside] at inside
    cases inside
  · cases charge with
    | entered | vacant | tending | settled => cases outside
    | outside =>
        cases call with
        | acquire conversation => exact congrArg Call.acquire allows
        | release => cases allows.1
        | activeExecution | executionById | latestExecution | createExecution | advance
        | setWaiting | complete | setStage | saveVariables | enqueue => cases allows
        | _ => exact (isAloof rfl).elim
    | left =>
        cases call with
        | release => cases allows.1
        | acquire | activeExecution | executionById | latestExecution | createExecution | advance
        | setWaiting | complete | setStage | saveVariables | enqueue => cases allows
        | _ => exact (isAloof rfl).elim

end Charge

namespace Traffic

variable {ι : Type} {site : Site} {engine : ι → Engine} {asked : ι → Request}
  {traffic later : Traffic ι} {caller : ι} {holds : Conversation → Prop}

/-- Something holds of the conversations of all executions and of all requests that hold a lock. -/
structure AllOf (holds : Conversation → Prop) (asked : ι → Request) (traffic : Traffic ι) :
    Prop where
  rows : ∀ row ∈ traffic.scene.store.executions, holds row.conversation
  inside : ∀ caller, (traffic.charge caller).isInside = true → holds (asked caller).conversation

/-- What holds of the conversations of messages holds of the conversation of each request that can
be made: a continuation has the conversation of an execution. -/
theorem AllOf.of_offers
    (all : AllOf holds asked traffic)
    (minded : Minded asked traffic)
    (ofMessages : ∀ caller message, asked caller = .message message → holds message.conversation)
    (offered : traffic.scene.Offers (asked caller)) :
    holds (asked caller).conversation := by
  cases isIt : asked caller with
  | message message => exact ofMessages caller message isIt
  | continuation item =>
      rw [isIt] at offered
      obtain ⟨queued, member, retries⟩ := offered
      obtain ⟨row, rowMember, -, same⟩ := minded.single.named queued member
      have conversation_eq : item.conversation = row.conversation := by
        rw [retries, same]
      rw [Request.conversation, conversation_eq]
      exact all.rows row rowMember

variable [DecidableEq ι]

/-- It holds after a call, too: an execution is added by a request that holds the lock. -/
theorem AllOf.calls
    (all : AllOf holds asked traffic)
    (minded : Minded asked traffic)
    (ofMessages : ∀ caller message, asked caller = .message message → holds message.conversation)
    (calls : Calls site asked caller traffic later) :
    AllOf holds asked later := by
  obtain ⟨does, -, -⟩ := minded.calls calls
  refine ⟨fun row member => ?_, ?_⟩
  · by_cases same : row.conversation = (asked caller).conversation
    · cases isInside : (traffic.charge caller).isInside with
      | true =>
          rw [same]
          exact all.inside caller isInside
      | false =>
          rw [does.rows_eq isInside] at member
          exact all.rows row member
    · exact all.rows row (does.mem_of_ne member same)
  · cases calls with
    | @call call next outcome after rest_eq answered offered serial =>
        have minds := minded.minds caller
        rw [rest_eq] at minds
        intro other inside
        by_cases isIt : other = caller
        · subst isIt
          simp only [Function.update_self] at inside
          cases isInside : (traffic.charge other).isInside with
          | true => exact all.inside other isInside
          | false =>
              have taken := Charge.exists_acquire_of_isInside isInside minds.1 inside
              exact all.of_offers minded ofMessages (offered _ taken)
        · simp only [ne_eq, isIt, not_false_eq_true, Function.update_of_ne] at inside
          exact all.inside other inside

/-- What holds of the conversations of all messages holds of those of all executions. -/
theorem allOf_of_reaches
    (ofMessages : ∀ caller message, asked caller = .message message → holds message.conversation)
    (reaches : Reaches site asked (start engine asked) traffic) :
    AllOf holds asked traffic := by
  induction reaches with
  | refl =>
      refine ⟨fun row member => ?_, fun caller inside => ?_⟩
      · cases member
      · cases inside
  | tail reached step inductionHypothesis =>
      cases step with
      | call calls => exact inductionHypothesis.calls (minded_of_reaches reached) ofMessages calls
      | cut caller fault =>
          refine ⟨inductionHypothesis.rows, fun other inside => ?_⟩
          by_cases isIt : other = caller
          · subst isIt
            simp [Charge.isInside] at inside
          · simp only [ne_eq, isIt, not_false_eq_true, Function.update_of_ne] at inside
            exact inductionHypothesis.inside other inside

end Traffic

namespace Gateway

/-! ## Asking for a conversation -/

namespace Request

variable {request : Request} {conversation : Conversation}

/-- A request asks for the running execution of a conversation, whose names may be percent encoded
in any way. -/
structure AsksFor (request : Request) (conversation : Conversation) : Prop where
  isGet : request.method = "GET"
  encoded : ∃ device phone,
    request.steps = ["api".toList, "executions".toList, device, phone] ∧
    Http.percentDecode? device = some conversation.device ∧
    Http.percentDecode? phone = some conversation.phone

/-- The characters, besides the controls and all that is not ASCII, that are written as bytes in a
step of a path. -/
def stepSet : List Char := "$%&+,".toList ++ Http.Url.userSet

/-- The steps of the path on which a conversation is found. -/
def lookupSteps (conversation : Conversation) : List (List Char) :=
  ["api".toList, "executions".toList,
    Http.Url.percentEncode stepSet conversation.device.toList,
    Http.Url.percentEncode stepSet conversation.phone.toList]

/-- The request that asks for a conversation in the usual way. -/
def lookup (headers : List (String × String)) (conversation : Conversation) : Request where
  method := "GET"
  target := String.ofList ((lookupSteps conversation).flatMap ('/' :: ·))
  headers

/-- The steps hold nothing that ends a step or the path. -/
theorem not_mem_lookupSteps
    {step : List Char}
    {c : Char}
    (conversation : Conversation)
    (isMark : c ∈ ['/', '?', '#'])
    (member : step ∈ lookupSteps conversation) :
    c ∉ step := by
  have escaped : c ∈ stepSet ∧ c ≠ '%' ∧ Text.isHexDigit c = false ∧
      c ∉ "api".toList ∧ c ∉ "executions".toList := by
    simp only [List.mem_cons, List.not_mem_nil, or_false] at isMark
    rcases isMark with rfl | rfl | rfl <;> decide
  obtain ⟨inSet, noPercent, noDigit, notFirst, notSecond⟩ := escaped
  simp only [lookupSteps, List.mem_cons, List.not_mem_nil, or_false] at member
  rcases member with rfl | rfl | rfl | rfl
  · exact notFirst
  · exact notSecond
  · exact Http.not_mem_percentEncode inSet noPercent noDigit _
  · exact Http.not_mem_percentEncode inSet noPercent noDigit _

/-- They are the steps of the request. -/
theorem steps_lookup (headers : List (String × String)) (conversation : Conversation) :
    (lookup headers conversation).steps = lookupSteps conversation := by
  have inPath : ∀ c ∈ (lookupSteps conversation).flatMap ('/' :: ·),
      (c != '?' && c != '#') = true := by
    intro c member
    obtain ⟨step, stepMember, inStep⟩ := List.mem_flatMap.mp member
    rcases List.mem_cons.mp inStep with rfl | inStep
    · rfl
    · rw [Bool.and_eq_true, bne_iff_ne, bne_iff_ne]
      constructor
      · rintro rfl
        exact not_mem_lookupSteps _ (by decide) stepMember inStep
      · rintro rfl
        exact not_mem_lookupSteps _ (by decide) stepMember inStep
  have parted := Text.splitOnChar_append_flatMap
    (List.forall_mem_cons.mpr ⟨List.not_mem_nil, fun step member =>
      not_mem_lookupSteps conversation (c := '/') (by decide) member⟩)
  rw [List.nil_append] at parted
  rw [steps, lookup, String.toList_ofList, List.takeWhile_eq_self_iff.mpr inPath, parted]
  rfl

/-- Any conversation can be asked for. -/
theorem asksFor_lookup (headers : List (String × String)) (conversation : Conversation) :
    (lookup headers conversation).AsksFor conversation where
  isGet := rfl
  encoded := ⟨_, _, steps_lookup headers conversation,
    Http.percentDecode?_percentEncode (by decide) _,
    Http.percentDecode?_percentEncode (by decide) _⟩

/-- A request is for the running execution of the conversation that it asks for, if that has
names. -/
theorem AsksFor.route
    (asks : request.AsksFor conversation)
    (device_ne : conversation.device ≠ "")
    (phone_ne : conversation.phone ≠ "") :
    ∃ device phone, Route.ofSteps? request.steps = some (.execution device phone) ∧
      Http.percentDecode? device = some conversation.device ∧
      Http.percentDecode? phone = some conversation.phone := by
  obtain ⟨-, device, phone, steps_eq, isDevice, isPhone⟩ := asks
  refine ⟨device, phone, ?_, isDevice, isPhone⟩
  have filled {step : List Char} {name : String} (decoded : Http.percentDecode? step = some name)
      (named : name ≠ "") : step.isEmpty = false := by
    cases step with
    | nil => exact (named (Option.some.inj decoded).symm).elim
    | cons => rfl
  rw [steps_eq]
  simp [Route.ofSteps?, filled isDevice device_ne, filled isPhone phone_ne]

end Request

variable {request : Request} {conversation : Conversation} {message : InboundMessage}
  {token : Option String}

/-- The answer shows the running execution of the conversation that is asked for. -/
theorem answer_of_asksFor
    (asks : request.AsksFor conversation)
    (allowed : request.isAllowed token = true)
    (device_ne : conversation.device ≠ "")
    (phone_ne : conversation.phone ≠ "")
    (store : Store)
    (pool : Ingress.Pool) :
    answer token store pool request =
      (match store.active? conversation with
        | some execution => { status := 200, body := some (executionBody execution) }
        | none => { status := 404 }, pool) := by
  obtain ⟨device, phone, route, isDevice, isPhone⟩ := asks.route device_ne phone_ne
  have decided : decide token store pool request = .reply (execution store device phone) := by
    simp [decide, asks.isGet, route, decideRoute, allowed]
  cases found : store.active? conversation <;>
    simp [answer, decided, execution, isDevice, isPhone, found]

/-- What a request brings is for a conversation whose names are trimmed. -/
theorem Request.Brings.isTrimmed (brings : request.Brings message) :
    message.conversation.IsTrimmed := by
  obtain ⟨webhook, -, -, -, rfl⟩ := brings.meaning
  exact ⟨Text.trim_trim _, Text.trim_trim _⟩

/-- A request to take in a message that is accepted may come in. -/
theorem isAllowed_of_accepted
    {store : Store}
    {pool : Ingress.Pool}
    (isWebhook : request.IsWebhook)
    (accepted : (answer token store pool request).1.status = 202) :
    request.isAllowed token = true := by
  rw [answer, decide_of_isWebhook isWebhook] at accepted
  cases allowed : request.isAllowed token with
  | true => rfl
  | false =>
      rw [allowed] at accepted
      cases accepted

/-- Whoever has handed over a message can ask for its conversation.  If all messages have come in
over the gateway, then as long as an execution of the conversation runs, it is found under the names
that were handed over exactly when there are no blanks around them.  With a blank at any of their
ends there seems to be nothing. -/
theorem found_iff_trimmed
    {ι : Type}
    [DecidableEq ι]
    {site : Site}
    {engine : ι → Engine}
    {asked : ι → ChatFlow.Request}
    {traffic : Traffic ι}
    {store : Store}
    {pool : Ingress.Pool}
    {post : Request}
    {webhook : Webhook}
    {row : ExecutionRow}
    (handedOver : ∀ caller message, asked caller = .message message →
      ∃ post : Request, post.IsWebhook ∧ post.Brings message)
    (reaches : Traffic.Reaches site asked (Traffic.start engine asked) traffic)
    (isWebhook : post.IsWebhook)
    (accepted : (answer token store pool post).1.status = 202)
    (said : Webhook.ofText post.body = .ok webhook)
    (member : row ∈ traffic.scene.store.executions)
    (active : row.status = .active)
    (same : row.conversation = { phone := trim webhook.phone, device := trim webhook.device }) :
    let named : Conversation := { phone := webhook.phone, device := webhook.device }
    (∃ request : Request, request.AsksFor named ∧ request.isAllowed token = true) ∧
      ∀ request : Request, request.AsksFor named → request.isAllowed token = true → ∀ later,
        answer token traffic.scene.store later request =
          (if named.IsTrimmed then
            { status := 200, body := some (executionBody row.toExecution) }
          else { status := 404 }, later) := by
  intro named
  have allowed := isAllowed_of_accepted isWebhook accepted
  have trimmed : ∀ row ∈ traffic.scene.store.executions, row.conversation.IsTrimmed := by
    refine (Traffic.allOf_of_reaches (fun caller message isIt => ?_) reaches).rows
    obtain ⟨post, -, brings⟩ := handedOver caller message isIt
    exact brings.isTrimmed
  have dark : isBlank webhook.phone = false ∧ isBlank webhook.device = false := by
    rcases answer_cases isWebhook allowed store pool with
      ⟨-, -, message, brings, -⟩ | ⟨refused, -⟩
    · obtain ⟨other, read, phoneDark, deviceDark, -⟩ := brings.meaning
      obtain rfl := Except.ok.inj (said.symm.trans read)
      exact ⟨phoneDark, deviceDark⟩
    · exact (refused accepted).elim
  have filled {name : String} (dark : isBlank name = false) : name ≠ "" := by
    rintro rfl
    cases dark
  refine ⟨⟨.lookup post.headers named, Request.asksFor_lookup _ _, allowed⟩,
    fun request asks mayAsk later => ?_⟩
  rw [answer_of_asksFor asks mayAsk (filled dark.2) (filled dark.1)]
  cases looked : traffic.scene.store.active? named with
  | some execution =>
      obtain ⟨found, foundMember, foundSame, foundActive, rfl⟩ := Store.of_active?_eq_some looked
      have isTrimmed : named.IsTrimmed := foundSame ▸ trimmed found foundMember
      have together : found.conversation = row.conversation := by
        rw [foundSame, same, isTrimmed.1, isTrimmed.2]
      rw [if_pos isTrimmed, (Traffic.minded_of_reaches reaches).single.single found foundMember row
        member foundActive active together]
  | none =>
      have untrimmed : ¬ named.IsTrimmed := fun isTrimmed =>
        Store.of_active?_eq_none looked member
          (by rw [same, isTrimmed.1, isTrimmed.2]) active
      rw [if_neg untrimmed]

/-! ## Ana's conversation -/

/-- A webhook that says what Ana says, with a phone of any layout. -/
def Webhook.ofAnaUnder (phone : String) : Webhook where
  phone
  device := "1"
  message := "go"
  name := some "Ana"

/-- A request that brings it. -/
def Request.ofAnaUnder (phone : String) : Request where
  method := "POST"
  target := "/webhook"
  headers := [("Content-Type", "application/json")]
  body := (Webhook.ofAnaUnder phone).toText

/-- With a blank in front of the phone or without, the request brings her message. -/
theorem brings_ofAna :
    ∀ phone ∈ ["2", " 2"], (Request.ofAnaUnder phone).Brings .ofAna := by
  intro phone listed
  have small : ∀ phone ∈ ["2", " 2"],
      (Request.ofAnaUnder phone).isJson = true ∧
      (Request.ofAnaUnder phone).body.utf8ByteSize ≤ bodyLimit ∧
      (Webhook.ofAnaUnder phone).message? = some .ofAna := by decide +kernel
  obtain ⟨isJson, isBearable, meaning⟩ := small phone listed
  exact ⟨isJson, isBearable, _, Webhook.ofText_toText _, Webhook.message?_eq_some_iff.mp meaning⟩

/-- A blank in front of the phone is enough for the running execution not to be found. -/
theorem not_found_padded :
    (answer none {} slot (.ofAnaUnder " 2")).1.status = 202 ∧
    (Request.ofAnaUnder " 2").Brings .ofAna ∧
    (Request.lookup [] ⟨" 2", "1"⟩).AsksFor ⟨" 2", "1"⟩ ∧
    ∃ traffic,
      Traffic.Reaches Site.greeting Traffic.greetings
        (Traffic.start (fun _ => {}) Traffic.greetings) traffic ∧
      (traffic.scene.store.active? InboundMessage.ofAna.conversation).isSome ∧
      (answer none traffic.scene.store slot (.lookup [] ⟨" 2", "1"⟩)).1.status = 404 := by
  have runs :
      (Traffic.greeted.2.store.active? InboundMessage.ofAna.conversation).isSome := by
    decide +kernel
  have unfound :
      (answer none Traffic.greeted.2.store slot (.lookup [] ⟨" 2", "1"⟩)).1.status = 404 := by
    decide +kernel
  obtain ⟨charge, reaches⟩ := Traffic.reaches_greeted
  exact ⟨by decide +kernel, brings_ofAna " 2" (by decide), Request.asksFor_lookup _ _,
    _, reaches, runs, unfound⟩

/-- Without the blank it is found. -/
theorem found_iff_trimmed_ana :
    (∀ caller message, Traffic.greetings caller = .message message →
      ∃ post : Request, post.IsWebhook ∧ post.Brings message) ∧
    (answer none {} slot (.ofAnaUnder "2")).1.status = 202 ∧
    ∃ traffic row,
      Traffic.Reaches Site.greeting Traffic.greetings
        (Traffic.start (fun _ => {}) Traffic.greetings) traffic ∧
      row ∈ traffic.scene.store.executions ∧ row.status = .active ∧
      answer none traffic.scene.store slot (.lookup [] ⟨"2", "1"⟩) =
        ({ status := 200, body := some (executionBody row.toExecution) }, slot) := by
  have handedOver (caller : Bool) (message : InboundMessage)
      (isIt : Traffic.greetings caller = .message message) :
      ∃ post : Request, post.IsWebhook ∧ post.Brings message := by
    cases caller with
    | true => cases isIt
    | false =>
        cases isIt
        exact ⟨.ofAnaUnder "2", ⟨rfl, by decide +kernel⟩, brings_ofAna "2" (by decide)⟩
  have accepted : (answer none {} slot (.ofAnaUnder "2")).1.status = 202 := by decide +kernel
  have runs :
      (Traffic.greeted.2.store.active? InboundMessage.ofAna.conversation).isSome := by
    decide +kernel
  obtain ⟨execution, looked⟩ := Option.isSome_iff_exists.mp runs
  obtain ⟨row, member, same, active, -⟩ := Store.of_active?_eq_some looked
  obtain ⟨charge, reaches⟩ := Traffic.reaches_greeted
  refine ⟨handedOver, accepted, _, row, reaches, member, active, ?_⟩
  have shown := (found_iff_trimmed handedOver reaches ⟨rfl, by decide +kernel⟩ accepted
    (Webhook.ofText_toText (.ofAnaUnder "2")) member active
    (same.trans (by decide +kernel))).2
  exact (shown (.lookup [] ⟨"2", "1"⟩) (Request.asksFor_lookup _ _) rfl slot).trans
    (by rw [if_pos (by decide +kernel)])

end Gateway
end ChatFlow
