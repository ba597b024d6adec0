import ChatFlow.Engine.Output
import ChatFlow.Outbound.Provider
import ChatFlow.Proofs.Outbound.Splitting

/-!
# What is delivered

A provider takes requests and grants or refuses each of them.  A text is delivered when the
requests that carry its chunks are granted, one after the other; the first one that is refused is
the last one that is sent.  A text of newlines only that is over the limit has no chunks: it counts
as delivered although no request is sent.
-/

namespace ChatFlow
namespace Outbound

/-- What answers requests: each request, behind those that were taken before, is answered or
not. -/
abbrev Provider :=
  List Http.Request → Http.Request → Option Http.Response

/-- The network that leads to a provider and keeps the requests that were taken. -/
def Provider.network (provider : Provider) : Http.Network (StateM (List Http.Request)) :=
  fun request _ => do
    let taken ← get
    set (taken ++ [request])
    return provider taken request

/-- The request that posts a message. -/
def posting (settings : ProviderSettings) (path : String) (fields : List (String × Json.Value)) :
    Http.Request :=
  { method := .post
    url := Http.endpoint settings.baseUrl path
    token := settings.token
    body := some (.record fields) }

/-- The fields of a message with a text. -/
def textFields (device phone text : String) : List (String × Json.Value) :=
  [("device", .string device), ("phone", .string phone), ("message", .string text)]

/-- The requests that carry the chunks of a text, in order. -/
def textPostings (settings : ProviderSettings) (device phone text : String) : List Http.Request :=
  (chunks settings.maxMessageLen text).map fun chunk =>
    posting settings "send-message" (textFields device phone chunk)

/-- What becomes of a text, and which requests are taken after it. -/
def Provider.deliver (provider : Provider) (settings : ProviderSettings)
    (device phone text : String) (taken : List Http.Request) :
    Except Error Unit × List Http.Request :=
  (sendText provider.network settings device phone text).run taken

variable {provider : Provider} {settings : ProviderSettings} {path : String}
  {taken : List Http.Request} {messages : List (List (String × Json.Value))}

/-- A provider grants a request. -/
def Provider.Grants (provider : Provider) (taken : List Http.Request) (request : Http.Request) :
    Prop :=
  ∃ response, provider taken request = some response ∧ Http.isSuccess response.status = true

/-- A provider grants requests that are sent one after the other. -/
def Provider.GrantsAll (provider : Provider) : List Http.Request → List Http.Request → Prop
  | _, [] => True
  | taken, request :: rest =>
      provider.Grants taken request ∧ provider.GrantsAll (taken ++ [request]) rest

/-- A provider does not grant a request, and what is said of it. -/
inductive Provider.Refuses (provider : Provider) (path : String) (url : Http.Url)
    (taken : List Http.Request) (request : Http.Request) : Error → Prop
  /-- The request is not answered. -/
  | unanswered (none : provider taken request = none) :
      Refuses provider path url taken request
        (.dispatch channel (Http.Failure.unanswered url).message)
  /-- The answer is no grant. -/
  | refused {response : Http.Response} (some : provider taken request = some response)
      (failed : Http.isSuccess response.status = false) :
      Refuses provider path url taken request (refusal path response)

/-- What becomes of messages that are posted one after the other, and the requests that were
taken. -/
inductive Posts (provider : Provider) (settings : ProviderSettings) (path : String)
    (taken : List Http.Request) (requests : List Http.Request) :
    Except Error Unit → List Http.Request → Prop
  /-- All of them are granted. -/
  | granted (written : requests ≠ [] → ∃ url, (posting settings path []).check = .ok url)
      (granted : provider.GrantsAll taken requests) :
      Posts provider settings path taken requests (.ok ()) (taken ++ requests)
  /-- One of them is refused, and none behind it is sent. -/
  | refused {before after : List Http.Request} {request : Http.Request} {url : Http.Url}
      {error : Error} (parts : requests = before ++ request :: after)
      (granted : provider.GrantsAll taken before)
      (written : (posting settings path []).check = .ok url)
      (refuses : provider.Refuses path url (taken ++ before) request error) :
      Posts provider settings path taken requests (.error error) (taken ++ before ++ [request])
  /-- None of them can be written down. -/
  | unwritable {failure : Http.Failure} (some : requests ≠ [])
      (unwritten : (posting settings path []).check = .error failure) :
      Posts provider settings path taken requests
        (.error (.dispatch channel failure.message)) taken

/-- Whether a message can be written down does not depend on what it says. -/
theorem check_posting (settings : ProviderSettings) (path : String)
    (fields : List (String × Json.Value)) :
    (posting settings path fields).check = (posting settings path []).check := by
  simp only [Http.Request.check, posting]
  cases Http.Url.ofText? (Http.endpoint settings.baseUrl path) <;> rfl

/-- What is made of the answer to a request. -/
def verdict (path : String) : Except Http.Failure Http.Response → Except Error Unit
  | .error failure => .error (.dispatch channel failure.message)
  | .ok response =>
      if Http.isSuccess response.status then .ok () else .error (refusal path response)

/-- A post is a request and a verdict on the answer. -/
theorem run_post
    {fields : List (String × Json.Value)}
    {outcome : Except Http.Failure Http.Response}
    {after : List Http.Request}
    (exchanged : (Http.exchange provider.network (posting settings path fields)).run taken =
      (outcome, after)) :
    (post provider.network settings path fields).run taken = (verdict path outcome, after) := by
  rw [posting] at exchanged
  simp only [post, StateT.run_bind, exchanged]
  cases outcome with
  | error failure => rfl
  | ok response =>
      change StateT.run (if Http.isSuccess response.status then _ else _) after = _
      rw [verdict]
      split <;> rfl

/-- A message that cannot be written down is not sent. -/
theorem run_post_of_unwritten
    {failure : Http.Failure}
    (unwritten : (posting settings path []).check = .error failure)
    (fields : List (String × Json.Value)) :
    (post provider.network settings path fields).run taken =
      (.error (.dispatch channel failure.message), taken) := by
  have checked := (check_posting settings path fields).trans unwritten
  have exchanged : (Http.exchange provider.network (posting settings path fields)).run taken =
      (.error failure, taken) := by
    simp only [Http.exchange, checked]
    rfl
  exact run_post exchanged

/-- A message that can be written down is sent, and granted or refused. -/
theorem run_post_of_written
    {url : Http.Url}
    (provider : Provider)
    (taken : List Http.Request)
    (written : (posting settings path []).check = .ok url)
    (fields : List (String × Json.Value)) :
    ∃ result, (post provider.network settings path fields).run taken =
        (result, taken ++ [posting settings path fields]) ∧
      (result = .ok () ∧ provider.Grants taken (posting settings path fields) ∨
        ∃ error, result = .error error ∧
          provider.Refuses path url taken (posting settings path fields) error) := by
  have checked := (check_posting settings path fields).trans written
  have exchanged : (Http.exchange provider.network (posting settings path fields)).run taken =
      ((provider taken (posting settings path fields)).elim (.error (.unanswered url)) .ok,
        taken ++ [posting settings path fields]) := by
    simp only [Http.exchange, checked, StateT.run_bind, Provider.network, StateT.run_get,
      StateT.run_set, StateT.run_pure, pure_bind]
    cases provider taken (posting settings path fields) <;> rfl
  refine ⟨_, run_post exchanged, ?_⟩
  cases answered : provider taken (posting settings path fields) with
  | none => exact .inr ⟨_, rfl, .unanswered answered⟩
  | some response =>
      cases granted : Http.isSuccess response.status with
      | true => exact .inl ⟨by simp [verdict, granted], response, answered, granted⟩
      | false =>
          exact .inr ⟨refusal path response, by simp [verdict, granted],
            .refused answered granted⟩

/-! ## Posting in order -/

/-- Nothing is posted without messages. -/
theorem posts_nil (taken : List Http.Request) :
    Posts provider settings path taken [] (.ok ()) taken := by
  have posts : Posts provider settings path taken [] (.ok ()) (taken ++ []) :=
    .granted (fun some => absurd rfl some) trivial
  rwa [List.append_nil] at posts

/-- What becomes of messages behind one that was granted. -/
theorem Posts.behind
    {request : Http.Request}
    {rest after : List Http.Request}
    {result : Except Error Unit}
    {url : Http.Url}
    (posts : Posts provider settings path (taken ++ [request]) rest result after)
    (written : (posting settings path []).check = .ok url)
    (granted : provider.Grants taken request) :
    Posts provider settings path taken (request :: rest) result after := by
  cases posts with
  | granted _ further =>
      rw [List.append_assoc]
      exact .granted (fun _ => ⟨url, written⟩) ⟨granted, further⟩
  | @refused before behind last _ error parts further known refuses =>
      rw [parts]
      rw [List.append_assoc] at refuses ⊢
      have posts : Posts provider settings path taken (request :: before ++ last :: behind)
          (.error error) (taken ++ (request :: before) ++ [last]) :=
        .refused rfl ⟨granted, further⟩ known refuses
      simpa using posts
  | unwritable _ unwritten =>
      rw [written] at unwritten
      cases unwritten

/-- Messages that are posted one after the other are granted up to the first one that is
refused. -/
theorem posts_postAll
    (provider : Provider)
    (settings : ProviderSettings)
    (path : String)
    (messages : List (List (String × Json.Value)))
    (taken : List Http.Request) :
    Posts provider settings path taken (messages.map (posting settings path))
      ((postAll provider.network settings path messages).run taken).1
      ((postAll provider.network settings path messages).run taken).2 := by
  induction messages generalizing taken with
  | nil => exact posts_nil taken
  | cons fields messages inductionHypothesis =>
      rw [List.map_cons, postAll, StateT.run_bind]
      cases written : (posting settings path []).check with
      | error failure =>
          rw [run_post_of_unwritten written]
          exact .unwritable (List.cons_ne_nil _ _) written
      | ok url =>
          obtain ⟨result, posted, verdict⟩ := run_post_of_written provider taken written fields
          rw [posted]
          rcases verdict with ⟨rfl, granted⟩ | ⟨error, rfl, refuses⟩
          · exact (inductionHypothesis _).behind written granted
          · have posts : Posts provider settings path taken
                (posting settings path fields :: messages.map (posting settings path))
                (.error error) (taken ++ [] ++ [posting settings path fields]) :=
              .refused rfl trivial written (by rwa [List.append_nil])
            rw [List.append_nil] at posts
            exact posts

/-- The chunks of a text are posted in order. -/
theorem posts_deliver (provider : Provider) (settings : ProviderSettings)
    (device phone text : String) (taken : List Http.Request) :
    Posts provider settings "send-message" taken (textPostings settings device phone text)
      (provider.deliver settings device phone text taken).1
      (provider.deliver settings device phone text taken).2 := by
  have posts := posts_postAll provider settings "send-message"
    ((chunks settings.maxMessageLen text).map (textFields device phone)) taken
  rw [List.map_map] at posts
  exact posts

/-! ## Turns that post -/

/-- How the calls of a turn are answered when a provider takes its messages. -/
def Provider.answer (provider : Provider) (settings : ProviderSettings)
    (others : (request : Call) → σ → request.Outcome × σ) :
    (request : Call) → List Http.Request × σ → request.Outcome × (List Http.Request × σ)
  | .sendText device phone text, (taken, state) =>
      let (result, taken) := provider.deliver settings device phone text taken
      (result.mapError .error, (taken, state))
  | .sendMedia device phone url kind, (taken, state) =>
      let (result, taken) := (sendMedia provider.network settings device phone url kind).run taken
      (result.mapError .error, (taken, state))
  | request, (taken, state) =>
      let (outcome, state) := others request state
      (outcome, (taken, state))

/-- Nothing is posted when a message is written to the history. -/
theorem run_logOutput
    {others : (request : Call) → σ → request.Outcome × σ}
    {state final : σ}
    {sent : List Http.Request}
    {turn after : Turn}
    {body : String}
    (ran : (turn.logOutput body).run (provider.answer settings others) (taken, state) =
      (.ok after, (sent, final))) :
    sent = taken ∧ after.dispatched = turn.dispatched := by
  simp only [Turn.logOutput, Turn.logExchange, Process.ask, Process.bind_eq_andThen,
    Process.andThen_step, Process.andThen_done, Process.run, Provider.answer,
    Process.orPanic] at ran
  split at ran
  case h_3 => cases ran
  all_goals
    cases ran
    exact ⟨rfl, rfl⟩

/-- A turn counts a message exactly when it counts as delivered, and posts it once. -/
theorem run_sendText
    {others : (request : Call) → σ → request.Outcome × σ}
    {state final : σ}
    {sent : List Http.Request}
    {turn after : Turn}
    {node : Flow.Node}
    {text : String}
    (ran : (turn.sendText node text).run (provider.answer settings others) (taken, state) =
      (.ok after, (sent, final))) :
    sent = (provider.deliver settings turn.conversation.device turn.conversation.phone text
        taken).2 ∧
      (turn.dispatched < after.dispatched ↔
        (provider.deliver settings turn.conversation.device turn.conversation.phone text
          taken).1 = .ok ()) := by
  have asked : turn.sendText node text =
      .step (.sendText turn.conversation.device turn.conversation.phone text) fun outcome =>
        (Process.orPanic outcome).andThen (turn.settle node "text" text) := rfl
  rw [asked, Process.run, Provider.answer] at ran
  generalize provider.deliver settings turn.conversation.device turn.conversation.phone text
    taken = delivered at ran ⊢
  obtain ⟨error | ⟨⟩, posted⟩ := delivered
  · -- An error is told to the observers, and the turn goes on as it was.
    obtain ⟨same, states⟩ := Prod.mk.inj ran
    cases same
    cases states
    simp
  · let told := others (.publish (.dispatched turn.conversation node.id "text")) state
    have logged : (({ turn with dispatched := turn.dispatched + 1 } : Turn).logOutput text).run
        (provider.answer settings others) (posted, told.2) = (.ok after, (sent, final)) := ran
    obtain ⟨same, counted⟩ := run_logOutput logged
    rw [same, counted]
    simp

/-! ## Delivery -/

/-- The errors of delivery are errors of the channel. -/
theorem Posts.exists_reason
    {requests after : List Http.Request}
    {error : Error}
    (posts : Posts provider settings path taken requests (.error error) after) :
    ∃ reason, error = .dispatch channel reason := by
  cases posts with
  | refused _ _ _ refuses =>
      cases refuses with
      | unanswered => exact ⟨_, rfl⟩
      | refused => exact ⟨_, rfl⟩
  | unwritable => exact ⟨_, rfl⟩

/-- What goes well is granted as a whole. -/
theorem Posts.of_ok
    {requests after : List Http.Request}
    (posts : Posts provider settings path taken requests (.ok ()) after) :
    after = taken ++ requests ∧ provider.GrantsAll taken requests := by
  cases posts with
  | granted _ granted => exact ⟨rfl, granted⟩

/-- A text counts as delivered without a request exactly when it has no chunks. -/
theorem deliver_ok_unsent_iff (device phone text : String) :
    (provider.deliver settings device phone text taken).1 = .ok () ∧
        (provider.deliver settings device phone text taken).2 = taken ↔
      chunks settings.maxMessageLen text = [] := by
  constructor
  · rintro ⟨well, unsent⟩
    have posts := posts_deliver provider settings device phone text taken
    rw [well, unsent] at posts
    have none := posts.of_ok.1
    rwa [List.self_eq_append_right, textPostings, List.map_eq_nil_iff] at none
  · intro none
    have delivered : provider.deliver settings device phone text taken = (.ok (), taken) := by
      rw [Provider.deliver, sendText, none]
      rfl
    rw [delivered]
    exact ⟨rfl, rfl⟩

/-- The requests that carry the chunks of a text are sent in order, up to the first one that is
not granted, which is an error of the channel.  When all goes well, all of them were sent and
granted; but there are none for a text of newlines only that is over the limit, which goes well
and is counted by a turn although nothing is sent.  This is so for no other text. -/
theorem delivered_exactly (provider : Provider) (settings : ProviderSettings)
    (device phone text : String) (taken : List Http.Request) :
    Posts provider settings "send-message" taken (textPostings settings device phone text)
        (provider.deliver settings device phone text taken).1
        (provider.deliver settings device phone text taken).2 ∧
      (∀ error, (provider.deliver settings device phone text taken).1 = .error error →
        ∃ reason, error = .dispatch channel reason) ∧
      ((provider.deliver settings device phone text taken).1 = .ok () →
        (provider.deliver settings device phone text taken).2 =
            taken ++ textPostings settings device phone text ∧
          provider.GrantsAll taken (textPostings settings device phone text)) ∧
      ((provider.deliver settings device phone text taken).1 = .ok () ∧
          (provider.deliver settings device phone text taken).2 = taken ↔
        max settings.maxMessageLen leastLimit < text.utf8ByteSize ∧
          ∀ c ∈ text.toList, c = '\n') ∧
      ∀ {σ : Type} (others : (request : Call) → σ → request.Outcome × σ) (state final : σ)
          (turn after : Turn) (node : Flow.Node) (sent : List Http.Request),
        (turn.sendText node text).run (provider.answer settings others) (taken, state) =
            (.ok after, (sent, final)) →
          (turn.dispatched < after.dispatched ∧ sent = taken ↔
            max settings.maxMessageLen leastLimit < text.utf8ByteSize ∧
              ∀ c ∈ text.toList, c = '\n') := by
  have posts := posts_deliver provider settings device phone text taken
  refine ⟨posts, ?_, ?_, ?_, ?_⟩
  · intro error failed
    rw [failed] at posts
    exact posts.exists_reason
  · intro well
    rw [well] at posts
    exact posts.of_ok
  · rw [deliver_ok_unsent_iff, chunks_eq_nil_iff]
  · intro σ others state final turn after node sent ran
    obtain ⟨rfl, counted⟩ := run_sendText ran
    rw [counted, deliver_ok_unsent_iff, chunks_eq_nil_iff]

/-- A provider whose messages have at most four bytes. -/
def narrow : ProviderSettings :=
  { baseUrl := "http://chat.test", maxMessageLen := 4 }

/-- A provider that answers nothing gets no request for five newlines when its messages have at
most four bytes, and they count as delivered. -/
theorem delivered_unsent_newlines :
    Provider.deliver (fun _ _ => none) narrow "dev-1" "555" "\n\n\n\n\n" [] = (.ok (), []) ∧
      ¬ ∀ provider settings device phone text,
        (Provider.deliver provider settings device phone text []).1 = .ok () →
          (Provider.deliver provider settings device phone text []).2 ≠ [] := by
  have none : chunks narrow.maxMessageLen "\n\n\n\n\n" = [] := by decide +kernel
  have unsent : Provider.deliver (fun _ _ => .none) narrow "dev-1" "555" "\n\n\n\n\n" [] =
      (.ok (), []) := by
    rw [Provider.deliver, sendText, none]
    rfl
  refine ⟨unsent, fun sends => ?_⟩
  exact sends _ _ _ _ _ (by rw [unsent]) (by rw [unsent])

end Outbound
end ChatFlow
