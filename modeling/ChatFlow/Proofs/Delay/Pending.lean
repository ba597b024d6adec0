import ChatFlow.Proofs.Delay.Postponing
import ChatFlow.Proofs.Engine.Parked

/-!
# Pending continuations

Messages are handled and continuations delivered, one call after the other.  A delivery takes a
continuation from the queue, tries it, and when it was refused queues it again: between these steps
other calls may be served.  An execution that is parked at a delay has a continuation that is queued
or is being delivered, unless it is stranded there: its continuation was given up, or the turn that
brought it there stopped before it queued one.
-/

namespace ChatFlow

open Process

/-! ## Deliveries -/

namespace Engine

variable {engine : Engine} {site : Site} {before after : Scene}

/-- A try came to nothing: the conversation was locked, or the store failed. -/
def IsRefusal : Except Fault ResumeOutcome → Prop
  | .ok .busy | .error (.error (.database _)) => True
  | _ => False

/-- What is done with a continuation that was tried. -/
def conclude (engine : Engine) (item : Continuation) : Except Fault ResumeOutcome → Process Unit
  | .ok .busy | .error (.error (.database _)) => engine.requeue item
  | .error (.panic message) => .halt (.panic message)
  | .ok _ | .error (.error _) => .done ()

/-- To deliver a continuation is to try it and to conclude. -/
theorem deliver_eq (engine : Engine) (item : Continuation) :
    engine.deliver item = (engine.resume item).contain.andThen (engine.conclude item) := by
  unfold deliver
  congr 1

/-- A refused continuation is given up: it was tried as often as it may be, or it cannot be told
when to try it again. -/
inductive GivesUp (engine : Engine) (site : Site) (item : Continuation) : Prop
  | exhausted
      (many : engine.settings.resumeMaxAttempts ≤ (item.attempt + 1) % Word.shortCount)
  | untellable {scene after : Scene} {fault : Fault}
      (ends : Ends site.Supports (retryTime engine.settings) scene (.error fault) after)

/-- To find out when to try again touches nothing. -/
theorem ends_retryTime
    {settings : EngineSettings}
    {result : Except Fault Instant}
    (ends : Ends site.Supports (retryTime settings) before result after) :
    after = before := by
  obtain ⟨now, there, asked, told⟩ := Ends.of_step ends
  obtain ⟨same, _⟩ := asked.answered.now
  rw [← same]
  dsimp only [andThen_done] at told
  split at told
  · exact told.of_halt.2
  · split at told
    · exact told.of_done.2
    · exact told.of_halt.2

/-- A continuation that is to be queued again is queued, or it is given up. -/
theorem ends_requeue
    {item : Continuation}
    {result : Except Fault Unit}
    (ends : Ends site.Supports (engine.requeue item) before result after) :
    (∃ retry : Continuation, retry.Retries item ∧
      after = { before with queued := before.queued ++ [retry] }) ∨
    after = before ∧ engine.GivesUp site item := by
  unfold requeue at ends
  dsimp only at ends
  split at ends
  · rcases Ends.andThen_cases ends with ⟨due, middle, told, goesOn⟩ | ⟨fault, rfl, untold⟩
    · obtain rfl := ends_retryTime told
      obtain ⟨_, queued, asked, goesOn⟩ := Ends.of_step goesOn
      obtain ⟨rfl, rfl⟩ := asked.enqueue
      obtain ⟨_, rfl⟩ := Ends.of_done goesOn
      exact .inl ⟨{ item with attempt := _, due }, rfl, rfl⟩
    · exact .inr ⟨ends_retryTime untold, .untellable untold⟩
  · rename_i many
    obtain ⟨_, rfl⟩ := Ends.of_done ends
    exact .inr ⟨rfl, .exhausted (Nat.le_of_not_lt many)⟩

/-- A continuation that was refused is queued again, or it is given up; with another one nothing
is done. -/
theorem ends_conclude
    {item : Continuation}
    {tried : Except Fault ResumeOutcome}
    {result : Except Fault Unit}
    (ends : Ends site.Supports (engine.conclude item tried) before result after) :
    (∃ retry : Continuation, retry.Retries item ∧
      after = { before with queued := before.queued ++ [retry] }) ∨
    after = before ∧ (IsRefusal tried → engine.GivesUp site item) := by
  have refused (ends : Ends site.Supports (engine.requeue item) before result after) :
      (∃ retry : Continuation, retry.Retries item ∧
        after = { before with queued := before.queued ++ [retry] }) ∨
      after = before ∧ (IsRefusal tried → engine.GivesUp site item) :=
    (ends_requeue ends).imp_right fun ⟨same, gives⟩ => ⟨same, fun _ => gives⟩
  cases tried with
  | ok outcome =>
      cases outcome with
      | busy => exact refused ends
      | resumed | stale | missing => exact .inr ⟨(Ends.of_done ends).2, False.elim⟩
  | error fault =>
      cases fault with
      | panic message => exact .inr ⟨(Ends.of_halt ends).2, False.elim⟩
      | error error =>
          cases error with
          | database message => exact refused ends
          | _ => exact .inr ⟨(Ends.of_done ends).2, False.elim⟩

end Engine

/-! ## Depots -/

/-- A continuation is being delivered. -/
structure Delivery where
  item : Continuation
  /-- What came of it when it was tried, if it was. -/
  tried : Option (Except Fault ResumeOutcome) := none

/-- It was not tried yet, or it was refused. -/
def Delivery.IsOpen (delivery : Delivery) : Prop :=
  ∀ result, delivery.tried = some result → Engine.IsRefusal result

/-- A scene, with the continuations that are queued and those that are being delivered. -/
structure Depot where
  scene : Scene := {}
  queue : List Continuation := []
  deliveries : List Delivery := []

namespace Depot

/-- A continuation is queued, or its delivery is not over. -/
def Pending (depot : Depot) (item : Continuation) : Prop :=
  item ∈ depot.queue ∨ ∃ delivery ∈ depot.deliveries, delivery.IsOpen ∧ delivery.item = item

/-- Calls have led to another scene, and the queue has taken in what they queued. -/
def reach (depot : Depot) (after : Scene) : Depot :=
  { depot with scene := after, queue := depot.queue ++ depot.scene.queuedSince after }

end Depot

/-- What happens where messages are handled and continuations delivered. -/
inductive Happening where
  /-- A message is handled. -/
  | message (message : InboundMessage) (outcome : Except Fault InboundOutcome)
  /-- A continuation is taken from the queue. -/
  | taken (item : Continuation)
  /-- It is tried. -/
  | tried (item : Continuation) (outcome : Except Fault ResumeOutcome)
  /-- Its delivery is concluded. -/
  | concluded (item : Continuation) (tried : Except Fault ResumeOutcome)
  /-- Others take or release locks, or tell what they do. -/
  | elsewhere

/-- A turn was cut short. -/
def Happening.CutsShort : Happening → Prop
  | .message _ outcome => ∃ reason, outcome = .ok (.failed reason)
  | .tried _ outcome => ∃ fault, outcome = .error fault
  | _ => False

/-- Something happens, at a site where flows, store and queue do what they are asked for. -/
inductive Engine.Occurs (engine : Engine) (site : Site) (depot : Depot) : Happening → Depot → Prop
  | message {message : InboundMessage} {outcome : Except Fault InboundOutcome} {after : Scene}
      (ends : Ends site.Supports (engine.handleInbound message) depot.scene outcome after) :
      Occurs engine site depot (.message message outcome) (depot.reach after)
  | taken {item : Continuation} {front back : List Continuation}
      (queue_eq : depot.queue = front ++ item :: back) :
      Occurs engine site depot (.taken item)
        { depot with queue := front ++ back, deliveries := depot.deliveries ++ [{ item }] }
  | tried {item : Continuation} {front back : List Delivery}
      {outcome : Except Fault ResumeOutcome} {after : Scene}
      (deliveries_eq : depot.deliveries = front ++ { item } :: back)
      (ends : Ends site.Supports (engine.resume item) depot.scene outcome after) :
      Occurs engine site depot (.tried item outcome)
        { depot.reach after with deliveries := front ++ { item, tried := some outcome } :: back }
  | concluded {item : Continuation} {front back : List Delivery}
      {tried : Except Fault ResumeOutcome} {result : Except Fault Unit} {after : Scene}
      (deliveries_eq : depot.deliveries = front ++ { item, tried := some tried } :: back)
      (ends : Ends site.Supports (engine.conclude item tried) depot.scene result after) :
      Occurs engine site depot (.concluded item tried)
        { depot.reach after with deliveries := front ++ back }
  | elsewhere {after : Scene} (untouched : depot.scene.Untouched after) :
      Occurs engine site depot .elsewhere { depot with scene := after }

/-- Something that happened, with the depots before and after it. -/
structure Occurrence where
  before : Depot
  happening : Happening
  after : Depot

/-- One thing happens after the other, from an empty depot on. -/
inductive Engine.Unfolds (engine : Engine) (site : Site) : List Occurrence → Depot → Prop
  | start : Unfolds engine site [] {}
  | next {past : List Occurrence} {before after : Depot} {happening : Happening}
      (unfolds : Unfolds engine site past before)
      (occurs : engine.Occurs site before happening after) :
      Unfolds engine site (past ++ [⟨before, happening, after⟩]) after

/-- Something left an execution parked without a continuation. -/
inductive Occurrence.Strands (engine : Engine) (site : Site) (graph : Flow.Graph)
    (row : ExecutionRow) (occurrence : Occurrence) : Prop
  /-- The continuation that it awaited was given up. -/
  | givenUp {item : Continuation} {tried : Except Fault ResumeOutcome}
      (stood : row ∈ occurrence.after.scene.store.executions)
      (concluded : occurrence.happening = .concluded item tried)
      (refused : Engine.IsRefusal tried)
      (awaits : site.library.Awaits item graph row)
      (givesUp : engine.GivesUp site item)
  /-- The turn stopped at the delay on its hop limit. -/
  | hopLimit {hops : Nat}
      (stood : row ∈ occurrence.after.scene.store.executions)
      (told : Event.hopLimit row.conversation row.node hops ∈
        occurrence.before.scene.publishedSince occurrence.after.scene)
  /-- The turn was cut short because the wait could not be told. -/
  | untellable {node : Flow.Node}
      (stood : row ∈ occurrence.after.scene.store.executions)
      (found : graph.node? row.node = some node)
      (untellable : engine.Untellable site.clock node)
      (cutShort : occurrence.happening.CutsShort)

/-- After something happened, an execution that is parked awaits a pending continuation, or was
left without one. -/
def Occurrence.Explains (engine : Engine) (site : Site) (graph : Flow.Graph) (row : ExecutionRow)
    (occurrence : Occurrence) : Prop :=
  (∃ item, occurrence.after.Pending item ∧ site.library.Awaits item graph row) ∨
    occurrence.Strands engine site graph row

/-- An execution that is parked after something happened is explained, or it was there before, and
then it is explained if it awaited a pending continuation there. -/
def Occurrence.Carries (engine : Engine) (site : Site) (graph : Flow.Graph) (row : ExecutionRow)
    (occurrence : Occurrence) : Prop :=
  occurrence.Explains engine site graph row ∨
    row ∈ occurrence.before.scene.store.executions ∧
      ∀ item, occurrence.before.Pending item → site.library.Awaits item graph row →
        occurrence.Explains engine site graph row

/-! ## Depots in order -/

theorem Site.sound_of_supports
    {site : Site}
    {engine : Engine}
    {request : Request}
    {before after : Scene}
    {rest : Process Verdict}
    (filed : site.library.Filed)
    (sound : site.library.Sound before)
    (offered : before.Offers request)
    (reaches : Reaches site.Supports (engine.serve request, before) (rest, after)) :
    site.library.Sound after := by
  have preserved : site.Preserved engine site.library.Sound := sound_preserved
  have safe := (preserved.serve_safe filed sound sound offered).narrow
    fun _ _ _ _ supported => Site.Supports.answered supported
  exact (Safe.reaches safe reaches).holds

/-- To try again later awaits what was awaited. -/
theorem Flow.Library.Awaits.retries
    {library : Flow.Library}
    {item retry : Continuation}
    {graph : Flow.Graph}
    {row : ExecutionRow}
    (awaits : library.Awaits item graph row)
    (retries : retry.Retries item) :
    library.Awaits retry graph row := by
  rw [Continuation.Retries] at retries
  rw [retries]
  exact { awaits with }

/-- What is in a list is the value in the middle or one of the others. -/
theorem mem_middle {α : Type} {front back : List α} {value other : α} :
    other ∈ front ++ value :: back ↔ other = value ∨ other ∈ front ++ back :=
  List.perm_middle.mem_iff.trans List.mem_cons

namespace Depot

/-- A continuation is queued or is being delivered. -/
def Holds (depot : Depot) (item : Continuation) : Prop :=
  item ∈ depot.queue ∨ ∃ delivery ∈ depot.deliveries, delivery.item = item

/-- A depot is in order: its scene is, and what it holds was queued by a turn. -/
structure Ordered (library : Flow.Library) (depot : Depot) : Prop where
  sound : library.Sound depot.scene
  offered : ∀ item, depot.Holds item → depot.scene.Offers (.continuation item)

variable {library : Flow.Library} {depot : Depot} {after : Scene} {item : Continuation}

/-- A depot stays in order as calls queue continuations. -/
theorem Ordered.reach
    (ordered : depot.Ordered library)
    (sound : library.Sound after)
    (grown : depot.scene.Grows after) :
    (depot.reach after).Ordered library := by
  refine ⟨sound, ?_⟩
  rintro item (queued | delivered)
  · rcases List.mem_append.mp queued with old | new
    · exact grown.offers (ordered.offered item (.inl old))
    · exact ⟨item, List.mem_of_mem_drop new, .refl item⟩
  · exact grown.offers (ordered.offered item (.inr delivered))

/-- It is in order as well when it holds less. -/
theorem Ordered.less
    {less : Depot}
    (ordered : depot.Ordered library)
    (scene_eq : less.scene = depot.scene)
    (holds : ∀ item, less.Holds item → depot.Holds item) :
    less.Ordered library := by
  constructor
  · rw [scene_eq]
    exact ordered.sound
  · intro item held
    rw [scene_eq]
    exact ordered.offered item (holds item held)

/-- What a depot in order holds names an execution. -/
theorem Ordered.exists_row
    (ordered : depot.Ordered library)
    (holds : depot.Holds item) :
    ∃ row ∈ depot.scene.store.executions, row.id = item.execution ∧ row.flow = item.flow ∧
      row.conversation = item.conversation := by
  obtain ⟨queued, member, retries⟩ := ordered.offered item holds
  rw [Continuation.Retries] at retries
  rw [retries]
  exact ordered.sound.named queued member

/-- What is being delivered is held. -/
theorem holds_of_delivery
    {delivery : Delivery}
    {front back : List Delivery}
    (deliveries_eq : depot.deliveries = front ++ delivery :: back) :
    depot.Holds delivery.item := by
  refine .inr ⟨delivery, ?_, rfl⟩
  rw [deliveries_eq]
  exact mem_middle.mpr (.inl rfl)

/-- What is pending is pending as the queue grows. -/
theorem Pending.reach (pending : depot.Pending item) : (depot.reach after).Pending item :=
  pending.imp_left (List.mem_append_left _)

end Depot

namespace Engine.Occurs

variable {engine : Engine} {site : Site} {before after : Depot} {happening : Happening}
  {graph : Flow.Graph} {row : ExecutionRow}

/-- Whatever happens, a depot stays in order. -/
theorem ordered
    (filed : site.library.Filed)
    (ordered : before.Ordered site.library)
    (occurs : engine.Occurs site before happening after) :
    after.Ordered site.library := by
  cases occurs with
  | @message message outcome scene ends =>
      refine ordered.reach ?_ (Site.grows_of_ends ends)
      have offered : before.scene.Offers (.message message) := trivial
      exact Site.sound_of_supports filed ordered.sound offered (reaches_andThen _ ends)
  | taken queue_eq =>
      refine ordered.less rfl ?_
      rintro item (queued | ⟨delivery, delivered, rfl⟩)
      · left
        rw [queue_eq]
        exact mem_middle.mpr (.inr queued)
      · rcases List.mem_append.mp delivered with old | new
        · exact .inr ⟨delivery, old, rfl⟩
        · rw [List.mem_singleton.mp new]
          left
          rw [queue_eq]
          exact mem_middle.mpr (.inl rfl)
  | @tried item front back outcome scene deliveries_eq ends =>
      have held : before.Holds item := Depot.holds_of_delivery deliveries_eq
      have reached : (before.reach scene).Ordered site.library := by
        refine ordered.reach ?_ (Site.grows_of_ends ends)
        exact Site.sound_of_supports filed ordered.sound (ordered.offered item held)
          (reaches_andThen _ ends)
      refine reached.less rfl ?_
      rintro other (queued | ⟨delivery, delivered, rfl⟩)
      · exact .inl queued
      · rcases mem_middle.mp delivered with rfl | old
        · exact held.imp_left (List.mem_append_left _)
        · refine .inr ⟨delivery, ?_, rfl⟩
          rw [Depot.reach, deliveries_eq]
          exact mem_middle.mpr (.inr old)
  | @concluded item front back tried result scene deliveries_eq ends =>
      have held : before.Holds item := Depot.holds_of_delivery deliveries_eq
      have sound : site.library.Sound scene := by
        rcases ends_conclude ends with ⟨retry, retries, rfl⟩ | ⟨rfl, _⟩
        · refine { ordered.sound with named := ?_ }
          intro other queued
          rcases List.mem_append.mp queued with old | new
          · exact ordered.sound.named other old
          · have named := ordered.exists_row held
            rw [List.mem_singleton.mp new, show retry = _ from retries]
            exact named
        · exact ordered.sound
      refine (ordered.reach sound (Site.grows_of_ends ends)).less rfl ?_
      rintro other (queued | ⟨delivery, delivered, rfl⟩)
      · exact .inl queued
      · refine .inr ⟨delivery, ?_, rfl⟩
        rw [Depot.reach, deliveries_eq]
        exact mem_middle.mpr (.inr delivered)
  | @elsewhere scene untouched =>
      refine ⟨ordered.sound.aside untouched.executions_eq untouched.queued_eq, ?_⟩
      intro item held
      obtain ⟨queued, member, retries⟩ := ordered.offered item held
      refine ⟨queued, ?_, retries⟩
      rw [untouched.queued_eq]
      exact member

/-- An execution that a turn left parked is explained. -/
theorem explains_of_accounts
    {isCut : Prop}
    (accounts : Turn.Accounts engine site graph before.scene after.scene row isCut)
    (stood : row ∈ after.scene.store.executions)
    (queues : ∀ item ∈ before.scene.queuedSince after.scene, after.Pending item)
    (cutsShort : isCut → happening.CutsShort) :
    Occurrence.Explains engine site graph row ⟨before, happening, after⟩ := by
  cases accounts with
  | queued isNew awaits => exact .inl ⟨_, queues _ isNew, awaits⟩
  | hopLimit told => exact .inr (.hopLimit stood told)
  | untellable found untellable isCut =>
      exact .inr (.untellable stood found untellable (cutsShort isCut))

/-- What a continuation that is tried leaves parked: where its turn was performed, the turn accounts
for its execution, and otherwise the continuation is stale, or is still being delivered. -/
theorem carries_tried
    {item : Continuation}
    {front back : List Delivery}
    {outcome : Except Fault ResumeOutcome}
    {scene : Scene}
    (filed : site.library.Filed)
    (ordered : before.Ordered site.library)
    (deliveries_eq : before.deliveries = front ++ { item } :: back)
    (ends : Ends site.Supports (engine.resume item) before.scene outcome scene)
    (member : row ∈ scene.store.executions)
    (parked : site.library.Parked graph row) :
    Occurrence.Carries engine site graph row
      ⟨before, .tried item outcome,
        { before.reach scene with
          deliveries := front ++ { item, tried := some outcome } :: back }⟩ := by
  have held : before.Holds item := Depot.holds_of_delivery deliveries_eq
  obtain ⟨own, ownMember, names, _, inConversation⟩ := ordered.exists_row held
  obtain ⟨ownGraph, known⟩ := ordered.sound.known own ownMember
  have attends := ends_resume site.hosts_supports ordered.sound.kept ownMember inConversation
    names known ends
  rcases attends.accounts filed ordered.sound member parked with
    ⟨old, idle⟩ | ⟨turned, told, accounts⟩
  · refine .inr ⟨old, fun other pending awaits => .inl ⟨other, ?_, awaits⟩⟩
    rcases pending with queued | ⟨delivery, delivered, isOpen, rfl⟩
    · exact .inl (List.mem_append_left _ queued)
    · rw [deliveries_eq] at delivered
      rcases mem_middle.mp delivered with rfl | others
      · rcases idle with (rfl | ⟨_, stale⟩) | ⟨found, same, different⟩
        · refine .inr ⟨{ item, tried := some (.ok .busy) }, mem_middle.mpr (.inl rfl), ?_, rfl⟩
          rintro _ ⟨⟩
          trivial
        · obtain rfl := ordered.sound.kept.eq_of_id ownMember old
            (names.trans awaits.id_eq.symm)
          obtain rfl : graph = ownGraph := Except.ok.inj (parked.known.symm.trans known)
          exact (stale awaits).elim
        · have same : found.id = item.execution := same
          exact (different (awaits.id_eq.trans same.symm)).elim
      · exact .inr ⟨delivery, mem_middle.mpr (.inr others), isOpen, rfl⟩
  · refine .inl (explains_of_accounts accounts member ?_ ?_)
    · exact fun item new => .inl (List.mem_append_right _ new)
    · rintro ⟨fault, rfl⟩
      cases fault <;> exact ⟨_, told⟩

/-- When a delivery is concluded, the execution that awaits its continuation awaits the same one
again, or it is stranded. -/
theorem carries_concluded
    {item : Continuation}
    {front back : List Delivery}
    {tried : Except Fault ResumeOutcome}
    {result : Except Fault Unit}
    {scene : Scene}
    (deliveries_eq : before.deliveries = front ++ { item, tried := some tried } :: back)
    (ends : Ends site.Supports (engine.conclude item tried) before.scene result scene)
    (member : row ∈ scene.store.executions) :
    Occurrence.Carries engine site graph row
      ⟨before, .concluded item tried,
        { before.reach scene with deliveries := front ++ back }⟩ := by
  have rows : scene.store.executions = before.scene.store.executions := by
    rcases ends_conclude ends with ⟨_, _, rfl⟩ | ⟨rfl, _⟩ <;> rfl
  have old : row ∈ before.scene.store.executions := by rwa [← rows]
  refine .inr ⟨old, fun other pending awaits => ?_⟩
  rcases pending with queued | ⟨delivery, delivered, isOpen, rfl⟩
  · exact .inl ⟨other, .inl (List.mem_append_left _ queued), awaits⟩
  · rw [deliveries_eq] at delivered
    rcases mem_middle.mp delivered with rfl | others
    · rcases ends_conclude ends with ⟨retry, retries, rfl⟩ | ⟨_, givesUp⟩
      · refine .inl ⟨retry, .inl (List.mem_append_right _ ?_), awaits.retries retries⟩
        rw [Scene.queuedSince, List.drop_left]
        exact List.mem_singleton.mpr rfl
      · have refused := isOpen tried rfl
        exact .inr (.givenUp member rfl refused awaits (givesUp refused))
    · exact .inl ⟨_, .inr ⟨delivery, others, isOpen, rfl⟩, awaits⟩

/-- Whatever happens, the executions that are parked afterwards are accounted for. -/
theorem carries
    (filed : site.library.Filed)
    (ordered : before.Ordered site.library)
    (occurs : engine.Occurs site before happening after)
    (member : row ∈ after.scene.store.executions)
    (parked : site.library.Parked graph row) :
    Occurrence.Carries engine site graph row ⟨before, happening, after⟩ := by
  cases occurs with
  | message ends =>
      have attends := ends_handleInbound site.hosts_supports ordered.sound.kept ends
      rcases attends.accounts filed ordered.sound member parked with
        ⟨old, _⟩ | ⟨turned, told, accounts⟩
      · exact .inr ⟨old, fun item pending awaits => .inl ⟨item, pending.reach, awaits⟩⟩
      · refine .inl (explains_of_accounts accounts member ?_ ?_)
        · exact fun item new => .inl (List.mem_append_right _ new)
        · rintro ⟨fault, rfl⟩
          exact ⟨_, told⟩
  | @taken item front back queue_eq =>
      refine .inr ⟨member, fun other pending awaits => .inl ⟨other, ?_, awaits⟩⟩
      rcases pending with queued | ⟨delivery, delivered, isOpen⟩
      · rw [queue_eq] at queued
        rcases mem_middle.mp queued with rfl | others
        · refine .inr ⟨_, List.mem_append_right _ (List.mem_singleton.mpr rfl), ?_, rfl⟩
          rintro _ ⟨⟩
        · exact .inl others
      · exact .inr ⟨delivery, List.mem_append_left _ delivered, isOpen⟩
  | tried deliveries_eq ends => exact carries_tried filed ordered deliveries_eq ends member parked
  | concluded deliveries_eq ends => exact carries_concluded deliveries_eq ends member
  | elsewhere untouched =>
      have old : row ∈ before.scene.store.executions := by rwa [← untouched.executions_eq]
      exact .inr ⟨old, fun item pending awaits => .inl ⟨item, pending, awaits⟩⟩

end Engine.Occurs

/-! ## Runs -/

/-- A whole delivery is one way for things to unfold. -/
theorem Engine.Unfolds.deliver
    {engine : Engine}
    {site : Site}
    {past : List Occurrence}
    {depot : Depot}
    {item : Continuation}
    {front back : List Continuation}
    {result : Except Fault Unit}
    {after : Scene}
    (unfolds : engine.Unfolds site past depot)
    (queue_eq : depot.queue = front ++ item :: back)
    (ends : Ends site.Supports (engine.deliver item) depot.scene result after) :
    ∃ further, engine.Unfolds site (past ++ further)
      { depot with scene := after, queue := front ++ back ++ depot.scene.queuedSince after } := by
  rw [deliver_eq] at ends
  rcases ends.andThen_cases with ⟨outcome, middle, tries, concludes⟩ | ⟨fault, rfl, tries⟩
  · obtain ⟨_, ⟨⟩, tries⟩ := tries.of_contain
    have taken := unfolds.next (.taken queue_eq)
    have tried := taken.next (.tried rfl tries)
    have concluded := tried.next (.concluded rfl concludes)
    simp only [Depot.reach, List.append_nil, List.append_assoc] at concluded
    rw [← Scene.queuedSince_append (Site.grows_of_ends tries)
      (Site.grows_of_ends concludes)] at concluded
    rw [List.append_assoc front back]
    exact ⟨_, concluded⟩
  · obtain ⟨_, ⟨⟩, _⟩ := tries.of_contain

/-- After any run the depot is in order, and an execution that is parked awaits a pending
continuation, or something in the past left it without one. -/
theorem Engine.Unfolds.explained
    {engine : Engine}
    {site : Site}
    {past : List Occurrence}
    {depot : Depot}
    (filed : site.library.Filed)
    (unfolds : engine.Unfolds site past depot) :
    depot.Ordered site.library ∧
      ∀ graph, ∀ row ∈ depot.scene.store.executions, site.library.Parked graph row →
        (∃ item, depot.Pending item ∧ site.library.Awaits item graph row) ∨
          ∃ occurrence ∈ past, occurrence.Strands engine site graph row := by
  induction unfolds with
  | start =>
      refine ⟨⟨Flow.Library.sound_empty, ?_⟩, ?_⟩
      · rintro item (⟨⟨⟩⟩ | ⟨_, ⟨⟩, _⟩)
      · rintro graph row ⟨⟩
  | @next past before after happening _ occurs inductionHypothesis =>
      obtain ⟨ordered, explained⟩ := inductionHypothesis
      refine ⟨occurs.ordered filed ordered, fun graph row member parked => ?_⟩
      have now (explains : Occurrence.Explains engine site graph row ⟨before, happening, after⟩) :
          (∃ item, after.Pending item ∧ site.library.Awaits item graph row) ∨
            ∃ occurrence ∈ past ++ [⟨before, happening, after⟩],
              occurrence.Strands engine site graph row :=
        explains.imp_right fun strands =>
          ⟨_, List.mem_append_right _ (List.mem_singleton.mpr rfl), strands⟩
      rcases occurs.carries filed ordered member parked with explains | ⟨old, carries⟩
      · exact now explains
      · rcases explained graph row old parked with
          ⟨item, pending, awaits⟩ | ⟨occurrence, isPast, strands⟩
        · exact now (carries item pending awaits)
        · exact .inr ⟨occurrence, List.mem_append_left _ isPast, strands⟩

/-- A message is refused because of a delay only while an execution of its conversation is parked
at one, and a continuation that leads on from there is queued or is being delivered; or else
something in the past left the execution without one: its continuation was given up, or its turn
stopped on the hop limit as it came to the delay, or was cut short there because the wait could not
be told. -/
theorem Engine.refused_only_while_pending
    {engine : Engine}
    {site : Site}
    {past : List Occurrence}
    {before after : Depot}
    {message : InboundMessage}
    (filed : site.library.Filed)
    (unfolds : engine.Unfolds site past before)
    (refused : engine.Occurs site before (.message message (.ok (.skipped .delayPending))) after) :
    ∃ graph, ∃ row ∈ after.scene.store.executions,
      row.conversation = message.conversation ∧ site.library.Parked graph row ∧
      ((∃ item, after.Pending item ∧ site.library.Awaits item graph row) ∨
        ∃ occurrence ∈ past, occurrence.Strands engine site graph row) := by
  obtain ⟨ordered, explained⟩ := unfolds.explained filed
  cases refused with
  | message ends =>
      rcases ends_handleInbound site.hosts_supports ordered.sound.kept ends with
        ⟨still, _, refuses⟩ | ⟨begins, finds, performs, told⟩
      · obtain ⟨graph, row, member, own, parked⟩ := refuses rfl
        refine ⟨graph, row, ?_, own, parked, ?_⟩
        · have rows := still.untouched.executions_eq
          exact rows ▸ member
        · rcases explained graph row member parked with ⟨item, pending, awaits⟩ | stranded
          · exact .inl ⟨item, pending.reach, awaits⟩
          · exact .inr stranded
      · rename_i opening turned
        cases turned <;> cases told

/-! ## A greeting that is refused -/

namespace Engine

/-- A message is handled at the greeting's site. -/
def handleAna (engine : Engine) (scene : Scene) : Except Fault InboundOutcome × Scene :=
  (engine.handleInbound .ofAna).run (Site.greeting.answer ⟨0⟩ {}) scene

theorem ends_handleAna (engine : Engine) (scene : Scene) :
    Ends Site.greeting.Supports (engine.handleInbound .ofAna) scene (engine.handleAna scene).1
      (engine.handleAna scene).2 :=
  ends_of_run _ (Site.supports_answer trivial {}) _ _

/-- The user has come to the delay. -/
def delayedAna : Depot :=
  ({} : Depot).reach (handleAna {} {}).2

theorem unfolds_delayedAna :
    Unfolds {} Site.greeting
      [⟨{}, .message .ofAna (handleAna {} {}).1, delayedAna⟩] delayedAna :=
  .next .start (.message (ends_handleAna {} {}))

theorem refused_only_while_pending_greeting :
    ∃ graph, ∃ row, ∃ item, (delayedAna.reach (handleAna {} delayedAna.scene).2).Pending item ∧
      Site.greeting.library.Awaits item graph row := by
  have refuses : (handleAna {} delayedAna.scene).1 = .ok (.skipped .delayPending) := by
    decide +kernel
  have refused : Occurs {} Site.greeting delayedAna (.message .ofAna (.ok (.skipped .delayPending)))
      (delayedAna.reach (handleAna {} delayedAna.scene).2) := by
    rw [← refuses]
    exact .message (ends_handleAna {} delayedAna.scene)
  obtain ⟨graph, row, _, _, _, ⟨item, pending, awaits⟩ | ⟨occurrence, isPast, strands⟩⟩ :=
    refused_only_while_pending (Flow.Library.filed_ofFlows _ _) unfolds_delayedAna refused
  · exact ⟨graph, row, item, pending, awaits⟩
  · -- Nothing has left the execution without a continuation.
    obtain rfl := List.mem_singleton.mp isPast
    cases strands with
    | givenUp _ concluded => cases concluded
    | hopLimit _ told =>
        have events_eq : Scene.publishedSince {} delayedAna.scene =
            [.accepted Continuation.ofAna.conversation "greeting" "",
              .entered Continuation.ofAna.conversation "start" "start",
              .entered Continuation.ofAna.conversation "pause" "delay",
              .delayScheduled Continuation.ofAna.conversation "greet" ⟨5000000000⟩] := by
          decide +kernel
        have told : _ ∈ Scene.publishedSince {} delayedAna.scene := told
        rw [events_eq] at told
        simp at told
    | untellable _ _ _ cutShort =>
        have processed : (handleAna {} {}).1 = .ok (.processed .ofAna) := by decide +kernel
        obtain ⟨reason, failed⟩ := cutShort
        rw [processed] at failed
        cases failed

/-- An engine that tries a continuation only once. -/
def hasty : Engine where
  settings := { resumeMaxAttempts := 1 }

/-- The user has come to the delay. -/
def hastyDelayed : Depot where
  scene := (handleAna hasty {}).2
  queue := [.ofAna]

/-- Her continuation is being delivered. -/
def hastyTaken : Depot :=
  { hastyDelayed with queue := [], deliveries := [{ item := .ofAna }] }

/-- Others have taken the lock of her conversation. -/
def hastyLocked : Depot :=
  { hastyTaken with
    scene := (Site.greeting.answer ⟨0⟩ {} (.acquire Continuation.ofAna.conversation)
      hastyTaken.scene).2 }

/-- Her continuation was refused. -/
def hastyTried : Depot :=
  { hastyLocked with
    scene := ((hasty.resume .ofAna).run (Site.greeting.answer ⟨0⟩ {}) hastyLocked.scene).2
    deliveries := [{ item := .ofAna, tried := some (.ok .busy) }] }

/-- It is no longer being delivered. -/
def hastyConcluded : Depot :=
  { hastyTried with
    scene := ((hasty.conclude .ofAna (.ok .busy)).run (Site.greeting.answer ⟨0⟩ {})
      hastyTried.scene).2
    deliveries := [] }

/-- The lock was released. -/
def hastyReleased : Depot :=
  { hastyConcluded with
    scene := (Site.greeting.answer ⟨0⟩ {} (.release Continuation.ofAna.conversation)
      hastyConcluded.scene).2 }

/-- Others do something about a lock. -/
theorem occurs_lock
    {depot : Depot}
    {request : Call}
    (isLock : request.isLock = true) :
    Occurs hasty Site.greeting depot .elsewhere
      { depot with scene := (Site.greeting.answer ⟨0⟩ {} request depot.scene).2 } :=
  .elsewhere ((Site.answers_answer trivial {} request depot.scene).untouched_of_isLock isLock)

theorem occurs_hastyTried :
    Occurs hasty Site.greeting hastyLocked (.tried .ofAna (.ok .busy)) hastyTried := by
  have busy : ((hasty.resume .ofAna).run (Site.greeting.answer ⟨0⟩ {}) hastyLocked.scene).1 =
      .ok .busy := by
    decide +kernel
  have idle : Scene.queuedSince hastyLocked.scene hastyTried.scene = [] := by decide +kernel
  have ends : Ends Site.greeting.Supports (hasty.resume .ofAna) hastyLocked.scene (.ok .busy)
      hastyTried.scene := by
    rw [← busy]
    exact ends_of_run _ (Site.supports_answer trivial {}) _ _
  have deliveries_eq : hastyLocked.deliveries = [] ++ { item := .ofAna } :: [] := rfl
  have occurs := Occurs.tried deliveries_eq ends
  rw [Depot.reach, idle] at occurs
  exact occurs

theorem occurs_hastyConcluded :
    Occurs hasty Site.greeting hastyTried (.concluded .ofAna (.ok .busy)) hastyConcluded := by
  have idle : Scene.queuedSince hastyTried.scene hastyConcluded.scene = [] := by decide +kernel
  have concluded : ((hasty.conclude .ofAna (.ok .busy)).run (Site.greeting.answer ⟨0⟩ {})
      hastyTried.scene).1 = .ok () := by
    decide +kernel
  have ends : Ends Site.greeting.Supports (hasty.conclude .ofAna (.ok .busy)) hastyTried.scene
      (.ok ()) hastyConcluded.scene := by
    rw [← concluded]
    exact ends_of_run _ (Site.supports_answer trivial {}) _ _
  have deliveries_eq : hastyTried.deliveries =
      [] ++ { item := .ofAna, tried := some (.ok .busy) } :: [] := rfl
  have occurs := Occurs.concluded deliveries_eq ends
  rw [Depot.reach, idle] at occurs
  exact occurs

theorem unfolds_hastyReleased : ∃ past, Unfolds hasty Site.greeting past hastyReleased := by
  have delayed : Occurs hasty Site.greeting {} (.message .ofAna (handleAna hasty {}).1)
      hastyDelayed := by
    have queued : Scene.queuedSince {} (handleAna hasty {}).2 = [.ofAna] := by decide +kernel
    have occurs : Occurs hasty Site.greeting {} _ _ := .message (ends_handleAna hasty {})
    rw [Depot.reach, queued] at occurs
    exact occurs
  have queue_eq : hastyDelayed.queue = [] ++ .ofAna :: [] := rfl
  have taken : Occurs hasty Site.greeting hastyDelayed (.taken .ofAna) hastyTaken := .taken queue_eq
  have locked : Occurs hasty Site.greeting hastyTaken .elsewhere hastyLocked := occurs_lock rfl
  have released : Occurs hasty Site.greeting hastyConcluded .elsewhere hastyReleased :=
    occurs_lock rfl
  exact ⟨_, .next (.next (.next (.next (.next (.next .start delayed) taken) locked)
    occurs_hastyTried) occurs_hastyConcluded) released⟩

/-- Her message is refused when her continuation was given up, and nothing is pending. -/
theorem refused_though_given_up_greeting :
    (∃ past, Unfolds hasty Site.greeting past hastyReleased) ∧
      ∃ after, Occurs hasty Site.greeting hastyReleased
        (.message .ofAna (.ok (.skipped .delayPending))) after ∧
        ∀ item, ¬ after.Pending item := by
  have refuses : (handleAna hasty hastyReleased.scene).1 = .ok (.skipped .delayPending) := by
    decide +kernel
  have idle :
      Scene.queuedSince hastyReleased.scene (handleAna hasty hastyReleased.scene).2 = [] := by
    decide +kernel
  refine ⟨unfolds_hastyReleased, hastyReleased.reach (handleAna hasty hastyReleased.scene).2,
    ?_, ?_⟩
  · rw [← refuses]
    exact .message (ends_handleAna hasty hastyReleased.scene)
  · rintro item (queued | ⟨_, ⟨⟩, _⟩)
    have queued : item ∈ [] ++ Scene.queuedSince _ _ := queued
    rw [idle] at queued
    cases queued

end Engine
end ChatFlow
