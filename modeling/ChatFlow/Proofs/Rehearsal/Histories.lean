import ChatFlow.Proofs.Store.Columns
import ChatFlow.Rehearsal.Script

/-!
# The history beside the store and the one in it

A rehearsal keeps the history in a list beside the store, or in the store itself.  The store turns
times into texts, lists its rows from the latest one on and takes a great limit for none; the list
does nothing of that.  All the same, whoever only adds to histories and reads them cannot tell
which of the two it is.
-/

namespace ChatFlow

/-! ## The end of a list -/

/-- What is found is the end of a list, as long as a limit and the list allow. -/
structure IsLatest (limit : Nat) (entries found : List α) : Prop where
  /-- It is an end of the list. -/
  suffix : found <:+ entries
  /-- It is as long as it may be. -/
  length_eq : found.length = min limit entries.length

/-- There is only one such end. -/
theorem IsLatest.eq
    {entries found other : List α}
    (latest : IsLatest limit entries found)
    (otherLatest : IsLatest limit entries other) :
    found = other := by
  have same : found.length = other.length :=
    latest.length_eq.trans otherLatest.length_eq.symm
  exact (List.suffix_of_suffix_length_le latest.suffix otherLatest.suffix same.le).eq_of_length same

/-- What remains of a list when all but the last ones are left out. -/
theorem isLatest_drop (limit : Nat) (entries : List α) :
    IsLatest limit entries (entries.drop (entries.length - limit)) where
  suffix := List.drop_suffix _ _
  length_eq := by
    rw [List.length_drop]
    omega

/-- The first rows of what is turned around, turned around again. -/
theorem isLatest_reverse_limited
    {limit : Nat}
    {rows : List α}
    (few : rows.length ≤ Store.largestLimit) :
    IsLatest limit rows (Store.limited limit rows.reverse).reverse := by
  rw [Store.limited]
  split
  · refine ⟨?_, ?_⟩
    · rw [← List.reverse_prefix, List.reverse_reverse]
      exact List.take_prefix _ _
    · rw [List.length_reverse, List.length_take, List.length_reverse]
  · rw [List.reverse_reverse]
    exact ⟨List.suffix_rfl, by omega⟩

/-- Each entry of the list may be changed. -/
theorem IsLatest.map
    {entries found : List α}
    (latest : IsLatest limit entries found)
    (change : α → β) :
    IsLatest limit (entries.map change) (found.map change) where
  suffix := latest.suffix.map change
  length_eq := by
    rw [List.length_map, List.length_map, latest.length_eq]

/-- An entry is added behind those of its conversation. -/
theorem Store.historyOf_appendHistory
    (store : Store)
    (conversation other : Conversation)
    (entry : HistoryEntry) :
    (store.appendHistory conversation entry).historyOf other =
      store.historyOf other ++
        if conversation = other then [HistoryRow.ofEntry conversation entry] else [] := by
  by_cases same : conversation = other
  · simp [appendHistory, historyOf, HistoryRow.ofEntry, same]
  · simp [appendHistory, historyOf, HistoryRow.ofEntry, same]

namespace Rehearsal

/-! ## Calls for the history -/

/-- A call for the history. -/
inductive HistoryCall where
  /-- Add an entry to the history of a conversation. -/
  | append (conversation : Conversation) (entry : HistoryEntry)
  /-- Read the latest entries of a conversation up to a limit. -/
  | read (conversation : Conversation) (limit : Nat)
deriving DecidableEq, Repr

namespace HistoryCall

/-- Makes the call.  What is read is the result; an addition has none to speak of. -/
def ask : HistoryCall → Process (List HistoryEntry)
  | .append conversation entry => do
    Process.orHalt (← Process.ask (.appendHistory conversation entry))
    return []
  | .read conversation limit => do
    Process.orHalt (← Process.ask (.readHistory conversation limit))

/-- Makes calls one after another. -/
def askAll : List HistoryCall → Process (List (List HistoryEntry))
  | [] => return []
  | call :: calls => do
    let found ← call.ask
    let results ← askAll calls
    return found :: results

/-- The entry that the call adds to the history of a conversation. -/
def entryFor? (conversation : Conversation) : HistoryCall → Option HistoryEntry
  | .append target entry => if target = conversation then some entry else none
  | .read .. => none

/-- The entries that calls add to the history of a conversation, in order. -/
def entriesFor (conversation : Conversation) (calls : List HistoryCall) : List HistoryEntry :=
  calls.filterMap (entryFor? conversation)

/-- The result that a call is to have after other ones.  What is read are the latest entries that
were added for the conversation by then. -/
def Finds (before : List HistoryCall) (found : List HistoryEntry) : HistoryCall → Prop
  | .append .. => found = []
  | .read conversation limit => IsLatest limit (entriesFor conversation before) found

/-- The results that calls are to have after other ones. -/
inductive FindAll : (before calls : List HistoryCall) → List (List HistoryEntry) → Prop where
  /-- There are no calls. -/
  | nil : FindAll before [] []
  /-- The first call has its result, and the others have theirs after it. -/
  | cons (first : call.Finds before found) (others : FindAll (before ++ [call]) calls results) :
      FindAll before (call :: calls) (found :: results)

variable {before calls : List HistoryCall}

/-- A call has one result. -/
theorem Finds.eq
    {call : HistoryCall}
    (finds : call.Finds before found)
    (other : call.Finds before different) :
    found = different := by
  cases call with
  | append conversation entry => exact Eq.trans finds (Eq.symm other)
  | read conversation limit => exact IsLatest.eq finds other

/-- Calls have their results. -/
theorem FindAll.eq
    (find : FindAll before calls results)
    (other : FindAll before calls different) :
    results = different := by
  induction find generalizing different with
  | nil =>
      cases other
      rfl
  | cons first _ inductionHypothesis =>
      cases other with
      | cons otherFirst others => rw [first.eq otherFirst, inductionHypothesis others]

end HistoryCall

/-! ## One call -/

/-- The history can be added to and read. -/
def World.Serves (world : World) : HistoryKeeper → Prop
  | .memory => True
  | .store => world.session.database.held = false
  | .broken => False

/-- The world with another store. -/
def World.withStore (world : World) (store : Store) : World :=
  { world with session.database.store := store }

/-- Where nobody else holds the database, the store is changed. -/
theorem World.change_of_free
    {world : World}
    (free : world.session.database.held = false)
    (operation : Store → Store) :
    world.change operation = (.ok (), world.withStore (operation world.session.database.store)) := by
  simp [change, write, withStore, Database.write, free, Except.mapError]

section
variable {script : Script} {world : World}

/-- An entry is added behind those of its conversation. -/
theorem answer_appendHistory
    {entry : HistoryEntry}
    (serves : world.Serves script.history)
    (stored : entry.time.IsStored)
    (conversation : Conversation) :
    ∃ later,
      World.answer script (.appendHistory conversation entry) world = (.ok (), later) ∧
      later.Serves script.history ∧
      ∀ other, later.historyOf script.history other =
        world.historyOf script.history other ++ if conversation = other then [entry] else [] := by
  cases keeper : script.history with
  | broken =>
      rw [keeper] at serves
      exact serves.elim
  | memory =>
      refine ⟨{ world with memory := world.memory ++ [(conversation, entry)] }, ?_, trivial,
        fun other => ?_⟩
      · simp only [World.answer, keeper]
      · by_cases same : conversation = other
        · simp [World.historyOf, World.remembered, same]
        · simp [World.historyOf, World.remembered, same]
  | store =>
      rw [keeper] at serves
      have free : world.session.database.held = false := serves
      have read : (HistoryRow.ofEntry conversation entry).toEntry = entry := by
        rw [Store.toEntry_ofEntry, Timestamp.parse_print stored]
      refine ⟨world.withStore (world.session.database.store.appendHistory conversation entry), ?_,
        free, fun other => ?_⟩
      · simp only [World.answer, keeper, World.change_of_free free]
      · rw [World.historyOf, World.withStore, Store.historyOf_appendHistory, List.map_append]
        split
        · rw [List.map_singleton, read]
          rfl
        · rfl

/-- What is read are the latest entries, and nothing changes by that. -/
theorem answer_readHistory
    {conversation : Conversation}
    (serves : world.Serves script.history)
    (few : (world.historyOf script.history conversation).length ≤ Store.largestLimit)
    (limit : Nat) :
    ∃ found,
      World.answer script (.readHistory conversation limit) world = (.ok found, world) ∧
      IsLatest limit (world.historyOf script.history conversation) found := by
  cases keeper : script.history with
  | broken =>
      rw [keeper] at serves
      exact serves.elim
  | memory =>
      refine ⟨_, ?_, isLatest_drop limit _⟩
      simp only [World.answer, keeper]
      rfl
  | store =>
      rw [keeper, World.historyOf, List.length_map] at few
      refine ⟨_, ?_, (isLatest_reverse_limited few).map HistoryRow.toEntry⟩
      simp only [World.answer, keeper]
      rfl

/-! ## Any calls -/

/-- The histories are what calls made them. -/
def World.Keeps (world : World) (keeper : HistoryKeeper) (calls : List HistoryCall) : Prop :=
  ∀ conversation,
    world.historyOf keeper conversation = HistoryCall.entriesFor conversation calls

/-- No history becomes longer than a limit can be: the store numbers its rows in words that have
signs. -/
def HistoryCall.Few (calls : List HistoryCall) : Prop :=
  ∀ conversation, (HistoryCall.entriesFor conversation calls).length ≤ Store.largestLimit

/-- Every time has a stored form. -/
def HistoryCall.Dated : HistoryCall → Prop
  | .append _ entry => entry.time.IsStored
  | .read .. => True

instance (call : HistoryCall) : Decidable call.Dated :=
  match call with
  | .append _ entry => inferInstanceAs (Decidable entry.time.IsStored)
  | .read .. => .isTrue trivial

/-- A call has the result that it is to have, wherever the history is kept, and makes the histories
what they are to be. -/
theorem run_ask
    {before : List HistoryCall}
    {call : HistoryCall}
    (serves : world.Serves script.history)
    (keeps : world.Keeps script.history before)
    (dated : call.Dated)
    (few : HistoryCall.Few before) :
    ∃ found later, call.ask.run (World.answer script) world = (.ok found, later) ∧
      call.Finds before found ∧ later.Serves script.history ∧
      later.Keeps script.history (before ++ [call]) := by
  cases call with
  | append conversation entry =>
      obtain ⟨later, answered, stillServes, appended⟩ :=
        answer_appendHistory serves dated conversation
      refine ⟨[], later, ?_, rfl, stillServes, fun other => ?_⟩
      · simp [HistoryCall.ask, Process.ask, Process.run, answered, Process.orHalt]
      · rw [appended, keeps, HistoryCall.entriesFor, HistoryCall.entriesFor, List.filterMap_append]
        congr 1
        by_cases same : conversation = other
        · simp [HistoryCall.entryFor?, same]
        · simp [HistoryCall.entryFor?, same]
  | read conversation limit =>
      have fits := few conversation
      rw [← keeps] at fits
      obtain ⟨found, answered, latest⟩ := answer_readHistory serves fits limit
      rw [keeps] at latest
      refine ⟨found, world, ?_, latest, serves, fun other => ?_⟩
      · simp [HistoryCall.ask, Process.ask, Process.run, answered, Process.orHalt]
      · rw [keeps, HistoryCall.entriesFor, HistoryCall.entriesFor, List.filterMap_append]
        exact (List.append_nil _).symm

/-- Calls have the results that they are to have, wherever the history is kept. -/
theorem run_askAll
    {before calls : List HistoryCall}
    (serves : world.Serves script.history)
    (keeps : world.Keeps script.history before)
    (dated : ∀ call ∈ calls, call.Dated)
    (few : HistoryCall.Few (before ++ calls)) :
    ∃ results later,
      (HistoryCall.askAll calls).run (World.answer script) world = (.ok results, later) ∧
      HistoryCall.FindAll before calls results ∧ later.Serves script.history ∧
      later.Keeps script.history (before ++ calls) := by
  induction calls generalizing before world with
  | nil => exact ⟨[], world, rfl, .nil, serves, by rwa [List.append_nil]⟩
  | cons call calls inductionHypothesis =>
      have fewBefore : HistoryCall.Few before := fun conversation => by
        have fits := few conversation
        rw [HistoryCall.entriesFor, List.filterMap_append, List.length_append] at fits
        exact Nat.le_of_add_right_le fits
      obtain ⟨found, next, ran, finds, nextServes, nextKeeps⟩ :=
        run_ask serves keeps (dated call List.mem_cons_self) fewBefore
      rw [← List.singleton_append, ← List.append_assoc] at few ⊢
      obtain ⟨results, later, ranOthers, find, laterServes, laterKeeps⟩ :=
        inductionHypothesis nextServes nextKeeps
          (fun other member => dated other (List.mem_cons_of_mem call member)) few
      refine ⟨found :: results, later, ?_, .cons finds find, laterServes, laterKeeps⟩
      simp [HistoryCall.askAll, Process.run_andThen, ran, ranOthers, Process.run]

end

/-- Whatever is added to histories and read from them, and however these calls alternate, the list
beside the store and the store itself give the same results: what is read are the latest entries
that were added for the conversation by then, the oldest of them first, as many as there are up to
the limit. -/
theorem histories_agree
    {beside inside : Script}
    {listed stored : World}
    {calls : List HistoryCall}
    (inMemory : beside.history = .memory)
    (inStore : inside.history = .store)
    (free : stored.session.database.held = false)
    (noneListed : listed.memory = [])
    (noneStored : stored.session.database.store.history = [])
    (dated : ∀ call ∈ calls, call.Dated)
    (few : HistoryCall.Few calls) :
    ∃ results,
      ((HistoryCall.askAll calls).run (World.answer beside) listed).1 = .ok results ∧
      ((HistoryCall.askAll calls).run (World.answer inside) stored).1 = .ok results ∧
      HistoryCall.FindAll [] calls results := by
  have listedServes : listed.Serves beside.history := by
    rw [inMemory]
    trivial
  have storedServes : stored.Serves inside.history := by
    rw [inStore]
    exact free
  have listedKeeps : listed.Keeps beside.history [] := fun conversation => by
    rw [inMemory, World.historyOf, World.remembered, noneListed]
    rfl
  have storedKeeps : stored.Keeps inside.history [] := fun conversation => by
    rw [inStore, World.historyOf, Store.historyOf, noneStored]
    rfl
  obtain ⟨results, later, listedRan, find, -, -⟩ := run_askAll listedServes listedKeeps dated few
  obtain ⟨storedResults, storedLater, storedRan, storedFind, -, -⟩ :=
    run_askAll storedServes storedKeeps dated few
  refine ⟨results, ?_, ?_, find⟩
  · rw [listedRan]
  · rw [storedRan, storedFind.eq find]

/-- Two conversations on one device. -/
def twoConversations : List HistoryCall :=
  let first : Conversation := ⟨"p1", "d1"⟩
  let second : Conversation := ⟨"p2", "d1"⟩
  [ .append first { user := "hi", bot := "hello", stage := some "greeting", time := ⟨0⟩ },
    .append second { user := "", bot := "welcome", displayName := some "Ana", time := ⟨1⟩ },
    .append first { user := "more", bot := "", time := ⟨-1⟩ },
    .read first 0,
    .read first 1,
    .read second 18446744073709551615,
    .read first 9223372036854775808 ]

/-- The history is kept in the store. -/
def storing : Script := { history := .store }

/-- There is nothing yet. -/
def emptyWorld : World := { session := { now := ⟨0⟩ } }

/-- Up to no entry nothing is read, and up to a great limit everything of the one conversation. -/
theorem histories_agree_twoConversations :
    ({} : Script).history = .memory ∧ storing.history = .store ∧
      emptyWorld.session.database.held = false ∧ emptyWorld.memory = [] ∧
      emptyWorld.session.database.store.history = [] ∧
      (∀ call ∈ twoConversations, call.Dated) ∧ HistoryCall.Few twoConversations ∧
      ((HistoryCall.askAll twoConversations).run (World.answer storing) emptyWorld).1 =
        .ok [[], [], [], [],
          [{ user := "more", bot := "", time := ⟨-1⟩ }],
          [{ user := "", bot := "welcome", displayName := some "Ana", time := ⟨1⟩ }],
          [{ user := "hi", bot := "hello", stage := some "greeting", time := ⟨0⟩ },
            { user := "more", bot := "", time := ⟨-1⟩ }]] := by
  have inMemory : ({} : Script).history = .memory := rfl
  have inStore : storing.history = .store := rfl
  have free : emptyWorld.session.database.held = false := rfl
  have noneListed : emptyWorld.memory = [] := rfl
  have noneStored : emptyWorld.session.database.store.history = [] := rfl
  have dated : ∀ call ∈ twoConversations, call.Dated := by decide +kernel
  have few : HistoryCall.Few twoConversations := fun conversation =>
    Nat.le_trans (List.length_filterMap_le _ _) (by decide)
  refine ⟨inMemory, inStore, free, noneListed, noneStored, dated, few, ?_⟩
  obtain ⟨results, besideRan, insideRan, -⟩ :=
    histories_agree inMemory inStore free noneListed noneStored dated few
  rw [insideRan, ← besideRan]
  rfl

end Rehearsal
end ChatFlow
