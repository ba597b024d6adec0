import ChatFlow.Proofs.Store.Lives
import ChatFlow.Proofs.Time.Timestamp
import Mathlib.Data.List.FinRange
import Mathlib.Data.String.Basic
import Mathlib.Tactic.SplitIfs

/-!
# The latest executions

Rows are ordered by the texts of the times at which they were changed, byte by byte.  Accesses at
instants of the years 0 to 9999 write such times, and the texts have the order of the instants; so
what comes first is what was changed last, and of rows changed at one time the one that was added
last.
-/

namespace ChatFlow

/-! ## The order of texts -/

namespace Text

/-- The bytes of a text. -/
def bytes (text : String) : List UInt8 :=
  text.toByteArray.data.toList

/-- The bytes of a text are those of its characters. -/
theorem bytes_eq (text : String) : bytes text = text.toList.flatMap String.utf8EncodeChar := by
  rw [bytes, ← String.utf8Encode_toList, List.utf8Encode, List.toList_data_toByteArray]

/-- The smaller character has the smaller bytes, and they decide whatever is behind them. -/
theorem encode_append_lt
    {c later : Char}
    (less : c < later)
    (rest laterRest : List UInt8) :
    String.utf8EncodeChar c ++ rest < String.utf8EncodeChar later ++ laterRest := by
  have bound : later.val.toNat < 0x110000 := by
    rcases later.valid with low | ⟨_, high⟩
    · exact Nat.lt_trans low (by decide)
    · exact high
  rw [Char.lt_def, UInt32.lt_iff_toNat_lt] at less
  unfold String.utf8EncodeChar
  generalize c.val.toNat = value at less
  generalize later.val.toNat = laterValue at less bound
  dsimp only
  have lead (n : Nat) (small : n < 0x110000) :
      (n / 262144 % 8 + 240) % 256 = n / 262144 + 240 := by
    omega
  have trail (n : Nat) : (n % 64 + 128) % 256 = n % 64 + 128 := by omega
  -- One case for each two lengths: a longer encoding has the greater first byte, and two of one
  -- length are compared as the numbers that their bytes are cut from.
  split_ifs <;>
    simp only [List.cons_append, List.nil_append, List.cons_lt_cons_iff, UInt8.lt_iff_toNat_lt,
      ← UInt8.toNat_inj, UInt8.toNat_ofNat', Nat.reducePow, trail,
      lead value (Nat.lt_trans less bound), lead laterValue bound] <;>
    omega

/-- The smaller text has the smaller bytes. -/
theorem bytes_lt_bytes {text later : String} (less : text < later) : bytes text < bytes later := by
  rw [bytes_eq, bytes_eq]
  replace less := String.lt_iff.mp less
  generalize text.toList = characters at less ⊢
  generalize later.toList = laterCharacters at less ⊢
  induction less with
  | @nil c rest =>
      have filled : String.utf8EncodeChar c ≠ [] := by simp
      obtain ⟨first, others, encoded⟩ := List.exists_cons_of_ne_nil filled
      rw [List.flatMap_nil, List.flatMap_cons, encoded]
      exact List.nil_lt_cons _ _
  | cons _ inductionHypothesis => exact List.append_left_lt inductionHypothesis
  | rel smaller => exact encode_append_lt smaller _ _

/-- Texts have the order of their bytes. -/
theorem bytes_lt_bytes_iff {text later : String} : bytes text < bytes later ↔ text < later := by
  refine ⟨fun less => ?_, bytes_lt_bytes⟩
  rcases lt_trichotomy text later with before | rfl | after
  · exact before
  · exact absurd less (List.lt_irrefl _)
  · exact absurd less (List.lt_asymm (bytes_lt_bytes after))

end Text

namespace Store

variable {store : Store} {rows : List ExecutionRow} {row other : ExecutionRow}

/-! ## Stored times -/

/-- Every row was changed last at an instant of the years 0 to 9999. -/
def Dated (rows : List ExecutionRow) : Prop :=
  ∀ row ∈ rows, ∃ time : Instant, time.IsStored ∧ row.updated = Timestamp.print time

theorem Dated.filter
    (dated : Dated rows)
    (selected : ExecutionRow → Bool) :
    Dated (rows.filter selected) :=
  fun row member => dated row (List.mem_of_mem_filter member)

/-- Dated rows are ordered by the texts of their times as they are by the times. -/
theorem Dated.updated_le_iff
    (dated : Dated rows)
    (member : row ∈ rows)
    (otherMember : other ∈ rows) :
    row.updated ≤ other.updated ↔ row.toExecution.updated ≤ other.toExecution.updated := by
  obtain ⟨time, stored, updated⟩ := dated row member
  obtain ⟨otherTime, otherStored, otherUpdated⟩ := dated other otherMember
  rw [ExecutionRow.toExecution, ExecutionRow.toExecution, updated, otherUpdated,
    Timestamp.parse_print stored, Timestamp.parse_print otherStored, ← not_lt,
    Timestamp.print_lt_print_iff otherStored stored]
  exact Int.not_lt

/-- What is changed at an instant of the years 0 to 9999 is dated, and what is not changed stays
dated. -/
theorem Dated.map_ite
    {now : Instant}
    {change : ExecutionRow → ExecutionRow}
    (dated : Dated rows)
    (stored : now.IsStored)
    (updated : ∀ row, (change row).updated = Timestamp.print now)
    (changes : ExecutionRow → Prop)
    [DecidablePred changes] :
    Dated (rows.map fun row => if changes row then change row else row) := by
  intro row member
  obtain ⟨old, oldMember, rfl⟩ := List.mem_map.mp member
  split
  · exact ⟨now, stored, updated old⟩
  · exact dated old oldMember

/-- What is added at an instant of the years 0 to 9999 is dated. -/
theorem Dated.insertActive
    {stamp : Stamp}
    (dated : Dated store.executions)
    (stored : stamp.now.IsStored)
    (conversation : Conversation)
    (flow node : String)
    (waiting : Bool) :
    Dated (store.insertActive stamp conversation flow node waiting).executions := by
  unfold Store.insertActive
  split
  · exact dated
  · intro row member
    rcases List.mem_append.mp member with old | added
    · exact dated row old
    · obtain rfl := List.mem_singleton.mp added
      exact ⟨stamp.now, stored, rfl⟩

/-- An access at an instant of the years 0 to 9999 leaves the rows dated. -/
theorem Dated.perform
    {access : Access}
    (dated : Dated store.executions)
    (stored : access.stamp.now.IsStored) :
    Dated (access.perform store).2.executions := by
  obtain ⟨stamp, deed, held⟩ := access
  cases held with
  | true => exact dated
  | false =>
    cases deed with
    | create conversation flow node =>
        have inserted := dated.insertActive stored conversation flow node false
        simp only [Access.perform, Database.write, Deed.perform, Store.create]
        cases (store.insertActive stamp conversation flow node false).activeIn? conversation flow
          <;> exact inserted
    | advance conversation flow node waiting =>
        simp only [Access.perform, Database.write, Deed.perform, Store.advance]
        by_cases runs : store.isActiveIn conversation flow = true
        · rw [if_pos runs]
          exact dated.map_ite stored (by intro; rfl) _
        · rw [if_neg runs]
          exact dated.insertActive stored conversation flow node waiting
    | setWaiting conversation flow waiting =>
        simp only [Access.perform, Database.write, Deed.perform, Store.setWaiting]
        by_cases runs : store.isActiveIn conversation flow = true
        · rw [if_pos runs]
          exact dated.map_ite stored (by intro; rfl) _
        · rw [if_neg runs]
          exact dated
    | complete => exact dated.map_ite stored (by intro; rfl) _
    | setStage => exact dated.map_ite stored (by intro; rfl) _
    | saveVariables => exact dated.map_ite stored (by intro; rfl) _

/-- Accesses at instants of the years 0 to 9999 lead to dated rows. -/
theorem dated_afterAll
    {accesses : List Access}
    (dated : Dated store.executions)
    (stored : ∀ access ∈ accesses, access.stamp.now.IsStored) :
    Dated (store.afterAll accesses).executions := by
  induction accesses generalizing store with
  | nil => exact dated
  | cons access rest inductionHypothesis =>
      obtain ⟨accessStored, restStored⟩ := List.forall_mem_cons.mp stored
      exact inductionHypothesis (dated.perform accessStored) restStored

theorem dated_reached
    {accesses : List Access}
    (stored : ∀ access ∈ accesses, access.stamp.now.IsStored) :
    Dated (reached accesses).executions :=
  dated_afterAll (fun _ member => nomatch member) stored

/-! ## The order of rows -/

/-- The row at a place was changed later than the row at another place, or at the same time and it
was added later. -/
def Fresher (rows : List ExecutionRow) (place other : Fin rows.length) : Prop :=
  rows[other].toExecution.updated < rows[place].toExecution.updated ∨
    rows[place].toExecution.updated = rows[other].toExecution.updated ∧ other < place

/-- Sorting leaves in their order those that may be in either. -/
theorem pairwise_mergeSort_of_pairwise
    {α : Type*}
    {le : α → α → Bool}
    {first : α → α → Prop}
    {list : List α}
    (trans : ∀ a b c, le a b = true → le b c = true → le a c = true)
    (total : ∀ a b, (le a b || le b a) = true)
    (inOrder : list.Pairwise first) :
    (list.mergeSort le).Pairwise fun a b => le a b = true ∧ (le b a = true → first a b) := by
  induction list with
  | nil => rw [List.mergeSort_nil]; exact .nil
  | cons a rest inductionHypothesis =>
      obtain ⟨firstOfAll, restInOrder⟩ := List.pairwise_cons.mp inOrder
      obtain ⟨front, back, sorted_eq, restSorted_eq, smaller⟩ :=
        List.mergeSort_cons trans total a rest
      have sorted := List.pairwise_mergeSort trans total (a :: rest)
      have others := inductionHypothesis restInOrder
      have behind {b : α} (member : b ∈ back) : b ∈ rest :=
        List.mem_mergeSort.mp (restSorted_eq ▸ List.mem_append_right front member)
      rw [restSorted_eq, List.pairwise_append] at others
      rw [sorted_eq, List.pairwise_append, List.pairwise_cons] at sorted
      obtain ⟨frontOrder, backOrder, across⟩ := others
      obtain ⟨-, ⟨fromFirst, -⟩, -⟩ := sorted
      rw [sorted_eq, List.pairwise_append, List.pairwise_cons]
      refine ⟨frontOrder, ⟨fun b member => ?_, backOrder⟩, fun b member c => ?_⟩
      · exact ⟨fromFirst b member, fun _ => firstOfAll b (behind member)⟩
      · rw [List.mem_cons]
        rintro (rfl | cMember)
        · have notLe : le c b = false := by simpa using smaller b member
          have bLe : le b c = true := by simpa [notLe] using total b c
          exact ⟨bLe, fun cLe => by rw [notLe] at cLe; cases cLe⟩
        · exact across b member c cMember

/-- The text of a place's time is not the smaller one. -/
def precedes (rows : List ExecutionRow) (place other : Fin rows.length) : Bool :=
  decide (rows[other].updated ≤ rows[place].updated)

theorem Dated.precedes_iff
    (dated : Dated rows)
    (place other : Fin rows.length) :
    precedes rows place other = true ↔
      rows[other].toExecution.updated ≤ rows[place].toExecution.updated := by
  rw [precedes, decide_eq_true_iff]
  exact dated.updated_le_iff (List.getElem_mem _) (List.getElem_mem _)

theorem precedes_trans
    (place middle other : Fin rows.length)
    (first : precedes rows place middle = true)
    (second : precedes rows middle other = true) :
    precedes rows place other = true :=
  decide_eq_true (le_trans (of_decide_eq_true second) (of_decide_eq_true first))

theorem precedes_total (place other : Fin rows.length) :
    (precedes rows place other || precedes rows other place) = true := by
  rw [Bool.or_eq_true, precedes, precedes, decide_eq_true_iff, decide_eq_true_iff]
  exact le_total _ _

/-- The row at a place is fresher when its text comes first and, of two with the same text, it was
added later. -/
theorem Dated.fresher_of_precedes
    (dated : Dated rows)
    {place other : Fin rows.length}
    (first : precedes rows place other = true)
    (ofSame : precedes rows other place = true → other < place) :
    Fresher rows place other := by
  rcases Int.lt_or_eq_of_le ((dated.precedes_iff place other).mp first) with later | same
  · exact .inl later
  · have sameTime : rows[place].toExecution.updated = rows[other].toExecution.updated :=
      congrArg Instant.mk same.symm
    refine .inr ⟨sameTime, ofSame ((dated.precedes_iff other place).mpr ?_)⟩
    rw [sameTime]
    exact Int.le_refl _

/-- The rows in order of recency are those at all places, each one fresher than those behind it. -/
theorem exists_places (dated : Dated rows) :
    ∃ places : List (Fin rows.length), (∀ place, place ∈ places) ∧ places.Pairwise (Fresher rows) ∧
      byRecency rows = places.map fun place => rows[place] := by
  refine ⟨(List.finRange rows.length).reverse.mergeSort (precedes rows), ?_, ?_, ?_⟩
  · intro place
    rw [List.mem_mergeSort, List.mem_reverse]
    exact List.mem_finRange place
  · have added : (List.finRange rows.length).reverse.Pairwise fun place other => other < place :=
      List.pairwise_reverse.mpr (List.pairwise_lt_finRange rows.length)
    exact (pairwise_mergeSort_of_pairwise precedes_trans precedes_total added).imp
      fun order => dated.fresher_of_precedes order.1 order.2
  · have all : (List.finRange rows.length).reverse.map (fun place => rows[place]) =
        rows.reverse := by
      rw [List.map_reverse]
      exact congrArg List.reverse (List.map_getElem_finRange rows)
    rw [byRecency, ← all]
    exact (List.map_mergeSort (f := fun place : Fin rows.length => rows[place])
      (r := precedes rows) fun _ _ _ _ => rfl).symm

/-! ## Answers -/

/-- The answer is the execution whose row is fresher than all others, or there is no row. -/
def IsFreshest (rows : List ExecutionRow) (answer : Option Execution) : Prop :=
  (rows = [] ∧ answer = none) ∨
    ∃ place : Fin rows.length, answer = some rows[place].toExecution ∧
      ∀ other, other ≠ place → Fresher rows place other

/-- The first of the rows in order of recency is the freshest one. -/
theorem isFreshest_byRecency (dated : Dated rows) :
    IsFreshest rows ((byRecency rows).head?.map ExecutionRow.toExecution) := by
  obtain ⟨places, all, order, rows_eq⟩ := exists_places dated
  rw [rows_eq]
  cases places with
  | nil =>
      refine .inl ⟨List.eq_nil_iff_length_eq_zero.mpr (Nat.eq_zero_of_not_pos fun some => ?_), rfl⟩
      exact nomatch all ⟨0, some⟩
  | cons place rest =>
      refine .inr ⟨place, rfl, fun other different => ?_⟩
      have behind := (List.mem_cons.mp (all other)).resolve_left different
      exact (List.pairwise_cons.mp order).1 other behind

theorem limited_map
    {α β : Type*}
    (f : α → β)
    (limit : Nat)
    (rows : List α) :
    limited limit (rows.map f) = (limited limit rows).map f := by
  unfold limited
  split
  · exact List.map_take.symm
  · rfl

/-- Of the instants of the years 0 to 9999 the earlier one has the smaller bytes, and each one is
read back.  So the execution that runs and the latest one in a flow are those whose rows were
changed last, of several at one time the one that was added last, and executions are listed in this
order, up to the limit. -/
theorem recency_of_stored_times :
    (∀ earlier later : Instant, earlier.IsStored → later.IsStored →
      (earlier < later ↔
        Text.bytes (Timestamp.print earlier) < Text.bytes (Timestamp.print later))) ∧
    (∀ time : Instant, time.IsStored → Timestamp.parse (Timestamp.print time) = time) ∧
    ∀ (store : Store) (conversation : Conversation) (flow : String) (limit : Nat),
      Dated store.executions →
      IsFreshest ((store.rowsOf conversation).filter fun row => row.status == .active)
        (store.active? conversation) ∧
      IsFreshest (store.executions.filter fun row => row.belongsTo conversation flow)
        (store.latest? conversation flow) ∧
      ∃ places : List (Fin (store.rowsOf conversation).length),
        (∀ place, place ∈ places) ∧ places.Pairwise (Fresher (store.rowsOf conversation)) ∧
        store.list conversation limit =
          (limited limit places).map fun place =>
            (store.rowsOf conversation)[place].toExecution := by
  refine ⟨?_, fun time stored => Timestamp.parse_print stored, ?_⟩
  · intro earlier later stored laterStored
    rw [Text.bytes_lt_bytes_iff, Timestamp.print_lt_print_iff stored laterStored]
  · intro store conversation flow limit dated
    have ofConversation : Dated (store.rowsOf conversation) := dated.filter _
    refine ⟨isFreshest_byRecency (ofConversation.filter _), isFreshest_byRecency (dated.filter _),
      ?_⟩
    obtain ⟨places, all, order, rows_eq⟩ := exists_places ofConversation
    refine ⟨places, all, order, ?_⟩
    rw [list, rows_eq, limited_map, List.map_map]
    rfl

/-- Executions that begin within one second, at times with no fraction and with fractions of three,
six and nine digits, not in the order of time. -/
def withinSecond : List Access :=
  [⟨⟨⟨1⟩, "exec-1"⟩, .create ⟨"p1", "d1"⟩ "f1" "s", false⟩,
   ⟨⟨⟨1000000⟩, "exec-2"⟩, .create ⟨"p1", "d1"⟩ "f2" "s", false⟩,
   ⟨⟨⟨1000⟩, "exec-3"⟩, .create ⟨"p1", "d1"⟩ "f3" "s", false⟩,
   ⟨⟨⟨0⟩, "exec-4"⟩, .create ⟨"p1", "d1"⟩ "f4" "s", false⟩]

/-- The forms of these times are read back and have the order of the times, and the execution that
runs is found by them. -/
theorem recency_of_stored_times_withinSecond :
    (reached withinSecond).executions.map (fun row => row.updated) =
      ["1970-01-01T00:00:00.000000001+00:00", "1970-01-01T00:00:00.001+00:00",
       "1970-01-01T00:00:00.000001+00:00", "1970-01-01T00:00:00+00:00"] ∧
    Text.bytes (Timestamp.print ⟨1⟩) < Text.bytes (Timestamp.print ⟨1000⟩) ∧
    Timestamp.parse (Timestamp.print ⟨1⟩) = ⟨1⟩ ∧
    IsFreshest
      (((reached withinSecond).rowsOf ⟨"p1", "d1"⟩).filter fun row => row.status == .active)
      ((reached withinSecond).active? ⟨"p1", "d1"⟩) :=
  have dated : Dated (reached withinSecond).executions := dated_reached (by decide)
  ⟨by decide +kernel,
    (recency_of_stored_times.1 ⟨1⟩ ⟨1000⟩ (by decide) (by decide)).mp (by decide),
    recency_of_stored_times.2.1 ⟨1⟩ (by decide),
    (recency_of_stored_times.2.2 (reached withinSecond) ⟨"p1", "d1"⟩ "f1" 10 dated).1⟩

end Store
end ChatFlow
