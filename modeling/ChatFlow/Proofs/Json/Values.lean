import ChatFlow.Proofs.Json.Documents
import ChatFlow.Proofs.Keyed

/-!
# Values that were read

The integers of a value that was read lie in the range of words, its objects are in the order of
their keys, and it is no deeper than the text from which it was read.  So the text that it is
written as means the same value again, provided that its other numbers do.
-/

namespace ChatFlow

namespace Json

variable {holds : Number → Prop} {fuel depth : Nat} {characters left : List Char} {tree : Tree}
  {value : Value}

/-! ## Numbers of a tree -/

/-- All numbers that occur in the tree have a property. -/
inductive Tree.AllNumbers (holds : Number → Prop) : Tree → Prop
  | null : AllNumbers holds .null
  | bool (value : Bool) : AllNumbers holds (.bool value)
  | number {value : Option Number} (here : ∀ number, value = some number → holds number) :
      AllNumbers holds (.number value)
  | string (text : Option String) : AllNumbers holds (.string text)
  | array {items : List Tree} (each : ∀ item ∈ items, AllNumbers holds item) :
      AllNumbers holds (.array items)
  | object {fields : List (Option String × Tree)}
      (each : ∀ field ∈ fields, AllNumbers holds field.2) :
      AllNumbers holds (.object fields)

/-- With some fuel, only numbers in the range are read. -/
structure ReadsInRange (fuel : Nat) : Prop where
  tree : ∀ {characters left tree}, readTree fuel characters = some (tree, left) →
    tree.AllNumbers Number.InRange
  items : ∀ {characters left items}, readItems fuel characters = some (items, left) →
    ∀ item ∈ items, item.AllNumbers Number.InRange
  fields : ∀ {characters left fields}, readFields fuel characters = some (fields, left) →
    ∀ field ∈ fields, field.2.AllNumbers Number.InRange

theorem allNumbers_of_readItems
    {items : List Tree}
    (former : ReadsInRange fuel)
    (read : readItems (fuel + 1) characters = some (items, left)) :
    ∀ item ∈ items, item.AllNumbers Number.InRange := by
  simp only [readItems, Option.bind_eq_bind, Option.bind_eq_some_iff, Prod.exists] at read
  obtain ⟨item, stop, itemRead, tail⟩ := read
  split at tail
  · cases tail
    exact List.forall_mem_singleton.mpr (former.tree itemRead)
  · simp only [Option.bind_eq_some_iff, Prod.exists] at tail
    obtain ⟨others, _, othersRead, same⟩ := tail
    cases same
    exact List.forall_mem_cons.mpr ⟨former.tree itemRead, former.items othersRead⟩
  · cases tail

theorem allNumbers_of_readFields
    {fields : List (Option String × Tree)}
    (former : ReadsInRange fuel)
    (read : readFields (fuel + 1) characters = some (fields, left)) :
    ∀ field ∈ fields, field.2.AllNumbers Number.InRange := by
  obtain ⟨_, _, _, _, item, _, _, _, _, itemRead, ⟨_, rfl⟩ | ⟨_, others, _, othersRead, rfl⟩⟩ :=
    exists_field_of_readFields read
  · exact List.forall_mem_singleton.mpr (former.tree itemRead)
  · exact List.forall_mem_cons.mpr ⟨former.tree itemRead, former.fields othersRead⟩

theorem allNumbers_of_readTree
    (former : ReadsInRange fuel)
    (read : readTree (fuel + 1) characters = some (tree, left)) :
    tree.AllNumbers Number.InRange := by
  rw [readTree] at read
  split at read
  · cases read
  · obtain ⟨⟨text, stop⟩, -, same⟩ := Option.map_eq_some_iff.mp read
    cases same
    exact .string text
  · split at read
    · cases read
      exact .array (List.forall_mem_nil _)
    · obtain ⟨⟨items, stop⟩, itemsRead, same⟩ := Option.map_eq_some_iff.mp read
      cases same
      exact .array (former.items itemsRead)
  · split at read
    · cases read
      exact .object (List.forall_mem_nil _)
    · obtain ⟨⟨fields, stop⟩, fieldsRead, same⟩ := Option.map_eq_some_iff.mp read
      cases same
      exact .object (former.fields fieldsRead)
  · rw [eq_of_readWord read]
    exact .null
  · rw [eq_of_readWord read]
    exact .bool true
  · rw [eq_of_readWord read]
    exact .bool false
  · obtain ⟨⟨text, stop⟩, -, same⟩ := Option.map_eq_some_iff.mp read
    cases same
    exact .number fun _ => inRange_of_number?

theorem readsInRange (fuel : Nat) : ReadsInRange fuel := by
  induction fuel with
  | zero => exact ⟨nofun, nofun, nofun⟩
  | succ fuel former =>
      exact ⟨allNumbers_of_readTree former, allNumbers_of_readItems former,
        allNumbers_of_readFields former⟩

/-- The numbers of a text lie in the range. -/
theorem allNumbers_of_tree? {text : String} (read : tree? text = some tree) :
    tree.AllNumbers Number.InRange := by
  obtain ⟨⟨whole, left⟩, wholeRead, ended⟩ := Option.bind_eq_some_iff.mp read
  dsimp only at ended
  split at ended
  · cases ended
    exact (readsInRange _).tree wholeRead
  · cases ended

/-! ## Values of trees -/

theorem exists_of_mem_valuesWithin?
    {items : List Tree}
    {values : List Value}
    (valued : valuesWithin? depth items = some values)
    (member : value ∈ values) :
    ∃ item ∈ items, item.valueWithin? depth = some value := by
  induction items generalizing values with
  | nil =>
      cases valued
      cases member
  | cons item items inductionHypothesis =>
      simp only [valuesWithin?, Option.bind_eq_bind, Option.bind_eq_some_iff] at valued
      obtain ⟨first, here, others, further, same⟩ := valued
      cases same
      rcases List.mem_cons.mp member with rfl | later
      · exact ⟨item, List.mem_cons_self, here⟩
      · obtain ⟨other, listed, there⟩ := inductionHypothesis further later
        exact ⟨other, List.mem_cons_of_mem _ listed, there⟩

theorem exists_of_mem_fieldsWithin?
    {fields : List (Option String × Tree)}
    {pairs : List (String × Value)}
    {pair : String × Value}
    (valued : fieldsWithin? depth fields = some pairs)
    (member : pair ∈ pairs) :
    ∃ field ∈ fields, field.2.valueWithin? depth = some pair.2 := by
  induction fields generalizing pairs with
  | nil =>
      cases valued
      cases member
  | cons field fields inductionHypothesis =>
      simp only [fieldsWithin?, Option.bind_eq_bind, Option.bind_eq_some_iff] at valued
      obtain ⟨key, named, first, here, others, further, same⟩ := valued
      cases same
      rcases List.mem_cons.mp member with rfl | later
      · exact ⟨field, List.mem_cons_self, here⟩
      · obtain ⟨other, listed, there⟩ := inductionHypothesis further later
        exact ⟨other, List.mem_cons_of_mem _ listed, there⟩

/-- The value is the value of its own text, and no deeper than allowed. -/
def Value.Fits (depth : Nat) (value : Value) : Prop :=
  value.tree.valueWithin? depth = some value

theorem itemTrees_eq_map (items : List Value) : itemTrees items = items.map Value.tree := by
  induction items with
  | nil => rfl
  | cons item items inductionHypothesis => rw [itemTrees, inductionHypothesis, List.map_cons]

theorem valuesWithin?_itemTrees
    {items : List Value}
    (fits : ∀ item ∈ items, item.Fits depth) :
    valuesWithin? depth (itemTrees items) = some items := by
  induction items with
  | nil => rfl
  | cons item items inductionHypothesis =>
      obtain ⟨here, further⟩ := List.forall_mem_cons.mp fits
      rw [Value.Fits] at here
      rw [itemTrees, valuesWithin?, here, inductionHypothesis further]
      rfl

theorem fieldsWithin?_fieldTrees
    {fields : List (String × Value)}
    (fits : ∀ field ∈ fields, field.2.Fits depth) :
    fieldsWithin? depth (fieldTrees fields) = some fields := by
  induction fields with
  | nil => rfl
  | cons field fields inductionHypothesis =>
      obtain ⟨here, further⟩ := List.forall_mem_cons.mp fits
      rw [Value.Fits] at here
      rw [fieldTrees, fieldsWithin?, here, inductionHypothesis further]
      rfl

/-- The value of a tree has the numbers of the tree, and is the value of its own text. -/
theorem Tree.AllNumbers.ofValued
    (numbers : tree.AllNumbers holds)
    (valued : tree.valueWithin? depth = some value) :
    value.AllNumbers holds ∧ value.Fits depth := by
  induction numbers generalizing depth value with
  | null =>
      cases valued
      exact ⟨.null, rfl⟩
  | bool value =>
      cases valued
      exact ⟨.bool value, rfl⟩
  | number here =>
      obtain ⟨number, same, rfl⟩ := Option.map_eq_some_iff.mp valued
      exact ⟨.number (here number same), rfl⟩
  | string text =>
      obtain ⟨text, rfl, rfl⟩ := Option.map_eq_some_iff.mp valued
      exact ⟨.string text, rfl⟩
  | @array items each inductionHypothesis =>
      rw [Tree.valueWithin?] at valued
      split at valued
      · cases valued
      · rename_i deeper
        obtain ⟨values, within, rfl⟩ := Option.map_eq_some_iff.mp valued
        have all (item : Value) (member : item ∈ values) :
            item.AllNumbers holds ∧ item.Fits (depth - 1) := by
          obtain ⟨tree, listed, here⟩ := exists_of_mem_valuesWithin? within member
          exact inductionHypothesis tree listed here
        refine ⟨.array fun item member => (all item member).1, ?_⟩
        rw [Value.Fits, Value.tree, Tree.valueWithin?, if_neg deeper,
          valuesWithin?_itemTrees fun item member => (all item member).2]
        rfl
  | @object fields each inductionHypothesis =>
      rw [Tree.valueWithin?] at valued
      split at valued
      · cases valued
      · rename_i deeper
        obtain ⟨pairs, within, rfl⟩ := Option.map_eq_some_iff.mp valued
        have all (field : String × Value) (member : field ∈ Keyed.ofList pairs) :
            field.2.AllNumbers holds ∧ field.2.Fits (depth - 1) := by
          obtain ⟨written, listed, here⟩ :=
            exists_of_mem_fieldsWithin? within (Keyed.mem_of_mem_ofList member)
          exact inductionHypothesis written listed here
        refine ⟨.object fun field member => (all field member).1, ?_⟩
        rw [Value.Fits, Value.tree, Tree.valueWithin?, if_neg deeper,
          fieldsWithin?_fieldTrees fun field member => (all field member).2, Option.map_some,
          (Keyed.sorted_ofList pairs).ofList_eq]

/-! ## Numbers that are no integers -/

/-- A number is an integer, or its text is read back. -/
def Number.Faithful (number : Number) : Prop :=
  ∀ x, number = .real x → value? (compact (.number number)) = some (.number number)

theorem faithful_integer (value : Int) : (Number.integer value).Faithful := by
  rintro x ⟨⟩

/-- The number that a value is. -/
def Value.number? : Value → Option Number
  | .number found => some found
  | _ => none

theorem Value.eq_number_of_number?
    {number : Number}
    (told : value.number? = some number) :
    value = .number number := by
  cases value with
  | number other => rw [Option.some.inj told]
  | null | bool | string | array | object => cases told

/-- Properties of all numbers are combined. -/
theorem Value.AllNumbers.combine
    {also both : Number → Prop}
    (first : value.AllNumbers holds)
    (second : value.AllNumbers also)
    (combines : ∀ number, holds number → also number → both number) :
    value.AllNumbers both := by
  induction first with
  | null => exact .null
  | bool value => exact .bool value
  | string text => exact .string text
  | number here =>
      cases second with
      | number there => exact .number (combines _ here there)
  | array each inductionHypothesis =>
      cases second with
      | array others =>
          exact .array fun item member => inductionHypothesis item member (others item member)
  | object each inductionHypothesis =>
      cases second with
      | object others =>
          exact .object fun field member => inductionHypothesis field member (others field member)

/-- A value in the range is read back if its numbers other than integers are. -/
theorem Value.AllNumbers.legible
    (inRange : value.AllNumbers Number.InRange)
    (faithful : value.AllNumbers Number.Faithful) :
    value.Legible := by
  refine inRange.combine faithful fun number inRange faithful => ?_
  cases number with
  | integer value => exact readsBack_integer inRange
  | real x => exact readsBack_of_value? (faithful x rfl)

end Json
end ChatFlow
