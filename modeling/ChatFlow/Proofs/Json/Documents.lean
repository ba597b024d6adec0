import ChatFlow.Proofs.Json.Numbers

/-!
# Values in JSON texts

Every value is read back from its compact text if its numbers are, whatever follows it that cannot
go on with a number.  One step of fuel for each character is enough: a value takes one for itself,
and the items of an array and the fields of an object take one for each comma.
-/

namespace ChatFlow
namespace Json

mutual

/-- What the compact text of a value says. -/
def Value.tree : Value → Tree
  | .null => .null
  | .bool value => .bool value
  | .number value => .number (some value)
  | .string value => .string (some value)
  | .array items => .array (itemTrees items)
  | .object fields => .object (fieldTrees fields)

/-- What the texts of items say. -/
def itemTrees : List Value → List Tree
  | [] => []
  | item :: items => item.tree :: itemTrees items

/-- What the texts of fields say. -/
def fieldTrees : List (String × Value) → List (Option String × Tree)
  | [] => []
  | (key, value) :: fields => (some key, value.tree) :: fieldTrees fields

end

/-- All numbers that occur in the value have a property. -/
inductive Value.AllNumbers (holds : Number → Prop) : Value → Prop
  | null : AllNumbers holds .null
  | bool (value : Bool) : AllNumbers holds (.bool value)
  | number {number : Number} (here : holds number) : AllNumbers holds (.number number)
  | string (text : String) : AllNumbers holds (.string text)
  | array {items : List Value} (each : ∀ item ∈ items, AllNumbers holds item) :
      AllNumbers holds (.array items)
  | object {fields : List (String × Value)} (each : ∀ field ∈ fields, AllNumbers holds field.2) :
      AllNumbers holds (.object fields)

/-- All numbers that occur in the value are read back from their texts. -/
abbrev Value.Legible : Value → Prop :=
  Value.AllNumbers Number.ReadsBack

/-- The value is read back from its text, with one step of fuel for each character, in front of what
cannot go on with a number. -/
def Value.ReadsBack (value : Value) : Prop :=
  ∀ fuel rest, Closed rest → (encode value).length ≤ fuel →
    readTree fuel (encode value ++ rest) = some (value.tree, rest)

variable {value : Value} {key : String} {fuel : Nat}

/-- Where there is a character, there is a step of fuel for it. -/
theorem exists_spare
    {c : Char}
    {rest : List Char}
    (enough : (c :: rest).length ≤ fuel) :
    ∃ spare, fuel = spare + 1 := by
  rw [List.length_cons] at enough
  exact ⟨fuel - 1, by omega⟩

/-- A number is read back in front of what cannot go on with it. -/
theorem Number.ReadsBack.ofNumber {number : Number} (readsBack : number.ReadsBack) :
    (Value.number number).ReadsBack := by
  obtain ⟨text, read, valued⟩ := readsBack
  intro fuel rest closed enough
  obtain ⟨c, others, opens, _⟩ := exists_of_readNumberText read
  rw [encode, opens] at enough
  obtain ⟨spare, rfl⟩ := exists_spare enough
  have inFront := readNumberText_append read (.inr closed)
  rw [encode, readTree_of_readNumberText inFront spare, valued]
  rfl

/-- A written value opens with a character that is neither blank nor a closing bracket. -/
theorem Value.Legible.exists_encode_eq (legible : value.Legible) :
    ∃ c rest, encode value = c :: rest ∧ isSpace c = false ∧ c ≠ ']' := by
  cases legible with
  | null => exact ⟨_, _, rfl, by decide, by decide⟩
  | bool value => cases value <;> exact ⟨_, _, rfl, by decide, by decide⟩
  | @number number readsBack =>
      obtain ⟨text, read, -⟩ := readsBack
      obtain ⟨c, rest, opens, begins⟩ := exists_of_readNumberText read
      refine ⟨c, rest, opens, solid_encodeNumber number c (opens ▸ List.mem_cons_self), ?_⟩
      rintro rfl
      revert begins
      decide
  | string text => exact ⟨_, _, rfl, by decide, by decide⟩
  | @array items _ => cases items <;> exact ⟨_, _, rfl, by decide, by decide⟩
  | @object fields _ => cases fields <;> exact ⟨_, _, rfl, by decide, by decide⟩

theorem getLast?_encodeFields (fields : List (String × Value)) :
    (encodeFields fields).getLast? = some '\x7d' := by
  induction fields with
  | nil => rfl
  | cons field fields inductionHypothesis =>
      simp [encodeFields, List.getLast?_cons, List.getLast?_append, inductionHypothesis]

/-- The text of an object goes from an opening to a closing brace. -/
theorem encode_object_braces (fields : List (String × Value)) :
    (encode (.object fields)).head? = some '\x7b' ∧
      (encode (.object fields)).getLast? = some '\x7d' := by
  cases fields with
  | nil => exact ⟨rfl, rfl⟩
  | cons field fields =>
      refine ⟨rfl, ?_⟩
      simp [encode, List.getLast?_cons, List.getLast?_append, getLast?_encodeFields]

/-- Items are read back up to the closing bracket. -/
theorem readItems_encode
    {item : Value}
    {items : List Value}
    (each : ∀ value ∈ item :: items, value.ReadsBack)
    (rest : List Char)
    (enough : (encode item ++ encodeItems items).length ≤ fuel) :
    readItems fuel (encode item ++ encodeItems items ++ rest) =
      some (itemTrees (item :: items), rest) := by
  induction items generalizing item fuel with
  | nil =>
      have first := each item List.mem_cons_self
      rw [encodeItems, List.length_append, List.length_singleton] at enough
      obtain ⟨spare, rfl⟩ := Nat.exists_eq_add_of_le' (Nat.le_of_add_left_le enough)
      rw [encodeItems, List.append_assoc, List.singleton_append, readItems,
        first spare _ (closed_bracket _) (by omega)]
      simp (disch := decide) only [skipSpace_cons, Option.bind_eq_bind, Option.bind_some]
      rfl
  | cons next items inductionHypothesis =>
      have first := each item List.mem_cons_self
      have further := fun value member => each value (List.mem_cons_of_mem item member)
      rw [encodeItems, List.length_append, List.length_cons] at enough
      obtain ⟨spare, rfl⟩ : ∃ spare, fuel = spare + 1 := ⟨fuel - 1, by omega⟩
      have others := inductionHypothesis further
        (by omega : (encode next ++ encodeItems items).length ≤ spare)
      rw [encodeItems, List.append_assoc, List.cons_append, readItems,
        first spare _ (closed_comma _) (by omega)]
      simp (disch := decide) only [skipSpace_cons, Option.bind_eq_bind, Option.bind_some, others]
      rfl

/-- Fields are read back up to the closing brace. -/
theorem readFields_encode
    {fields : List (String × Value)}
    (each : ∀ field ∈ (key, value) :: fields, field.2.ReadsBack)
    (rest : List Char)
    (enough : (encodeString key ++ ':' :: (encode value ++ encodeFields fields)).length ≤ fuel) :
    readFields fuel (encodeString key ++ ':' :: (encode value ++ encodeFields fields) ++ rest) =
      some (fieldTrees ((key, value) :: fields), rest) := by
  induction fields generalizing key value fuel with
  | nil =>
      have first : value.ReadsBack := each (key, value) List.mem_cons_self
      simp only [encodeFields, List.length_append, List.length_cons] at enough
      obtain ⟨spare, rfl⟩ : ∃ spare, fuel = spare + 1 := ⟨fuel - 1, by omega⟩
      simp only [encodeFields, List.append_assoc, List.cons_append]
      rw [encodeString_append, readFields]
      simp (disch := decide) only [skipSpace_cons, readString_encode, Option.bind_eq_bind,
        Option.bind_some, first spare _ (closed_brace _) (by omega), List.nil_append]
      rfl
  | cons next fields inductionHypothesis =>
      have first : value.ReadsBack := each (key, value) List.mem_cons_self
      have further := fun field member => each field (List.mem_cons_of_mem (key, value) member)
      simp only [encodeFields, List.length_append, List.length_cons] at enough
      obtain ⟨spare, rfl⟩ : ∃ spare, fuel = spare + 1 := ⟨fuel - 1, by omega⟩
      have left : (encodeString next.1 ++ ':' :: (encode next.2 ++ encodeFields fields)).length ≤
          spare := by
        simp only [List.length_append, List.length_cons]
        omega
      have others := inductionHypothesis further left
      simp only [encodeFields, List.append_assoc, List.cons_append] at others ⊢
      rw [encodeString_append, readFields]
      simp (disch := decide) only [skipSpace_cons, readString_encode, Option.bind_eq_bind,
        Option.bind_some, first spare _ (closed_comma _) (by omega), others]
      rfl

/-- A value is read back from its compact text if its numbers are. -/
theorem Value.Legible.readsBack (legible : value.Legible) : value.ReadsBack := by
  induction legible with
  | null =>
      intro fuel rest closed enough
      obtain ⟨spare, rfl⟩ := exists_spare enough
      rfl
  | bool value =>
      intro fuel rest closed enough
      cases value with
      | false =>
          obtain ⟨spare, rfl⟩ := exists_spare enough
          rfl
      | true =>
          obtain ⟨spare, rfl⟩ := exists_spare enough
          rfl
  | number readsBack => exact readsBack.ofNumber
  | string text =>
      intro fuel rest closed enough
      obtain ⟨spare, rfl⟩ := exists_spare enough
      exact readTree_encodeString spare text rest
  | @array items each inductionHypothesis =>
      intro fuel rest closed enough
      cases items with
      | nil =>
          obtain ⟨spare, rfl⟩ := exists_spare enough
          rfl
      | cons item items =>
          rw [encode] at enough
          obtain ⟨spare, rfl⟩ := exists_spare enough
          have read := readItems_encode inductionHypothesis rest (Nat.le_of_succ_le_succ enough)
          obtain ⟨c, further, opens, solid, different⟩ :=
            Value.Legible.exists_encode_eq (each item List.mem_cons_self)
          rw [encode, List.cons_append, readTree]
          rw [opens, List.cons_append, List.cons_append] at read ⊢
          simp (disch := first | decide | exact solid) only [skipSpace_cons]
          split
          · rename_i closed
            exact absurd (List.cons.inj closed).1 different
          · rw [read]
            rfl
  | @object fields each inductionHypothesis =>
      intro fuel rest closed enough
      cases fields with
      | nil =>
          obtain ⟨spare, rfl⟩ := exists_spare enough
          rfl
      | cons field fields =>
          obtain ⟨key, value⟩ := field
          rw [encode] at enough
          obtain ⟨spare, rfl⟩ := exists_spare enough
          have read := readFields_encode inductionHypothesis rest (Nat.le_of_succ_le_succ enough)
          rw [encode, List.cons_append, readTree]
          rw [List.append_assoc, encodeString_append] at read ⊢
          simp (disch := decide) only [skipSpace_cons]
          change Option.map _ (readFields spare _) = _
          rw [read]
          rfl

/-- The compact text of a value says what the value is. -/
theorem Value.Legible.treeOfChars?_encode (legible : value.Legible) :
    treeOfChars? (encode value) = some value.tree := by
  have read := legible.readsBack (2 * (encode value).length + 2) [] closed_nil (by omega)
  rw [List.append_nil] at read
  rw [treeOfChars?, read]
  rfl

/-- The values of fields have the names of the fields. -/
theorem fieldsWithin?_names
    {depth : Nat}
    {fields : List (Option String × Tree)}
    {pairs : List (String × Value)}
    (read : fieldsWithin? depth fields = some pairs) :
    pairs.map (fun pair => some pair.1) = fields.map (·.1) := by
  induction fields generalizing pairs with
  | nil =>
      cases read
      rfl
  | cons field fields inductionHypothesis =>
      obtain ⟨key, item⟩ := field
      simp only [fieldsWithin?, Option.bind_eq_bind, Option.bind_eq_some_iff] at read
      obtain ⟨name, named, value, _, values, further, same⟩ := read
      cases same
      rw [List.map_cons, List.map_cons, inductionHypothesis further, named]

end Json
end ChatFlow
