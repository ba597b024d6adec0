/-!
# Lists of keyed values

A finite map from texts, kept as the list of its entries in the order of their keys, each key
once.  The order is what is seen wherever such a map is written, so it belongs to the data:
`insert` keeps it, and replaces the value of a key that is already there.
-/

namespace ChatFlow

/-- The entries of a finite map, in the order of their keys. -/
abbrev Keyed (α : Type) := List (String × α)

namespace Keyed

/-- Sets the value of a key, keeping the order of the keys. -/
def insert (key : String) (value : α) : Keyed α → Keyed α
  | [] => [(key, value)]
  | (name, old) :: rest =>
    if key < name then (key, value) :: (name, old) :: rest
    else if key = name then (key, value) :: rest
    else (name, old) :: insert key value rest

/-- The value of a key. -/
def get? (key : String) : Keyed α → Option α
  | [] => none
  | (name, value) :: rest => if name = key then some value else get? key rest

/-- The map of a list of pairs; the last of several pairs with one key wins. -/
def ofList (pairs : List (String × α)) : Keyed α :=
  pairs.foldl (fun entries pair => insert pair.1 pair.2 entries) []

/-- The keys, in order. -/
def keys (entries : Keyed α) : List String :=
  entries.map (·.1)

/-- The value that was set is found. -/
theorem get?_insert_self (key : String) (value : α) (entries : Keyed α) :
    get? key (insert key value entries) = some value := by
  induction entries with
  | nil => simp [insert, get?]
  | cons head rest inductionHypothesis =>
    obtain ⟨name, old⟩ := head
    simp only [insert]
    split
    · simp [get?]
    · split
      · simp [get?]
      · rename_i different
        simp [get?, Ne.symm different, inductionHypothesis]

/-- Setting one key does not change the value of another. -/
theorem get?_insert_of_ne
    (key other : String) (value : α) (entries : Keyed α) (different : other ≠ key) :
    get? other (insert key value entries) = get? other entries := by
  induction entries with
  | nil => simp [insert, get?, Ne.symm different]
  | cons head rest inductionHypothesis =>
    obtain ⟨name, old⟩ := head
    simp only [insert]
    split
    · simp [get?, Ne.symm different]
    · split
      · rename_i same
        subst same
        simp [get?, Ne.symm different]
      · simp [get?, inductionHypothesis]

/-- A key has the value that it was set to last. -/
theorem get?_insert (key other : String) (value : α) (entries : Keyed α) :
    get? other (insert key value entries) =
      if other = key then some value else get? other entries := by
  split
  · rename_i same
    rw [same, get?_insert_self]
  · rename_i different
    exact get?_insert_of_ne key other value entries different

/-- A key has the value of the last pair with this key. -/
theorem get?_ofList (key : String) (pairs : List (String × α)) :
    get? key (ofList pairs) = pairs.reverse.lookup key := by
  have lastOf (entries : Keyed α) :
      get? key (pairs.foldl (fun entries pair => insert pair.1 pair.2 entries) entries) =
        (pairs.reverse.lookup key).or (get? key entries) := by
    induction pairs generalizing entries with
    | nil => rfl
    | cons pair pairs inductionHypothesis =>
        rw [List.foldl_cons, inductionHypothesis, get?_insert, List.reverse_cons,
          List.lookup_append, Option.or_assoc, List.lookup_cons]
        by_cases same : key = pair.1
        · simp [same]
        · simp [same, beq_eq_false_iff_ne.mpr same]
  rw [ofList, lastOf, get?, Option.or_none]

/-- The value of a key is that of the last pair with this key. -/
theorem get?_ofList_eq_some_iff {key : String} {value : α} {pairs : List (String × α)} :
    get? key (ofList pairs) = some value ↔
      ∃ before after, pairs = before ++ (key, value) :: after ∧
        ∀ pair ∈ after, pair.1 ≠ key := by
  rw [get?_ofList, List.lookup_eq_some_iff]
  constructor
  · rintro ⟨after, before, parts, others⟩
    refine ⟨before.reverse, after.reverse, ?_, ?_⟩
    · simpa using congrArg List.reverse parts
    · intro pair member same
      have different := others pair (List.mem_reverse.mp member)
      simp [same] at different
  · rintro ⟨before, after, rfl, others⟩
    refine ⟨after.reverse, before.reverse, by simp, ?_⟩
    intro pair member
    have different := others pair (List.mem_reverse.mp member)
    simpa using different.symm

/-- A key is not there exactly when no pair has it. -/
theorem get?_ofList_eq_none_iff {key : String} {pairs : List (String × α)} :
    get? key (ofList pairs) = none ↔ ∀ pair ∈ pairs, pair.1 ≠ key := by
  rw [get?_ofList, List.lookup_eq_none_iff]
  simp only [List.mem_reverse, bne_iff_ne, ne_comm]

end Keyed

end ChatFlow
