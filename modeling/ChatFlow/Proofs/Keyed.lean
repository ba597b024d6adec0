import ChatFlow.Keyed
import Mathlib.Data.List.Dedup

/-!
# Maps in the order of their keys

A map that is made of pairs is in order, and holds the keys of the pairs, each once; pairs that are
in order already are the map.
-/

namespace ChatFlow

namespace Keyed

variable {α : Type} {entries : Keyed α} {key : String} {value : α}

/-- The entries are in the order of their keys, each key once. -/
def Sorted (entries : Keyed α) : Prop :=
  entries.Pairwise fun first second => first.1 < second.1

theorem sorted_nil : Sorted ([] : Keyed α) :=
  List.Pairwise.nil

/-- A key that is set is there, and no others but those that were. -/
theorem mem_insert {entry : String × α} (member : entry ∈ insert key value entries) :
    entry = (key, value) ∨ entry ∈ entries := by
  induction entries with
  | nil => exact .inl (List.mem_singleton.mp member)
  | cons head rest inductionHypothesis =>
      obtain ⟨name, old⟩ := head
      rw [insert] at member
      split at member
      · exact List.mem_cons.mp member
      · split at member
        · exact (List.mem_cons.mp member).imp_right (List.mem_cons_of_mem _)
        · rcases List.mem_cons.mp member with rfl | later
          · exact .inr List.mem_cons_self
          · exact (inductionHypothesis later).imp_right (List.mem_cons_of_mem _)

/-- The order is kept when a key is set. -/
theorem Sorted.insert (sorted : Sorted entries) : Sorted (Keyed.insert key value entries) := by
  induction entries with
  | nil => exact List.pairwise_singleton _ _
  | cons head rest inductionHypothesis =>
      obtain ⟨name, old⟩ := head
      obtain ⟨first, further⟩ := List.pairwise_cons.mp sorted
      rw [Keyed.insert]
      split
      · rename_i before
        refine List.pairwise_cons.mpr ⟨?_, sorted⟩
        intro entry member
        rcases List.mem_cons.mp member with rfl | later
        · exact before
        · exact String.lt_trans before (first entry later)
      · rename_i notBefore
        split
        · rename_i same
          subst same
          exact List.pairwise_cons.mpr ⟨first, further⟩
        · rename_i different
          refine List.pairwise_cons.mpr ⟨?_, inductionHypothesis further⟩
          intro entry member
          rcases mem_insert member with rfl | later
          · refine Decidable.not_not.mp fun notAfter => different ?_
            exact String.le_antisymm (String.not_lt.mp notAfter) (String.not_lt.mp notBefore)
          · exact first entry later

/-- Keys that are in order already are kept as they are. -/
theorem Sorted.insert_last
    (sorted : Sorted (entries ++ [(key, value)])) :
    Keyed.insert key value entries = entries ++ [(key, value)] := by
  induction entries with
  | nil => rfl
  | cons head rest inductionHypothesis =>
      obtain ⟨name, old⟩ := head
      obtain ⟨first, further⟩ := List.pairwise_cons.mp sorted
      have after : name < key := first (key, value) (by simp)
      have different : key ≠ name := by
        rintro rfl
        exact String.lt_irrefl key after
      rw [Keyed.insert, if_neg (String.lt_asymm after), if_neg different,
        inductionHypothesis further]
      rfl

/-- The entries of a map are among the pairs of which it is made. -/
theorem mem_of_mem_ofList
    {pairs : List (String × α)}
    {entry : String × α}
    (member : entry ∈ ofList pairs) :
    entry ∈ pairs := by
  have grows (pairs : List (String × α)) (entries : Keyed α)
      (there : entry ∈ pairs.foldl (fun entries pair => insert pair.1 pair.2 entries) entries) :
      entry ∈ entries ∨ entry ∈ pairs := by
    induction pairs generalizing entries with
    | nil => exact .inl there
    | cons pair pairs inductionHypothesis =>
        rcases inductionHypothesis _ there with inserted | later
        · rcases mem_insert inserted with rfl | before
          · exact .inr List.mem_cons_self
          · exact .inl before
        · exact .inr (List.mem_cons_of_mem _ later)
  exact (grows pairs [] member).resolve_left List.not_mem_nil

/-- The map of any pairs is in order. -/
theorem sorted_ofList (pairs : List (String × α)) : Sorted (ofList pairs) := by
  have grows (entries : Keyed α) (sorted : Sorted entries) :
      Sorted (pairs.foldl (fun entries pair => Keyed.insert pair.1 pair.2 entries) entries) := by
    induction pairs generalizing entries with
    | nil => exact sorted
    | cons pair pairs inductionHypothesis => exact inductionHypothesis _ sorted.insert
  exact grows [] sorted_nil

/-- The map of pairs in order is made of these pairs. -/
theorem Sorted.ofList_eq (sorted : Sorted entries) : ofList entries = entries := by
  have grows (before rest : Keyed α) (sorted : Sorted (before ++ rest)) :
      rest.foldl (fun entries pair => Keyed.insert pair.1 pair.2 entries) before =
        before ++ rest := by
    induction rest generalizing before with
    | nil => exact (List.append_nil before).symm
    | cons pair rest inductionHypothesis =>
        have apart : before ++ pair :: rest = (before ++ [pair]) ++ rest := by simp
        rw [apart] at sorted ⊢
        rw [List.foldl_cons, Sorted.insert_last (List.pairwise_append.mp sorted).1]
        exact inductionHypothesis _ sorted
  exact grows [] entries sorted

/-- A key is among the keys of a map exactly when something is found under it. -/
theorem mem_keys_iff : key ∈ keys entries ↔ get? key entries ≠ none := by
  induction entries with
  | nil => simp [keys, get?]
  | cons head rest inductionHypothesis =>
      obtain ⟨name, value⟩ := head
      rw [keys] at inductionHypothesis
      rw [keys, List.map_cons, List.mem_cons, inductionHypothesis, get?]
      by_cases same : name = key
      · simp [same]
      · simp [same, Ne.symm same]

/-- The keys of a map are those of the pairs of which it is made. -/
theorem mem_keys_ofList_iff {pairs : List (String × α)} :
    key ∈ keys (ofList pairs) ↔ key ∈ pairs.map Prod.fst := by
  simp [mem_keys_iff, get?_ofList_eq_none_iff]

/-- In a map in order no key repeats. -/
theorem Sorted.nodup_keys (sorted : Sorted entries) : (keys entries).Nodup := by
  rw [keys, List.Nodup, List.pairwise_map]
  refine sorted.imp ?_
  intro first second before same
  rw [same] at before
  exact String.lt_irrefl _ before

/-- A map has as many keys as there were pairs exactly when no two pairs share their key. -/
theorem length_keys_ofList_eq_iff {pairs : List (String × α)} :
    (keys (ofList pairs)).length = pairs.length ↔ (pairs.map Prod.fst).Nodup := by
  have once : (keys (ofList pairs)).Perm (pairs.map Prod.fst).dedup := by
    rw [List.perm_ext_iff_of_nodup (sorted_ofList pairs).nodup_keys (List.nodup_dedup _)]
    intro key
    rw [mem_keys_ofList_iff, List.mem_dedup]
  rw [once.length_eq, ← List.length_map (f := Prod.fst), ← List.dedup_eq_self]
  constructor
  · exact (List.dedup_sublist _).eq_of_length
  · intro same
    rw [same]

end Keyed

end ChatFlow
