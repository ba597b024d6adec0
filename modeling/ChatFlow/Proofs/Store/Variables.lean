import ChatFlow.Proofs.Json.Documents
import ChatFlow.Proofs.Keyed
import ChatFlow.Execution
import ChatFlow.Store.Variables

/-!
# Captured fields in the store

Captured fields are kept in the order of their keys, and are read back as they were from their
stored text.
-/

namespace ChatFlow

/-- Captured fields stay in order when rules set some of them. -/
theorem Capture.sorted_overlay
    {input : String}
    {rules : List Capture}
    {vars : Keyed String}
    (sorted : vars.Sorted) :
    (Capture.overlay input rules vars).Sorted := by
  unfold Capture.overlay
  induction rules generalizing vars with
  | nil => exact sorted
  | cons rule rules inductionHypothesis =>
      rw [List.foldl_cons]
      split
      · exact inductionHypothesis sorted.insert
      · exact inductionHypothesis sorted

namespace Store

open Json

/-- A field as it is read back. -/
def fieldTree (field : String × String) : Option String × Tree :=
  (some field.1, .string (some field.2))

/-- Captured fields hold no number. -/
theorem legible_variablesValue (vars : Keyed String) : (variablesValue vars).Legible := by
  apply Value.AllNumbers.object
  intro field member
  obtain ⟨captured, _, rfl⟩ := List.mem_map.mp member
  exact .string captured.2

/-- The text of captured fields says what they are. -/
theorem tree_variablesValue (vars : Keyed String) :
    (variablesValue vars).tree = .object (vars.map fieldTree) := by
  rw [variablesValue, Value.tree]
  congr 1
  induction vars with
  | nil => rfl
  | cons field vars inductionHypothesis =>
      rw [List.map_cons, List.map_cons, fieldTrees, inductionHypothesis]
      rfl

/-- The fields of an object of strings are the pairs that were written. -/
theorem stringFields?_fieldTree (fields : List (String × String)) :
    stringFields? (fields.map fieldTree) = some fields := by
  induction fields with
  | nil => rfl
  | cons field fields inductionHypothesis =>
      rw [List.map_cons, stringFields?, inductionHypothesis]
      rfl

/-- Captured fields are read back from their stored text. -/
theorem decodeVariables_encodeVariables
    {vars : Keyed String}
    (sorted : vars.Sorted) :
    decodeVariables (encodeVariables vars) = vars := by
  have read : tree? (encodeVariables vars) = some (.object (vars.map fieldTree)) := by
    rw [tree?, encodeVariables, compact, String.toList_ofList,
      (legible_variablesValue vars).treeOfChars?_encode, tree_variablesValue]
  rw [decodeVariables, read]
  simp only [stringFields?_fieldTree, Option.map_some, Option.getD_some]
  exact sorted.ofList_eq

/-- Captured fields that are read from a text are in order. -/
theorem sorted_decodeVariables (text : String) : (decodeVariables text).Sorted := by
  unfold decodeVariables
  split
  · rename_i fields _
    cases stringFields? fields with
    | none => exact Keyed.sorted_nil
    | some pairs => exact Keyed.sorted_ofList pairs
  · exact Keyed.sorted_nil

end Store
end ChatFlow
