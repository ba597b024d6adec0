import ChatFlow.Proofs.Condition.Priorities
import Mathlib.Data.List.Perm.Basic
import Mathlib.Logic.Relation

/-!
# Condition nodes whose branches all have their own edge

When each branch of a condition node has exactly one edge with its numbered handle, and one of
the branches is a default, neither the order of the edges nor any other edge matters: every input
leads to a numbered edge.
-/

namespace ChatFlow
namespace Condition

/-- The edge carries the numbered handle of one of so many branches. -/
def Labelled (count : Nat) (edge : Flow.Edge) : Prop :=
  ∃ index < count, edge.handle = some (numberedHandle index)

/-- What may be done to the edges of a node with so many branches. -/
inductive Edit (count : Nat) : List Flow.Edge → List Flow.Edge → Prop
  /-- The edges are put into another order. -/
  | permute {before after : List Flow.Edge} (permuted : before.Perm after) :
      Edit count before after
  /-- An edge without a numbered handle is added. -/
  | add (front back : List Flow.Edge) {edge : Flow.Edge} (unlabelled : ¬ Labelled count edge) :
      Edit count (front ++ back) (front ++ edge :: back)
  /-- An edge without a numbered handle is removed. -/
  | remove (front back : List Flow.Edge) {edge : Flow.Edge} (unlabelled : ¬ Labelled count edge) :
      Edit count (front ++ edge :: back) (front ++ back)

/-- The edges with the numbered handle of a branch. -/
def labelsOf (edges : List Flow.Edge) (index : Nat) : List Flow.Edge :=
  edges.filter fun edge => edge.handle == some (numberedHandle index)

variable {edges before after : List Flow.Edge} {listed : List Branch} {branch : Branch}
  {edge label : Flow.Edge} {input : String} {index count : Nat} {node : Flow.Node}

/-! ## Numbered edges -/

/-- An edge without a numbered handle is not the edge of a branch. -/
theorem labelsOf_insert_of_unlabelled
    {front back : List Flow.Edge}
    (unlabelled : ¬ Labelled count edge)
    (inside : index < count) :
    labelsOf (front ++ edge :: back) index = labelsOf (front ++ back) index := by
  rw [labelsOf, labelsOf, List.filter_append, List.filter_append, List.filter_cons_of_neg]
  exact fun same => unlabelled ⟨index, inside, by simpa using same⟩

/-- An edit leaves the one edge of a branch alone. -/
theorem Edit.labelsOf_eq
    (edit : Edit count before after)
    (inside : index < count)
    (single : labelsOf before index = [label]) :
    labelsOf after index = [label] := by
  cases edit with
  | permute permuted =>
      have permuted : (labelsOf before index).Perm (labelsOf after index) := permuted.filter _
      rw [single] at permuted
      exact (List.singleton_perm.mp permuted).symm
  | add front back unlabelled => rwa [labelsOf_insert_of_unlabelled unlabelled inside]
  | remove front back unlabelled => rwa [labelsOf_insert_of_unlabelled unlabelled inside] at single

/-- Any number of edits leave the one edge of a branch alone. -/
theorem labelsOf_eq_of_edits
    (edits : Relation.ReflTransGen (Edit count) before after)
    (inside : index < count)
    (single : labelsOf before index = [label]) :
    labelsOf after index = [label] := by
  induction edits with
  | refl => exact single
  | tail _ edit inductionHypothesis => exact edit.labelsOf_eq inside inductionHypothesis

/-- The edge of a branch is the one with its numbered handle. -/
theorem edge?_of_labelsOf
    (single : labelsOf edges index = [label])
    (branch : Branch) :
    edge? edges index branch = some label := by
  have found : (edges.find? fun edge => edge.handle == some (numberedHandle index)) = some label := by
    rw [← List.head?_filter, ← labelsOf, single, List.head?_cons]
  rw [edge?, found, Option.some_or]

/-! ## The target -/

/-- When each branch has its own edge, that of the selected branch is looked at first. -/
theorem selectedEdge?_of_labels
    {labels : Nat → Flow.Edge}
    (single : ∀ index < listed.length, labelsOf edges index = [labels index]) :
    selectedEdge? edges listed input = (select? listed input).map labels := by
  cases selected : select? listed input with
  | none => simp [selectedEdge?, selected]
  | some index =>
      obtain ⟨_, ⟨branch, found, _⟩, _⟩ := select?_eq_some_iff.mp selected
      have inside := (List.getElem?_eq_some_iff.mp found).1
      simp [selectedEdge?, selected, found, edge?_of_labelsOf (single index inside)]

/-- When each branch has its own edge, that of the first default branch stands in. -/
theorem defaultEdge?_of_labels
    {labels : Nat → Flow.Edge}
    (single : ∀ index < listed.length, labelsOf edges index = [labels index]) :
    defaultEdge? edges listed =
      (listed.findIdx? fun branch => branch.kind == .default).map labels := by
  cases found : listed.findIdx? fun branch => branch.kind == .default with
  | none =>
      rw [Option.map_none, defaultEdge?_eq_none_iff]
      intro index branch placed isDefault
      have missed := List.findIdx?_eq_none_iff.mp found branch (List.mem_of_getElem? placed)
      simp [isDefault] at missed
  | some index =>
      obtain ⟨inside, isDefault, earlier⟩ := List.findIdx?_eq_some_iff_getElem.mp found
      rw [Option.map_some, defaultEdge?_eq_some_iff]
      refine ⟨index, listed[index], List.getElem?_eq_getElem inside, by simpa using isDefault,
        edge?_eq_some_iff.mp (edge?_of_labelsOf (single index inside) _), ?_⟩
      intro position less other placed otherDefault
      obtain ⟨_, rfl⟩ := List.getElem?_eq_some_iff.mp placed
      exact absurd (by simpa using otherDefault) (earlier position less)

/-- The branch that decides when each branch has its own edge: the selected one, or else the first
default branch. -/
def decisive? (branches : List Branch) (input : String) : Option Nat :=
  (select? branches input).or (branches.findIdx? fun branch => branch.kind == .default)

/-- With a default branch, one of the branches decides. -/
theorem exists_decisive?
    (hasDefault : ∃ branch ∈ listed, branch.kind = .default)
    (input : String) :
    ∃ index < listed.length, decisive? listed input = some index := by
  cases selected : select? listed input with
  | some index =>
      obtain ⟨_, ⟨_, found, _⟩, _⟩ := select?_eq_some_iff.mp selected
      exact ⟨index, (List.getElem?_eq_some_iff.mp found).1, by simp [decisive?, selected]⟩
  | none =>
      cases found : listed.findIdx? fun branch => branch.kind == .default with
      | some index =>
          have inside := (List.findIdx?_eq_some_iff_getElem.mp found).1
          exact ⟨index, inside, by simp [decisive?, selected, found]⟩
      | none =>
          obtain ⟨branch, member, isDefault⟩ := hasDefault
          have missed := List.findIdx?_eq_none_iff.mp found branch member
          simp [isDefault] at missed

/-- When each branch has its own edge, the target is that of the edge of the branch that
decides. -/
theorem target?_of_labels
    {labels : Nat → Flow.Edge}
    (single : ∀ index < (branches node).length, labelsOf edges index = [labels index])
    (inside : index < (branches node).length)
    (decides : decisive? (branches node) input = some index) :
    target? node edges input = some (labels index).target := by
  have nonempty : edges.isEmpty = false := by
    rw [List.isEmpty_eq_false_iff]
    rintro rfl
    cases single index inside
  simp only [target?, nonempty, Bool.false_eq_true, if_false, selectedEdge?_of_labels single,
    defaultEdge?_of_labels single, ← Option.map_or]
  rw [← decisive?, decides, Option.map_some, Option.some_or, Option.map_some]

/-- When one branch is a default and the numbered handle of each branch occurs on exactly one
edge, every input leads along a numbered edge, and still leads to its target when the edges are
put into another order and edges without a numbered handle are added or removed. -/
theorem unmoved_by_edits
    (hasDefault : ∃ branch ∈ branches node, branch.kind = .default)
    (labelled : ∀ index < (branches node).length,
      before.countP (fun edge => edge.handle == some (numberedHandle index)) = 1)
    (edits : Relation.ReflTransGen (Edit (branches node).length) before after)
    (input : String) :
    (∃ edge ∈ before, Labelled (branches node).length edge ∧
      target? node before input = some edge.target) ∧
      target? node after input = target? node before input := by
  have exists_label (index : Nat) (inside : index < (branches node).length) :
      ∃ label, labelsOf before index = [label] := by
    have counted := labelled index inside
    rwa [List.countP_eq_length_filter, List.length_eq_one_iff] at counted
  let labels (index : Nat) : Flow.Edge := (labelsOf before index).head?.getD default
  have single (index : Nat) (inside : index < (branches node).length) :
      labelsOf before index = [labels index] := by
    obtain ⟨label, single⟩ := exists_label index inside
    simp [labels, single]
  have singleAfter (index : Nat) (inside : index < (branches node).length) :
      labelsOf after index = [labels index] :=
    labelsOf_eq_of_edits edits inside (single index inside)
  obtain ⟨index, inside, decides⟩ := exists_decisive? hasDefault input
  have member : labels index ∈ labelsOf before index := by
    simp [single index inside]
  obtain ⟨member, handle⟩ := List.mem_filter.mp member
  have target := target?_of_labels single inside decides
  exact ⟨⟨labels index, member, ⟨index, inside, by simpa using handle⟩, target⟩,
    (target?_of_labels singleAfter inside decides).trans target.symm⟩

/-- The edges of the menu, one for each entry. -/
def labelledEdges : List Flow.Edge :=
  [{ source := "c", target := "token", handle := some "condition-0" },
   { source := "c", target := "label", handle := some "condition-1" },
   { source := "c", target := "rest", handle := some "condition-2" }]

/-- The menu leads to the same target when its edges are turned around and one is put in front of
them. -/
theorem unmoved_by_edits_menu :
    (∃ branch ∈ branches menu, branch.kind = .default) ∧
      (∀ index < (branches menu).length, labelledEdges.countP
        (fun edge => edge.handle == some (numberedHandle index)) = 1) ∧
      Relation.ReflTransGen (Edit (branches menu).length) labelledEdges
        ({ source := "c", target := "aside" } :: labelledEdges.reverse) ∧
      target? menu ({ source := "c", target := "aside" } :: labelledEdges.reverse) "what else" =
        target? menu labelledEdges "what else" ∧
      target? menu labelledEdges "what else" = some "rest" := by
  have hasDefault : ∃ branch ∈ branches menu, branch.kind = .default := by decide +kernel
  have labelled : ∀ index < (branches menu).length, labelledEdges.countP
      (fun edge => edge.handle == some (numberedHandle index)) = 1 := by
    decide +kernel
  have edits : Relation.ReflTransGen (Edit (branches menu).length) labelledEdges
      ({ source := "c", target := "aside" } :: labelledEdges.reverse) := by
    refine (Relation.ReflTransGen.single (.permute (List.reverse_perm _).symm)).tail
      (.add [] labelledEdges.reverse ?_)
    rintro ⟨_, _, handle⟩
    cases handle
  exact ⟨hasDefault, labelled, edits,
    (unmoved_by_edits hasDefault labelled edits "what else").2, by decide +kernel⟩

end Condition
end ChatFlow
