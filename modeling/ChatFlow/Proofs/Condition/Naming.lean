import ChatFlow.Proofs.Condition.Resolution
import Mathlib.Data.Fintype.Card

/-!
# Condition nodes whose edges all name a branch

The handles of the edges may pair the edges with the branches: each edge names exactly one branch,
by its number or by its label, value or id, and each branch is named by exactly one edge.  There
are then as many edges as branches, so there is an edge at the position of every branch, and the
names are never looked at: a branch without a numbered handle leads along the edge at its
position, whichever branch that edge names.
-/

namespace ChatFlow
namespace Condition

/-- The titles of a branch: its label, its value and its id, unless they are blank. -/
def Branch.titles (branch : Branch) : List String :=
  (([branch.label, branch.value] ++ branch.id.toList).map Text.trim).filter fun title =>
    title != ""

/-- The handle of an edge is a title of the branch, but for blanks around it and the case of ASCII
letters. -/
def Branch.Titled (branch : Branch) (edge : Flow.Edge) : Prop :=
  ∃ handle ∈ edge.handle, ∃ title ∈ branch.titles,
    Text.lowerAscii title = Text.lowerAscii (Text.trim handle)

/-- The handle of an edge names the branch with a number. -/
def Names (index : Nat) (branch : Branch) (edge : Flow.Edge) : Prop :=
  Numbered index edge ∨ branch.Titled edge

instance (index : Nat) (branch : Branch) (edge : Flow.Edge) :
    Decidable (Names index branch edge) := by
  unfold Names Numbered Branch.Titled
  infer_instance

/-- The handles pair the edges with the branches. -/
structure Paired (edges : List Flow.Edge) (listed : List Branch) : Prop where
  /-- Each edge names exactly one branch. -/
  branch : ∀ place : Fin edges.length,
    ∃! index : Fin listed.length, Names index listed[index] edges[place]
  /-- Each branch is named by exactly one edge. -/
  edge : ∀ index : Fin listed.length,
    ∃! place : Fin edges.length, Names index listed[index] edges[place]

variable {edges : List Flow.Edge} {listed : List Branch} {node : Flow.Node} {input : String}

/-! ## Pairs -/

/-- There are as many edges as branches. -/
theorem Paired.length_eq (paired : Paired edges listed) : edges.length = listed.length := by
  choose named names unique using paired.branch
  have injective : Function.Injective named := by
    intro first second same
    obtain ⟨place, _, only⟩ := paired.edge (named first)
    have alsoNames := names second
    rw [← same] at alsoNames
    exact (only first (names first)).trans (only second alsoNames).symm
  have surjective : Function.Surjective named := by
    intro index
    obtain ⟨place, namesIndex, _⟩ := paired.edge index
    exact ⟨place, (unique place index namesIndex).symm⟩
  simpa using Fintype.card_of_bijective ⟨injective, surjective⟩

/-- The one edge that names a branch is the only one that may carry its numbered handle. -/
theorem Paired.eq_of_numbered
    (paired : Paired edges listed)
    {index : Fin listed.length}
    {place : Fin edges.length}
    (names : Names index listed[index] edges[place])
    {edge : Flow.Edge}
    (member : edge ∈ edges)
    (numbered : Numbered index edge) :
    edge = edges[place] := by
  obtain ⟨position, inside, rfl⟩ := List.getElem_of_mem member
  have same : ⟨position, inside⟩ = place :=
    (paired.edge index).unique (.inl numbered) names
  rw [← same]
  rfl

/-! ## The edge of a branch -/

/-- A branch whose edge carries its numbered handle leads along that edge. -/
theorem Paired.edge?_of_numbered
    (paired : Paired edges listed)
    {index : Fin listed.length}
    {place : Fin edges.length}
    (numbered : Numbered index edges[place]) :
    edge? edges index listed[index] = some edges[place] := by
  have member : edges[place] ∈ edges := List.getElem_mem place.isLt
  cases found : edges.find? fun edge => edge.handle == some (numberedHandle index) with
  | none =>
      have missed := List.find?_eq_none.mp found edges[place] member
      exact absurd (beq_iff_eq.mpr numbered) missed
  | some edge =>
      have carries := List.find?_some found
      have same := paired.eq_of_numbered (.inl numbered) (List.mem_of_find?_eq_some found)
        (beq_iff_eq.mp carries)
      rw [edge?, found, Option.some_or, same]

/-- A branch whose edge carries another handle leads along the edge at its position. -/
theorem Paired.edge?_of_not_numbered
    (paired : Paired edges listed)
    {index : Fin listed.length}
    {place : Fin edges.length}
    (names : Names index listed[index] edges[place])
    (titled : ¬ Numbered index edges[place])
    (inside : index < edges.length) :
    edge? edges index listed[index] = some edges[index] := by
  have missed : (edges.find? fun edge => edge.handle == some (numberedHandle index)) = none := by
    apply List.find?_eq_none.mpr
    intro edge member carries
    have numbered : Numbered index edge := beq_iff_eq.mp carries
    rw [paired.eq_of_numbered names member numbered] at numbered
    exact titled numbered
  rw [edge?, missed, Option.none_or, List.getElem?_eq_getElem inside, Option.some_or]
  rfl

/-! ## The target -/

/-- The target is that of the edge of the selected branch, if it has one. -/
theorem target?_of_edge?
    {index : Fin (branches node).length}
    {edge : Flow.Edge}
    (selected : select? (branches node) input = some index.val)
    (leads : edge? edges index (branches node)[index] = some edge) :
    target? node edges input = some edge.target := by
  have chosen : selectedEdge? edges (branches node) input = some edge := by
    simpa [selectedEdge?, selected] using leads
  have nonempty : edges.isEmpty = false := by
    have member := (edge?_eq_some_iff.mp leads).mem
    rw [List.isEmpty_eq_false_iff]
    exact List.ne_nil_of_mem member
  simp only [target?, nonempty, Bool.false_eq_true, if_false, chosen, Option.some_or,
    Option.map_some]

/-- Where the handles pair the edges with the branches, the selected branch leads along the edge
that names it if this edge carries the numbered handle or stands at the position of the branch.
Otherwise it leads along the edge at its position, which names another branch. -/
theorem leads_by_number_or_place
    (paired : Paired edges (branches node))
    (index : Fin (branches node).length)
    (place : Fin edges.length)
    (names : Names index (branches node)[index] edges[place])
    (selected : select? (branches node) input = some index.val) :
    (Numbered index edges[place] ∨ place.val = index.val →
      target? node edges input = some edges[place].target) ∧
    (¬ Numbered index edges[place] →
      ∃ inside : index < edges.length, target? node edges input = some edges[index].target) := by
  have inside : index < edges.length := by
    rw [paired.length_eq]
    exact index.isLt
  have displaced (titled : ¬ Numbered index edges[place]) :
      target? node edges input = some edges[index].target :=
    target?_of_edge? selected (paired.edge?_of_not_numbered names titled inside)
  refine ⟨fun honoured => ?_, fun titled => ⟨inside, displaced titled⟩⟩
  by_cases numbered : Numbered index edges[place]
  · exact target?_of_edge? selected (paired.edge?_of_numbered numbered)
  · have same : place.val = index.val := honoured.resolve_left numbered
    rw [displaced numbered]
    simp only [Fin.getElem_fin, same]

/-- A node that asks for a yes or a no. -/
def ballot : Flow.Node :=
  { id := "c", kind := .condition, data := [("conditions", .array
      [.object [("label", .string "Yes"), ("type", .string "equals"), ("value", .string "1")],
       .object [("label", .string "No"), ("type", .string "equals"), ("value", .string "2")]])] }

/-- The edges of the ballot, each with the label of its branch, in the other order. -/
def ballotEdges : List Flow.Edge :=
  [{ source := "c", target := "refused", handle := some "no" },
   { source := "c", target := "agreed", handle := some "yes" }]

/-- The edges of the ballot are paired with its branches. -/
theorem paired_ballot : Paired ballotEdges (branches ballot) := by
  constructor
  · unfold ExistsUnique
    decide +kernel
  · unfold ExistsUnique
    decide +kernel

/-- On the ballot, no leads along the edge at its position, which is labelled yes. -/
theorem leads_by_number_or_place_ballot :
    Paired ballotEdges (branches ballot) ∧
      Names 1 ((branches ballot).get ⟨1, by decide +kernel⟩) ballotEdges[0] ∧
      select? (branches ballot) "no" = some 1 ∧
      ¬ Numbered 1 ballotEdges[0] ∧
      target? ballot ballotEdges "no" = some "agreed" := by
  have names : Names 1 ((branches ballot).get ⟨1, by decide +kernel⟩) ballotEdges[0] := by
    decide +kernel
  have selected : select? (branches ballot) "no" = some 1 := by decide +kernel
  have titled : ¬ Numbered 1 ballotEdges[0] := by
    unfold Numbered
    decide +kernel
  obtain ⟨_, displaced⟩ := (leads_by_number_or_place paired_ballot ⟨1, by decide +kernel⟩
    ⟨0, by decide⟩ names selected).2 titled
  exact ⟨paired_ballot, names, selected, titled, displaced⟩

/-- It does not hold that the selected branch leads along the edge that names it wherever the
handles pair the edges with the branches. -/
theorem not_leads_by_name :
    ¬ ∀ (node : Flow.Node) (edges : List Flow.Edge) (input : String)
      (index : Fin (branches node).length) (place : Fin edges.length),
      Paired edges (branches node) →
      Names index (branches node)[index] edges[place] →
      select? (branches node) input = some index.val →
      target? node edges input = some edges[place].target := by
  intro honoured
  have agreed : target? ballot ballotEdges "yes" = some "agreed" :=
    honoured ballot ballotEdges "yes" ⟨0, by decide +kernel⟩ ⟨1, by decide⟩ paired_ballot
      (by decide +kernel) (by decide +kernel)
  have refused : target? ballot ballotEdges "yes" = some "refused" := by decide +kernel
  rw [agreed] at refused
  exact absurd refused (by decide)

end Condition
end ChatFlow
