import ChatFlow.Proofs.Condition.Resolution

/-!
# The priorities of a condition node

Of the branches of a node only two matter for an input: the selected one, and the default branch
that stands in when the selected one leads nowhere.  In place of any other branch there may stand
something that is no branch at all.
-/

namespace ChatFlow
namespace Condition

variable {edges : List Flow.Edge} {listed : List Branch} {branch : Branch} {edge : Flow.Edge}
  {input : String} {tier : Tier} {index position : Nat} {node : Flow.Node}

/-! ## Replacing a branch -/

/-- Where a branch was replaced nothing is found but the placeholder. -/
theorem getElem?_set_placeholder :
    (listed.set index .placeholder)[position]? = some branch ↔
      (position ≠ index ∧ listed[position]? = some branch) ∨
        (position = index ∧ index < listed.length ∧ branch = .placeholder) := by
  rw [List.getElem?_set]
  by_cases same : index = position
  · subst same
    by_cases inside : index < listed.length <;> simp [inside, eq_comm]
  · simp [same, Ne.symm same]

/-- The placeholder hits in no tier; the other branches hit as before. -/
theorem hits_set_placeholder :
    Hits (listed.set index .placeholder) input tier position ↔
      position ≠ index ∧ Hits listed input tier position := by
  simp only [Hits, getElem?_set_placeholder]
  constructor
  · rintro ⟨branch, ⟨different, found⟩ | ⟨_, _, rfl⟩, rest⟩
    · exact ⟨different, branch, found, rest⟩
    · exact absurd rfl rest.2.1
  · rintro ⟨different, branch, found, rest⟩
    exact ⟨branch, .inl ⟨different, found⟩, rest⟩

/-- An input selects at most one branch. -/
theorem Selects.unique (first : Selects listed input index) (second : Selects listed input position) :
    index = position :=
  Option.some.inj ((select?_eq_some_iff.mpr first).symm.trans (select?_eq_some_iff.mpr second))

/-- Replacing a branch that is not selected changes nothing about the selection. -/
theorem selects_set_placeholder
    (unselected : ¬ Selects listed input index) :
    Selects (listed.set index .placeholder) input position ↔ Selects listed input position := by
  have kept {position : Nat} (selects : Selects listed input position) :
      Selects (listed.set index .placeholder) input position := by
    have different : position ≠ index := fun same => unselected (same ▸ selects)
    obtain ⟨tier, hit, least⟩ := selects
    refine ⟨tier, hits_set_placeholder.mpr ⟨different, hit⟩, fun other place otherHit => ?_⟩
    exact least other place (hits_set_placeholder.mp otherHit).2
  refine ⟨fun selects => ?_, kept⟩
  -- What is selected now has been a hit, so something was selected before, and it still is.
  obtain ⟨tier, hit, _⟩ := id selects
  obtain ⟨before, selected⟩ := exists_selects_of_hits (hits_set_placeholder.mp hit).2
  exact selects.unique (kept selected) ▸ selected

/-- Replacing a branch that is not selected changes nothing about being stuck. -/
theorem stuck_set_placeholder
    (unselected : ¬ Selects listed input index) :
    Stuck edges (listed.set index .placeholder) input ↔ Stuck edges listed input := by
  simp only [Stuck, selects_set_placeholder unselected, getElem?_set_placeholder]
  constructor
  · intro stuck position branch edge selects found
    refine stuck position branch edge selects (.inl ⟨?_, found⟩)
    exact fun same => unselected (same ▸ selects)
  · rintro stuck position branch edge selects (⟨_, found⟩ | ⟨rfl, _, _⟩)
    · exact stuck position branch edge selects found
    · exact absurd selects unselected

/-- Replacing a branch that does not stand in changes nothing about which one does. -/
theorem standsIn_set_placeholder
    (apart : ∀ edge, ¬ StandsIn edges listed index edge) :
    StandsIn edges (listed.set index .placeholder) position edge ↔
      StandsIn edges listed position edge := by
  constructor
  · rintro ⟨branch, found, isDefault, leads, least⟩
    obtain ⟨different, found⟩ | ⟨_, _, rfl⟩ := getElem?_set_placeholder.mp found
    · refine ⟨branch, found, isDefault, leads, fun earlier less other otherFound otherDefault => ?_⟩
      -- The replaced branch may stand before this one: then it would have stood in itself.
      intro otherEdge otherLeads
      have missed (earlier : Nat) (less : earlier < position) (away : earlier ≠ index)
          (other : Branch) (otherFound : listed[earlier]? = some other)
          (otherDefault : other.kind = .default) (edge : Flow.Edge) :
          ¬ Leads edges earlier other edge :=
        least earlier less other (getElem?_set_placeholder.mpr (.inl ⟨away, otherFound⟩))
          otherDefault edge
      by_cases same : earlier = index
      · subst same
        refine apart otherEdge ⟨other, otherFound, otherDefault, otherLeads, fun former before => ?_⟩
        exact missed former (Nat.lt_trans before less) (Nat.ne_of_lt before)
      · exact missed earlier less same other otherFound otherDefault otherEdge otherLeads
    · cases isDefault
  · intro standsIn
    have different : position ≠ index := fun same => apart edge (same ▸ standsIn)
    obtain ⟨branch, found, isDefault, leads, least⟩ := standsIn
    refine ⟨branch, getElem?_set_placeholder.mpr (.inl ⟨different, found⟩), isDefault, leads, ?_⟩
    intro earlier less other otherFound otherDefault
    obtain ⟨_, otherFound⟩ | ⟨_, _, rfl⟩ := getElem?_set_placeholder.mp otherFound
    · exact least earlier less other otherFound otherDefault
    · cases otherDefault

/-- Replacing a branch that does not decide changes nothing about where an input leads. -/
theorem resolves_set_placeholder
    (undeciding : ¬ Decides edges listed input index) :
    Resolves edges (listed.set index .placeholder) input edge ↔ Resolves edges listed input edge := by
  have unselected : ¬ Selects listed input index := fun selects => undeciding (.inl selects)
  have sameStuck : Stuck edges (listed.set index .placeholder) input ↔ Stuck edges listed input :=
    stuck_set_placeholder unselected
  have sameStandsIn (stuck : Stuck edges listed input) (position : Nat) (edge : Flow.Edge) :
      StandsIn edges (listed.set index .placeholder) position edge ↔
        StandsIn edges listed position edge :=
    standsIn_set_placeholder fun edge standsIn => undeciding (.inr ⟨stuck, edge, standsIn⟩)
  constructor
  · rintro (⟨selects, found, leads⟩ | ⟨stuck, standsIn⟩ | ⟨stuck, alone, last⟩)
    · have selected := (selects_set_placeholder unselected).mp selects
      obtain ⟨_, found⟩ | ⟨same, _, _⟩ := getElem?_set_placeholder.mp found
      · exact .selected selected found leads
      · exact absurd (same ▸ selected) unselected
    · have stuck := sameStuck.mp stuck
      exact .standIn stuck ((sameStandsIn stuck _ _).mp standsIn)
    · have stuck := sameStuck.mp stuck
      exact .last stuck
        (fun position edge standsIn => alone position edge ((sameStandsIn stuck _ _).mpr standsIn))
        last
  · rintro (⟨selects, found, leads⟩ | ⟨stuck, standsIn⟩ | ⟨stuck, alone, last⟩)
    · refine .selected ((selects_set_placeholder unselected).mpr selects)
        (getElem?_set_placeholder.mpr (.inl ⟨?_, found⟩)) leads
      exact fun same => unselected (same ▸ selects)
    · exact .standIn (sameStuck.mpr stuck) ((sameStandsIn stuck _ _).mpr standsIn)
    · exact .last (sameStuck.mpr stuck)
        (fun position edge standsIn => alone position edge ((sameStandsIn stuck _ _).mp standsIn))
        last

/-- A node with an entry replaced by what is no branch has a placeholder in its place. -/
theorem branches_withField_set
    {items : List Json.Value}
    {value : Json.Value}
    (given : Keyed.get? "conditions" node.data = some (.array items))
    (malformed : Branch.ofValue? value = none) :
    branches (node.withField "conditions" (.array (items.set index value))) =
      (branches node).set index .placeholder := by
  simp [branches, Flow.Node.withField, Keyed.get?_insert_self, given, List.map_set, malformed]

/-! ## The target -/

/-- A condition node has no target only when no edge leaves it.  Otherwise its target is that of
the one edge that the input leads along: the edge of the least hit, else that of the first default
branch that has one, else the last.  An entry that decides nothing may be replaced by anything
that is no branch. -/
theorem resolution_by_priorities (node : Flow.Node) (edges : List Flow.Edge) (input : String) :
    (target? node edges input = none ↔ edges = []) ∧
    (∀ target, target? node edges input = some target ↔
      ∃ edge ∈ edges, Resolves edges (branches node) input edge ∧ edge.target = target) ∧
    ∀ items index value, Keyed.get? "conditions" node.data = some (.array items) →
      ¬ Decides edges (branches node) input index → Branch.ofValue? value = none →
      target? (node.withField "conditions" (.array (items.set index value))) edges input =
        target? node edges input := by
  refine ⟨target?_eq_none_iff, fun target => ?_, fun items index value given undeciding malformed => ?_⟩
  · rw [target?_eq_some_iff]
    exact exists_congr fun edge => ⟨fun found => ⟨found.1.mem, found⟩, And.right⟩
  · refine Option.ext fun target => ?_
    rw [target?_eq_some_iff, target?_eq_some_iff, branches_withField_set given malformed]
    exact exists_congr fun edge => and_congr_left' (resolves_set_placeholder undeciding)

/-- The entries of a menu: a token, a label and a default. -/
def menuItems : List Json.Value :=
  [.object [("type", .string "contains"), ("value", .string "yes")],
   .object [("label", .string "Yes please"), ("type", .string "equals"), ("value", .string "no")],
   .object [("type", .string "default")]]

/-- The menu. -/
def menu : Flow.Node :=
  { id := "c", kind := .condition, data := [("conditions", .array menuItems)] }

/-- The edges of the menu, not in the order of its entries. -/
def menuEdges : List Flow.Edge :=
  [{ source := "c", target := "rest", handle := some "else" },
   { source := "c", target := "label", handle := some "condition-1" },
   { source := "c", target := "token", handle := some "condition-0" }]

/-- A label wins over a token that stands before it, in whose place there may stand a null. -/
theorem resolution_by_priorities_menu :
    Keyed.get? "conditions" menu.data = some (.array menuItems) ∧
      ¬ Decides menuEdges (branches menu) "yes please" 0 ∧
      Branch.ofValue? .null = none ∧
      target? (menu.withField "conditions" (.array (menuItems.set 0 .null))) menuEdges
        "yes please" = target? menu menuEdges "yes please" ∧
      target? menu menuEdges "yes please" = some "label" := by
  have given : Keyed.get? "conditions" menu.data = some (.array menuItems) := by
    simp [menu, Keyed.get?]
  have undeciding : ¬ Decides menuEdges (branches menu) "yes please" 0 := by
    rintro (selects | ⟨_, _, branch, found, isDefault, _⟩)
    · have label : select? (branches menu) "yes please" = some 1 := by decide +kernel
      rw [select?_eq_some_iff.mpr selects] at label
      cases label
    · have token : ((branches menu)[0]?).map Branch.kind = some .contains := by decide +kernel
      rw [found, Option.map_some, isDefault] at token
      cases token
  exact ⟨given, undeciding, rfl,
    (resolution_by_priorities menu menuEdges "yes please").2.2 menuItems 0 .null given undeciding rfl,
    by decide +kernel⟩

end Condition
end ChatFlow
