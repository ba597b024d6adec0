import ChatFlow.Proofs.Condition.Selection

/-!
# Which edge an input leads along

The edge of a branch is the first edge with its numbered handle, else the edge at its position,
else the first edge whose handle is one of its names.  An input leads along the edge of the
selected branch; if there is none, along that of the first default branch that has one; and if
there is none either, along the last edge.  `Resolves` says so, and a condition node resolves an
input to exactly the target of the edge that it describes.
-/

namespace ChatFlow
namespace Condition

/-- The first item of a list with a property. -/
def IsFirst (holds : α → Prop) (items : List α) (item : α) : Prop :=
  ∃ before after, items = before ++ item :: after ∧ holds item ∧ ∀ other ∈ before, ¬ holds other

/-- The edge carries the handle that names a branch by its number. -/
def Numbered (index : Nat) (edge : Flow.Edge) : Prop :=
  edge.handle = some (numberedHandle index)

/-- The names of a branch. -/
inductive Branch.Named (branch : Branch) : String → Prop
  /-- Its label. -/
  | label : Named branch (Text.trim branch.label)
  /-- The text of its tokens. -/
  | value : Named branch (Text.trim branch.value)
  /-- Its id. -/
  | id {id : String} (given : branch.id = some id) : Named branch (Text.trim id)
  /-- What default branches are called. -/
  | default (isDefault : branch.kind = .default) : Named branch "default"
  /-- What default branches are also called. -/
  | otherwise (isDefault : branch.kind = .default) : Named branch "else"

/-- The handle of an edge is a name of the branch, but for blanks around it and the case of ASCII
letters. -/
def Branch.Calls (branch : Branch) (edge : Flow.Edge) : Prop :=
  ∃ handle name, edge.handle = some handle ∧ branch.Named name ∧ name ≠ "" ∧
    Text.lowerAscii name = Text.lowerAscii (Text.trim handle)

/-- The edge that a branch with a number leads along. -/
inductive Leads (edges : List Flow.Edge) (index : Nat) (branch : Branch) (edge : Flow.Edge) : Prop
  /-- The first edge with the numbered handle. -/
  | numbered (first : IsFirst (Numbered index) edges edge)
  /-- The edge at the position of the branch, when none has the numbered handle. -/
  | placed (unnumbered : ∀ other ∈ edges, ¬ Numbered index other)
      (placed : edges[index]? = some edge)
  /-- The first edge that is called by a name of the branch, when there is none at its position
  either. -/
  | called (unnumbered : ∀ other ∈ edges, ¬ Numbered index other) (beyond : edges.length ≤ index)
      (first : IsFirst branch.Calls edges edge)

/-- The branch with a number is the first default branch that leads along an edge. -/
def StandsIn (edges : List Flow.Edge) (branches : List Branch) (index : Nat) (edge : Flow.Edge) :
    Prop :=
  ∃ branch, branches[index]? = some branch ∧ branch.kind = .default ∧
    Leads edges index branch edge ∧
    ∀ earlier < index, ∀ other, branches[earlier]? = some other → other.kind = .default →
      ∀ edge, ¬ Leads edges earlier other edge

/-- No branch is selected, or the selected one leads along no edge. -/
def Stuck (edges : List Flow.Edge) (branches : List Branch) (input : String) : Prop :=
  ∀ index branch edge, Selects branches input index → branches[index]? = some branch →
    ¬ Leads edges index branch edge

/-- The edge that an input leads along. -/
inductive Resolves (edges : List Flow.Edge) (branches : List Branch) (input : String)
    (edge : Flow.Edge) : Prop
  /-- The edge of the selected branch. -/
  | selected {index : Nat} {branch : Branch} (selects : Selects branches input index)
      (found : branches[index]? = some branch) (leads : Leads edges index branch edge)
  /-- The edge of the first default branch that has one. -/
  | standIn {index : Nat} (stuck : Stuck edges branches input)
      (standsIn : StandsIn edges branches index edge)
  /-- The last edge. -/
  | last (stuck : Stuck edges branches input)
      (alone : ∀ index edge, ¬ StandsIn edges branches index edge)
      (last : edges.getLast? = some edge)

/-- The branch with a number is the selected one, or the default branch that stands in for it. -/
def Decides (edges : List Flow.Edge) (branches : List Branch) (input : String) (index : Nat) :
    Prop :=
  Selects branches input index ∨
    (Stuck edges branches input ∧ ∃ edge, StandsIn edges branches index edge)

variable {edges : List Flow.Edge} {branches : List Branch} {branch : Branch} {edge : Flow.Edge}
  {input : String} {index : Nat} {node : Flow.Node}

/-! ## The edge of a branch -/

/-- What a search finds is the first item with the property. -/
theorem find?_eq_some_iff_isFirst
    {holds : α → Prop}
    {test : α → Bool}
    {items : List α}
    {item : α}
    (test_iff : ∀ item, test item = true ↔ holds item) :
    items.find? test = some item ↔ IsFirst holds items item := by
  have test_not_iff (item : α) : (!test item) = true ↔ ¬ holds item := by
    simp [← test_iff]
  simp only [List.find?_eq_some_iff_append, IsFirst, test_iff, test_not_iff]
  constructor
  · rintro ⟨holds, before, after, whole, missed⟩
    exact ⟨before, after, whole, holds, missed⟩
  · rintro ⟨before, after, whole, holds, missed⟩
    exact ⟨holds, before, after, whole, missed⟩

/-- The names of a branch are the names that it lists. -/
theorem mem_names_iff {name : String} : name ∈ branch.names ↔ branch.Named name := by
  simp only [Branch.names, List.mem_append, List.mem_cons, List.not_mem_nil, or_false,
    Option.mem_toList, Option.map_eq_some_iff]
  constructor
  · rintro (((rfl | rfl) | ⟨id, given, rfl⟩) | listed)
    · exact .label
    · exact .value
    · exact .id given
    · split at listed
      · rename_i isDefault
        simp only [List.mem_cons, List.not_mem_nil, or_false] at listed
        rcases listed with rfl | rfl
        · exact .default isDefault
        · exact .otherwise isDefault
      · cases listed
  · rintro (_ | _ | given | isDefault | isDefault)
    · exact .inl (.inl (.inl rfl))
    · exact .inl (.inl (.inr rfl))
    · exact .inl (.inr ⟨_, given, rfl⟩)
    · simp [isDefault]
    · simp [isDefault]

/-- The edges that carry a name of a branch are those that its names call. -/
theorem isNamedBy_iff (edge : Flow.Edge) : branch.isNamedBy edge = true ↔ branch.Calls edge := by
  cases handle : edge.handle with
  | none => simp [Branch.isNamedBy, Branch.Calls, handle]
  | some text =>
      simp [Branch.isNamedBy, Branch.Calls, handle, mem_names_iff, Text.equalIgnoringAsciiCase]

/-- The edge of a branch is the one that it leads along. -/
theorem edge?_eq_some_iff : edge? edges index branch = some edge ↔ Leads edges index branch edge := by
  have numbered_iff (edge : Flow.Edge) :
      (edge.handle == some (numberedHandle index)) = true ↔ Numbered index edge := by
    simp [Numbered]
  simp only [edge?, Option.or_eq_some_iff, find?_eq_some_iff_isFirst numbered_iff,
    find?_eq_some_iff_isFirst isNamedBy_iff, List.find?_eq_none, numbered_iff,
    List.getElem?_eq_none_iff]
  constructor
  · rintro (first | ⟨unnumbered, placed | ⟨beyond, first⟩⟩)
    · exact .numbered first
    · exact .placed unnumbered placed
    · exact .called unnumbered beyond first
  · rintro (first | ⟨unnumbered, placed⟩ | ⟨unnumbered, beyond, first⟩)
    · exact .inl first
    · exact .inr ⟨unnumbered, .inl placed⟩
    · exact .inr ⟨unnumbered, .inr ⟨beyond, first⟩⟩

/-- A branch has no edge exactly when it leads along none. -/
theorem edge?_eq_none_iff :
    edge? edges index branch = none ↔ ∀ edge, ¬ Leads edges index branch edge := by
  simp only [Option.eq_none_iff_forall_ne_some, ne_eq, edge?_eq_some_iff]

/-! ## Default branches -/

/-- What is found first by position. -/
theorem findSome?_zipIdx_eq_some_iff
    {read : α × Nat → Option β}
    {items : List α}
    {result : β} :
    items.zipIdx.findSome? read = some result ↔
      ∃ index item, items[index]? = some item ∧ read (item, index) = some result ∧
        ∀ earlier < index, ∀ other, items[earlier]? = some other → read (other, earlier) = none := by
  have sound {result : β} (found : items.zipIdx.findSome? read = some result) :
      ∃ index item, items[index]? = some item ∧ read (item, index) = some result ∧
        ∀ earlier < index, ∀ other, items[earlier]? = some other →
          read (other, earlier) = none := by
    obtain ⟨before, ⟨item, index⟩, after, whole, found, missed⟩ := List.findSome?_eq_some_iff.mp found
    have placed : items.zipIdx[before.length]? = some (item, index) := by
      simp [whole]
    simp only [List.getElem?_zipIdx, Nat.zero_add, Option.map_eq_some_iff, Prod.mk.injEq] at placed
    obtain ⟨_, placed, rfl, rfl⟩ := placed
    refine ⟨_, _, placed, found, fun earlier less other otherPlaced => missed _ ?_⟩
    have placed : items.zipIdx[earlier]? = some (other, earlier) := by
      simp [List.getElem?_zipIdx, otherPlaced]
    rw [whole, List.getElem?_append_left less] at placed
    exact List.mem_of_getElem? placed
  refine ⟨sound, ?_⟩
  rintro ⟨index, item, placed, reads, missed⟩
  cases found : items.zipIdx.findSome? read with
  | none =>
      have member : (item, index) ∈ items.zipIdx := by
        simpa [List.mk_mem_zipIdx_iff_getElem?] using placed
      rw [List.findSome?_eq_none_iff.mp found _ member] at reads
      cases reads
  | some other =>
      -- Of two positions that are both first neither is before the other.
      obtain ⟨position, otherItem, otherPlaced, otherReads, otherMissed⟩ := sound found
      rcases Nat.lt_trichotomy index position with less | rfl | more
      · rw [otherMissed index less item placed] at reads
        cases reads
      · rw [placed] at otherPlaced
        cases otherPlaced
        exact otherReads.symm.trans reads
      · rw [missed position more otherItem otherPlaced] at otherReads
        cases otherReads

/-- The edge of the default branches is that of the one that stands in. -/
theorem defaultEdge?_eq_some_iff :
    defaultEdge? edges branches = some edge ↔ ∃ index, StandsIn edges branches index edge := by
  have reads_iff (branch : Branch) (index : Nat) (edge : Flow.Edge) :
      (if branch.kind = .default then edge? edges index branch else none) = some edge ↔
        branch.kind = .default ∧ Leads edges index branch edge := by
    split <;> simp_all [edge?_eq_some_iff]
  have misses_iff (branch : Branch) (index : Nat) :
      (if branch.kind = .default then edge? edges index branch else none) = none ↔
        (branch.kind = .default → ∀ edge, ¬ Leads edges index branch edge) := by
    split <;> simp_all [edge?_eq_none_iff]
  simp only [defaultEdge?, findSome?_zipIdx_eq_some_iff, reads_iff, misses_iff, StandsIn, and_assoc]

/-- Default branches have no edge together exactly when none of them leads along one. -/
theorem defaultEdge?_eq_none_iff :
    defaultEdge? edges branches = none ↔
      ∀ (index : Nat) branch, branches[index]? = some branch → branch.kind = .default →
        ∀ edge, ¬ Leads edges index branch edge := by
  simp only [defaultEdge?, List.findSome?_eq_none_iff, Prod.forall,
    List.mk_mem_zipIdx_iff_getElem?, ite_eq_right_iff, edge?_eq_none_iff]
  exact ⟨fun missed index branch => missed branch index, fun missed branch index => missed index branch⟩

/-! ## Resolution -/

/-- The edge of the selected branch. -/
theorem selectedEdge?_eq_some_iff :
    selectedEdge? edges branches input = some edge ↔
      ∃ index branch, Selects branches input index ∧ branches[index]? = some branch ∧
        Leads edges index branch edge := by
  simp only [selectedEdge?, Option.bind_eq_bind, Option.bind_eq_some_iff, select?_eq_some_iff,
    edge?_eq_some_iff]
  constructor
  · rintro ⟨index, selects, branch, found, leads⟩
    exact ⟨index, branch, selects, found, leads⟩
  · rintro ⟨index, branch, selects, found, leads⟩
    exact ⟨index, selects, branch, found, leads⟩

/-- There is no edge of a selected branch exactly when the input is stuck. -/
theorem selectedEdge?_eq_none_iff :
    selectedEdge? edges branches input = none ↔ Stuck edges branches input := by
  simp only [Option.eq_none_iff_forall_ne_some, ne_eq, selectedEdge?_eq_some_iff, Stuck]
  constructor
  · intro stuck index branch edge selects found leads
    exact stuck edge ⟨index, branch, selects, found, leads⟩
  · rintro stuck edge ⟨index, branch, selects, found, leads⟩
    exact stuck index branch edge selects found leads

/-- The edge that is chosen is the one that the input leads along. -/
theorem chosen_iff_resolves :
    ((selectedEdge? edges branches input).or (defaultEdge? edges branches)).or edges.getLast? =
      some edge ↔ Resolves edges branches input edge := by
  have alone_iff : defaultEdge? edges branches = none ↔
      ∀ index edge, ¬ StandsIn edges branches index edge := by
    simp only [Option.eq_none_iff_forall_ne_some, ne_eq, defaultEdge?_eq_some_iff, not_exists]
    exact forall_comm
  simp only [Option.or_eq_some_iff, Option.or_eq_none_iff, selectedEdge?_eq_none_iff,
    selectedEdge?_eq_some_iff, defaultEdge?_eq_some_iff, alone_iff]
  constructor
  · rintro ((⟨index, branch, selects, found, leads⟩ | ⟨stuck, index, standsIn⟩) |
      ⟨⟨stuck, alone⟩, last⟩)
    · exact .selected selects found leads
    · exact .standIn stuck standsIn
    · exact .last stuck alone last
  · rintro (⟨selects, found, leads⟩ | ⟨stuck, standsIn⟩ | ⟨stuck, alone, last⟩)
    · exact .inl (.inl ⟨_, _, selects, found, leads⟩)
    · exact .inl (.inr ⟨stuck, _, standsIn⟩)
    · exact .inr ⟨⟨stuck, alone⟩, last⟩

/-- A branch leads along one of the edges. -/
theorem Leads.mem (leads : Leads edges index branch edge) : edge ∈ edges := by
  have mem_of_first {holds : Flow.Edge → Prop} (first : IsFirst holds edges edge) : edge ∈ edges := by
    obtain ⟨before, after, rfl, _⟩ := first
    exact List.mem_append_right _ List.mem_cons_self
  cases leads with
  | numbered first => exact mem_of_first first
  | placed _ placed => exact List.mem_of_getElem? placed
  | called _ _ first => exact mem_of_first first

/-- An input leads along one of the edges. -/
theorem Resolves.mem (resolves : Resolves edges branches input edge) : edge ∈ edges := by
  cases resolves with
  | selected _ _ leads => exact leads.mem
  | standIn _ standsIn =>
      obtain ⟨_, _, _, leads, _⟩ := standsIn
      exact leads.mem
  | last _ _ last => exact List.mem_of_getLast? last

/-- The target of a condition node is that of the edge that the input leads along. -/
theorem target?_eq_some_iff {target : String} :
    target? node edges input = some target ↔
      ∃ edge, Resolves edges (Condition.branches node) input edge ∧ edge.target = target := by
  cases edges with
  | nil =>
      have nowhere (edge : Flow.Edge) : ¬ Resolves [] (Condition.branches node) input edge :=
        fun resolves => nomatch resolves.mem
      simp [target?, nowhere]
  | cons first rest =>
      simp only [target?, List.isEmpty_cons, Bool.false_eq_true, if_false, Option.map_eq_some_iff,
        chosen_iff_resolves]

/-- A condition node has no target exactly when no edge leaves it. -/
theorem target?_eq_none_iff : target? node edges input = none ↔ edges = [] := by
  cases edges <;> simp [target?]

end Condition
end ChatFlow
