import ChatFlow.Condition

/-!
# Which branch an input selects

A branch hits in a tier when the test of that tier holds of it.  Of all hits, over all tiers and
all branches, the selected one has the least tier and in it the least number.  Nothing else is
looked at: a branch that is not selected may be replaced by one that never hits.
-/

namespace ChatFlow
namespace Condition

/-- The place of a tier in the order in which the tiers are tried. -/
def Tier.rank : Tier → Nat
  | .label => 0
  | .contains => 1
  | .equals => 2
  | .notEquals => 3
  | .affix => 4

/-- What a branch must be like to hit in a tier, for an input that is already folded. -/
def Branch.Meets (branch : Branch) (input : String) : Tier → Prop
  | .label => Text.trim branch.label ≠ "" ∧ Text.upper (Text.trim branch.label) = input
  | .contains => branch.kind = .contains ∧ ∃ token ∈ branch.tokens, token.toList <:+: input.toList
  | .equals => branch.kind = .equals ∧ input ∈ branch.tokens
  | .notEquals => branch.kind = .notEquals ∧ input ∉ branch.tokens
  | .affix =>
      (branch.kind = .startsWith ∧ ∃ token ∈ branch.tokens, token.toList <+: input.toList) ∨
        (branch.kind = .endsWith ∧ ∃ token ∈ branch.tokens, token.toList <:+ input.toList)

/-- The branch with a number hits in a tier. -/
def Hits (branches : List Branch) (input : String) (tier : Tier) (index : Nat) : Prop :=
  ∃ branch, branches[index]? = some branch ∧ branch.kind ≠ .default ∧
    branch.kind ≠ .unsupported ∧ branch.Meets (fold input) tier

/-- An input selects the branch with a number: of all hits it has the least tier, and in it the
least number. -/
def Selects (branches : List Branch) (input : String) (index : Nat) : Prop :=
  ∃ tier, Hits branches input tier index ∧
    ∀ other position, Hits branches input other position →
      tier.rank < other.rank ∨ (tier = other ∧ index ≤ position)

variable {branches : List Branch} {branch : Branch} {input : String} {tier other : Tier}
  {index position : Nat}

/-! ## Hits -/

/-- The test of a tier holds exactly of the branches that are as the tier asks for. -/
theorem hits_iff : tier.hits branch input = true ↔ branch.Meets input tier := by
  cases tier with
  | label => simp [Tier.hits, Branch.Meets]
  | contains => simp [Tier.hits, Branch.Meets, Text.contains, Text.occursIn_iff]
  | equals => simp [Tier.hits, Branch.Meets]
  | notEquals =>
      simp only [Tier.hits, Branch.Meets, Bool.and_eq_true, beq_iff_eq, List.all_eq_true, bne_iff_ne]
      refine and_congr_right fun _ => ⟨fun apart listed => apart _ listed rfl, ?_⟩
      rintro unlisted token listed rfl
      exact unlisted listed
  | affix => cases kind : branch.kind <;> simp [Tier.hits, Branch.Meets, kind]

/-- Branches can be selected unless they are for all other inputs or of an unknown kind. -/
theorem isSelectable_iff (kind : Kind) :
    kind.isSelectable = true ↔ kind ≠ .default ∧ kind ≠ .unsupported := by
  cases kind <;> simp [Kind.isSelectable]

/-- The first hit of a tier is its hit with the least number. -/
theorem firstHit?_eq_some_iff :
    firstHit? branches (fold input) tier = some index ↔
      Hits branches input tier index ∧
        ∀ position, Hits branches input tier position → index ≤ position := by
  have hits_getElem {position : Nat} (inside : position < branches.length) :
      Hits branches input tier position ↔
        (branches[position].kind.isSelectable && tier.hits branches[position] (fold input)) =
          true := by
    simp [Hits, List.getElem?_eq_getElem inside, hits_iff, isSelectable_iff, and_assoc]
  have inside_of_hits {position : Nat} (hits : Hits branches input tier position) :
      position < branches.length := by
    obtain ⟨branch, found, _⟩ := hits
    exact (List.getElem?_eq_some_iff.mp found).1
  rw [firstHit?, List.findIdx?_eq_some_iff_getElem]
  constructor
  · rintro ⟨inside, hits, least⟩
    refine ⟨(hits_getElem inside).mpr hits, fun position hit => Nat.not_lt.mp fun less => ?_⟩
    exact least position less ((hits_getElem (Nat.lt_trans less inside)).mp hit)
  · rintro ⟨hit, least⟩
    have inside := inside_of_hits hit
    refine ⟨inside, (hits_getElem inside).mp hit, fun position less hits => ?_⟩
    exact Nat.not_le.mpr less (least position ((hits_getElem (Nat.lt_trans less inside)).mpr hits))

/-- A tier without a first hit has no hit. -/
theorem not_hits_of_firstHit?_eq_none
    (missed : firstHit? branches (fold input) tier = none)
    (position : Nat) :
    ¬ Hits branches input tier position := by
  rintro ⟨branch, found, selectable, known, meets⟩
  have refused := List.findIdx?_eq_none_iff.mp missed branch (List.mem_of_getElem? found)
  simp [(isSelectable_iff branch.kind).mpr ⟨selectable, known⟩, hits_iff.mpr meets] at refused

/-! ## Selection -/

/-- The tiers are tried in the order of their ranks. -/
theorem pairwise_rank : Tier.all.Pairwise fun former latter => former.rank < latter.rank := by
  decide

/-- Every tier is tried. -/
theorem mem_all (tier : Tier) : tier ∈ Tier.all := by
  cases tier <;> decide

/-- The selected branch is the hit with the least tier and in it the least number. -/
theorem select?_eq_some_iff : select? branches input = some index ↔ Selects branches input index := by
  rw [select?, List.findSome?_eq_some_iff]
  constructor
  · rintro ⟨former, tier, latter, all_eq, found, missed⟩
    obtain ⟨hit, least⟩ := firstHit?_eq_some_iff.mp found
    refine ⟨tier, hit, fun other position otherHit => ?_⟩
    have tried := mem_all other
    have ordered := pairwise_rank
    rw [all_eq] at tried ordered
    rcases List.mem_append.mp tried with before | after
    · exact absurd otherHit (not_hits_of_firstHit?_eq_none (missed other before) position)
    · rcases List.mem_cons.mp after with rfl | after
      · exact .inr ⟨rfl, least position otherHit⟩
      · exact .inl ((List.pairwise_cons.mp (List.pairwise_append.mp ordered).2.1).1 other after)
  · rintro ⟨tier, hit, least⟩
    obtain ⟨former, latter, all_eq⟩ := List.append_of_mem (mem_all tier)
    refine ⟨former, tier, latter, all_eq, firstHit?_eq_some_iff.mpr ⟨hit, ?_⟩, fun other before => ?_⟩
    · intro position otherHit
      exact ((least tier position otherHit).resolve_left (Nat.lt_irrefl _)).2
    · -- An earlier tier cannot hit, for its rank is smaller than that of the least hit.
      have ordered := pairwise_rank
      rw [all_eq] at ordered
      have less := (List.pairwise_append.mp ordered).2.2 other before tier List.mem_cons_self
      cases found : firstHit? branches (fold input) other with
      | none => rfl
      | some position =>
          rcases least other position (firstHit?_eq_some_iff.mp found).1 with more | ⟨rfl, _⟩
          · exact absurd less (Nat.not_lt.mpr (Nat.le_of_lt more))
          · exact absurd less (Nat.lt_irrefl _)

/-- Whatever hits, something is selected. -/
theorem exists_selects_of_hits (hits : Hits branches input tier index) :
    ∃ position, Selects branches input position := by
  cases selected : select? branches input with
  | some position => exact ⟨position, select?_eq_some_iff.mp selected⟩
  | none =>
      have missed := List.findSome?_eq_none_iff.mp selected tier (mem_all tier)
      exact absurd hits (not_hits_of_firstHit?_eq_none missed index)

end Condition
end ChatFlow
