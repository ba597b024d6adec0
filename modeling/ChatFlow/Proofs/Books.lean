import Mathlib.Data.List.Perm.Basic
import Mathlib.Data.List.Nodup

/-!
# Books

Subjects are accepted one after the other and numbered in this order.  At each moment there is one
slip for each of them, at some place; a slip may be replaced by another one for the same subject,
which then comes in once more.  What happens to the books is one of three things: the same slips are
there, a slip for a new subject arrives, or a slip is replaced.  However often that happens, the
slips are numbered like the subjects, and each counts how often its subject came in.
-/

namespace ChatFlow

/-- What is written on a slip. -/
structure Labels (ι β : Type) where
  /-- The number of the subject among those that were accepted. -/
  number : ι → Nat
  subject : ι → β
  /-- How often the subject came in. -/
  rank : ι → Nat

/-- How often there is a slip of a number in a list. -/
def Labels.count {ι β : Type} (labels : Labels ι β) (number : Nat) (slips : List ι) : Nat :=
  slips.countP fun slip => labels.number slip = number

/-- The books. -/
structure Books (ι β : Type) where
  /-- The slips that are somewhere. -/
  placed : List ι
  /-- The slips that came in, in this order. -/
  entered : List ι
  /-- The subjects that were accepted, in this order. -/
  accepted : List β

namespace Books

variable {ι β : Type} {labels : Labels ι β} {most : Nat} {books before after : Books ι β} {slip : ι}

/-- What may happen to the books. -/
inductive Turnover (labels : Labels ι β) (most : Nat) (before after : Books ι β) : Prop
  /-- The same slips are there. -/
  | none (placed : after.placed.Perm before.placed) (entered_eq : after.entered = before.entered)
      (accepted_eq : after.accepted = before.accepted)
  /-- A slip for a new subject arrives. -/
  | arrival (slip : ι) (number_eq : labels.number slip = before.accepted.length)
      (rank_eq : labels.rank slip = 1) (placed : after.placed.Perm (slip :: before.placed))
      (entered_eq : after.entered = before.entered ++ [slip])
      (accepted_eq : after.accepted = before.accepted ++ [labels.subject slip])
  /-- A slip is replaced by the next one for its subject. -/
  | replaced (slip next : ι) (others : List ι) (number_eq : labels.number next = labels.number slip)
      (subject_eq : labels.subject next = labels.subject slip)
      (rank_eq : labels.rank next = labels.rank slip + 1) (left : labels.rank slip < most)
      (was : before.placed.Perm (slip :: others)) (placed : after.placed.Perm (next :: others))
      (entered_eq : after.entered = before.entered ++ [next])
      (accepted_eq : after.accepted = before.accepted)

/-- Each subject has one slip that is somewhere, and that counts how often the subject came in. -/
structure Numbered (labels : Labels ι β) (most : Nat) (books : Books ι β) : Prop where
  /-- The slips that are somewhere are numbered like the subjects. -/
  numbers : (books.placed.map labels.number).Perm (List.range books.accepted.length)
  /-- What came in is about the subject that was accepted under its number. -/
  known : ∀ slip ∈ books.entered,
    books.accepted[labels.number slip]? = some (labels.subject slip)
  /-- What is somewhere came in. -/
  came : ∀ slip ∈ books.placed, slip ∈ books.entered
  /-- It counts how often its subject came in. -/
  counts : ∀ slip ∈ books.placed,
    labels.count (labels.number slip) books.entered = labels.rank slip
  /-- So did each slip when it came in. -/
  ranks : ∀ number, (books.entered.filter fun slip => labels.number slip = number).map labels.rank =
    List.range' 1 (labels.count number books.entered)
  /-- That was not too often. -/
  within : ∀ slip ∈ books.placed, labels.rank slip ≤ most

theorem numbered_empty : Numbered labels most ⟨[], [], []⟩ where
  numbers := .refl _
  known := nofun
  came := nofun
  counts := nofun
  ranks _ := rfl
  within := nofun

/-- What came in has a number that was given. -/
theorem Numbered.lt (numbered : books.Numbered labels most) (came : slip ∈ books.entered) :
    labels.number slip < books.accepted.length :=
  (List.getElem?_eq_some_iff.mp (numbered.known slip came)).1

/-- Different slips that are somewhere have different numbers. -/
theorem Numbered.nodup (numbered : books.Numbered labels most) :
    (books.placed.map labels.number).Nodup :=
  numbered.numbers.nodup_iff.mpr List.nodup_range

theorem count_entered
    (entered_eq : after.entered = before.entered ++ [slip])
    (number : Nat) :
    labels.count number after.entered =
      labels.count number before.entered + if labels.number slip = number then 1 else 0 := by
  simp [Labels.count, entered_eq, List.countP_append, List.countP_cons]

/-- A slip that comes in counts on. -/
theorem ranks_entered
    (ranks : ∀ number, (before.entered.filter fun slip => labels.number slip = number).map
      labels.rank = List.range' 1 (labels.count number before.entered))
    (entered_eq : after.entered = before.entered ++ [slip])
    (next : labels.rank slip = labels.count (labels.number slip) before.entered + 1)
    (number : Nat) :
    (after.entered.filter fun slip => labels.number slip = number).map labels.rank =
      List.range' 1 (labels.count number after.entered) := by
  rw [count_entered entered_eq, entered_eq, List.filter_append, List.map_append, ranks]
  by_cases same : labels.number slip = number
  · subst same
    rw [if_pos rfl, List.range'_1_concat, List.filter_cons_of_pos (by simp), List.filter_nil,
      List.map_singleton, next, Nat.add_comm 1]
  · rw [if_neg same, List.filter_cons_of_neg (by simpa using same), List.filter_nil, List.map_nil,
      List.append_nil]
    rfl

/-- A slip comes in that counts on, and the other slips are about other subjects. -/
theorem Numbered.enter
    (numbered : before.Numbered labels most)
    (entered_eq : after.entered = before.entered ++ [slip])
    (next : labels.rank slip = labels.count (labels.number slip) before.entered + 1)
    (few : labels.rank slip ≤ most)
    (origin : ∀ other ∈ after.placed, other = slip ∨
      other ∈ before.placed ∧ labels.number slip ≠ labels.number other)
    (numbers : (after.placed.map labels.number).Perm (List.range after.accepted.length))
    (known : ∀ other ∈ after.entered,
      after.accepted[labels.number other]? = some (labels.subject other)) :
    after.Numbered labels most where
  numbers := numbers
  known := known
  came other there := by
    rw [entered_eq, List.mem_append, List.mem_singleton]
    exact (origin other there).symm.imp_left fun old => numbered.came other old.1
  counts other there := by
    rw [count_entered entered_eq]
    rcases origin other there with rfl | ⟨old, different⟩
    · rw [if_pos rfl, next]
    · rw [numbered.counts other old, if_neg different, Nat.add_zero]
  ranks := ranks_entered numbered.ranks entered_eq next
  within other there := by
    rcases origin other there with rfl | ⟨old, _⟩
    · exact few
    · exact numbered.within other old

/-- A slip for a new subject arrives. -/
theorem Numbered.arrive
    (numbered : before.Numbered labels most)
    (positive : 0 < most)
    (number_eq : labels.number slip = before.accepted.length)
    (rank_eq : labels.rank slip = 1)
    (placed : after.placed.Perm (slip :: before.placed))
    (entered_eq : after.entered = before.entered ++ [slip])
    (accepted_eq : after.accepted = before.accepted ++ [labels.subject slip]) :
    after.Numbered labels most := by
  have unlike {other : ι} (came : other ∈ before.entered) :
      labels.number slip ≠ labels.number other := by
    rw [number_eq]
    exact Nat.ne_of_gt (numbered.lt came)
  have unknown : labels.count (labels.number slip) before.entered = 0 :=
    List.countP_eq_zero.mpr fun _ came same => unlike came (of_decide_eq_true same).symm
  refine numbered.enter entered_eq (by rw [unknown, rank_eq]) (rank_eq.symm ▸ positive) ?_ ?_ ?_
  · intro other there
    refine (List.mem_cons.mp (placed.mem_iff.mp there)).imp_right fun old => ?_
    exact ⟨old, unlike (numbered.came other old)⟩
  · rw [accepted_eq, List.length_append, List.length_singleton, List.range_succ]
    refine ((placed.map _).trans ?_).trans List.perm_append_comm
    rw [List.map_cons, number_eq]
    exact numbered.numbers.cons _
  · intro other came
    rw [accepted_eq]
    rw [entered_eq, List.mem_append, List.mem_singleton] at came
    rcases came with old | rfl
    · rw [List.getElem?_append_left (numbered.lt old)]
      exact numbered.known other old
    · simp [number_eq]

/-- A slip is replaced by the next one for its subject. -/
theorem Numbered.replace
    {former : ι}
    {others : List ι}
    (numbered : before.Numbered labels most)
    (number_eq : labels.number slip = labels.number former)
    (subject_eq : labels.subject slip = labels.subject former)
    (rank_eq : labels.rank slip = labels.rank former + 1)
    (left : labels.rank former < most)
    (was : before.placed.Perm (former :: others))
    (placed : after.placed.Perm (slip :: others))
    (entered_eq : after.entered = before.entered ++ [slip])
    (accepted_eq : after.accepted = before.accepted) :
    after.Numbered labels most := by
  have held : former ∈ before.placed := was.mem_iff.mpr List.mem_cons_self
  have alone : labels.number former ∉ others.map labels.number :=
    (List.nodup_cons.mp ((was.map _).nodup_iff.mp numbered.nodup)).1
  refine numbered.enter entered_eq ?_ (rank_eq.symm ▸ left) ?_ ?_ ?_
  · rw [rank_eq, number_eq, numbered.counts former held]
  · intro other there
    refine (List.mem_cons.mp (placed.mem_iff.mp there)).imp_right fun stays => ?_
    refine ⟨was.mem_iff.mpr (List.mem_cons_of_mem _ stays), fun same => ?_⟩
    rw [← number_eq, same] at alone
    exact alone (List.mem_map_of_mem stays)
  · rw [accepted_eq]
    refine (placed.map _).trans (.trans ?_ numbered.numbers)
    rw [List.map_cons, number_eq]
    exact (was.map _).symm
  · intro other came
    rw [accepted_eq]
    rw [entered_eq, List.mem_append, List.mem_singleton] at came
    rcases came with old | rfl
    · exact numbered.known other old
    · rw [number_eq, subject_eq]
      exact numbered.known former (numbered.came former held)

/-- Whatever happens to the books, the slips stay numbered. -/
theorem Numbered.turnover
    (numbered : before.Numbered labels most)
    (positive : 0 < most)
    (turnover : before.Turnover labels most after) :
    after.Numbered labels most := by
  cases turnover with
  | none placed entered_eq accepted_eq =>
      have old {slip : ι} : slip ∈ after.placed → slip ∈ before.placed := placed.mem_iff.mp
      constructor
      · rw [accepted_eq]
        exact (placed.map _).trans numbered.numbers
      · rw [entered_eq, accepted_eq]
        exact numbered.known
      · rw [entered_eq]
        exact fun slip there => numbered.came slip (old there)
      · rw [entered_eq]
        exact fun slip there => numbered.counts slip (old there)
      · rw [entered_eq]
        exact numbered.ranks
      · exact fun slip there => numbered.within slip (old there)
  | arrival _ number_eq rank_eq placed entered_eq accepted_eq =>
      exact numbered.arrive positive number_eq rank_eq placed entered_eq accepted_eq
  | replaced _ _ _ number_eq subject_eq rank_eq left was placed entered_eq accepted_eq =>
      exact numbered.replace number_eq subject_eq rank_eq left was placed entered_eq accepted_eq

/-! ## What the numbers tell -/

/-- A subject that was accepted has one slip that is somewhere. -/
theorem Numbered.count_placed
    {number : Nat}
    (numbered : books.Numbered labels most)
    (given : number < books.accepted.length) :
    labels.count number books.placed = 1 := by
  have count : (books.placed.map labels.number).count number = 1 := by
    rw [numbered.numbers.count_eq, List.nodup_range.count, if_pos (List.mem_range.mpr given)]
  rw [← count, List.count, List.countP_map]
  rfl

/-- No subject has several. -/
theorem Numbered.count_placed_le (numbered : books.Numbered labels most) (number : Nat) :
    labels.count number books.placed ≤ 1 := by
  have count := List.nodup_iff_count_le_one.mp numbered.nodup number
  rw [List.count, List.countP_map] at count
  exact count

/-- A subject that was accepted is in one place. -/
theorem Numbered.exists_place
    {π : Type}
    {places : List (ι × π)}
    {number : Nat}
    {subject : β}
    (numbered : books.Numbered labels most)
    (placed_eq : books.placed = places.map Prod.fst)
    (accepted : books.accepted[number]? = some subject) :
    ∃ slip place, places.filter (fun entry => labels.number entry.1 = number) = [(slip, place)] ∧
      (slip, place) ∈ places ∧ labels.number slip = number ∧ labels.subject slip = subject := by
  have once := numbered.count_placed (List.getElem?_eq_some_iff.mp accepted).1
  rw [Labels.count, placed_eq, List.countP_map, List.countP_eq_length_filter] at once
  obtain ⟨⟨slip, place⟩, alone⟩ := List.length_eq_one_iff.mp once
  have found : (slip, place) ∈ places.filter fun entry => labels.number entry.1 = number := by
    refine alone.symm ▸ ?_
    exact List.mem_singleton_self _
  obtain ⟨member, same⟩ := List.mem_filter.mp found
  have number_eq : labels.number slip = number := of_decide_eq_true same
  refine ⟨slip, place, alone, member, number_eq, ?_⟩
  have placed : slip ∈ books.placed := by
    rw [placed_eq]
    exact List.mem_map_of_mem member
  have known := numbered.known slip (numbered.came slip placed)
  rw [number_eq, accepted] at known
  exact (Option.some.inj known).symm

section Taken

variable {taken waiting : List ι}

/-- What came in was taken or waits, so a slip tells how often its subject was taken. -/
theorem Numbered.count_taken
    (numbered : books.Numbered labels most)
    (parts : books.entered.Perm (taken ++ waiting))
    (there : slip ∈ books.placed) :
    labels.count (labels.number slip) taken + labels.count (labels.number slip) waiting =
      labels.rank slip := by
  rw [← numbered.counts slip there, Labels.count, Labels.count, Labels.count, parts.countP_eq,
    List.countP_append]

/-- No subject is taken too often. -/
theorem Numbered.count_taken_le
    (numbered : books.Numbered labels most)
    (parts : books.entered.Perm (taken ++ waiting))
    (number : Nat) :
    labels.count number taken ≤ most := by
  by_cases given : number < books.accepted.length
  · have once := numbered.count_placed given
    obtain ⟨slip, there, same⟩ := List.countP_pos_iff.mp (Nat.lt_of_lt_of_eq Nat.one_pos once.symm)
    have counted := numbered.count_taken parts there
    have within := numbered.within slip there
    rw [of_decide_eq_true same] at counted
    omega
  · have never : labels.count number taken = 0 := by
      refine List.countP_eq_zero.mpr fun slip taken same => ?_
      have came : slip ∈ books.entered := parts.mem_iff.mpr (List.mem_append_left _ taken)
      rw [← of_decide_eq_true same] at given
      exact given (numbered.lt came)
    rw [never]
    exact Nat.zero_le _

variable {elsewhere : List ι}

/-- What waits was taken one time less than it came in. -/
theorem Numbered.count_taken_of_waiting
    (numbered : books.Numbered labels most)
    (parts : books.entered.Perm (taken ++ waiting))
    (places : books.placed.Perm (waiting ++ elsewhere))
    (waits : slip ∈ waiting) :
    labels.count (labels.number slip) taken + 1 = labels.rank slip := by
  have there : slip ∈ books.placed := places.mem_iff.mpr (List.mem_append_left _ waits)
  have once := numbered.count_placed (numbered.lt (numbered.came slip there))
  have here : 0 < labels.count (labels.number slip) waiting :=
    List.countP_pos_iff.mpr ⟨slip, waits, by simp⟩
  rw [← numbered.count_taken parts there]
  simp only [Labels.count, places.countP_eq, List.countP_append] at once here ⊢
  omega

/-- What does not wait was taken as often as it came in. -/
theorem Numbered.count_taken_of_elsewhere
    (numbered : books.Numbered labels most)
    (parts : books.entered.Perm (taken ++ waiting))
    (places : books.placed.Perm (waiting ++ elsewhere))
    (gone : slip ∈ elsewhere) :
    labels.count (labels.number slip) taken = labels.rank slip := by
  have there : slip ∈ books.placed := places.mem_iff.mpr (List.mem_append_right _ gone)
  have once := numbered.count_placed (numbered.lt (numbered.came slip there))
  have elsewhere : 0 < labels.count (labels.number slip) elsewhere :=
    List.countP_pos_iff.mpr ⟨slip, gone, by simp⟩
  rw [← numbered.count_taken parts there]
  simp only [Labels.count, places.countP_eq, List.countP_append] at once elsewhere ⊢
  omega

end Taken

end Books
end ChatFlow
