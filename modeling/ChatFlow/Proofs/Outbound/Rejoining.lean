import ChatFlow.Proofs.Outbound.Layout

/-!
# Putting chunks together again

A text is put together again from its chunks when it is the chunks with a newline or nothing
between each two.  Every chunk of a text over the limit begins with something else than a newline,
so that there is only one way to try; it succeeds exactly when no blank line is lost.
-/

namespace ChatFlow
namespace Outbound

variable {limit lost : Nat} {text chunk : List Char} {further : List (List Char)}
  {body : List Placed}

/-- A text is chunks with a newline or nothing between each two. -/
inductive Rejoins : List (List Char) → List Char → Prop
  /-- The last chunk stands alone. -/
  | last (chunk : List Char) : Rejoins [chunk] chunk
  /-- A newline stands between a chunk and the next one. -/
  | newline {chunk text : List Char} {further : List (List Char)}
      (rejoins : Rejoins further text) : Rejoins (chunk :: further) (chunk ++ '\n' :: text)
  /-- Nothing stands between a chunk and the next one. -/
  | nothing {chunk text : List Char} {further : List (List Char)}
      (rejoins : Rejoins further text) : Rejoins (chunk :: further) (chunk ++ text)

theorem not_rejoins_nil (text : List Char) : ¬ Rejoins [] text :=
  nofun

/-- What is put together begins with the first chunk. -/
theorem Rejoins.prefix_of_cons (rejoins : Rejoins (chunk :: further) text) : chunk <+: text := by
  cases rejoins with
  | last => exact List.prefix_refl _
  | newline => exact List.prefix_append _ _
  | nothing => exact List.prefix_append _ _

/-- One chunk is put together to itself only. -/
theorem rejoins_singleton_iff : Rejoins [chunk] text ↔ text = chunk := by
  constructor
  · intro rejoins
    cases rejoins with
    | last => rfl
    | newline rejoins => cases not_rejoins_nil _ rejoins
    | nothing rejoins => cases not_rejoins_nil _ rejoins
  · intro same
    rw [same]
    exact .last chunk

/-- A text that begins with something else than a newline has no newlines in front of it. -/
theorem eq_zero_of_opens (opens : Opens (newlines lost ++ text)) : lost = 0 := by
  obtain ⟨c, rest, begins, dark⟩ := opens
  cases lost with
  | zero => rfl
  | succ lost =>
      rw [newlines_succ, List.cons_append] at begins
      exact absurd (List.head_eq_of_cons_eq begins).symm dark

/-- Where chunks begin with something else than newlines, no other newlines stand in front of
what is put together from them. -/
theorem Rejoins.eq_zero
    (rejoins : Rejoins (chunk :: further) (newlines lost ++ text))
    (opens : Opens chunk) :
    lost = 0 := by
  obtain ⟨rest, whole⟩ := rejoins.prefix_of_cons
  exact eq_zero_of_opens (whole ▸ opens.append rest)

/-- Where nothing is lost, the chunks can be put together again. -/
theorem rejoins_spread
    (filled : body ≠ [])
    (kept : ∀ placed ∈ body, placed.lost = 0) :
    Rejoins (body.map Placed.chunk) (spread body) := by
  induction body with
  | nil => exact absurd rfl filled
  | cons placed body inductionHypothesis =>
      have none := kept placed List.mem_cons_self
      cases body with
      | nil =>
          rw [spread, none, newlines_zero, List.append_nil]
          exact .last placed.chunk
      | cons next rest =>
          have rejoins := inductionHypothesis (List.cons_ne_nil next rest)
            fun other member => kept other (List.mem_cons_of_mem placed member)
          rw [spread, none, newlines_zero, List.append_nil, Placed.mark]
          cases placed.endsLine with
          | false => simpa using rejoins.nothing
          | true => simpa [newlines] using rejoins.newline

/-- All newlines behind a chunk together stand in front of what the chunks behind it are spread
over. -/
theorem spread_cons_eq
    (filled : body ≠ [])
    (placed : Placed) :
    spread (placed :: body) =
      placed.chunk ++ (newlines (placed.lost + placed.endsLine.toNat) ++ spread body) := by
  rw [spread_cons_of_ne_nil filled]
  simp [Placed.mark, newlines]

/-- Behind a piece of a line nothing is lost. -/
theorem Placed.Sound.lost_eq_zero
    {placed : Placed}
    (sound : placed.Sound limit)
    (goesOn : placed.endsLine = false) :
    placed.lost = 0 := by
  by_contra some
  have ends := sound.ends (Nat.pos_of_ne_zero some)
  rw [goesOn] at ends
  cases ends

/-- Where chunks can be put together again, nothing is lost. -/
theorem nothing_lost_of_rejoins
    (sound : ∀ placed ∈ body, placed.Sound limit)
    (rejoins : Rejoins (body.map Placed.chunk) (newlines lost ++ spread body)) :
    lost = 0 ∧ ∀ placed ∈ body, placed.lost = 0 := by
  induction body generalizing lost with
  | nil => cases not_rejoins_nil _ rejoins
  | cons placed body inductionHypothesis =>
      have placedSound := sound placed List.mem_cons_self
      obtain rfl := rejoins.eq_zero placedSound.opens
      rw [newlines_zero, List.nil_append] at rejoins
      refine ⟨rfl, List.forall_mem_cons.mpr ?_⟩
      cases body with
      | nil =>
          rw [List.map_singleton, rejoins_singleton_iff, spread] at rejoins
          have none : placed.lost = 0 := by
            simpa [newlines] using congrArg List.length rejoins
          exact ⟨none, by simp⟩
      | cons next rest =>
          have bodySound : ∀ other ∈ next :: rest, other.Sound limit := fun other member =>
            sound other (List.mem_cons_of_mem placed member)
          have opens := opens_spread (bodySound next List.mem_cons_self).opens rest
          rw [spread_cons_eq (List.cons_ne_nil next rest)] at rejoins
          generalize whole : placed.chunk ++ _ = text at rejoins
          cases rejoins with
          | @newline _ behind _ rejoins =>
              have same := List.append_cancel_left whole
              cases ends : placed.endsLine with
              | false =>
                  -- The newline would be the first character of the next chunk.
                  rw [placedSound.lost_eq_zero ends, ends] at same
                  rw [show spread (next :: rest) = newlines 1 ++ behind from same] at opens
                  cases eq_zero_of_opens opens
              | true =>
                  rw [ends, Bool.toNat_true, newlines_succ] at same
                  obtain rfl := List.tail_eq_of_cons_eq same
                  exact inductionHypothesis bodySound rejoins
          | @nothing _ behind _ rejoins =>
              obtain rfl := List.append_cancel_left whole
              obtain ⟨none, kept⟩ := inductionHypothesis bodySound rejoins
              exact ⟨by omega, kept⟩

/-- A text is put together again from its chunks exactly when no blank line is lost.  The chunks
stand in the text, one behind the other; in a text over the limit blank lines are lost at its
start, and behind chunks that the limit leaves no room in, and nowhere else. -/
theorem rejoins_iff_nothing_lost (limit : Nat) (text : String) :
    ∃ lost body, (chunks limit text).map String.toList = body.map Placed.chunk ∧
      text.toList = newlines lost ++ spread body ∧
      (text.utf8ByteSize ≤ max limit leastLimit → body = [{ chunk := text.toList }]) ∧
      (max limit leastLimit < text.utf8ByteSize →
        ∀ placed ∈ body, placed.Sound (max limit leastLimit)) ∧
      (Rejoins ((chunks limit text).map String.toList) text.toList ↔
        lost = 0 ∧ ∀ placed ∈ body, placed.lost = 0) := by
  rw [map_toList_chunks, ← byteSize_toList]
  rcases Nat.lt_or_ge (max limit leastLimit) (byteSize text.toList) with large | fits
  · obtain ⟨lost, body, chunked, whole, sound⟩ := exists_layout large
    refine ⟨lost, body, chunked, whole, fun fits => absurd fits (Nat.not_le_of_lt large),
      fun _ => sound, ?_⟩
    rw [chunked, whole]
    constructor
    · exact nothing_lost_of_rejoins sound
    · rintro ⟨rfl, kept⟩
      refine rejoins_spread ?_ kept
      -- Without chunks the text would be empty, and not over the limit.
      rintro rfl
      rw [whole] at large
      exact Nat.not_lt_zero _ large
  · rw [chunksOfChars_of_le limit text.toList fits]
    refine ⟨0, [{ chunk := text.toList }], rfl, by simp [spread], fun _ => rfl,
      fun large => absurd large (Nat.not_lt_of_le fits), ?_⟩
    exact iff_of_true (.last text.toList) ⟨rfl, by simp⟩

/-- A blank line at the start of a text over the limit is lost. -/
theorem not_rejoins_blank_start :
    (chunks 8 "\nline1\nline2" = ["line1", "line2"] ∧
        ¬ Rejoins ((chunks 8 "\nline1\nline2").map String.toList) "\nline1\nline2".toList) ∧
      ¬ ∀ limit text, Rejoins ((chunks limit text).map String.toList) text.toList := by
  have chunked : chunks 8 "\nline1\nline2" = ["line1", "line2"] := by decide +kernel
  have apart : ¬ Rejoins ((chunks 8 "\nline1\nline2").map String.toList)
      "\nline1\nline2".toList := by
    rw [chunked]
    intro rejoins
    exact absurd rejoins.prefix_of_cons (by decide +kernel)
  exact ⟨⟨chunked, apart⟩, fun always => apart (always _ _)⟩

end Outbound
end ChatFlow
