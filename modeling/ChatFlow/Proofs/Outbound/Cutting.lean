import ChatFlow.Outbound.Chunks
import Mathlib.Data.String.Basic

/-!
# Cuts inside a line

A line over the limit is cut at the last boundary between two characters that is within the limit,
and what is left of it is cut likewise, until it is within the limit.  No character is larger than
the least limit, so that every cut takes something off the line.  With this, packing has two kinds
of steps: a line joins the chunk that is being filled, or it is cut and its last piece begins the
next chunk.
-/

namespace ChatFlow
namespace Outbound

variable {limit room : Nat} {line current piece rest : List Char} {c : Char}
  {parts further : List (List Char)}

/-! ## Sizes -/

@[simp] theorem byteSize_nil : byteSize [] = 0 := rfl

@[simp] theorem byteSize_cons (c : Char) (rest : List Char) :
    byteSize (c :: rest) = c.utf8Size + byteSize rest := rfl

@[simp] theorem byteSize_append (front back : List Char) :
    byteSize (front ++ back) = byteSize front + byteSize back := by
  induction front with
  | nil => simp
  | cons c front inductionHypothesis => simp [inductionHypothesis, Nat.add_assoc]

/-- The bytes of a text are those of its characters. -/
theorem byteSize_toList (text : String) : byteSize text.toList = text.utf8ByteSize := by
  have counted (characters : List Char) : byteSize characters = String.utf8Len characters := by
    induction characters with
    | nil => rfl
    | cons c rest inductionHypothesis =>
        rw [byteSize_cons, String.utf8Len_cons, inductionHypothesis, Nat.add_comm]
  rw [counted, ← String.utf8ByteSize_ofList, String.ofList_toList]

/-! ## Pieces -/

/-- The pieces of a line: the first one ends at the last boundary within the limit, and so do the
others, up to a rest that is within the limit. -/
inductive Cuts (limit : Nat) : List Char → List (List Char) → Prop
  /-- A line within the limit is its only piece. -/
  | whole {line : List Char} (fits : byteSize line ≤ limit) : Cuts limit line [line]
  /-- The first piece is within the limit, but not together with the next character. -/
  | cut {piece rest : List Char} {c : Char} {further : List (List Char)}
      (fits : byteSize piece ≤ limit) (last : limit < byteSize piece + c.utf8Size)
      (cuts : Cuts limit (c :: rest) further) :
      Cuts limit (piece ++ c :: rest) (piece :: further)

theorem pieces_of_fits (fits : byteSize line ≤ room) : pieces limit room line = [line] := by
  induction line generalizing room with
  | nil => rfl
  | cons c rest inductionHypothesis =>
      rw [byteSize_cons] at fits
      rw [pieces, if_pos (by omega), inductionHypothesis (by omega)]

/-- The first piece of a line that does not fit into the room takes all characters that do, and
the rest is cut from its start. -/
theorem exists_pieces_eq_cons
    (least : leastLimit ≤ limit)
    (long : room < byteSize line) :
    ∃ piece c rest, line = piece ++ c :: rest ∧ byteSize piece ≤ room ∧
      room < byteSize piece + c.utf8Size ∧
      pieces limit room line = piece :: pieces limit limit (c :: rest) := by
  induction line generalizing room with
  | nil => exact absurd long (Nat.not_lt_zero room)
  | cons c line inductionHypothesis =>
      rw [byteSize_cons] at long
      by_cases fits : c.utf8Size ≤ room
      · have longRest : room - c.utf8Size < byteSize line := by omega
        obtain ⟨piece, next, rest, rfl, within, last, parted⟩ := inductionHypothesis longRest
        refine ⟨c :: piece, next, rest, rfl, ?_, ?_, ?_⟩
        · rw [byteSize_cons]
          omega
        · rw [byteSize_cons]
          omega
        · rw [pieces, if_pos fits, parted]
      · have small : c.utf8Size ≤ limit := Nat.le_trans c.utf8Size_le_four least
        refine ⟨[], c, line, rfl, Nat.zero_le room, by rw [byteSize_nil]; omega, ?_⟩
        rw [pieces, if_neg fits, pieces, if_pos small]
        cases pieces limit (limit - c.utf8Size) line <;> rfl

/-- What the next character does not fit behind holds something: no character is over the limit by
itself. -/
theorem ne_nil_of_lt
    (least : leastLimit ≤ limit)
    (last : limit < byteSize piece + c.utf8Size) :
    piece ≠ [] := by
  rintro rfl
  have small := Nat.le_trans c.utf8Size_le_four least
  rw [byteSize_nil] at last
  omega

/-- A line is cut at the last boundaries within the limit. -/
theorem cuts_pieces (least : leastLimit ≤ limit) (line : List Char) :
    Cuts limit line (pieces limit limit line) := by
  -- Every cut takes something off the line: the next character alone would be within the limit.
  induction length : line.length using Nat.strong_induction_on generalizing line with
  | _ length inductionHypothesis =>
    by_cases fits : byteSize line ≤ limit
    · rw [pieces_of_fits fits]
      exact .whole fits
    · obtain ⟨piece, c, rest, rfl, within, last, parted⟩ :=
        exists_pieces_eq_cons least (Nat.lt_of_not_le fits)
      rw [parted]
      refine .cut within last (inductionHypothesis (c :: rest).length ?_ (c :: rest) rfl)
      have filled := List.length_pos_iff.mpr (ne_nil_of_lt least last)
      rw [← length, List.length_append]
      omega

/-- The pieces of a line, the last one apart: they make up the line, and each of them is within
the limit and holds something if the line does. -/
theorem Cuts.exists_last
    (least : leastLimit ≤ limit)
    (cuts : Cuts limit line parts) :
    ∃ fronts last, parts = fronts ++ [last] ∧ line = fronts.flatten ++ last ∧
      (∀ front ∈ fronts, front ≠ [] ∧ byteSize front ≤ limit) ∧ byteSize last ≤ limit ∧
      (line ≠ [] → last ≠ []) ∧ (byteSize line ≤ limit → fronts = []) := by
  induction cuts with
  | whole fits => exact ⟨[], _, rfl, rfl, by simp, fits, id, fun _ => rfl⟩
  | @cut piece rest c further fits last cuts inductionHypothesis =>
      obtain ⟨fronts, ending, rfl, whole, within, endingFits, filled, -⟩ := inductionHypothesis
      refine ⟨piece :: fronts, ending, rfl, ?_, ?_, endingFits, ?_, ?_⟩
      · rw [whole, List.flatten_cons, List.append_assoc]
      · rintro front (_ | ⟨_, member⟩)
        · exact ⟨ne_nil_of_lt least last, fits⟩
        · exact within front member
      · intro _
        exact filled (List.cons_ne_nil c rest)
      · intro whole
        rw [byteSize_append, byteSize_cons] at whole
        omega

/-! ## Packing -/

/-- The chunks of a text, as lists of characters. -/
theorem map_toList_chunks (limit : Nat) (text : String) :
    (chunks limit text).map String.toList = chunksOfChars limit text.toList := by
  simp [chunks, Function.comp_def]

/-- The lines of a text over the limit are packed. -/
theorem chunksOfChars_of_lt {text : List Char} (large : max limit leastLimit < byteSize text) :
    chunksOfChars limit text =
      pack (max limit leastLimit) [] (Text.splitOnChar '\n' text) := by
  rw [chunksOfChars, if_neg (Nat.not_le_of_lt large)]
  rfl

/-- The chunk that is being filled, with a further line. -/
def joined (current line : List Char) : List Char :=
  if current.isEmpty then line else current ++ '\n' :: line

@[simp] theorem joined_nil (line : List Char) : joined [] line = line := rfl

theorem joined_of_ne_nil (filled : current ≠ []) :
    joined current line = current ++ '\n' :: line := by
  rw [joined, if_neg (by simpa using filled)]

theorem needed_eq (current line : List Char) :
    (if current.isEmpty then byteSize line else byteSize current + 1 + byteSize line) =
      byteSize (joined current line) := by
  have one : '\n'.utf8Size = 1 := by decide
  cases current with
  | nil => rfl
  | cons c rest => simp [joined, one, Nat.add_assoc]

/-- A line that fits joins the chunk that is being filled. -/
theorem pack_of_fits
    (fits : byteSize (joined current line) ≤ limit)
    (lines : List (List Char)) :
    pack limit current (line :: lines) = pack limit (joined current line) lines := by
  rw [pack]
  simp only [needed_eq]
  rw [if_pos fits]
  rfl

/-- A line that does not fit closes the chunk; it is cut, and its last piece begins a chunk. -/
theorem exists_pack_of_long
    (least : leastLimit ≤ limit)
    (long : limit < byteSize (joined current line))
    (lines : List (List Char)) :
    ∃ fronts last, line = fronts.flatten ++ last ∧
      (∀ front ∈ fronts, front ≠ [] ∧ byteSize front ≤ limit) ∧ byteSize last ≤ limit ∧
      (line ≠ [] → last ≠ []) ∧ (byteSize line ≤ limit → fronts = []) ∧
      pack limit current (line :: lines) =
        filled current ++ (fronts ++ pack limit last lines) := by
  obtain ⟨fronts, last, parted, whole, within, lastFits, filled, short⟩ :=
    (cuts_pieces least line).exists_last least
  refine ⟨fronts, last, whole, within, lastFits, filled, short, ?_⟩
  rw [pack]
  simp only [needed_eq]
  rw [if_neg (Nat.not_le_of_lt long), parted]
  simp

end Outbound
end ChatFlow
