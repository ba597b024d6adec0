import ChatFlow.Proofs.Outbound.Layout

/-!
# What splitting keeps

A text within the limit is its only chunk.  The chunks of a longer one hold something, are within
the limit and stand in the text; every line that is not blank and within the limit is a line of
one chunk, in order; and but for newlines the chunks in a row are the text.  A text of newlines
only that is over the limit has no chunks at all, so that none of its lines is in a chunk.
-/

namespace ChatFlow
namespace Outbound

variable {limit lost : Nat} {text current line : List Char} {body : List Placed}

/-! ## Spread chunks -/

theorem infix_spread
    {placed : Placed}
    (member : placed ∈ body) :
    placed.chunk <:+: spread body := by
  induction body with
  | nil => cases member
  | cons first body inductionHypothesis =>
      rcases List.mem_cons.mp member with rfl | member
      · cases body with
        | nil => exact (List.prefix_append _ _).isInfix
        | cons next rest =>
            rw [spread_cons_of_ne_nil (List.cons_ne_nil next rest)]
            simp only [List.append_assoc]
            exact (List.prefix_append _ _).isInfix
      · rw [spread_cons_of_ne_nil (List.ne_nil_of_mem member)]
        exact (inductionHypothesis member).trans (List.suffix_append _ _).isInfix

theorem filter_newlines (count : Nat) : (newlines count).filter (· != '\n') = [] := by
  simp [newlines]

/-- But for newlines, what chunks are spread over are the chunks. -/
theorem filter_spread (body : List Placed) :
    (spread body).filter (· != '\n') = (body.flatMap Placed.chunk).filter (· != '\n') := by
  induction body with
  | nil => rfl
  | cons placed body inductionHypothesis =>
      cases body with
      | nil => simp [spread, filter_newlines]
      | cons next rest =>
          rw [spread_cons_of_ne_nil (List.cons_ne_nil next rest), List.flatMap_cons]
          simp only [List.filter_append, filter_newlines, Placed.mark, inductionHypothesis,
            List.append_nil]

/-- There are no more chunks than characters. -/
theorem length_le_length_spread (opens : ∀ placed ∈ body, Opens placed.chunk) :
    body.length ≤ (spread body).length := by
  induction body with
  | nil => exact Nat.le_refl 0
  | cons placed body inductionHypothesis =>
      obtain ⟨first, further⟩ := List.forall_mem_cons.mp opens
      have filled := List.length_pos_iff.mpr first.ne_nil
      cases body with
      | nil =>
          rw [spread, List.length_append, List.length_singleton]
          omega
      | cons next rest =>
          have := inductionHypothesis further
          rw [spread_cons_of_ne_nil (List.cons_ne_nil next rest), List.length_cons]
          simp only [List.length_append]
          omega

/-- There is no chunk in a text over the limit exactly when it holds newlines only. -/
theorem chunksOfChars_eq_nil_iff (large : max limit leastLimit < byteSize text) :
    chunksOfChars limit text = [] ↔ ∀ c ∈ text, c = '\n' := by
  obtain ⟨lost, body, chunked, whole, sound⟩ := exists_layout large
  rw [chunked, List.map_eq_nil_iff, whole]
  constructor
  · rintro rfl c member
    rw [spread, List.append_nil] at member
    exact List.eq_of_mem_replicate member
  · intro blank
    cases body with
    | nil => rfl
    | cons placed body =>
        obtain ⟨c, rest, begins, dark⟩ :=
          opens_spread (sound placed List.mem_cons_self).opens body
        refine absurd (blank c ?_) dark
        rw [begins]
        simp

/-! ## Lines of chunks -/

/-- The lines within the limit that are not blank. -/
def shortLines (limit : Nat) (lines : List (List Char)) : List (List Char) :=
  lines.filter fun line => line ≠ [] ∧ byteSize line ≤ limit

theorem shortLines_cons_sublist (line : List Char) (lines : List (List Char)) :
    (shortLines limit (line :: lines)).Sublist (filled line ++ shortLines limit lines) := by
  cases line with
  | nil => simp [shortLines, filled]
  | cons c rest =>
      rw [shortLines, List.filter_cons]
      split
      · exact List.Sublist.refl _
      · exact List.sublist_append_right _ _

/-- A line that joins a chunk is a line of it, and so are the lines that the chunk had. -/
theorem lines_joined
    (current : List Char)
    (plain : '\n' ∉ line) :
    ((filled current).flatMap (Text.splitOnChar '\n') ++ filled line).Sublist
      ((filled (joined current line)).flatMap (Text.splitOnChar '\n')) := by
  cases current with
  | nil =>
      rw [joined_nil]
      by_cases blank : line = []
      · simp [blank, filled]
      · simp [blank, filled, Text.splitOnChar_of_not_mem plain]
  | cons c rest =>
      have split := Text.splitOnChar_append_cons '\n' (c :: rest) line
      rw [Text.splitOnChar_of_not_mem plain] at split
      rw [joined_of_ne_nil (List.cons_ne_nil c rest)]
      simp only [filled, List.isEmpty_cons, List.cons_append, Bool.false_eq_true, if_false,
        List.flatMap_cons, List.flatMap_nil, List.append_nil]
      rw [← List.cons_append, split]
      refine (List.Sublist.refl _).append ?_
      split <;> simp

/-- While lines are packed, those within the limit become lines of chunks, behind the lines of the
chunk that is being filled. -/
theorem lines_pack
    {lines : List (List Char)}
    (current : List Char)
    (least : leastLimit ≤ limit)
    (plain : ∀ line ∈ lines, '\n' ∉ line) :
    ((filled current).flatMap (Text.splitOnChar '\n') ++ shortLines limit lines).Sublist
      ((pack limit current lines).flatMap (Text.splitOnChar '\n')) := by
  induction lines generalizing current with
  | nil => simp [pack, shortLines]
  | cons line lines inductionHypothesis =>
      have plainLine := plain line List.mem_cons_self
      have plainLines : ∀ other ∈ lines, '\n' ∉ other := fun other member =>
        plain other (List.mem_cons_of_mem line member)
      by_cases joins : byteSize (joined current line) ≤ limit
      · rw [pack_of_fits joins]
        refine List.Sublist.trans ?_ (inductionHypothesis _ plainLines)
        refine ((List.Sublist.refl _).append (shortLines_cons_sublist line lines)).trans ?_
        rw [← List.append_assoc]
        exact (lines_joined current plainLine).append (List.Sublist.refl _)
      · obtain ⟨fronts, last, whole, -, -, -, short, packed⟩ :=
          exists_pack_of_long least (Nat.lt_of_not_le joins) lines
        rw [packed, List.flatMap_append]
        refine (List.Sublist.refl _).append ?_
        by_cases fits : byteSize line ≤ limit
        · obtain rfl := short fits
          obtain rfl : line = last := whole
          refine List.Sublist.trans ?_ (inductionHypothesis _ plainLines)
          refine (shortLines_cons_sublist line lines).trans ?_
          exact (lines_joined [] plainLine).append (List.Sublist.refl _)
        · rw [shortLines, List.filter_cons, if_neg (by simp [fits]), List.flatMap_append]
          refine List.Sublist.trans ?_ (List.sublist_append_right _ _)
          exact (List.sublist_append_right _ _).trans (inductionHypothesis _ plainLines)

/-- The lines of a text over the limit that are within it are lines of its chunks. -/
theorem lines_chunksOfChars (large : max limit leastLimit < byteSize text) :
    (shortLines (max limit leastLimit) (Text.splitOnChar '\n' text)).Sublist
      ((chunksOfChars limit text).flatMap (Text.splitOnChar '\n')) := by
  rw [chunksOfChars_of_lt large]
  exact lines_pack [] (le_max_right limit leastLimit)
    fun line member => Text.not_mem_of_mem_splitOnChar member

/-! ## Splitting -/

/-- Chunks of a text over the limit, as they should be. -/
structure Splits (limit : Nat) (text : String) (chunks : List String) : Prop where
  /-- Every chunk holds something and is within the limit. -/
  bounded : ∀ chunk ∈ chunks, chunk ≠ "" ∧ chunk.utf8ByteSize ≤ limit
  /-- Every chunk stands in the text, between two characters. -/
  within : ∀ chunk ∈ chunks, ∃ front back, text = front ++ chunk ++ back
  /-- Every line within the limit is whole in one chunk. -/
  whole : ∀ line ∈ Text.split '\n' text, line.utf8ByteSize ≤ limit →
    ∃ chunk ∈ chunks, ∃ front back, chunk = front ++ line ++ back
  /-- But for newlines, the chunks in a row are the text. -/
  kept : (chunks.flatMap String.toList).filter (· != '\n') = text.toList.filter (· != '\n')

/-- A text has no chunks exactly when it is over the limit and holds newlines only. -/
theorem chunks_eq_nil_iff (limit : Nat) (text : String) :
    chunks limit text = [] ↔
      max limit leastLimit < text.utf8ByteSize ∧ ∀ c ∈ text.toList, c = '\n' := by
  rw [chunks, List.map_eq_nil_iff, ← byteSize_toList]
  rcases Nat.lt_or_ge (max limit leastLimit) (byteSize text.toList) with large | fits
  · rw [chunksOfChars_eq_nil_iff large]
    exact ⟨fun blank => ⟨large, blank⟩, And.right⟩
  · rw [chunksOfChars_of_le limit text.toList fits]
    exact iff_of_false (List.cons_ne_nil _ _) fun empty => absurd fits (Nat.not_le_of_lt empty.1)

/-- What stands in a text stands between two others. -/
theorem exists_append_of_infix {part text : String} (inside : part.toList <:+: text.toList) :
    ∃ front back, text = front ++ part ++ back := by
  obtain ⟨front, back, whole⟩ := inside
  refine ⟨String.ofList front, String.ofList back, String.toList_inj.mp ?_⟩
  simp [← whole]

/-- The lines that are within the limit and not blank, as texts. -/
theorem map_ofList_shortLines (limit : Nat) (lines : List (List Char)) :
    (lines.map String.ofList).filter (fun line => line ≠ "" ∧ line.utf8ByteSize ≤ limit) =
      (shortLines limit lines).map String.ofList := by
  rw [shortLines, List.filter_map]
  congr 2
  funext line
  have sized : (String.ofList line).utf8ByteSize = byteSize line := by
    rw [← byteSize_toList, String.toList_ofList]
  simp [sized]

/-- The lines of a text over the limit that are within it and not blank are lines of its chunks,
each of one chunk and in order. -/
theorem sublist_lines_chunks
    {text : String}
    (large : max limit leastLimit < text.utf8ByteSize) :
    ((Text.split '\n' text).filter fun line =>
        line ≠ "" ∧ line.utf8ByteSize ≤ max limit leastLimit).Sublist
      ((chunks limit text).flatMap (Text.split '\n')) := by
  rw [← byteSize_toList] at large
  have lined : (chunks limit text).flatMap (Text.split '\n') =
      ((chunksOfChars limit text.toList).flatMap (Text.splitOnChar '\n')).map String.ofList := by
    rw [← map_toList_chunks, List.flatMap_map, List.map_flatMap]
    rfl
  rw [lined, Text.split, map_ofList_shortLines]
  exact (lines_chunksOfChars large).map String.ofList

/-- A line within the limit is whole in a chunk, if there is any: a blank one in every chunk, and
another one in the chunk that it is a line of. -/
theorem exists_chunk_of_mem_split
    {text line : String}
    (large : max limit leastLimit < text.utf8ByteSize)
    (some : chunks limit text ≠ [])
    (listed : line ∈ Text.split '\n' text)
    (fits : line.utf8ByteSize ≤ max limit leastLimit) :
    ∃ chunk ∈ chunks limit text, ∃ front back, chunk = front ++ line ++ back := by
  by_cases blank : line = ""
  · obtain ⟨chunk, others, first⟩ := List.exists_cons_of_ne_nil some
    refine ⟨chunk, first ▸ List.mem_cons_self, exists_append_of_infix ?_⟩
    rw [blank]
    exact List.nil_infix
  · have short := (sublist_lines_chunks large).subset
      (List.mem_filter.mpr ⟨listed, by simp [blank, fits]⟩)
    obtain ⟨chunk, member, inside⟩ := List.mem_flatMap.mp short
    obtain ⟨part, parted, rfl⟩ := List.mem_map.mp inside
    refine ⟨chunk, member, exists_append_of_infix ?_⟩
    rw [String.toList_ofList]
    exact Text.infix_of_mem_splitOnChar parted

/-- The chunks of a text over the limit that has any are as they should be. -/
theorem splits_of_ne_nil
    {text : String}
    (large : max limit leastLimit < text.utf8ByteSize)
    (some : chunks limit text ≠ []) :
    Splits (max limit leastLimit) text (chunks limit text) := by
  have largeChars := large
  rw [← byteSize_toList] at largeChars
  obtain ⟨lost, body, chunked, spreadOver, sound⟩ := exists_layout largeChars
  rw [← map_toList_chunks] at chunked
  have exists_placed {chunk : String} (member : chunk ∈ chunks limit text) :
      ∃ placed ∈ body, placed.chunk = chunk.toList := by
    rw [← List.mem_map, ← chunked]
    exact List.mem_map_of_mem member
  constructor
  case bounded =>
    intro chunk member
    obtain ⟨placed, listed, same⟩ := exists_placed member
    have placedSound := sound placed listed
    rw [← byteSize_toList, ← same]
    refine ⟨?_, placedSound.fits⟩
    rintro rfl
    exact placedSound.opens.ne_nil same
  case within =>
    intro chunk member
    obtain ⟨placed, listed, same⟩ := exists_placed member
    apply exists_append_of_infix
    rw [← same, spreadOver]
    exact (infix_spread listed).trans (List.suffix_append _ _).isInfix
  case whole =>
    intro line listed fits
    exact exists_chunk_of_mem_split large some listed fits
  case kept =>
    have flat : (chunks limit text).flatMap String.toList = body.flatMap Placed.chunk := by
      rw [List.flatMap_def, chunked, List.flatMap_def]
    rw [flat, spreadOver, List.filter_append, filter_newlines, List.nil_append, filter_spread]

/-- A text that holds newlines only has blank lines only. -/
theorem exists_blank_line {text : String} (blank : ∀ c ∈ text.toList, c = '\n') :
    "" ∈ Text.split '\n' text := by
  obtain ⟨part, parts, first⟩ :=
    List.exists_cons_of_ne_nil (Text.splitOnChar_ne_nil '\n' text.toList)
  have member : part ∈ Text.splitOnChar '\n' text.toList := first ▸ List.mem_cons_self
  refine List.mem_map.mpr ⟨part, member, ?_⟩
  have none : part = [] := by
    refine List.eq_nil_iff_forall_not_mem.mpr ?_
    intro c inside
    have newline := blank c ((Text.infix_of_mem_splitOnChar member).subset inside)
    exact Text.not_mem_of_mem_splitOnChar member (newline ▸ inside)
  rw [none, String.ofList_nil]

/-- A text within the limit is its only chunk.  A longer one is split as it should be exactly when
it holds anything but newlines; otherwise it has no chunks.  It has no more chunks than
characters, and its lines that are within the limit and not blank are lines of its chunks. -/
theorem splits_iff_not_blank (limit : Nat) (text : String) :
    (text.utf8ByteSize ≤ max limit leastLimit → chunks limit text = [text]) ∧
      (max limit leastLimit < text.utf8ByteSize →
        (Splits (max limit leastLimit) text (chunks limit text) ↔ ∃ c ∈ text.toList, c ≠ '\n') ∧
        (chunks limit text = [] ↔ ∀ c ∈ text.toList, c = '\n') ∧
        (chunks limit text).length ≤ text.length ∧
        ((Text.split '\n' text).filter fun line =>
            line ≠ "" ∧ line.utf8ByteSize ≤ max limit leastLimit).Sublist
          ((chunks limit text).flatMap (Text.split '\n'))) := by
  constructor
  · intro fits
    rw [← byteSize_toList] at fits
    rw [chunks, chunksOfChars_of_le limit text.toList fits, List.map_singleton,
      String.ofList_toList]
  · intro large
    have none_iff : chunks limit text = [] ↔ ∀ c ∈ text.toList, c = '\n' := by
      rw [chunks_eq_nil_iff, and_iff_right large]
    refine ⟨⟨?_, ?_⟩, none_iff, ?_, sublist_lines_chunks large⟩
    · intro splits
      by_contra blank
      push Not at blank
      obtain ⟨chunk, member, -⟩ := splits.whole "" (exists_blank_line blank) (Nat.zero_le _)
      rw [none_iff.mpr blank] at member
      cases member
    · rintro ⟨c, member, dark⟩
      exact splits_of_ne_nil large fun none => dark (none_iff.mp none c member)
    · rw [← byteSize_toList] at large
      obtain ⟨lost, body, chunked, spreadOver, sound⟩ := exists_layout large
      have counted := length_le_length_spread fun placed member => (sound placed member).opens
      calc (chunks limit text).length = body.length := by
            rw [chunks, List.length_map, chunked, List.length_map]
        _ ≤ (spread body).length := counted
        _ ≤ text.toList.length := by
            rw [spreadOver, List.length_append]
            exact Nat.le_add_left _ _
        _ = text.length := String.length_toList

/-- A line of characters with two bytes is cut in front of the one that the limit falls into. -/
theorem splits_accents : Splits 5 "éééé\nab" ["éé", "éé", "ab"] := by
  have chunked : chunks 5 "éééé\nab" = ["éé", "éé", "ab"] := by decide +kernel
  have large : max 5 leastLimit < "éééé\nab".utf8ByteSize := by decide +kernel
  have dark : ∃ c ∈ "éééé\nab".toList, c ≠ '\n' := ⟨'a', by decide +kernel, by decide⟩
  have splits := ((splits_iff_not_blank 5 "éééé\nab").2 large).1.mpr dark
  rw [chunked] at splits
  exact splits

/-- A text of newlines only that is over the limit is in no chunk, and neither is any of its
lines. -/
theorem not_splits_newlines :
    (chunks 4 "\n\n\n\n\n" = [] ∧ ¬ Splits 4 "\n\n\n\n\n" (chunks 4 "\n\n\n\n\n")) ∧
      ¬ ∀ limit text, max limit leastLimit < text.utf8ByteSize →
        Splits (max limit leastLimit) text (chunks limit text) := by
  have none : chunks 4 "\n\n\n\n\n" = [] := by decide +kernel
  have apart : ¬ Splits 4 "\n\n\n\n\n" (chunks 4 "\n\n\n\n\n") := by
    rw [none]
    intro splits
    obtain ⟨chunk, member, -⟩ := splits.whole "" (by decide +kernel) (Nat.zero_le 4)
    cases member
  exact ⟨⟨none, apart⟩, fun always => apart (always 4 _ (by decide +kernel))⟩

end Outbound
end ChatFlow
