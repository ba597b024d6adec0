import ChatFlow.Text.Blank
import ChatFlow.Text.Search

/-!
# Where a text is cut

A text is cut around the first occurrence of a mark.  A character that is not in the mark stands
between two parts of a text like a wall: the mark occurs in the one part or in the other, never
across.  The parts between separators hold no separator, and make up the text with one separator
between each two.  Trimming takes blanks from both ends and leaves what stands between them.
-/

namespace ChatFlow
namespace Text

variable {mark front back core before after : List Char} {c : Char}

/-! ## Cutting -/

/-- A mark at the front does not reach beyond a character that is not in it. -/
theorem prefix_append_cons_iff (absent : c ∉ mark) :
    mark <+: front ++ c :: back ↔ mark <+: front := by
  induction mark generalizing front with
  | nil => simp
  | cons m mark inductionHypothesis =>
      obtain ⟨different, absent⟩ := not_or.mp (mt List.mem_cons.mpr absent)
      cases front with
      | nil => simp [List.cons_prefix_cons, Ne.symm different]
      | cons d front =>
          rw [List.cons_append, List.cons_prefix_cons, List.cons_prefix_cons,
            inductionHypothesis absent]

/-- Around a character that is not in the mark, a text is cut in the first part if the mark occurs
there, and else in the second. -/
theorem cut?_append_cons (nonempty : mark ≠ []) (absent : c ∉ mark) (front back : List Char) :
    cut? mark (front ++ c :: back) =
      ((cut? mark front).map fun (before, after) => (before, after ++ c :: back)).or
        ((cut? mark back).map fun (before, after) => (front ++ c :: before, after)) := by
  induction front with
  | nil =>
      have apart : ¬ mark.isPrefixOf (c :: back) = true := by
        rw [List.isPrefixOf_iff_prefix]
        intro starts
        exact nonempty (List.prefix_nil.mp ((prefix_append_cons_iff absent).mp starts))
      simp only [List.nil_append, cut?, if_neg apart]
      rfl
  | cons d front inductionHypothesis =>
      have starts_iff : mark.isPrefixOf (d :: (front ++ c :: back)) = true ↔
          mark.isPrefixOf (d :: front) = true := by
        rw [List.isPrefixOf_iff_prefix, List.isPrefixOf_iff_prefix, ← List.cons_append]
        exact prefix_append_cons_iff absent
      rw [List.cons_append, cut?, cut?]
      by_cases starts : mark.isPrefixOf (d :: front) = true
      · have within := (List.isPrefixOf_iff_prefix.mp starts).length_le
        rw [if_pos (starts_iff.mpr starts), if_pos starts, ← List.cons_append,
          List.drop_append_of_le_length within]
        rfl
      · rw [if_neg (mt starts_iff.mp starts), if_neg starts, inductionHypothesis]
        cases cut? mark front with
        | none =>
            cases cut? mark back with
            | none => rfl
            | some _ => rfl
        | some _ => rfl

/-- What has no character of the mark is not cut. -/
theorem cut?_append
    (nonempty : mark ≠ [])
    (apart : ∀ c ∈ front, c ∉ mark)
    (back : List Char) :
    cut? mark (front ++ back) =
      (cut? mark back).map fun (before, after) => (front ++ before, after) := by
  induction front with
  | nil =>
      rw [List.nil_append]
      cases cut? mark back <;> rfl
  | cons c front inductionHypothesis =>
      have absent := apart c List.mem_cons_self
      have further := inductionHypothesis fun d member => apart d (List.mem_cons_of_mem c member)
      have stepped := cut?_append_cons nonempty absent [] (front ++ back)
      rw [List.nil_append] at stepped
      rw [List.cons_append, stepped, further]
      cases cut? mark back <;> rfl

/-- A text is cut around a mark at its front. -/
theorem cut?_mark (nonempty : mark ≠ []) (back : List Char) :
    cut? mark (mark ++ back) = some ([], back) := by
  have starts : mark.isPrefixOf (mark ++ back) = true :=
    List.isPrefixOf_iff_prefix.mpr (List.prefix_append _ _)
  obtain ⟨c, rest, rfl⟩ := List.exists_cons_of_ne_nil nonempty
  rw [List.cons_append] at starts ⊢
  rw [cut?, if_pos starts, ← List.cons_append, List.drop_left]

/-- A text is not cut exactly when the mark does not occur in it. -/
theorem cut?_eq_none_iff (nonempty : mark ≠ []) : cut? mark front = none ↔ ¬ mark <:+: front := by
  induction front with
  | nil => simp [cut?, nonempty]
  | cons c front inductionHypothesis =>
      rw [cut?, List.infix_cons_iff, not_or, ← inductionHypothesis, ← List.isPrefixOf_iff_prefix]
      by_cases starts : mark.isPrefixOf (c :: front) = true
      · simp [starts]
      · simp [starts]

/-- A text is cut around the first mark, so that what stands behind any mark is still there. -/
theorem suffix_of_cut?
    {later : List Char}
    (nonempty : mark ≠ [])
    (cut : cut? mark (front ++ (mark ++ later)) = some (before, after)) :
    later <:+ after := by
  induction front generalizing before with
  | nil =>
      rw [List.nil_append, cut?_mark nonempty] at cut
      cases cut
      exact List.suffix_refl _
  | cons c front inductionHypothesis =>
      rw [List.cons_append, cut?] at cut
      split at cut
      · cases cut
        rw [← List.cons_append, ← List.append_assoc, List.drop_append_of_le_length ?_]
        · exact List.suffix_append _ _
        · rw [List.length_append]
          omega
      · obtain ⟨⟨between, after⟩, further, same⟩ := Option.map_eq_some_iff.mp cut
        cases same
        exact inductionHypothesis further

/-- What stands in front of the first occurrence of a character is dropped. -/
theorem dropWhile_append_of_not_mem (absent : c ∉ front) (back : List Char) :
    (front ++ back).dropWhile (· != c) = back.dropWhile (· != c) := by
  apply List.dropWhile_append_of_pos
  intro d member
  rw [bne_iff_ne]
  exact fun same => absent (same ▸ member)

/-! ## Splitting -/

variable {separator : Char} {characters part : List Char}

/-- Splitting at a character is splitting at the items that equal it. -/
theorem splitOnChar_eq_splitOn (separator : Char) (characters : List Char) :
    splitOnChar separator characters = characters.splitOn separator := by
  induction characters with
  | nil => rfl
  | cons c rest inductionHypothesis =>
      rw [splitOnChar, inductionHypothesis, List.splitOn, List.splitOn,
        List.splitOnP_cons_eq_if_modifyHead]
      by_cases same : c = separator
      · rw [if_pos same, if_pos (by simpa using same)]
      · rw [if_neg same, if_neg (by simpa using same)]
        cases parted : rest.splitOnP (· == separator) with
        | nil => exact absurd parted (List.splitOnP_ne_nil _ _)
        | cons part parts => rfl

/-- The two sides of a separator are split on their own. -/
theorem splitOnChar_append_cons (separator : Char) (front back : List Char) :
    splitOnChar separator (front ++ separator :: back) =
      splitOnChar separator front ++ splitOnChar separator back := by
  simp only [splitOnChar_eq_splitOn, List.splitOn]
  exact List.splitOnP_append_cons front back (beq_self_eq_true separator)

/-- A text without separators is its only part. -/
theorem splitOnChar_of_not_mem (absent : separator ∉ characters) :
    splitOnChar separator characters = [characters] := by
  rw [splitOnChar_eq_splitOn, List.splitOn]
  apply List.splitOnP_eq_singleton
  rintro c member
  rw [beq_eq_false_iff_ne]
  rintro rfl
  exact absent member

/-- No part holds a separator. -/
theorem not_mem_of_mem_splitOnChar (member : part ∈ splitOnChar separator characters) :
    separator ∉ part := by
  induction characters generalizing part with
  | nil =>
      obtain rfl := List.mem_singleton.mp member
      exact List.not_mem_nil
  | cons c rest inductionHypothesis =>
      rw [splitOnChar] at member
      split at member
      · rcases List.mem_cons.mp member with rfl | member
        · exact List.not_mem_nil
        · exact inductionHypothesis member
      · rename_i different
        cases parted : splitOnChar separator rest with
        | nil => exact absurd parted (splitOnChar_ne_nil separator rest)
        | cons first parts =>
            rw [parted] at inductionHypothesis member
            rcases List.mem_cons.mp member with rfl | member
            · rw [List.mem_cons, not_or]
              exact ⟨Ne.symm different, inductionHypothesis List.mem_cons_self⟩
            · exact inductionHypothesis (List.mem_cons_of_mem first member)

/-- The parts of a text, each behind a separator, make up the text behind a separator. -/
theorem flatMap_splitOnChar (separator : Char) (characters : List Char) :
    (splitOnChar separator characters).flatMap (separator :: ·) = separator :: characters := by
  induction characters with
  | nil => rfl
  | cons c rest inductionHypothesis =>
      rw [splitOnChar]
      split
      · rename_i same
        rw [List.flatMap_cons, inductionHypothesis, same]
        rfl
      · cases parted : splitOnChar separator rest with
        | nil => exact absurd parted (splitOnChar_ne_nil separator rest)
        | cons first parts =>
            rw [parted, List.flatMap_cons] at inductionHypothesis
            simpa using inductionHypothesis

/-- The parts of a text stand in it. -/
theorem infix_of_mem_splitOnChar (member : part ∈ splitOnChar separator characters) :
    part <:+: characters := by
  obtain ⟨before, after, parts⟩ := List.append_of_mem member
  have whole : (before.flatMap (separator :: ·) ++ [separator]) ++
      (part ++ after.flatMap (separator :: ·)) = separator :: characters := by
    rw [← flatMap_splitOnChar separator characters, parts]
    simp
  refine ⟨(before.flatMap (separator :: ·) ++ [separator]).tail,
    after.flatMap (separator :: ·), ?_⟩
  rw [List.append_assoc, ← List.tail_append_of_ne_nil (by simp), whole, List.tail_cons]

/-! ## Trimming -/

/-- What starts and ends with characters that are not blank stays when blanks are taken from both
ends. -/
theorem exists_trimChars
    {d : Char}
    (opens : core.head? = some c)
    (dark : isBlankChar c = false)
    (closes : core.getLast? = some d)
    (darkLast : isBlankChar d = false)
    (front back : List Char) :
    ∃ before after, trimChars (front ++ core ++ back) = before ++ core ++ after ∧
      before <:+ front ∧ after <+: back := by
  have dropped (blanks : List Char) {text : List Char} {e : Char} (begins : text.head? = some e)
      (dark : isBlankChar e = false) (rest : List Char) :
      (blanks ++ text ++ rest).dropWhile isBlankChar =
        blanks.dropWhile isBlankChar ++ text ++ rest := by
    obtain ⟨tail, rfl⟩ := List.head?_eq_some_iff.mp begins
    rw [List.append_assoc, List.append_assoc, List.cons_append, List.dropWhile_append,
      dropWhile_isBlankChar_of_not_blank e _ dark]
    split
    · rename_i none
      rw [List.isEmpty_iff.mp none, List.nil_append]
    · rfl
  refine ⟨front.dropWhile isBlankChar, trimRight back, ?_, List.dropWhile_suffix _, ?_⟩
  · have begins : core.reverse.head? = some d := List.head?_reverse.trans closes
    rw [trimChars, dropped front opens dark, trimRight, List.reverse_append, List.reverse_append,
      ← List.append_assoc, dropped _ begins darkLast, trimRight]
    simp
  · rw [trimRight, ← List.reverse_suffix, List.reverse_reverse]
    exact List.dropWhile_suffix _

/-- What is left of a text when blanks are taken from both ends is blank only if all of it is. -/
@[simp] theorem isBlank_trim (text : String) : isBlank (trim text) = isBlank text := by
  have dropped (characters : List Char) :
      (characters.dropWhile isBlankChar).all isBlankChar = characters.all isBlankChar := by
    induction characters with
    | nil => rfl
    | cons c rest inductionHypothesis =>
        cases blank : isBlankChar c with
        | false => rw [dropWhile_isBlankChar_of_not_blank c rest blank]
        | true => simp [blank, inductionHypothesis]
  simp only [isBlank, trim, String.toList_ofList, trimChars, trimRight]
  rw [List.all_reverse, dropped, List.all_reverse, dropped]

/-- Of a blank text nothing is left, and of no other. -/
theorem trim_eq_empty_iff (text : String) : trim text = "" ↔ isBlank text = true := by
  constructor
  · intro empty
    rw [← isBlank_trim, empty]
    rfl
  · intro blank
    have nothing : text.toList.dropWhile isBlankChar = [] := by
      rw [← List.append_nil text.toList, List.dropWhile_append_of_pos (List.all_eq_true.mp blank),
        List.dropWhile_nil]
    rw [trim, trimChars, nothing]
    rfl

end Text
end ChatFlow
