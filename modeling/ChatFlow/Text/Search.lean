/-!
# Searching in texts

Occurrences of one text in another, and the parts of a text between separators.
-/

namespace ChatFlow
namespace Text

/-- Whether a list of characters occurs inside another. -/
def occursIn (part : List Char) : List Char → Bool
  | [] => part.isEmpty
  | c :: rest => part.isPrefixOf (c :: rest) || occursIn part rest

/-- Whether a text contains another. -/
def contains (text part : String) : Bool :=
  occursIn part.toList text.toList

/-- Splits a list of characters around the first occurrence of a mark that is not empty. -/
def cut? (mark : List Char) : List Char → Option (List Char × List Char)
  | [] => none
  | c :: rest =>
    if mark.isPrefixOf (c :: rest) then some ([], (c :: rest).drop mark.length)
    else (cut? mark rest).map fun (before, after) => (c :: before, after)

/-- The parts of a list of characters between the occurrences of a separator; one more part than
there are separators. -/
def splitOnChar (separator : Char) : List Char → List (List Char)
  | [] => [[]]
  | c :: rest =>
    if c = separator then [] :: splitOnChar separator rest
    else
      match splitOnChar separator rest with
      | part :: parts => (c :: part) :: parts
      | [] => [[c]]

/-- The parts of a text between the occurrences of a separator. -/
def split (separator : Char) (text : String) : List String :=
  (splitOnChar separator text.toList).map String.ofList

/-- The lines of a text without their ends; an end of line at the end of the text begins no new
line. -/
def lines (text : String) : List String :=
  let parts := split '\n' text
  if text.isEmpty || text.endsWith "\n" then parts.dropLast else parts

/-- One list of characters occurs inside another exactly when it is an infix of it. -/
theorem occursIn_iff {part characters : List Char} :
    occursIn part characters = true ↔ part <:+: characters := by
  induction characters with
  | nil => simp [occursIn]
  | cons c rest inductionHypothesis =>
      simp [occursIn, List.infix_cons_iff, inductionHypothesis]

/-- There is always at least one part. -/
theorem splitOnChar_ne_nil (separator : Char) (characters : List Char) :
    splitOnChar separator characters ≠ [] := by
  cases characters with
  | nil => simp [splitOnChar]
  | cons c rest =>
    simp only [splitOnChar]
    split
    · simp
    · split <;> simp

/-- The two sides of a cut and the mark between them make up the whole. -/
theorem cut?_eq_some
    {mark characters before after : List Char}
    (found : cut? mark characters = some (before, after)) :
    before ++ mark ++ after = characters := by
  induction characters generalizing before with
  | nil => simp [cut?] at found
  | cons c rest inductionHypothesis =>
    simp only [cut?] at found
    split at found
    · rename_i start
      simp only [Option.some.injEq, Prod.mk.injEq] at found
      obtain ⟨rfl, rfl⟩ := found
      rw [List.isPrefixOf_iff_prefix] at start
      obtain ⟨tail, whole⟩ := start
      rw [← whole]
      simp
    · simp only [Option.map_eq_some_iff, Prod.mk.injEq, Prod.exists] at found
      obtain ⟨front, back, inner, rfl, rfl⟩ := found
      simpa using inductionHypothesis inner

end Text
end ChatFlow
