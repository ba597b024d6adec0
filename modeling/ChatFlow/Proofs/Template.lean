import ChatFlow.Template
import Mathlib.Data.List.TakeWhile

/-!
# Templates in one pass

What a template becomes is said without its reader: from left to right, a placeholder gives way to
the value of its name or stays as it is when the name has none, and every character with which no
placeholder starts is copied.  The pieces into which a template falls do not depend on the values,
so what was put in is never taken for a placeholder.
-/

namespace ChatFlow

/-- The values of the built-in names. -/
inductive TemplateContext.Builtin (context : TemplateContext) : String → String → Prop
  /-- The user's phone. -/
  | phone : Builtin context "phone" context.phone
  /-- The device that the user talks to. -/
  | device : Builtin context "device" context.device
  /-- The user's name, if it is known. -/
  | name {value : String} (known : context.displayName = some value) : Builtin context "name" value
  /-- The stage of the execution, if it has one. -/
  | stage {value : String} (reached : context.stage = some value) : Builtin context "stage" value
  /-- The user's text. -/
  | input : Builtin context "input" context.input

/-- The value of a name: that of a captured field, and of a built-in name when no field is
captured under it. -/
inductive TemplateContext.Denotes (context : TemplateContext) (name value : String) : Prop
  /-- The value of a captured field. -/
  | field (captured : Keyed.get? name context.vars = some value)
  /-- The value of a built-in name. -/
  | builtin (uncaptured : Keyed.get? name context.vars = none)
      (builtin : context.Builtin name value)

/-- The built-in names have the values that are looked up. -/
theorem TemplateContext.builtin?_eq_some_iff {context : TemplateContext} {name value : String} :
    context.builtin? name = some value ↔ context.Builtin name value := by
  constructor
  · intro found
    unfold builtin? at found
    split at found
    · cases found
      exact .phone
    · cases found
      exact .device
    · exact .name found
    · exact .stage found
    · cases found
      exact .input
    · cases found
  · intro builtin
    cases builtin with
    | phone => rfl
    | device => rfl
    | name known => exact known
    | stage reached => exact reached
    | input => rfl

/-- A name has the value that is looked up. -/
theorem TemplateContext.lookup?_eq_some_iff {context : TemplateContext} {name value : String} :
    context.lookup? name = some value ↔ context.Denotes name value := by
  rw [lookup?, Option.or_eq_some_iff, builtin?_eq_some_iff]
  constructor
  · intro found
    cases found with
    | inl captured => exact .field captured
    | inr builtin => exact .builtin builtin.1 builtin.2
  · intro denotes
    cases denotes with
    | field captured => exact .inl captured
    | builtin uncaptured builtin => exact .inr ⟨uncaptured, builtin⟩

namespace Template

/-- A name between double braces, with blanks around it. -/
structure Placeholder where
  /-- The blanks in front of the name. -/
  before : List Char
  /-- The name. -/
  name : List Char
  /-- The blanks behind the name. -/
  after : List Char
  /-- In front of the name there are blanks only. -/
  blank_before : ∀ c ∈ before, Text.isBlankChar c = true
  /-- The name has at least one character. -/
  name_ne_nil : name ≠ []
  /-- The name is made of the characters of names. -/
  isNameChar_name : ∀ c ∈ name, isNameChar c = true
  /-- Behind the name there are blanks only. -/
  blank_after : ∀ c ∈ after, Text.isBlankChar c = true

/-- A placeholder as it is written. -/
def Placeholder.written (placeholder : Placeholder) : List Char :=
  opening ++ (placeholder.before ++ (placeholder.name ++ (placeholder.after ++ closing)))

/-- A placeholder starts at the front. -/
def Opens (characters : List Char) : Prop :=
  ∃ (placeholder : Placeholder) (rest : List Char), characters = placeholder.written ++ rest

/-- What a template becomes in a context. -/
inductive Renders (context : TemplateContext) : List Char → List Char → Prop
  /-- Nothing is left. -/
  | done : Renders context [] []
  /-- A placeholder gives way to the value of its name. -/
  | value {placeholder : Placeholder} {value : String} {rest output : List Char}
      (denotes : context.Denotes (String.ofList placeholder.name) value)
      (further : Renders context rest output) :
      Renders context (placeholder.written ++ rest) (value.toList ++ output)
  /-- A placeholder whose name has no value stays. -/
  | kept {placeholder : Placeholder} {rest output : List Char}
      (unknown : ∀ value, ¬ context.Denotes (String.ofList placeholder.name) value)
      (further : Renders context rest output) :
      Renders context (placeholder.written ++ rest) (placeholder.written ++ output)
  /-- A character with which no placeholder starts is copied. -/
  | copied {c : Char} {rest output : List Char} (plain : ¬ Opens (c :: rest))
      (further : Renders context rest output) :
      Renders context (c :: rest) (c :: output)

/-- A piece of a template. -/
inductive Piece where
  /-- A character that is copied. -/
  | character (c : Char)
  /-- A placeholder, to be filled in. -/
  | slot (placeholder : Placeholder)

/-- A piece as it is written. -/
def Piece.written : Piece → List Char
  | .character c => [c]
  | .slot placeholder => placeholder.written

/-- What a piece becomes in a context. -/
def Piece.filled (context : TemplateContext) : Piece → List Char
  | .character c => [c]
  | .slot placeholder => fill context placeholder.name placeholder.written

variable {context : TemplateContext} {placeholder : Placeholder}
  {characters rest output : List Char}
  {c : Char}

/-! ## Placeholders -/

/-- The characters of names are no blanks. -/
theorem isBlankChar_of_isNameChar (named : isNameChar c = true) : Text.isBlankChar c = false := by
  have code : (48 ≤ c.toNat ∧ c.toNat ≤ 57) ∨ (65 ≤ c.toNat ∧ c.toNat ≤ 90) ∨
      (97 ≤ c.toNat ∧ c.toNat ≤ 122) ∨ c.toNat = 95 ∨ c.toNat = 46 ∨ c.toNat = 45 := by
    delta isNameChar Char.isAlphanum Char.isAlpha Char.isUpper Char.isLower Char.isDigit at named
    simp only [Bool.or_eq_true, Bool.and_eq_true, decide_eq_true_eq, beq_iff_eq, ge_iff_le,
      UInt32.le_iff_toNat_le] at named
    rcases named with (((((upper | lower) | digit) | rfl) | rfl) | rfl)
    · exact .inr (.inl upper)
    · exact .inr (.inr (.inl lower))
    · exact .inl digit
    · decide
    · decide
    · decide
  simp only [Text.isBlankChar, Bool.or_eq_false_iff, Bool.and_eq_false_iff, decide_eq_false_iff_not,
    beq_eq_false_iff_ne]
  omega

/-- A name ends where a blank or a closing brace follows. -/
theorem takeWhile_isNameChar
    {name after : List Char}
    (named : ∀ c ∈ name, isNameChar c = true)
    (blank : ∀ c ∈ after, Text.isBlankChar c = true)
    (rest : List Char) :
    (name ++ (after ++ (closing ++ rest))).takeWhile isNameChar = name ∧
      (name ++ (after ++ (closing ++ rest))).dropWhile isNameChar = after ++ (closing ++ rest) := by
  obtain ⟨c, further, follows, ends⟩ :
      ∃ c further, after ++ (closing ++ rest) = c :: further ∧ isNameChar c = false := by
    cases after with
    | nil => exact ⟨_, _, rfl, by decide⟩
    | cons c after =>
        refine ⟨c, _, rfl, ?_⟩
        cases named : isNameChar c with
        | false => rfl
        | true =>
            have dark := isBlankChar_of_isNameChar named
            rw [blank c List.mem_cons_self] at dark
            cases dark
  rw [follows]
  constructor
  · rw [List.takeWhile_append_of_pos named, List.takeWhile_cons_of_neg (by simp [ends]),
      List.append_nil]
  · rw [List.dropWhile_append_of_pos named, List.dropWhile_cons_of_neg (by simp [ends])]

/-- The blanks in front of something else are dropped. -/
theorem dropWhile_isBlankChar
    {blanks : List Char}
    (blank : ∀ c ∈ blanks, Text.isBlankChar c = true)
    (dark : Text.isBlankChar c = false)
    (rest : List Char) :
    (blanks ++ c :: rest).dropWhile Text.isBlankChar = c :: rest := by
  rw [List.dropWhile_append_of_pos blank, Text.dropWhile_isBlankChar_of_not_blank c rest dark]

/-- A placeholder at the front is found with its name and its length. -/
theorem placeholder?_written (placeholder : Placeholder) (rest : List Char) :
    placeholder? (placeholder.written ++ rest) =
      some (placeholder.name, placeholder.written.length) := by
  obtain ⟨before, name, after, blankBefore, nonempty, named, blankAfter⟩ := placeholder
  have whole : opening ++ (before ++ (name ++ (after ++ closing))) ++ rest =
      opening ++ (before ++ (name ++ (after ++ (closing ++ rest)))) := by
    simp
  have start : (before ++ (name ++ (after ++ (closing ++ rest)))).dropWhile Text.isBlankChar =
      name ++ (after ++ (closing ++ rest)) := by
    obtain ⟨c, further, rfl⟩ := List.exists_cons_of_ne_nil nonempty
    have dark := isBlankChar_of_isNameChar (named c List.mem_cons_self)
    exact dropWhile_isBlankChar blankBefore dark _
  obtain ⟨taken, left⟩ := takeWhile_isNameChar named blankAfter rest
  have ends : (after ++ (closing ++ rest)).dropWhile Text.isBlankChar = closing ++ rest :=
    dropWhile_isBlankChar blankAfter (by decide) _
  have opened : opening.isPrefixOf
      (opening ++ (before ++ (name ++ (after ++ (closing ++ rest))))) = true := by
    rw [List.isPrefixOf_iff_prefix]
    exact List.prefix_append _ _
  have closed : closing.isPrefixOf (closing ++ rest) = true := by
    rw [List.isPrefixOf_iff_prefix]
    exact List.prefix_append _ _
  have inner : (opening ++ (before ++ (name ++ (after ++ (closing ++ rest))))).drop 2 =
      before ++ (name ++ (after ++ (closing ++ rest))) := rfl
  simp only [Placeholder.written, whole, placeholder?, opened, inner, start, taken, left, ends,
    closed, List.isEmpty_eq_false_iff.mpr nonempty, if_true, Bool.not_false, Bool.and_true]
  simp only [List.length_append, Option.some.injEq, Prod.mk.injEq, true_and]
  have two : closing.length = 2 := rfl
  omega

/-- What is found at the front is a placeholder. -/
theorem opens_of_placeholder?
    {found : List Char × Nat}
    (reads : placeholder? characters = some found) :
    Opens characters := by
  unfold placeholder? at reads
  split at reads
  · rename_i opened
    obtain ⟨inner, rfl⟩ := List.isPrefixOf_iff_prefix.mp opened
    have dropped : (opening ++ inner).drop 2 = inner := rfl
    simp only [dropped] at reads
    split at reads
    · rename_i complete
      rw [Bool.and_eq_true, Bool.not_eq_true', List.isEmpty_eq_false_iff] at complete
      obtain ⟨nonempty, closed⟩ := complete
      obtain ⟨rest, ends⟩ := List.isPrefixOf_iff_prefix.mp closed
      let start := inner.dropWhile Text.isBlankChar
      let behind := start.dropWhile isNameChar
      refine ⟨⟨inner.takeWhile Text.isBlankChar, start.takeWhile isNameChar,
        behind.takeWhile Text.isBlankChar, fun _ => List.mem_takeWhile_imp, nonempty,
        fun _ => List.mem_takeWhile_imp, fun _ => List.mem_takeWhile_imp⟩, rest, ?_⟩
      simp only [Placeholder.written, List.append_assoc, ends]
      rw [List.takeWhile_append_dropWhile, List.takeWhile_append_dropWhile,
        List.takeWhile_append_dropWhile]
    · cases reads
  · cases reads

/-! ## The scan -/

/-- What belongs to a placeholder that is already replaced is passed over. -/
theorem scan_length (context : TemplateContext) (front rest : List Char) :
    scan context front.length (front ++ rest) = scan context 0 rest := by
  induction front with
  | nil => rfl
  | cons c front inductionHypothesis => exact inductionHypothesis

/-- A placeholder is replaced, and the scan goes on behind it. -/
theorem scan_written (context : TemplateContext) (placeholder : Placeholder) (rest : List Char) :
    scan context 0 (placeholder.written ++ rest) =
      fill context placeholder.name placeholder.written ++ scan context 0 rest := by
  have found := placeholder?_written placeholder rest
  obtain ⟨c, inside, begins⟩ : ∃ c inside, placeholder.written = c :: inside := ⟨_, _, rfl⟩
  rw [begins] at found ⊢
  rw [List.cons_append] at found ⊢
  simp only [scan, found, List.length_cons, Nat.add_sub_cancel, scan_length]
  rw [← List.cons_append, ← List.length_cons, List.take_left]

/-- A character with which no placeholder starts is copied. -/
theorem scan_copied (context : TemplateContext) (plain : ¬ Opens (c :: rest)) :
    scan context 0 (c :: rest) = c :: scan context 0 rest := by
  cases found : placeholder? (c :: rest) with
  | none => simp only [scan, found]
  | some _ => exact absurd (opens_of_placeholder? found) plain

/-- What holds of a template is shown from left to right, placeholder by placeholder and character
by character. -/
theorem scan_induction
    {motive : List Char → Prop}
    (done : motive [])
    (slot : ∀ placeholder rest, motive rest → motive (Placeholder.written placeholder ++ rest))
    (copied : ∀ c rest, ¬ Opens (c :: rest) → motive rest → motive (c :: rest))
    (characters : List Char) :
    motive characters := by
  induction length : characters.length using Nat.strongRecOn generalizing characters with
  | _ _ inductionHypothesis =>
    subst length
    cases characters with
    | nil => exact done
    | cons c rest =>
        by_cases opens : Opens (c :: rest)
        · obtain ⟨placeholder, behind, whole⟩ := opens
          rw [whole]
          apply slot
          apply inductionHypothesis _ _ behind rfl
          rw [whole, List.length_append]
          exact Nat.lt_add_of_pos_left (Nat.zero_lt_succ _)
        · exact copied c rest opens (inductionHypothesis _ (Nat.lt_succ_self _) rest rfl)

/-- What a name is replaced by, when it has a value. -/
theorem fill_of_denotes
    {name written : List Char}
    {value : String}
    (denotes : context.Denotes (String.ofList name) value) :
    fill context name written = value.toList := by
  simp only [fill, TemplateContext.lookup?_eq_some_iff.mpr denotes]

/-- A placeholder without a value is not replaced. -/
theorem fill_of_unknown
    {name written : List Char}
    (unknown : ∀ value, ¬ context.Denotes (String.ofList name) value) :
    fill context name written = written := by
  cases found : context.lookup? (String.ofList name) with
  | none => simp only [fill, found]
  | some value => exact absurd (TemplateContext.lookup?_eq_some_iff.mp found) (unknown value)

/-- A template becomes what the scan makes of it, and nothing else. -/
theorem renders_iff : Renders context characters output ↔ output = scan context 0 characters := by
  constructor
  · intro renders
    induction renders with
    | done => rfl
    | value denotes _ inductionHypothesis =>
        rw [scan_written, fill_of_denotes denotes, inductionHypothesis]
    | kept unknown _ inductionHypothesis =>
        rw [scan_written, fill_of_unknown unknown, inductionHypothesis]
    | copied plain _ inductionHypothesis => rw [scan_copied context plain, inductionHypothesis]
  · rintro rfl
    induction characters using scan_induction with
    | done => exact .done
    | slot placeholder rest inductionHypothesis =>
        rw [scan_written]
        by_cases known : ∃ value, context.Denotes (String.ofList placeholder.name) value
        · obtain ⟨value, denotes⟩ := known
          rw [fill_of_denotes denotes]
          exact .value denotes inductionHypothesis
        · have unknown := not_exists.mp known
          rw [fill_of_unknown unknown]
          exact .kept unknown inductionHypothesis
    | copied c rest plain inductionHypothesis =>
        rw [scan_copied context plain]
        exact .copied plain inductionHypothesis

/-- A template without two opening braces is copied. -/
theorem scan_of_not_occurs (absent : ¬ opening <:+: characters) :
    scan context 0 characters = characters := by
  induction characters using scan_induction with
  | done => rfl
  | slot placeholder rest _ =>
      refine absurd ?_ absent
      rw [Placeholder.written, List.append_assoc]
      exact (List.prefix_append _ _).isInfix
  | copied c rest plain inductionHypothesis =>
      rw [scan_copied context plain, inductionHypothesis fun occurs => absent ?_]
      exact occurs.trans (List.suffix_cons c rest).isInfix

/-- The scan makes no difference to a template that is not scanned. -/
theorem toList_render (context : TemplateContext) (template : String) :
    (render context template).toList = scan context 0 template.toList := by
  unfold render
  split
  · exact String.toList_ofList
  · rename_i absent
    rw [Text.occursIn_iff] at absent
    exact (scan_of_not_occurs absent).symm

/-- A template falls into the same pieces in every context. -/
theorem exists_pieces (characters : List Char) :
    ∃ pieces : List Piece, pieces.flatMap Piece.written = characters ∧
      ∀ context, scan context 0 characters = pieces.flatMap (Piece.filled context) := by
  induction characters using scan_induction with
  | done => exact ⟨[], rfl, fun _ => rfl⟩
  | slot placeholder rest inductionHypothesis =>
      obtain ⟨pieces, whole, filled⟩ := inductionHypothesis
      refine ⟨.slot placeholder :: pieces, ?_, fun context => ?_⟩
      · rw [List.flatMap_cons, whole]
        rfl
      · rw [scan_written, filled, List.flatMap_cons]
        rfl
  | copied c rest plain inductionHypothesis =>
      obtain ⟨pieces, whole, filled⟩ := inductionHypothesis
      refine ⟨.character c :: pieces, ?_, fun context => ?_⟩
      · rw [List.flatMap_cons, whole]
        rfl
      · rw [scan_copied context plain, filled, List.flatMap_cons]
        rfl

/-- A template becomes exactly what one pass from left to right makes of it, also where it is not
scanned for want of opening braces.  It falls into pieces that do not depend on the values: what
stands in no placeholder is unchanged, and a value that is put in is not looked at again. -/
theorem rendered_in_one_pass (template : String) :
    (∀ context text, render context template = text ↔
      Renders context template.toList text.toList) ∧
    (∀ context, render context template = String.ofList (scan context 0 template.toList)) ∧
    ∃ pieces : List Piece, pieces.flatMap Piece.written = template.toList ∧
      ∀ context, (render context template).toList = pieces.flatMap (Piece.filled context) := by
  refine ⟨fun context text => ?_, fun context => ?_, ?_⟩
  · rw [renders_iff, ← toList_render, String.toList_inj, eq_comm]
  · rw [← toList_render, String.ofList_toList]
  · obtain ⟨pieces, whole, filled⟩ := exists_pieces template.toList
    exact ⟨pieces, whole, fun context => (toList_render context template).trans (filled context)⟩

end Template
end ChatFlow
