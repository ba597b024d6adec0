import ChatFlow.Proofs.Json.Documents
import ChatFlow.Proofs.Json.Locality
import ChatFlow.Proofs.Reply.Extraction
import Mathlib.Data.List.DropRight

/-!
# Texts that are not taken for a reply

The extraction looks for fences before anything is read, also inside the strings of an object.
What it then finds starts at the first brace behind the first fence.  A text is sealed if that
brace opens nothing that says what to send, whatever is cut off behind it; a sealed text with two
fences, one behind the other, is refused.  Where a brace stands in a string, the next quote closes
the string, so that what follows has no name of a field.
-/

namespace ChatFlow
namespace Reply

variable {characters front back inside rest : List Char} {tree : Json.Tree}

/-! ## What is not taken for a reply -/

/-- An object that does not say what to send. -/
def Mute (tree : Json.Tree) : Prop :=
  ∃ fields, tree = .object fields ∧
    ∀ field ∈ fields, field.1 ≠ some "Response" ∧ field.1 ≠ some "response"

/-- What an opening brace in front of the text opens, is mute. -/
def OpensMute (inside : List Char) : Prop :=
  ∀ fuel tree left, Json.readTree fuel ('\x7b' :: inside) = some (tree, left) → Mute tree

/-- The first brace of the text opens what is mute. -/
def Silent (characters : List Char) : Prop :=
  ∀ inside, characters.dropWhile (· != '\x7b') = '\x7b' :: inside → OpensMute inside

/-- A string that starts in front of the text is not the name of a field. -/
def Unkeyed (characters : List Char) : Prop :=
  ∀ key left written, Json.readString characters = some (key, left) →
    Json.skipSpace left ≠ ':' :: written

/-- Behind the first fence of the text, all is silent. -/
def Sealed (characters : List Char) : Prop :=
  ∀ before after, Text.cut? fence characters = some (before, after) → Silent (dropLanguage after)

/-- A text that may stand behind the closing quote of any string, without a reply coming about. -/
structure Harmless (characters : List Char) : Prop where
  /-- No name of a field starts in front of it. -/
  unkeyed : Unkeyed characters
  /-- Its first brace opens what is mute. -/
  silent : Silent characters
  /-- So does the first brace behind a fence. -/
  guarded : Sealed characters

/-- From a mute object nothing to send is read. -/
theorem Mute.ofValue
    {value : Json.Value}
    (mute : Mute tree)
    (read : tree.value? = some value) :
    ofValue value = .error .missingResponse := by
  obtain ⟨fields, rfl, unnamed⟩ := mute
  rw [Json.Tree.value?, Json.depthLimit, Json.Tree.valueWithin?, if_neg (by decide)] at read
  obtain ⟨pairs, fieldsRead, rfl⟩ := Option.map_eq_some_iff.mp read
  have names := Json.fieldsWithin?_names fieldsRead
  have absent {key : String} (unnamed : ∀ field ∈ fields, field.1 ≠ some key) :
      ∀ pair ∈ pairs, pair.1 ≠ key := by
    intro pair member same
    have named : some key ∈ fields.map (·.1) := by
      rw [← names, ← same]
      exact List.mem_map_of_mem member
    obtain ⟨field, listed, equal⟩ := List.mem_map.mp named
    exact unnamed field listed equal
  have capital := Keyed.get?_ofList_eq_none_iff.mpr
    (absent fun field listed => (unnamed field listed).1)
  have small := Keyed.get?_ofList_eq_none_iff.mpr
    (absent fun field listed => (unnamed field listed).2)
  simp [Reply.ofValue, field?, capital, small]

/-! ## What is silent -/

theorem Silent.append (silent : Silent back) (front : List Char) (unopened : '\x7b' ∉ front) :
    Silent (front ++ back) := by
  intro inside opened
  rw [Text.dropWhile_append_of_not_mem unopened] at opened
  exact silent inside opened

theorem silent_of_not_mem (unopened : '\x7b' ∉ characters) : Silent characters := by
  have nothing : Silent [] := fun inside opened => by cases opened
  have silent := nothing.append characters unopened
  rwa [List.append_nil] at silent

theorem OpensMute.silent (opensMute : OpensMute inside) : Silent ('\x7b' :: inside) := by
  intro further opened
  rw [List.dropWhile_cons_of_neg (by decide)] at opened
  cases opened
  exact opensMute

theorem sealed_of_unticked (unticked : Unticked characters) : Sealed characters := by
  intro before after cut
  rw [unticked.cut?_eq_none] at cut
  cases cut

theorem Sealed.append (guarded : Sealed back) (front : List Char) (unticked : Unticked front) :
    Sealed (front ++ back) := by
  intro before after cut
  rw [unticked.cut?_append, Option.map_eq_some_iff] at cut
  obtain ⟨⟨before, after⟩, further, same⟩ := cut
  cases same
  exact guarded before _ further

/-! ## Strings -/

/-- A character is written as itself, or as an escape without braces and backticks. -/
theorem encodeChar_cases (c : Char) :
    (Json.encodeChar c = [c] ∧ c ≠ '"') ∨
      (Plain (Json.encodeChar c) ∧ ∃ rest, Json.encodeChar c = '\\' :: rest) := by
  have digits : ∀ n < 32,
      Plain ['\\', 'u', '0', '0', Json.hexDigit (n / 16), Json.hexDigit (n % 16)] := by
    decide
  unfold Json.encodeChar
  iterate 7
    split
    · exact .inr ⟨by decide, _, rfl⟩
  split
  · rename_i control
    exact .inr ⟨digits _ control, _, rfl⟩
  · rename_i noQuote _ _ _ _ _ _ _
    exact .inl ⟨rfl, noQuote⟩

/-- A quote behind blanks is the closing quote. -/
theorem eq_of_skipSpace_written
    {text : List Char}
    (opens : Json.skipSpace (text.flatMap Json.encodeChar ++ '"' :: back) = '"' :: inside) :
    inside = back := by
  induction text with
  | nil =>
      rw [List.flatMap_nil, List.nil_append, Json.skipSpace_cons (by decide)] at opens
      cases opens
      rfl
  | cons c text inductionHypothesis =>
      rw [List.flatMap_cons, List.append_assoc] at opens
      cases encodeChar_cases c with
      | inl itself =>
          obtain ⟨same, noQuote⟩ := itself
          rw [same, List.singleton_append] at opens
          by_cases blank : Json.isSpace c = true
          · rw [Json.skipSpace, List.dropWhile_cons_of_pos blank] at opens
            exact inductionHypothesis opens
          · rw [Json.skipSpace_cons (Bool.eq_false_iff.mpr blank)] at opens
            exact absurd (List.cons.inj opens).1 noQuote
      | inr escaped =>
          obtain ⟨_, rest, starts⟩ := escaped
          rw [starts, List.cons_append, Json.skipSpace_cons (by decide)] at opens
          exact absurd (List.cons.inj opens).1 (by decide)

/-- A brace in a string opens nothing that says what to send: the next quote closes the string,
and there is no field behind it. -/
theorem Unkeyed.opensMute (unkeyed : Unkeyed back) (text : List Char) :
    OpensMute (text.flatMap Json.encodeChar ++ '"' :: back) := by
  intro fuel tree left read
  obtain ⟨fields, rfl, empty | ⟨fuel, fieldsRead⟩⟩ := Json.exists_fields_of_readTree read
  · exact ⟨fields, rfl, by simp [empty]⟩
  · cases fuel with
    | zero => cases fieldsRead
    | succ fuel =>
        obtain ⟨inside, key, afterKey, written, _, _, opens, keyRead, names, _⟩ :=
          Json.exists_field_of_readFields fieldsRead
        rw [Json.skipSpace, Json.skipSpace, List.dropWhile_idempotent] at opens
        rw [eq_of_skipSpace_written opens] at keyRead
        exact absurd names (unkeyed key afterKey written keyRead)

/-- The first brace of a string, or else the first one behind it, opens what is mute. -/
theorem Harmless.silent_written (harmless : Harmless back) (text : List Char) :
    Silent (text.flatMap Json.encodeChar ++ '"' :: back) := by
  induction text with
  | nil => exact harmless.silent.append ['"'] (by decide)
  | cons c text inductionHypothesis =>
      rw [List.flatMap_cons, List.append_assoc]
      by_cases brace : c = '\x7b'
      · rw [brace]
        exact (harmless.unkeyed.opensMute text).silent
      · refine inductionHypothesis.append _ ?_
        cases encodeChar_cases c with
        | inl itself => simpa [itself.1] using Ne.symm brace
        | inr escaped => exact fun member => (escaped.1 _ member).1 rfl

/-- What stands in front of a string and holds no escape stands in front of its characters. -/
theorem exists_drop_written
    {word text : List Char}
    (starts : word <+: text.flatMap Json.encodeChar ++ '"' :: back)
    (unquoted : '"' ∉ word)
    (unescaped : '\\' ∉ word) :
    ∃ further : List Char, (text.flatMap Json.encodeChar ++ '"' :: back).drop word.length =
      further.flatMap Json.encodeChar ++ '"' :: back := by
  induction word generalizing text with
  | nil => exact ⟨text, rfl⟩
  | cons w word inductionHypothesis =>
      rw [List.mem_cons, not_or] at unquoted unescaped
      cases text with
      | nil => exact absurd (List.cons_prefix_cons.mp starts).1.symm unquoted.1
      | cons c text =>
          rw [List.flatMap_cons, List.append_assoc] at starts ⊢
          cases encodeChar_cases c with
          | inl itself =>
              rw [itself.1, List.singleton_append] at starts ⊢
              rw [List.length_cons, List.drop_succ_cons]
              exact inductionHypothesis (List.cons_prefix_cons.mp starts).2 unquoted.2 unescaped.2
          | inr escaped =>
              obtain ⟨_, rest, backslash⟩ := escaped
              rw [backslash, List.cons_append] at starts
              exact absurd (List.cons_prefix_cons.mp starts).1.symm unescaped.1

theorem Harmless.silent_dropLanguage (harmless : Harmless back) (text : List Char) :
    Silent (dropLanguage (text.flatMap Json.encodeChar ++ '"' :: back)) := by
  simp only [dropLanguage]
  split
  · rename_i named
    obtain ⟨further, dropped⟩ :=
      exists_drop_written (List.isPrefixOf_iff_prefix.mp named) (by decide) (by decide)
    rw [dropped]
    exact harmless.silent_written further
  · exact harmless.silent_written text

/-- Behind a fence in a string there is the rest of the string. -/
theorem Harmless.sealed_written (harmless : Harmless back) (text : List Char) :
    Sealed (text.flatMap Json.encodeChar ++ '"' :: back) := by
  induction text with
  | nil => exact harmless.guarded.append ['"'] (by decide)
  | cons c text inductionHypothesis =>
      by_cases tick : c = '\x60'
      · intro before after cut
        have whole : (c :: text).flatMap Json.encodeChar ++ '"' :: back =
            '\x60' :: (text.flatMap Json.encodeChar ++ '"' :: back) := by
          rw [tick]
          rfl
        rw [whole, Text.cut?, ← whole] at cut
        split at cut
        -- The fence starts here, and behind it the string goes on, with the rest of its characters.
        · rename_i starts
          cases cut
          obtain ⟨further, dropped⟩ :=
            exists_drop_written (List.isPrefixOf_iff_prefix.mp starts) (by decide) (by decide)
          rw [dropped]
          exact harmless.silent_dropLanguage further
        · obtain ⟨⟨between, after⟩, further, same⟩ := Option.map_eq_some_iff.mp cut
          cases same
          exact inductionHypothesis between _ further
      · rw [List.flatMap_cons, List.append_assoc]
        refine inductionHypothesis.append _ ?_
        intro d member
        cases encodeChar_cases c with
        | inl itself =>
            rw [itself.1, List.mem_singleton] at member
            exact member ▸ tick
        | inr escaped => exact (escaped.1 d member).2.2

/-- What holds no quote, brace or backtick is harmless. -/
theorem harmless_of_plain
    (unquoted : '"' ∉ characters)
    (unopened : '\x7b' ∉ characters)
    (unticked : Unticked characters) :
    Harmless characters := by
  refine ⟨?_, silent_of_not_mem unopened, sealed_of_unticked unticked⟩
  intro key left written read
  rw [Json.readString, Json.readPieces_eq_none unquoted] at read
  cases read

/-- What stands between two strings is not the name of a field, since what is in the second string
does not begin with a colon. -/
theorem unkeyed_of_next
    (glue : List Char)
    {c : Char}
    (itself : glue.flatMap Json.encodeChar = glue)
    (solid : Json.isSpace c = false)
    (different : c ≠ ':') :
    Unkeyed (glue ++ '"' :: c :: back) := by
  intro key left written read names
  rw [← itself, Json.readString, Json.readPieces_encode] at read
  cases read
  rw [Json.skipSpace_cons solid] at names
  exact different (List.cons.inj names).1

/-! ## Refusal -/

/-- A text that holds a fence and another one is cut around both. -/
theorem Fenced.exists_cut (fenced : Fenced characters) :
    ∃ before after inside rest, Text.cut? fence characters = some (before, after) ∧
      Text.cut? fence (dropLanguage after) = some (inside, rest) := by
  obtain ⟨front, between, back, rfl⟩ := fenced
  have whole : front ++ fence ++ between ++ fence ++ back =
      front ++ (fence ++ (between ++ (fence ++ back))) := by
    simp
  rw [whole]
  cases cut : Text.cut? fence (front ++ (fence ++ (between ++ (fence ++ back)))) with
  | none =>
      rw [Text.cut?_eq_none_iff fence_ne_nil] at cut
      exact absurd ⟨front, _, List.append_assoc _ _ _⟩ cut
  | some parts =>
      obtain ⟨before, after⟩ := parts
      have later := Text.suffix_of_cut? fence_ne_nil cut
      cases again : Text.cut? fence (dropLanguage after) with
      | none =>
          rw [Text.cut?_eq_none_iff fence_ne_nil, infix_dropLanguage_iff] at again
          have occurs : fence <:+: between ++ (fence ++ back) :=
            ⟨between, back, List.append_assoc _ _ _⟩
          exact absurd (occurs.trans later.isInfix) again
      | some parts =>
          obtain ⟨inside, rest⟩ := parts
          exact ⟨before, after, inside, rest, rfl, again⟩

/-- The object that is found in a text starts at its first brace. -/
theorem exists_of_braced?
    {body : List Char}
    (found : braced? characters = some body) :
    ∃ inner back, body = '\x7b' :: inner ∧
      characters.dropWhile (· != '\x7b') = '\x7b' :: (inner ++ back) := by
  simp only [braced?] at found
  split at found
  · cases found
  · rename_i nonempty
    cases found
    obtain ⟨back, whole⟩ :=
      List.rdropWhile_prefix (· != '\x7d') (characters.dropWhile (· != '\x7b'))
    rw [List.rdropWhile] at whole
    obtain ⟨c, inner, closed⟩ := List.exists_cons_of_ne_nil (mt List.isEmpty_iff.mpr nonempty)
    have brace := List.head?_dropWhile_not (· != '\x7b') characters
    rw [← whole, closed] at brace
    have same : c = '\x7b' := by simpa using brace
    subst same
    exact ⟨inner, back, closed, by rw [← whole, closed, List.cons_append]⟩

/-- Trimming leaves the first brace of a text where it is. -/
theorem dropWhile_trimChars
    (opened : (Text.trimChars inside).dropWhile (· != '\x7b') = '\x7b' :: front)
    (rest : List Char) :
    ∃ back, (inside ++ rest).dropWhile (· != '\x7b') = '\x7b' :: (front ++ back) := by
  have starts : Text.trimChars inside <+: inside.dropWhile Text.isBlankChar :=
    List.rdropWhile_prefix _ _
  obtain ⟨blanks, whole⟩ := starts
  have unopened : '\x7b' ∉ inside.takeWhile Text.isBlankChar :=
    fun member => absurd (List.mem_takeWhile_imp member) (by decide)
  refine ⟨blanks ++ rest, ?_⟩
  rw [← List.takeWhile_append_dropWhile (p := Text.isBlankChar) (l := inside), ← whole,
    List.append_assoc, Text.dropWhile_append_of_not_mem unopened, List.append_assoc,
    List.dropWhile_append, opened]
  rfl

/-- What stands in a silent text up to a fence is not read as a reply. -/
theorem Silent.refused
    {body : List Char}
    (silent : Silent (inside ++ rest))
    (found : braced? (Text.trimChars inside) = some body)
    (read : Json.treeOfChars? body = some tree) :
    Mute tree := by
  obtain ⟨inner, back, rfl, opened⟩ := exists_of_braced? found
  obtain ⟨later, first⟩ := dropWhile_trimChars opened rest
  simp only [Json.treeOfChars?, Option.bind_eq_bind, Option.bind_eq_some_iff, Prod.exists] at read
  obtain ⟨tree, left, read, ended⟩ := read
  split at ended
  · cases ended
    obtain ⟨fields, rfl, _⟩ := Json.exists_fields_of_readTree read
    -- The object is read in the same way when the text goes on behind it.
    have further := (Json.local_all _).tree (back ++ later) read
      (.inr fun value number => by cases number) (Nat.le_refl _)
    rw [List.append_assoc] at first
    rw [List.cons_append] at further
    exact silent _ first _ _ _ further
  · cases ended

/-- A text with two fences whose first one is followed by silence is refused. -/
theorem Sealed.refused
    {text : String}
    (opens : text.toList.head? = some '\x7b')
    (closes : text.toList.getLast? = some '\x7d')
    (guarded : Sealed text.toList)
    (fenced : Fenced text.toList) :
    ∃ fault, ofText text = .error fault := by
  obtain ⟨before, after, inside, rest, cut, again⟩ := fenced.exists_cut
  have silent := guarded before after cut
  rw [← Text.cut?_eq_some again, List.append_assoc] at silent
  have taken : body? text = braced? (Text.trimChars inside) := by
    rw [body?, trimChars_of_braces opens closes, unfence, cut]
    simp only [again]
  rw [ofText, taken]
  cases found : braced? (Text.trimChars inside) with
  | none => exact ⟨.noObject, rfl⟩
  | some body =>
      cases read : Json.treeOfChars? body with
      | none => exact ⟨.malformed, by simp [read]⟩
      | some tree =>
          have mute := silent.refused found read
          cases valued : tree.value? with
          | none => exact ⟨.malformed, by simp [read, valued]⟩
          | some value => exact ⟨.missingResponse, by simp [read, valued, mute.ofValue valued]⟩

end Reply
end ChatFlow
