import ChatFlow.Proofs.Text.Cuts
import ChatFlow.Reply
import Mathlib.Logic.Basic

/-!
# The object in a raw reply

The object is found as it is when it stands alone, between prose without braces and backticks, or
in a code fence between any prose without backticks.  Nothing is taken out of a fence unless the
text holds two fences, one behind the other.
-/

namespace ChatFlow
namespace Reply

/-- A text holds a fence and, behind it, another one. -/
def Fenced (characters : List Char) : Prop :=
  ∃ front inside back, characters = front ++ fence ++ inside ++ fence ++ back

/-- Prose that is not taken for a part of an object or of a fence. -/
def Plain (prose : List Char) : Prop :=
  ∀ c ∈ prose, c ≠ '\x7b' ∧ c ≠ '\x7d' ∧ c ≠ '\x60'

/-- Prose without backticks. -/
def Unticked (prose : List Char) : Prop :=
  ∀ c ∈ prose, c ≠ '\x60'

instance (prose : List Char) : Decidable (Plain prose) :=
  List.decidableBAll (fun c => c ≠ '\x7b' ∧ c ≠ '\x7d' ∧ c ≠ '\x60') prose

instance (prose : List Char) : Decidable (Unticked prose) :=
  List.decidableBAll (· ≠ '\x60') prose

/-- The ways in which an object is wrapped. -/
inductive Wraps (object : List Char) : List Char → Prop
  /-- The object stands alone. -/
  | bare : Wraps object object
  /-- The object stands between prose. -/
  | prose {before after : List Char} (plainBefore : Plain before) (plainAfter : Plain after) :
      Wraps object (before ++ object ++ after)
  /-- The object stands in a fence, with or without the name of the language. -/
  | fenced {before language after : List Char} (untickedBefore : Unticked before)
      (named : language ∈ [[], "json".toList]) (untickedAfter : Unticked after) :
      Wraps object
        (before ++ (fence ++ language ++ '\n' :: (object ++ '\n' :: fence)) ++ after)

variable {characters front back inner object before after : List Char} {c : Char}

/-! ## Fences -/

theorem fence_ne_nil : fence ≠ [] :=
  List.cons_ne_nil _ _

/-- A fence is made of backticks. -/
theorem mem_fence_iff : c ∈ fence ↔ c = '\x60' := by
  simp [fence]

/-- In prose without backticks there is no mark of a fence. -/
theorem Unticked.not_mem_fence (unticked : Unticked front) : ∀ c ∈ front, c ∉ fence :=
  fun c member ticked => unticked c member (mem_fence_iff.mp ticked)

theorem Plain.unticked (plain : Plain front) : Unticked front :=
  fun c member => (plain c member).2.2

/-- Prose in front of a text only goes in front of the first fence. -/
theorem Unticked.cut?_append (unticked : Unticked front) (back : List Char) :
    Text.cut? fence (front ++ back) =
      (Text.cut? fence back).map fun (before, after) => (front ++ before, after) :=
  Text.cut?_append fence_ne_nil unticked.not_mem_fence back

/-- Prose without backticks is not cut. -/
theorem Unticked.cut?_eq_none (unticked : Unticked front) : Text.cut? fence front = none := by
  have cut := unticked.cut?_append []
  rwa [List.append_nil] at cut

/-- Around a character that is no backtick, the fence is in the one part or in the other. -/
theorem cut?_fence_append_cons (other : c ≠ '\x60') (front back : List Char) :
    Text.cut? fence (front ++ c :: back) =
      ((Text.cut? fence front).map fun (before, after) => (before, after ++ c :: back)).or
        ((Text.cut? fence back).map fun (before, after) => (front ++ c :: before, after)) :=
  Text.cut?_append_cons fence_ne_nil (mt mem_fence_iff.mp other) front back

/-- The name of the language is dropped. -/
theorem dropLanguage_append
    {language : List Char}
    (named : language ∈ [[], "json".toList])
    (back : List Char) :
    dropLanguage (language ++ '\n' :: back) = '\n' :: back := by
  simp only [List.mem_cons, List.not_mem_nil, or_false] at named
  cases named with
  | inl unnamed =>
      rw [unnamed]
      rfl
  | inr json =>
      rw [json]
      rfl

/-- The name of a language holds no fence, so that dropping it takes none away. -/
theorem infix_dropLanguage_iff : fence <:+: dropLanguage characters ↔ fence <:+: characters := by
  simp only [dropLanguage]
  split
  · rename_i named
    obtain ⟨rest, rfl⟩ := List.isPrefixOf_iff_prefix.mp named
    have unticked : Unticked "json".toList := by decide
    have cut := unticked.cut?_append rest
    rw [List.drop_left, ← not_iff_not, ← Text.cut?_eq_none_iff fence_ne_nil,
      ← Text.cut?_eq_none_iff fence_ne_nil, cut, Option.map_eq_none_iff]
  · rfl

/-- Nothing is taken out of a fence that is not closed. -/
theorem unfence_of_not_fenced (unfenced : ¬ Fenced characters) :
    unfence characters = characters := by
  unfold unfence
  split
  · rfl
  · rename_i before after opened
    split
    · rfl
    · rename_i inside rest closed
      refine absurd ?_ unfenced
      have again : fence <:+: after := by
        rw [← infix_dropLanguage_iff, ← Text.cut?_eq_some closed]
        exact List.infix_append _ _ _
      obtain ⟨front, back, whole⟩ := again
      refine ⟨before, front, back, ?_⟩
      rw [← Text.cut?_eq_some opened, ← whole]
      simp

/-! ## Braces -/

/-- Between text without an opening and text without a closing brace the object is found. -/
theorem braced?_append
    (unopened : '\x7b' ∉ front)
    (unclosed : '\x7d' ∉ back)
    (inner : List Char) :
    braced? (front ++ '\x7b' :: (inner ++ '\x7d' :: back)) =
      some ('\x7b' :: (inner ++ ['\x7d'])) := by
  have opened : (front ++ '\x7b' :: (inner ++ '\x7d' :: back)).dropWhile (· != '\x7b') =
      '\x7b' :: (inner ++ '\x7d' :: back) := by
    rw [Text.dropWhile_append_of_not_mem unopened, List.dropWhile_cons_of_neg (by decide)]
  have turned : ('\x7b' :: (inner ++ '\x7d' :: back)).reverse =
      back.reverse ++ '\x7d' :: (inner.reverse ++ ['\x7b']) := by
    simp
  have closed : ('\x7b' :: (inner ++ '\x7d' :: back)).reverse.dropWhile (· != '\x7d') =
      '\x7d' :: (inner.reverse ++ ['\x7b']) := by
    rw [turned, Text.dropWhile_append_of_not_mem (mt List.mem_reverse.mp unclosed),
      List.dropWhile_cons_of_neg (by decide)]
  simp only [braced?, opened, closed]
  simp

/-- An object ends with a closing brace. -/
theorem getLast?_object (inner : List Char) :
    ('\x7b' :: (inner ++ ['\x7d'])).getLast? = some '\x7d' :=
  List.getLast?_eq_some_iff.mpr ⟨'\x7b' :: inner, rfl⟩

/-- An object is a text from an opening to a closing brace. -/
theorem exists_inner
    (opens : object.head? = some '\x7b')
    (closes : object.getLast? = some '\x7d') :
    ∃ inner, object = '\x7b' :: (inner ++ ['\x7d']) := by
  obtain ⟨most, rfl⟩ := List.getLast?_eq_some_iff.mp closes
  cases most with
  | nil => exact absurd opens (by decide)
  | cons c inner =>
      rw [List.cons_append, List.head?_cons] at opens
      cases opens
      exact ⟨inner, rfl⟩

/-- A text from an opening to a closing brace is not trimmed. -/
theorem trimChars_of_braces
    (opens : characters.head? = some '\x7b')
    (closes : characters.getLast? = some '\x7d') :
    Text.trimChars characters = characters := by
  obtain ⟨before, after, trimmed, ends, starts⟩ :=
    Text.exists_trimChars opens (by decide) closes (by decide) [] []
  rwa [List.suffix_nil.mp ends, List.prefix_nil.mp starts, List.nil_append, List.append_nil]
    at trimmed

/-! ## Wrapped objects -/

/-- Between prose without backticks, an object without a fence stays what it is. -/
theorem unfence_between
    (unfenced : ¬ fence <:+: '\x7b' :: (inner ++ ['\x7d']))
    (unticked : Unticked front)
    (untickedBack : Unticked back) :
    unfence (front ++ '\x7b' :: (inner ++ '\x7d' :: back)) =
      front ++ '\x7b' :: (inner ++ '\x7d' :: back) := by
  have inside : Text.cut? fence ('\x7b' :: inner) = none := by
    rw [Text.cut?_eq_none_iff fence_ne_nil]
    intro occurs
    exact unfenced (occurs.trans (List.prefix_append ('\x7b' :: inner) ['\x7d']).isInfix)
  have uncut : Text.cut? fence (front ++ '\x7b' :: (inner ++ '\x7d' :: back)) = none := by
    rw [unticked.cut?_append, ← List.cons_append, cut?_fence_append_cons (by decide), inside,
      untickedBack.cut?_eq_none]
    rfl
  rw [unfence, uncut]

/-- An object in a fence is taken out, with the ends of lines around it. -/
theorem unfence_fenced
    {language : List Char}
    (unfenced : ¬ fence <:+: object)
    (unticked : Unticked front)
    (named : language ∈ [[], "json".toList])
    (back : List Char) :
    unfence (front ++ (fence ++ (language ++ '\n' :: (object ++ '\n' :: (fence ++ back))))) =
      Text.trimChars ('\n' :: (object ++ ['\n'])) := by
  have opened : Text.cut? fence
      (front ++ (fence ++ (language ++ '\n' :: (object ++ '\n' :: (fence ++ back))))) =
        some (front, language ++ '\n' :: (object ++ '\n' :: (fence ++ back))) := by
    rw [unticked.cut?_append, Text.cut?_mark fence_ne_nil, Option.map_some]
    simp only [List.append_nil]
  have inside : Text.cut? fence ('\n' :: object) = none := by
    have newline : Unticked ['\n'] := by decide
    have cut := newline.cut?_append object
    rwa [(Text.cut?_eq_none_iff fence_ne_nil).mpr unfenced] at cut
  have closed : Text.cut? fence ('\n' :: (object ++ '\n' :: (fence ++ back))) =
      some ('\n' :: (object ++ ['\n']), back) := by
    rw [← List.cons_append, cut?_fence_append_cons (by decide), inside,
      Text.cut?_mark fence_ne_nil]
    rfl
  rw [unfence, opened]
  simp only [dropLanguage_append named, closed]

/-- An object in plain prose stays there, without braces around it. -/
theorem exists_unfence_prose
    (unfenced : ¬ fence <:+: '\x7b' :: (inner ++ ['\x7d']))
    (plainBefore : Plain before)
    (plainAfter : Plain after) :
    ∃ front back,
      unfence (Text.trimChars (before ++ '\x7b' :: (inner ++ ['\x7d']) ++ after)) =
          front ++ '\x7b' :: (inner ++ '\x7d' :: back) ∧
        '\x7b' ∉ front ∧ '\x7d' ∉ back := by
  have opens : ('\x7b' :: (inner ++ ['\x7d'])).head? = some '\x7b' := rfl
  obtain ⟨front, back, trimmed, ends, starts⟩ :=
    Text.exists_trimChars opens (by decide) (getLast?_object inner) (by decide) before after
  have plainFront : Plain front := fun c member => plainBefore c (ends.mem member)
  have plainBack : Plain back := fun c member => plainAfter c (starts.mem member)
  have parts : front ++ '\x7b' :: (inner ++ ['\x7d']) ++ back =
      front ++ '\x7b' :: (inner ++ '\x7d' :: back) := by
    simp
  refine ⟨front, back, ?_, ?_, ?_⟩
  · rw [trimmed, parts, unfence_between unfenced plainFront.unticked plainBack.unticked]
  · exact fun member => (plainFront _ member).1 rfl
  · exact fun member => (plainBack _ member).2.1 rfl

/-- An object in a fence is taken out of it, without braces around it. -/
theorem exists_unfence_fenced
    {language : List Char}
    (unfenced : ¬ fence <:+: '\x7b' :: (inner ++ ['\x7d']))
    (untickedBefore : Unticked before)
    (named : language ∈ [[], "json".toList]) :
    ∃ front back,
      unfence (Text.trimChars (before ++ (fence ++ language ++ '\n' ::
          ('\x7b' :: (inner ++ ['\x7d']) ++ '\n' :: fence)) ++ after)) =
          front ++ '\x7b' :: (inner ++ '\x7d' :: back) ∧
        '\x7b' ∉ front ∧ '\x7d' ∉ back := by
  have closes : (fence ++ language ++ '\n' ::
      ('\x7b' :: (inner ++ ['\x7d']) ++ '\n' :: fence)).getLast? = some '\x60' := by
    refine List.getLast?_eq_some_iff.mpr ⟨fence ++ language ++ '\n' ::
      ('\x7b' :: (inner ++ ['\x7d']) ++ ['\n', '\x60', '\x60']), ?_⟩
    simp [fence]
  obtain ⟨front, back, trimmed, ends, _⟩ :=
    Text.exists_trimChars (c := '\x60') rfl (by decide) closes (by decide) before after
  have opens : ('\x7b' :: (inner ++ ['\x7d'])).head? = some '\x7b' := rfl
  obtain ⟨left, right, inside, endsLeft, startsRight⟩ :=
    Text.exists_trimChars opens (by decide) (getLast?_object inner) (by decide) ['\n'] ['\n']
  have unticked : Unticked front := fun c member => untickedBefore c (ends.mem member)
  have taken := unfence_fenced unfenced unticked named back
  refine ⟨left, right, ?_, ?_, ?_⟩
  · simp only [List.append_assoc, List.cons_append, List.nil_append] at trimmed taken inside ⊢
    rw [trimmed, taken, inside]
  · exact fun member => absurd (endsLeft.mem member) (by decide)
  · exact fun member => absurd (startsRight.mem member) (by decide)

/-- A wrapped object is taken out of what is wrapped around it, without braces around it. -/
theorem exists_unfence_of_wraps
    (whole : object = '\x7b' :: (inner ++ ['\x7d']))
    (unfenced : ¬ fence <:+: object)
    (wraps : Wraps object characters) :
    ∃ front back,
      unfence (Text.trimChars characters) = front ++ '\x7b' :: (inner ++ '\x7d' :: back) ∧
        '\x7b' ∉ front ∧ '\x7d' ∉ back := by
  subst whole
  cases wraps with
  | bare =>
      have nothing : Plain [] := by decide
      simpa using exists_unfence_prose unfenced nothing nothing
  | prose plainBefore plainAfter => exact exists_unfence_prose unfenced plainBefore plainAfter
  | fenced untickedBefore named _ => exact exists_unfence_fenced unfenced untickedBefore named

/-- The object in a raw reply is found, however it is wrapped, and read as if it stood alone. -/
theorem ofText_of_wraps
    {object raw : String}
    (opens : object.toList.head? = some '\x7b')
    (closes : object.toList.getLast? = some '\x7d')
    (unfenced : ¬ fence <:+: object.toList)
    (wraps : Wraps object.toList raw.toList) :
    body? raw = some object.toList ∧ ofText raw = ofText object := by
  obtain ⟨inner, whole⟩ := exists_inner opens closes
  have found {raw : String} (wraps : Wraps object.toList raw.toList) :
      body? raw = some object.toList := by
    obtain ⟨front, back, taken, unopened, unclosed⟩ := exists_unfence_of_wraps whole unfenced wraps
    rw [body?, taken, braced?_append unopened unclosed, whole]
  refine ⟨found wraps, ?_⟩
  rw [ofText, ofText, found wraps, found .bare]

/-- An object that says what to send. -/
def greetingObject : String :=
  "\x7b\"Response\": \"hi\"\x7d"

/-- The object in a fence, between prose with braces. -/
def fencedGreeting : String :=
  "As you \x7bwish:\n" ++ "```json\n" ++ greetingObject ++ "\n```" ++ "\nBye\x7d"

/-- The object is read out of its fence. -/
theorem ofText_of_wraps_greeting :
    greetingObject.toList.head? = some '\x7b' ∧
      greetingObject.toList.getLast? = some '\x7d' ∧
      ¬ fence <:+: greetingObject.toList ∧
      Wraps greetingObject.toList fencedGreeting.toList ∧
      ofText fencedGreeting = ofText greetingObject ∧
      (ofText greetingObject).toOption =
        some { stage := none, items := [{ media := none, content := "hi" }] } := by
  have opens : greetingObject.toList.head? = some '\x7b' := by decide +kernel
  have closes : greetingObject.toList.getLast? = some '\x7d' := by decide +kernel
  have unfenced : ¬ fence <:+: greetingObject.toList := by
    rw [← Text.occursIn_iff]
    decide +kernel
  have parts : fencedGreeting.toList = "As you \x7bwish:\n".toList ++
      (fence ++ "json".toList ++ '\n' :: (greetingObject.toList ++ '\n' :: fence)) ++
      "\nBye\x7d".toList := by
    decide +kernel
  have unticked : Unticked "As you \x7bwish:\n".toList := by decide +kernel
  have untickedAfter : Unticked "\nBye\x7d".toList := by decide +kernel
  have wraps : Wraps greetingObject.toList fencedGreeting.toList := by
    rw [parts]
    exact .fenced unticked (by simp) untickedAfter
  exact ⟨opens, closes, unfenced, wraps, (ofText_of_wraps opens closes unfenced wraps).2,
    by decide +kernel⟩

end Reply
end ChatFlow
