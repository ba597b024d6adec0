import ChatFlow.Proofs.Json.Documents
import ChatFlow.Proofs.Reply.Extraction

/-!
# Replies in writing

A draft is a reply in the form in which the text generator is asked for it: one object with a
stage and a list of items.  Any text that is this object and nothing else is read as the reply,
unless it holds two fences.
-/

namespace ChatFlow
namespace Reply

/-- The types of items that may be asked for. -/
inductive ItemType where
  /-- A text. -/
  | text
  /-- A picture. -/
  | image
  /-- A film. -/
  | video
  /-- A sound. -/
  | audio
  /-- Media whose kind is named beside the type, or left open. -/
  | media
deriving DecidableEq, Repr

namespace ItemType

/-- The name of a type. -/
def name : ItemType → String
  | .text => "text"
  | .image => "image"
  | .video => "video"
  | .audio => "audio"
  | .media => "media"

/-- Nothing for a text; for media the kind, of which the type or else the kind beside it tells. -/
def kind? (beside : Option Media.Kind) : ItemType → Option (Option Media.Kind)
  | .text => none
  | .image => some (some .image)
  | .video => some (some .video)
  | .audio => some (some .audio)
  | .media => some beside

end ItemType

/-- An item as it is asked for. -/
structure DraftItem where
  /-- Its type. -/
  type : ItemType
  /-- Its text, or the address of the media. -/
  content : String
  /-- What is written beside the type as the kind of media, a known kind or not. -/
  kindText : Option String := none
  /-- There are no blanks around the content. -/
  trimmed : Text.trim content = content
  /-- The content is not blank. -/
  filled : content ≠ ""

/-- A reply as it is asked for. -/
structure Draft where
  /-- The stage, if the reply sets one; the empty text sets none. -/
  stage : Option String
  /-- The items, in order. -/
  items : List DraftItem
  /-- There are no blanks around the stage. -/
  trimmed : ∀ text ∈ stage, Text.trim text = text

/-- What an item of a draft asks to be sent. -/
def DraftItem.meant (draft : DraftItem) : ReplyItem :=
  { media := draft.type.kind? (draft.kindText.bind Media.Kind.ofName?), content := draft.content }

/-- The fields of an item. -/
def DraftItem.fields (draft : DraftItem) : List (String × Json.Value) :=
  [("type", .string draft.type.name), ("content", .string draft.content)] ++
    (draft.kindText.map fun kind => ("Jenis", .string kind)).toList

/-- What a draft asks for. -/
def Draft.meant (draft : Draft) : Reply :=
  { stage := draft.stage.filter (· != ""), items := draft.items.map DraftItem.meant }

/-- The fields of a draft, for a form in which its items are written. -/
def Draft.fields (draft : Draft) (form : DraftItem → Json.Value) : List (String × Json.Value) :=
  (draft.stage.map fun stage => ("Stage", .string stage)).toList ++
    [("Response", .array (draft.items.map form))]

/-- A draft as an object whose fields stand in the order in which they are asked for. -/
def Draft.form (draft : Draft) : Json.Value :=
  .object (draft.fields fun item => .object item.fields)

/-- A draft as a value. -/
def Draft.value (draft : Draft) : Json.Value :=
  .record (draft.fields fun item => .record item.fields)

/-- A draft in writing. -/
def Draft.text (draft : Draft) : String :=
  Json.compact draft.form

/-! ## The meaning of a draft -/

/-- The type of an item is read by its name. -/
theorem mediaOf_name (type : ItemType) (beside : Option Media.Kind) :
    mediaOf (Text.lowerAscii (Text.trim type.name)) beside = type.kind? beside := by
  have lower : Text.lowerAscii (Text.trim type.name) = type.name := by
    cases type <;> decide +kernel
  rw [lower]
  cases type <;> rfl

/-- A text without blanks around it is read as it is, unless it is empty. -/
theorem filledText?_string {text : String} (trimmed : Text.trim text = text) :
    filledText? (.string text) = if text = "" then none else some text := by
  simp [filledText?, Json.Value.string?, trimmed]

/-- An item is read as it is meant. -/
theorem item?_record (draft : DraftItem) : item? (.record draft.fields) = some draft.meant := by
  obtain ⟨type, content, kindText, trimmed, filled⟩ := draft
  have content := filledText?_string trimmed
  rw [if_neg filled] at content
  cases kindText with
  | none =>
      simp [DraftItem.fields, DraftItem.meant, Json.Value.record, Json.Value.string?, Keyed.ofList,
        Keyed.get?_insert_self, Keyed.get?_insert_of_ne, Keyed.get?, item?, field?, content,
        mediaOf_name]
  | some kind =>
      simp [DraftItem.fields, DraftItem.meant, Json.Value.record, Json.Value.string?, Keyed.ofList,
        Keyed.get?_insert_self, Keyed.get?_insert_of_ne, item?, field?, content, mediaOf_name]

/-- Items are read as they are meant. -/
theorem items?_record (items : List DraftItem) :
    items? (.array (items.map fun item => .record item.fields)) =
      .ok (items.map DraftItem.meant) := by
  have read : (item? ∘ fun item : DraftItem => Json.Value.record item.fields) =
      some ∘ DraftItem.meant :=
    funext item?_record
  rw [items?, List.filterMap_map, read, List.filterMap_eq_map]

/-- An object is read by its stage and by what it says is to be sent. -/
theorem ofValue_object
    {fields : Json.Fields}
    {response : Json.Value}
    {items : List ReplyItem}
    (responds : field? fields ["Response", "response"] = some response)
    (read : items? response = .ok items) :
    ofValue (.object fields) =
      .ok { stage := (field? fields ["Stage", "stage"]).bind filledText?, items } := by
  rw [ofValue, responds]
  simp only [read]
  rfl

/-- A draft is read as it is meant. -/
theorem ofValue_value (draft : Draft) : ofValue draft.value = .ok draft.meant := by
  obtain ⟨stage, items, trimmed⟩ := draft
  have read := items?_record items
  rw [Draft.value, Draft.fields, Draft.meant, Json.Value.record]
  generalize Json.Value.array (items.map fun item => .record item.fields) = response at read ⊢
  cases stage with
  | none =>
      rw [ofValue_object (by simp [Keyed.ofList, Keyed.get?_insert_self, field?]) read]
      simp [Keyed.ofList, Keyed.get?_insert_of_ne, Keyed.get?, field?]
  | some stage =>
      have stageRead := filledText?_string (trimmed stage rfl)
      rw [ofValue_object (by simp [Keyed.ofList, Keyed.get?_insert_self, field?]) read]
      by_cases blank : stage = ""
      · subst blank
        simp [Keyed.ofList, Keyed.get?_insert_self, Keyed.get?_insert_of_ne, field?, stageRead,
          Option.filter]
      · simp [Keyed.ofList, Keyed.get?_insert_self, Keyed.get?_insert_of_ne, field?, stageRead,
          blank, Option.filter]

/-! ## Reading a draft -/

/-- An item holds no number. -/
theorem legible_item (item : DraftItem) : (Json.Value.object item.fields).Legible := by
  apply Json.Value.AllNumbers.object
  intro field member
  simp only [DraftItem.fields, List.mem_append, List.mem_cons, List.not_mem_nil, or_false,
    Option.mem_toList, Option.map_eq_some_iff] at member
  obtain (rfl | rfl) | ⟨kind, _, rfl⟩ := member
  · exact .string _
  · exact .string _
  · exact .string _

/-- A draft holds no number. -/
theorem legible_form (draft : Draft) : draft.form.Legible := by
  apply Json.Value.AllNumbers.object
  intro field member
  simp only [Draft.fields, List.mem_append, List.mem_singleton, Option.mem_toList,
    Option.map_eq_some_iff] at member
  obtain ⟨stage, _, rfl⟩ | rfl := member
  · exact .string _
  · apply Json.Value.AllNumbers.array
    intro value listed
    obtain ⟨item, _, rfl⟩ := List.mem_map.mp listed
    exact legible_item item

/-- The text of an item has the item's value. -/
theorem valueWithin?_item (item : DraftItem) (depth : Nat) :
    (Json.Value.object item.fields).tree.valueWithin? (depth + 1) = some (.record item.fields) := by
  obtain ⟨type, content, kindText, _, _⟩ := item
  cases kindText <;> rfl

/-- The texts of items have the items' values. -/
theorem valuesWithin?_items (items : List DraftItem) (depth : Nat) :
    Json.valuesWithin? (depth + 1)
        (Json.itemTrees (items.map fun item => .object item.fields)) =
      some (items.map fun item => .record item.fields) := by
  induction items with
  | nil => rfl
  | cons item items inductionHypothesis =>
      rw [List.map_cons, Json.itemTrees, Json.valuesWithin?, valueWithin?_item, inductionHypothesis]
      rfl

/-- The text of a draft has the draft's value. -/
theorem value?_text (draft : Draft) : Json.value? draft.text = some draft.value := by
  have read := (legible_form draft).treeOfChars?_encode
  rw [Json.value?, Json.tree?, Draft.text, Json.compact, String.toList_ofList, read,
    Option.bind_some, Json.Tree.value?, Json.depthLimit]
  obtain ⟨stage, items, trimmed⟩ := draft
  have values := valuesWithin?_items items 124
  cases stage with
  | none =>
      simp [Draft.form, Draft.fields, Draft.value, Json.Value.tree, Json.fieldTrees,
        Json.Tree.valueWithin?, Json.fieldsWithin?, values, Json.Value.record]
  | some stage =>
      simp [Draft.form, Draft.fields, Draft.value, Json.Value.tree, Json.fieldTrees,
        Json.Tree.valueWithin?, Json.fieldsWithin?, values, Json.Value.record]

/-- A text from an opening to a closing brace is the object in it, unless it holds two fences. -/
theorem body?_of_not_fenced
    {text : String}
    (opens : text.toList.head? = some '\x7b')
    (closes : text.toList.getLast? = some '\x7d')
    (unfenced : ¬ Fenced text.toList) :
    body? text = some text.toList := by
  obtain ⟨inner, whole⟩ := exists_inner opens closes
  have found := braced?_append List.not_mem_nil List.not_mem_nil inner
  rw [List.nil_append, ← whole] at found
  rw [body?, trimChars_of_braces opens closes, unfence_of_not_fenced unfenced, found]

/-- A text that is the object of a draft and nothing else is read as the draft is meant, unless it
holds two fences. -/
theorem ofText_of_not_fenced
    {draft : Draft}
    {text : String}
    (opens : text.toList.head? = some '\x7b')
    (closes : text.toList.getLast? = some '\x7d')
    (written : Json.value? text = some draft.value)
    (unfenced : ¬ Fenced text.toList) :
    ofText text = .ok draft.meant := by
  rw [ofText, body?_of_not_fenced opens closes unfenced]
  rw [Json.value?, Json.tree?] at written
  simp only [written, ofValue_value]

end Reply
end ChatFlow
