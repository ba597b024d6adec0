import ChatFlow.Proofs.Text.Cuts
import ChatFlow.Reply

/-!
# Blank items of a reply

An item that is written as an object is left out when its content is blank.  An item that is
written as a plain text, alone or in an array, is taken as it stands.  So the blank items of a
reply are the blank ones among its plain texts, in order, and there are no others.
-/

namespace ChatFlow

/-- Whether the content of an item is blank. -/
def ReplyItem.isBlank (item : ReplyItem) : Bool :=
  Text.isBlank item.content

namespace Reply

variable {fields : Json.Fields} {value entry : Json.Value} {item : ReplyItem} {reply : Reply}
  {text raw : String}

/-! ## What a raw text says is to be sent -/

/-- What the object in a raw text says is to be sent, as it is written. -/
def response? (raw : String) : Option Json.Value :=
  match ((body? raw).bind Json.treeOfChars?).bind Json.Tree.value? with
  | some (.object fields) => field? fields ["Response", "response"]
  | _ => none

/-- The texts that stand in a response without an object around them. -/
def plainTexts : Json.Value → List String
  | .string text => [text]
  | .array entries => entries.filterMap Json.Value.string?
  | _ => []

/-- A plain text as an item. -/
def plainItem (text : String) : ReplyItem :=
  { media := none, content := text }

/-- The items that blank plain texts make. -/
def blankItems (response : Json.Value) : List ReplyItem :=
  ((plainTexts response).filter Text.isBlank).map plainItem

/-! ## Items -/

theorem isBlank_of_filledText? (filled : filledText? value = some text) :
    Text.isBlank text = false := by
  obtain ⟨written, -, kept⟩ := Option.bind_eq_some_iff.mp filled
  dsimp only at kept
  split at kept
  · cases kept
  · rename_i full
    obtain rfl := Option.some.inj kept
    rw [Text.isBlank_trim, ← Bool.not_eq_true, ← Text.trim_eq_empty_iff]
    exact full

/-- An item that is written as an object is not blank. -/
theorem isBlank_of_item?_object (read : item? (.object fields) = some item) :
    item.isBlank = false := by
  obtain ⟨content, found, rest⟩ := Option.bind_eq_some_iff.mp read
  obtain ⟨written, -, filled⟩ := Option.bind_eq_some_iff.mp found
  obtain rfl := Option.some.inj rest
  exact isBlank_of_filledText? filled

/-- An entry makes a blank item exactly when it is a blank plain text. -/
theorem filter_isBlank_item? (entry : Json.Value) :
    (item? entry).filter ReplyItem.isBlank =
      (entry.string?.filter Text.isBlank).map plainItem := by
  cases entry with
  | string text =>
      cases blank : Text.isBlank text <;>
        simp [item?, Json.Value.string?, Option.filter, ReplyItem.isBlank, plainItem, blank]
  | object fields =>
      cases read : item? (.object fields) with
      | none => rfl
      | some item => simp [Option.filter, isBlank_of_item?_object read, Json.Value.string?]
  | null | bool | number | array => rfl

/-- The blank items of a response are its blank plain texts. -/
theorem filter_isBlank_items?
    {response : Json.Value}
    {items : List ReplyItem}
    (read : items? response = .ok items) :
    items.filter ReplyItem.isBlank = blankItems response := by
  cases response with
  | array entries =>
      obtain rfl := Except.ok.inj read
      rw [blankItems, plainTexts, List.filter_filterMap, List.filter_filterMap, List.map_filterMap]
      exact congrArg (List.filterMap · entries) (funext filter_isBlank_item?)
  | string text =>
      obtain rfl := Except.ok.inj read
      cases blank : Text.isBlank text <;>
        simp [blankItems, plainTexts, plainItem, ReplyItem.isBlank, blank]
  | object fields =>
      obtain rfl := Except.ok.inj read
      rw [← Option.toList_filter, filter_isBlank_item?]
      rfl
  | null | bool | number => cases read

/-! ## Replies -/

/-- A raw text that is a reply says what is to be sent, and the items of the reply are read from
there. -/
theorem exists_response_of_ofText (read : ofText raw = .ok reply) :
    ∃ response, response? raw = some response ∧ items? response = .ok reply.items := by
  unfold ofText at read
  unfold response?
  cases found : body? raw with
  | none => rw [found] at read; cases read
  | some body =>
      rw [found] at read
      dsimp only [Option.bind_some] at read ⊢
      cases parsed : (Json.treeOfChars? body).bind Json.Tree.value? with
      | none => rw [parsed] at read; cases read
      | some value =>
          rw [parsed] at read
          dsimp only at read ⊢
          cases value with
          | object fields =>
              unfold ofValue at read
              dsimp only at read ⊢
              cases named : field? fields ["Response", "response"] with
              | none => rw [named] at read; cases read
              | some response =>
                  rw [named] at read
                  dsimp only at read
                  cases made : items? response with
                  | error fault => rw [made] at read; cases read
                  | ok items =>
                      rw [made] at read
                      cases read
                      exact ⟨response, rfl, made⟩
          | null | bool | number | string | array => cases read

/-- The blank items of a reply are the blank plain texts of its response. -/
theorem filter_isBlank_of_ofText (read : ofText raw = .ok reply) :
    ∃ response, response? raw = some response ∧
      reply.items.filter ReplyItem.isBlank = blankItems response := by
  obtain ⟨response, written, made⟩ := exists_response_of_ofText read
  exact ⟨response, written, filter_isBlank_items? made⟩

end Reply
end ChatFlow
