import ChatFlow.Proofs.Reply.Drafts
import ChatFlow.Proofs.Reply.Silence

/-!
# Fences in a draft

What stands between two fences of a draft is never the draft: it starts behind the brace that
opens the draft, and the next brace opens an item, which does not say what to send, or stands in a
string.  So a draft is read as it is meant exactly when its text does not hold two fences, one
behind the other.
-/

namespace ChatFlow
namespace Reply

variable {back : List Char}

/-! ## The text of a draft -/

/-- What stands between the brace of an item and its content. -/
def itemFront (type : ItemType) : List Char :=
  Json.encodeString "type" ++ ':' :: (Json.encodeString type.name ++
    ',' :: (Json.encodeString "content" ++ [':', '"']))

/-- What stands behind the closing quote of the content of an item. -/
def itemBack (kindText : Option String) (back : List Char) : List Char :=
  match kindText with
  | none => '\x7d' :: back
  | some kind =>
    ',' :: (Json.encodeString "Jenis" ++ ':' :: (Json.encodeString kind ++ '\x7d' :: back))

/-- The text of an item. -/
theorem encode_item (item : DraftItem) (back : List Char) :
    Json.encode (.object item.fields) ++ back =
      '\x7b' :: (itemFront item.type ++
        (item.content.toList.flatMap Json.encodeChar ++ '"' :: itemBack item.kindText back)) := by
  obtain ⟨type, content, kindText, _, _⟩ := item
  cases kindText <;>
    simp [DraftItem.fields, itemFront, itemBack, Json.encode, Json.encodeFields, Json.encodeString]

/-- An item does not say what to send. -/
theorem mute_item (item : DraftItem) : Mute (Json.Value.object item.fields).tree := by
  obtain ⟨type, content, kindText, _, _⟩ := item
  refine ⟨_, rfl, ?_⟩
  cases kindText <;> simp [DraftItem.fields, Json.fieldTrees]

theorem silent_item (item : DraftItem) (back : List Char) :
    Silent (Json.encode (.object item.fields) ++ back) := by
  rw [encode_item]
  apply OpensMute.silent
  intro fuel tree left read
  obtain ⟨fields, rfl, _⟩ := Json.exists_fields_of_readTree read
  -- With enough fuel the item is read back, and less fuel cannot read anything else.
  have enough : fuel ≤ fuel + (Json.encode (.object item.fields)).length := Nat.le_add_right _ _
  have again := (Json.local_all fuel).tree [] read (.inr fun value number => by cases number) enough
  have readBack := (legible_item item).readsBack _ [] Json.closed_nil (Nat.le_add_left _ fuel)
  have readBack := (Json.local_all _).tree back readBack (.inr fun value => nofun) (Nat.le_refl _)
  rw [List.append_nil] at again readBack
  rw [← encode_item, readBack] at again
  cases again
  exact mute_item item

theorem harmless_itemBack (kindText : Option String) (harmless : Harmless ('\x7d' :: back)) :
    Harmless (itemBack kindText back) := by
  cases kindText with
  | none => exact harmless
  | some kind =>
      have parts : itemBack (some kind) back =
          ",\"Jenis\":\"".toList ++
            (kind.toList.flatMap Json.encodeChar ++ '"' :: '\x7d' :: back) := by
        simp [itemBack, Json.encodeString, Json.encodeChar]
      rw [parts]
      refine ⟨?_, ?_, ?_⟩
      · exact unkeyed_of_next [','] (by decide) (by decide) (by decide)
      · exact (harmless.silent_written kind.toList).append _ (by decide)
      · exact (harmless.sealed_written kind.toList).append _ (by decide)

theorem sealed_item (item : DraftItem) (harmless : Harmless ('\x7d' :: back)) :
    Sealed (Json.encode (.object item.fields) ++ back) := by
  have guarded := (harmless_itemBack item.kindText harmless).sealed_written item.content.toList
  rw [encode_item, ← List.cons_append]
  refine guarded.append _ ?_
  cases item.type <;> decide

/-- The items behind an item are harmless. -/
theorem harmless_items (items : List DraftItem) :
    Harmless
      ('\x7d' :: (Json.encodeItems (items.map fun item => .object item.fields) ++ ['\x7d'])) := by
  induction items with
  | nil => exact harmless_of_plain (by decide) (by decide) (by decide)
  | cons item items inductionHypothesis =>
      rw [List.map_cons, Json.encodeItems, List.cons_append, List.append_assoc]
      refine ⟨?_, ?_, ?_⟩
      · rw [encode_item]
        exact unkeyed_of_next ['\x7d', ',', '\x7b'] (by decide) (by decide) (by decide)
      · exact (silent_item item _).append ['\x7d', ','] (by decide)
      · exact (sealed_item item inductionHypothesis).append ['\x7d', ',']
          (by decide)

/-- The items of a draft are silent and sealed. -/
theorem silent_and_sealed_items (items : List DraftItem) :
    Silent (Json.encode (.array (items.map fun item => .object item.fields)) ++ ['\x7d']) ∧
      Sealed (Json.encode (.array (items.map fun item => .object item.fields)) ++ ['\x7d']) := by
  cases items with
  | nil => exact ⟨silent_of_not_mem (by decide), sealed_of_unticked (by decide)⟩
  | cons item items =>
      rw [List.map_cons, Json.encode, List.cons_append, List.append_assoc]
      refine ⟨?_, ?_⟩
      · exact (silent_item item _).append ['['] (by decide)
      · exact (sealed_item item (harmless_items items)).append ['[']
          (by decide)

/-- Behind the first fence of a draft, all is silent. -/
theorem sealed_text (draft : Draft) : Sealed draft.text.toList := by
  obtain ⟨stage, items, trimmed⟩ := draft
  obtain ⟨silent, guarded⟩ := silent_and_sealed_items items
  rw [Draft.text, Json.compact, String.toList_ofList]
  generalize whole : Json.encode (.array (items.map fun item => .object item.fields)) = response
    at silent guarded
  cases stage with
  | none =>
      have parts : Json.encode (Draft.form ⟨none, items, trimmed⟩) =
          "\x7b\"Response\":".toList ++ (response ++ ['\x7d']) := by
        simp [Draft.form, Draft.fields, Json.encode, Json.encodeFields, Json.encodeString,
          Json.encodeChar, whole]
      rw [parts]
      exact guarded.append _ (by decide)
  | some stage =>
      have parts : Json.encode (Draft.form ⟨some stage, items, trimmed⟩) =
          "\x7b\"Stage\":\"".toList ++ (stage.toList.flatMap Json.encodeChar ++ '"' ::
            (",\"Response\":".toList ++ (response ++ ['\x7d']))) := by
        simp [Draft.form, Draft.fields, Json.encode, Json.encodeFields, Json.encodeString,
          Json.encodeChar, whole]
      have harmless : Harmless (",\"Response\":".toList ++ (response ++ ['\x7d'])) := by
        refine ⟨?_, ?_, ?_⟩
        · exact unkeyed_of_next [','] (by decide) (by decide) (by decide)
        · exact silent.append _ (by decide)
        · exact guarded.append _ (by decide)
      rw [parts]
      exact (harmless.sealed_written stage.toList).append _ (by decide)

/-! ## Which drafts are read -/

/-- A draft in writing goes from an opening to a closing brace. -/
theorem braces_text (draft : Draft) :
    draft.text.toList.head? = some '\x7b' ∧ draft.text.toList.getLast? = some '\x7d' := by
  rw [Draft.text, Json.compact, String.toList_ofList]
  exact Json.encode_object_braces _

/-- A draft in writing is read as it is meant unless it holds two fences, one behind the other, and
is refused if it does.  Any other text that is the object of the draft and nothing else is read as
the draft is meant, too, unless it holds two fences. -/
theorem ofText_draft_iff (draft : Draft) :
    (ofText draft.text = .ok draft.meant ↔ ¬ Fenced draft.text.toList) ∧
      ((∃ fault, ofText draft.text = .error fault) ↔ Fenced draft.text.toList) ∧
      ∀ text : String, text.toList.head? = some '\x7b' → text.toList.getLast? = some '\x7d' →
        Json.value? text = some draft.value → ¬ Fenced text.toList →
        ofText text = .ok draft.meant := by
  obtain ⟨opens, closes⟩ := braces_text draft
  have accepted (unfenced : ¬ Fenced draft.text.toList) : ofText draft.text = .ok draft.meant :=
    ofText_of_not_fenced opens closes (value?_text draft) unfenced
  have refused (fenced : Fenced draft.text.toList) : ∃ fault, ofText draft.text = .error fault :=
    (sealed_text draft).refused opens closes fenced
  refine ⟨⟨?_, accepted⟩, ⟨?_, refused⟩, ?_⟩
  · intro read fenced
    obtain ⟨fault, failed⟩ := refused fenced
    rw [read] at failed
    cases failed
  · intro failed
    by_contra unfenced
    obtain ⟨fault, failed⟩ := failed
    rw [accepted unfenced] at failed
    cases failed
  · intro text opens closes written unfenced
    exact ofText_of_not_fenced opens closes written unfenced

/-- A text and a film, with a stage; the text holds a brace and single backticks. -/
def offerDraft : Draft where
  stage := some "Offer"
  items :=
    [{ type := .text, content := "Use `a` \x7bhere", trimmed := by decide +kernel,
       filled := by decide },
     { type := .media, content := "https://h.test/v.mp4", kindText := some "video",
       trimmed := by decide +kernel, filled := by decide }]
  trimmed := by
    intro text isStage
    cases isStage
    decide +kernel

/-- The offer is read as it is meant. -/
theorem ofText_draft_iff_offer :
    offerDraft.text.toList.head? = some '\x7b' ∧ offerDraft.text.toList.getLast? = some '\x7d' ∧
      Json.value? offerDraft.text = some offerDraft.value ∧ ¬ Fenced offerDraft.text.toList ∧
      ofText offerDraft.text =
        .ok { stage := some "Offer"
              items := [{ media := none, content := "Use `a` \x7bhere" },
                { media := some (some .video), content := "https://h.test/v.mp4" }] } := by
  obtain ⟨opens, closes⟩ := braces_text offerDraft
  have written := value?_text offerDraft
  have unfenced : ¬ Fenced offerDraft.text.toList := by
    intro fenced
    obtain ⟨front, inside, back, whole⟩ := fenced
    have absent : ¬ fence <:+: offerDraft.text.toList := by
      rw [← Text.occursIn_iff]
      decide +kernel
    exact absent ⟨front, inside ++ fence ++ back, by simp [whole]⟩
  exact ⟨opens, closes, written, unfenced,
    (ofText_draft_iff offerDraft).2.2 offerDraft.text opens closes written unfenced⟩

/-- A text with a piece of code in it. -/
def codeDraft : Draft where
  stage := none
  items := [{ type := .text, content := "Use ```a``` here", trimmed := by decide +kernel,
              filled := by decide }]
  trimmed := by
    intro text isStage
    cases isStage

/-- What stands between the fences of the code is all that is left of the draft, and it holds no
object. -/
theorem not_reads_code :
    codeDraft.text =
        "\x7b\"Response\":[\x7b\"type\":\"text\",\"content\":\"Use ```a``` here\"\x7d]\x7d" ∧
      ofText codeDraft.text = .error .noObject ∧
      ¬ ∀ draft : Draft, ofText draft.text = .ok draft.meant := by
  have written : codeDraft.text =
      "\x7b\"Response\":[\x7b\"type\":\"text\",\"content\":\"Use ```a``` here\"\x7d]\x7d" := by
    decide +kernel
  have nothing : body? codeDraft.text = none := by decide +kernel
  have refused : ofText codeDraft.text = .error .noObject := by rw [ofText, nothing]
  refine ⟨written, refused, ?_⟩
  intro reads
  have read := reads codeDraft
  rw [refused] at read
  cases read

end Reply
end ChatFlow
