import ChatFlow.Store.Basic

/-!
# History and capture rules in the store

Both are only ever added to and read in the order of addition.
-/

namespace ChatFlow
namespace Store

/-- Adds a history entry. -/
def appendHistory (store : Store) (conversation : Conversation) (entry : HistoryEntry) : Store :=
  { store with history := store.history ++ [HistoryRow.ofEntry conversation entry] }

/-- The history of a conversation. -/
def historyOf (store : Store) (conversation : Conversation) : List HistoryRow :=
  store.history.filter fun row => row.conversation == conversation

/-- The latest history entries of a conversation up to a limit, the oldest of them first. -/
def readHistory (store : Store) (conversation : Conversation) (limit : Nat) :
    List HistoryEntry :=
  (limited limit (store.historyOf conversation).reverse).reverse.map HistoryRow.toEntry

/-- Adds a capture rule. -/
def addCapture (store : Store) (device stage : String) (capture : Capture) : Store :=
  { store with captures := store.captures ++ [{ device, stage := Text.trim stage, capture }] }

/-- The capture rules of a stage on a device, in the order of addition; the case of ASCII letters
and blanks around the stage do not matter. -/
def capturesOf (store : Store) (device stage : String) : List Capture :=
  (store.captures.filter fun row =>
    row.device == device && Text.equalIgnoringAsciiCase row.stage (Text.trim stage)).map
      CaptureRow.capture

end Store
end ChatFlow
