import ChatFlow.Text.Search

/-!
# Chunks of long messages

A channel takes messages up to some number of bytes.  A longer message is cut into chunks: whole
lines are packed together as long as they fit, and only a line that is too long by itself is cut
inside, between two characters.  The newline between two chunks is dropped.
-/

namespace ChatFlow
namespace Outbound

/-- The bytes of a list of characters in UTF-8. -/
def byteSize : List Char → Nat
  | [] => 0
  | c :: rest => c.utf8Size + byteSize rest

/-- The lines of a text, between its newlines; one more than there are newlines. -/
def lines (characters : List Char) : List (List Char) :=
  Text.splitOnChar '\n' characters

/-- Cuts a line into pieces of at most `limit` bytes, each as long as possible; `room` is what is
left of the first piece.  The last piece may be empty. -/
def pieces (limit room : Nat) : List Char → List (List Char)
  | [] => [[]]
  | c :: rest =>
    if c.utf8Size ≤ room then
      match pieces limit (room - c.utf8Size) rest with
      | piece :: more => (c :: piece) :: more
      | [] => [[c]]
    else
      match pieces limit (limit - c.utf8Size) rest with
      | piece :: more => [] :: (c :: piece) :: more
      | [] => [[], [c]]

/-- A chunk on its own, unless it is empty. -/
def filled (chunk : List Char) : List (List Char) :=
  if chunk.isEmpty then [] else [chunk]

/-- Packs lines into chunks, `current` being the chunk that is being filled. -/
def pack (limit : Nat) (current : List Char) : List (List Char) → List (List Char)
  | [] => filled current
  | line :: rest =>
    let needed :=
      if current.isEmpty then byteSize line else byteSize current + 1 + byteSize line
    if needed ≤ limit then
      pack limit (if current.isEmpty then line else current ++ '\n' :: line) rest
    else
      let parts := pieces limit limit line
      filled current ++ parts.dropLast ++ pack limit (parts.getLast?.getD []) rest

/-- The least limit that is respected: room for any one character. -/
def leastLimit : Nat := 4

/-- The chunks of a list of characters. -/
def chunksOfChars (limit : Nat) (characters : List Char) : List (List Char) :=
  let limit := max limit leastLimit
  if byteSize characters ≤ limit then [characters] else pack limit [] (lines characters)

/-- The chunks of a text. -/
def chunks (limit : Nat) (text : String) : List String :=
  (chunksOfChars limit text.toList).map String.ofList

/-- A text within the limit is its only chunk. -/
theorem chunksOfChars_of_le
    (limit : Nat) (characters : List Char)
    (fits : byteSize characters ≤ max limit leastLimit) :
    chunksOfChars limit characters = [characters] := by
  simp [chunksOfChars, fits]

end Outbound
end ChatFlow
