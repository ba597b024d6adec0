import ChatFlow.Toml.Item
import ChatFlow.Toml.Quoted
import ChatFlow.Toml.Scalar

/-!
# Reading TOML documents

A document is a list of lines: headers that begin tables, and keys with their values.  `value?`
reads a whole document; it is none when any rule of the format is broken.
-/

namespace ChatFlow
namespace Toml

/-- As many parts as a key may not have, and as many arrays and inline tables as may not lie in
each other. -/
def depthLimit : Nat := 80

/-- Drops spaces and tabs. -/
def skipBlanks (characters : List Char) : List Char :=
  characters.dropWhile fun c => c == ' ' || c == '\t'

/-- Drops a comment, if one begins here. -/
def skipComment : List Char → List Char
  | '#' :: rest => rest.dropWhile isPlain
  | rest => rest

/-- Drops the end of a line. -/
def dropNewline? : List Char → Option (List Char)
  | '\n' :: rest => some rest
  | '\r' :: '\n' :: rest => some rest
  | _ => none

/-- Drops what may stand behind a header or a value on its line, and the end of the line. -/
def endLine? (characters : List Char) : Option (List Char) :=
  match skipComment (skipBlanks characters) with
  | [] => some []
  | rest => dropNewline? rest

/-- Drops blanks, ends of lines and comments. -/
def skipLines : (fuel : Nat) → List Char → List Char
  | 0, characters => characters
  | fuel + 1, characters =>
    match skipBlanks characters with
    | '#' :: rest => skipLines fuel (rest.dropWhile isPlain)
    | rest =>
      match dropNewline? rest with
      | some rest => skipLines fuel rest
      | none => rest

/-- Drops blanks, ends of lines and comments. -/
def skipSpace (characters : List Char) : List Char :=
  skipLines characters.length characters

/-- The characters of a key without quotes. -/
def isKeyChar (c : Char) : Bool :=
  c.isAlphanum || c == '_' || c == '-'

/-- Reads one part of a key. -/
def readKeyPart (characters : List Char) : Option (String × List Char) :=
  match characters with
  | '"' :: rest => (readQuoted rest).map fun (text, rest) => (String.ofList text, rest)
  | '\'' :: rest => (readLiteral rest).map fun (text, rest) => (String.ofList text, rest)
  | _ =>
    let name := characters.takeWhile isKeyChar
    if name.isEmpty then none
    else some (String.ofList name, characters.dropWhile isKeyChar)

/-- Reads a key: its parts with dots between them, and blanks anywhere around these. -/
def readKeyParts : (fuel : Nat) → List Char → Option (List String × List Char)
  | 0, _ => none
  | fuel + 1, characters => do
    let (part, rest) ← readKeyPart (skipBlanks characters)
    match skipBlanks rest with
    | '.' :: rest => do
      let (parts, rest) ← readKeyParts fuel rest
      return (part :: parts, rest)
    | rest => return ([part], rest)

/-- Reads a key; returns the path to its last part, the last part and the rest. -/
def readKey (characters : List Char) : Option (List String × String × List Char) := do
  let (parts, rest) ← readKeyParts (characters.length + 1) characters
  if depthLimit ≤ parts.length then none
  else return (parts.dropLast, ← parts.getLast?, rest)

mutual

/-- Reads a value, `depth` being the number of arrays and inline tables that may still begin. -/
def readValue (fuel depth : Nat) (characters : List Char) : Option (Value × List Char) :=
  match fuel with
  | 0 => none
  | fuel + 1 =>
    match characters with
    | '[' :: rest =>
      if depth = 0 then none
      else (readItems fuel (depth - 1) rest).map fun (items, rest) => (.array items, rest)
    | '\x7b' :: rest =>
      if depth = 0 then none
      else
        match skipBlanks rest with
        | '\x7d' :: rest => some (.table [], rest)
        | rest =>
          (readPairs fuel (depth - 1) [] rest).map fun (items, rest) =>
            (.table (Item.toFields items), rest)
    | '"' :: _ | '\'' :: _ =>
      (readText characters).map fun (text, rest) => (.string text, rest)
    | _ => readScalar characters

/-- Reads the items of an array and the closing bracket. -/
def readItems (fuel depth : Nat) (characters : List Char) : Option (List Value × List Char) :=
  match fuel with
  | 0 => none
  | fuel + 1 =>
    match skipSpace characters with
    | ']' :: rest => some ([], rest)
    | rest => do
      let (item, rest) ← readValue fuel depth rest
      match skipSpace rest with
      | ']' :: rest => return ([item], rest)
      | ',' :: rest => do
        let (items, rest) ← readItems fuel depth rest
        return (item :: items, rest)
      | _ => none

/-- Reads the pairs of an inline table, at least one, and the closing brace. -/
def readPairs (fuel depth : Nat) (items : Items) (characters : List Char) :
    Option (Items × List Char) :=
  match fuel with
  | 0 => none
  | fuel + 1 => do
    let (path, key, rest) ← readKey characters
    let rest ← dropMark? '=' rest
    let (value, rest) ← readValue fuel depth (skipBlanks rest)
    let items ← items.assign path key value
    match skipBlanks rest with
    | '\x7d' :: rest => return (items, rest)
    | ',' :: rest => readPairs fuel depth items rest
    | _ => none

end

/-- Reads a header behind its opening brackets; returns the path to the table and what stands
behind the closing ones. -/
def readHeader (closing : List Char) (characters : List Char) :
    Option (List String × String × List Char) := do
  let (path, key, rest) ← readKey characters
  if closing.isPrefixOf rest then return (path, key, ← endLine? (rest.drop closing.length))
  else none

/-- Reads a key and its value on one line. -/
def readAssignment (characters : List Char) :
    Option (List String × String × Value × List Char) := do
  let (path, key, rest) ← readKey characters
  let rest ← dropMark? '=' rest
  let (value, rest) ← readValue (2 * characters.length) (depthLimit - 1) (skipBlanks rest)
  return (path, key, value, ← endLine? rest)

/-- Reads the lines of a document, `header` being the path to the current table. -/
def readLines : (fuel : Nat) → (header : List String) → Items → List Char → Option Items
  | 0, _, _, _ => none
  | fuel + 1, header, items, characters =>
    match skipBlanks characters with
    | [] => some items
    | '#' :: rest => do readLines fuel header items (← endLine? ('#' :: rest))
    | '[' :: '[' :: rest => do
      let (path, key, rest) ← readHeader [']', ']'] rest
      readLines fuel (path ++ [key]) (← items.beginNext path key) rest
    | '[' :: rest => do
      let (path, key, rest) ← readHeader [']'] rest
      readLines fuel (path ++ [key]) (← items.beginTable path key) rest
    | rest =>
      match dropNewline? rest with
      | some rest => readLines fuel header items rest
      | none => do
        let (path, key, value, rest) ← readAssignment rest
        readLines fuel header (← items.assignIn header path key value) rest

/-- Reads a document; a byte order mark at its beginning does not matter. -/
def value? (text : String) : Option Value :=
  let characters :=
    match text.toList with
    | '\uFEFF' :: rest => rest
    | characters => characters
  (readLines (characters.length + 1) [] [] characters).map fun items =>
    .table (Item.toFields items)

end Toml
end ChatFlow
