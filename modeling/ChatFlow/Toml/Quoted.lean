import ChatFlow.Json.Reading

/-!
# Quoted texts of TOML

Texts stand between quotes, with escapes, or between apostrophes, as they are; three of either
allow the text to span lines.  Each function reads a text behind its opening quotes and returns
what stands behind the closing ones.
-/

namespace ChatFlow
namespace Toml

/-- The characters that texts and comments may hold: all but the controls, save the tab. -/
def isPlain (c : Char) : Bool :=
  c == '\t' || (0x20 ≤ c.toNat && c.toNat != 0x7F)

/-- The character with a number, if there is one. -/
def scalarChar? (number : Nat) : Option Char :=
  if number.isValidChar then some (Char.ofNat number) else none

/-- The character named by a short escape. -/
def shortEscape? : Char → Option Char
  | '"' => some '"'
  | '\\' => some '\\'
  | 'b' => some '\x08'
  | 'f' => some '\x0c'
  | 'n' => some '\n'
  | 'r' => some '\r'
  | 't' => some '\t'
  | _ => none

/-- Puts characters in front of a text that was read. -/
def prepend (front : List Char) (read : Option (List Char × List Char)) :
    Option (List Char × List Char) :=
  read.map fun (text, rest) => (front ++ text, rest)

/-- The character written by eight hexadecimal digits. -/
def longEscape? (high low : Option Nat) : Option Char := do
  scalarChar? ((← high) * 0x10000 + (← low))

/-- Reads a text on one line, with escapes. -/
def readQuoted : List Char → Option (List Char × List Char)
  | [] => none
  | '"' :: rest => some ([], rest)
  | '\\' :: 'u' :: a :: b :: c :: d :: rest => do
    let char ← (Json.unit? a b c d).bind scalarChar?
    prepend [char] (readQuoted rest)
  | '\\' :: 'U' :: a :: b :: c :: d :: e :: f :: g :: h :: rest => do
    let char ← longEscape? (Json.unit? a b c d) (Json.unit? e f g h)
    prepend [char] (readQuoted rest)
  | '\\' :: mark :: rest => do
    let char ← shortEscape? mark
    prepend [char] (readQuoted rest)
  | c :: rest => if isPlain c && c != '\\' then prepend [c] (readQuoted rest) else none

/-- Reads a text on one line, as it is. -/
def readLiteral : List Char → Option (List Char × List Char)
  | [] => none
  | '\'' :: rest => some ([], rest)
  | c :: rest => if isPlain c then prepend [c] (readLiteral rest) else none

/-- What the reader of a text on several lines has just seen. -/
inductive LineState where
  /-- Nothing special. -/
  | within
  /-- A backslash and blanks, after which the line has to end. -/
  | ending
  /-- The end of such a line, after which blanks and empty lines are skipped. -/
  | skipping
deriving DecidableEq, Repr

/-- Reads a text on several lines, with escapes.  A backslash at the end of a line drops the end
of the line and the blanks after it. -/
def readQuotedLines : LineState → List Char → Option (List Char × List Char)
  | _, [] => none
  | .ending, '\r' :: '\n' :: rest => readQuotedLines .skipping rest
  | .ending, c :: rest =>
    if c = '\n' then readQuotedLines .skipping rest
    else if c = ' ' ∨ c = '\t' then readQuotedLines .ending rest
    else none
  | .skipping, ' ' :: rest => readQuotedLines .skipping rest
  | .skipping, '\t' :: rest => readQuotedLines .skipping rest
  | .skipping, '\n' :: rest => readQuotedLines .skipping rest
  | .skipping, '\r' :: '\n' :: rest => readQuotedLines .skipping rest
  | _, '"' :: '"' :: '"' :: '"' :: '"' :: rest => some (['"', '"'], rest)
  | _, '"' :: '"' :: '"' :: '"' :: rest => some (['"'], rest)
  | _, '"' :: '"' :: '"' :: rest => some ([], rest)
  | _, '\r' :: '\n' :: rest => prepend ['\n'] (readQuotedLines .within rest)
  | _, '\n' :: rest => prepend ['\n'] (readQuotedLines .within rest)
  | _, '\\' :: 'u' :: a :: b :: c :: d :: rest => do
    let char ← (Json.unit? a b c d).bind scalarChar?
    prepend [char] (readQuotedLines .within rest)
  | _, '\\' :: 'U' :: a :: b :: c :: d :: e :: f :: g :: h :: rest => do
    let char ← longEscape? (Json.unit? a b c d) (Json.unit? e f g h)
    prepend [char] (readQuotedLines .within rest)
  | _, '\\' :: mark :: rest =>
    match shortEscape? mark with
    | some char => prepend [char] (readQuotedLines .within rest)
    | none =>
      if mark = '\n' then readQuotedLines .skipping rest
      else if mark = ' ' ∨ mark = '\t' then readQuotedLines .ending rest
      else
        match mark, rest with
        | '\r', '\n' :: rest => readQuotedLines .skipping rest
        | _, _ => none
  | _, c :: rest =>
    if isPlain c && c != '\\' then prepend [c] (readQuotedLines .within rest) else none

/-- Reads a text on several lines, as it is. -/
def readLiteralLines : List Char → Option (List Char × List Char)
  | [] => none
  | '\'' :: '\'' :: '\'' :: '\'' :: '\'' :: rest => some (['\'', '\''], rest)
  | '\'' :: '\'' :: '\'' :: '\'' :: rest => some (['\''], rest)
  | '\'' :: '\'' :: '\'' :: rest => some ([], rest)
  | '\r' :: '\n' :: rest => prepend ['\n'] (readLiteralLines rest)
  | '\n' :: rest => prepend ['\n'] (readLiteralLines rest)
  | c :: rest => if isPlain c then prepend [c] (readLiteralLines rest) else none

/-- Drops the end of a line directly behind the opening quotes. -/
def dropFirstNewline : List Char → List Char
  | '\n' :: rest => rest
  | '\r' :: '\n' :: rest => rest
  | rest => rest

/-- Reads a text of any of the four kinds with its quotes. -/
def readText : List Char → Option (String × List Char)
  | '"' :: '"' :: '"' :: rest => finish (readQuotedLines .within (dropFirstNewline rest))
  | '\'' :: '\'' :: '\'' :: rest => finish (readLiteralLines (dropFirstNewline rest))
  | '"' :: rest => finish (readQuoted rest)
  | '\'' :: rest => finish (readLiteral rest)
  | _ => none
where
  /-- Makes a text of the characters that were read. -/
  finish (read : Option (List Char × List Char)) : Option (String × List Char) :=
    read.map fun (text, rest) => (String.ofList text, rest)

end Toml
end ChatFlow
