import ChatFlow.Json.Writing
import ChatFlow.Text.Ascii
import ChatFlow.Text.Search

/-!
# Addresses

An address names a scheme, a host and a path.  It is brought into a standard form: the scheme and
the host in lower case, the usual port left out, `.` and `..` resolved, and characters that may
not stand in an address written as their bytes in hexadecimal.  Where a path is read, a percent
sign and two hexadecimal digits stand for a byte; a percent sign that is not followed by two such
digits stands for itself.
-/

namespace ChatFlow
namespace Http

/-- An address in its standard form. -/
structure Url where
  /-- The scheme. -/
  scheme : String
  /-- The host, with a port that is not the usual one; some schemes need none. -/
  authority : Option String
  /-- The path and what follows it. -/
  rest : String
deriving DecidableEq, Inhabited, Repr

namespace Url

/-- The text of an address. -/
def text (url : Url) : String :=
  match url.authority with
  | some authority => url.scheme ++ "://" ++ authority ++ url.rest
  | none => url.scheme ++ ":" ++ url.rest

/-- The usual port of a scheme that needs a host. -/
def usualPort? : String → Option Nat
  | "http" | "ws" => some 80
  | "https" | "wss" => some 443
  | "ftp" => some 21
  | _ => none

/-- The characters that can begin a scheme. -/
def isLetter (c : Char) : Bool :=
  ('a' ≤ c && c ≤ 'z') || ('A' ≤ c && c ≤ 'Z')

/-- The characters of a scheme. -/
def isSchemeChar (c : Char) : Bool :=
  isLetter c || Text.isDigit c || c == '+' || c == '-' || c == '.'

/-- Writes a byte in hexadecimal. -/
def percentByte (byte : UInt8) : List Char :=
  ['%', Text.upperHexDigit (byte.toNat / 16), Text.upperHexDigit (byte.toNat % 16)]

/-- Writes the characters of a set, the controls and all that is not ASCII as bytes. -/
def percentEncode (set : List Char) (characters : List Char) : List Char :=
  characters.flatMap fun c =>
    if set.contains c || c.toNat < 0x20 || 0x7F ≤ c.toNat then
      (String.singleton c).toUTF8.toList.flatMap percentByte
    else [c]

/-- The characters that are written as bytes in a fragment. -/
def fragmentSet : List Char := [' ', '"', '<', '>', '`']

/-- The characters that are written as bytes in a path. -/
def pathSet : List Char := '#' :: '?' :: '\x7b' :: '\x7d' :: fragmentSet

/-- The characters that are written as bytes in a query. -/
def querySet : List Char := [' ', '"', '#', '<', '>', '\'']

/-- The characters that are written as bytes in a user's name. -/
def userSet : List Char := "/:;=@[\\]^|".toList ++ pathSet

/-- The characters that no host holds. -/
def isForbidden (c : Char) : Bool :=
  c.toNat ≤ 0x20 || c.toNat == 0x7F || "#/:<>?@[\\]^|%".toList.contains c

/-- The steps of a path with `.` and `..` resolved, in reverse; the last step may be empty. -/
def resolve (steps : List (List Char)) : List (List Char) → List (List Char)
  | [] => steps
  | step :: rest =>
    if step = ['.', '.'] then
      resolve (if rest.isEmpty then [] :: steps.drop 1 else steps.drop 1) rest
    else if step = ['.'] then resolve (if rest.isEmpty then [] :: steps else steps) rest
    else resolve (step :: steps) rest

/-- The standard form of a path, its query and its fragment. -/
def standardRest (characters : List Char) : List Char :=
  let path := characters.takeWhile fun c => c != '?' && c != '#'
  let tail := characters.dropWhile fun c => c != '?' && c != '#'
  let slashed := path.map fun c => if c = '\\' then '/' else c
  let steps := resolve [] ((Text.splitOnChar '/' slashed).drop 1)
  let written := steps.reverse.flatMap fun step => '/' :: percentEncode pathSet step
  let query := tail.takeWhile (· != '#')
  let fragment := tail.dropWhile (· != '#')
  (if written.isEmpty then ['/'] else written) ++ query.take 1 ++
    percentEncode querySet (query.drop 1) ++ fragment.take 1 ++
    percentEncode fragmentSet (fragment.drop 1)

/-- The standard form of a port behind its colon: nothing for the usual one, none when it is no
port. -/
def standardPort? (usual : Nat) (digits : List Char) : Option (List Char) :=
  let port := digits.foldl (fun value digit => value * 10 + Text.digitValue digit) 0
  if !digits.all Text.isDigit || 65535 < port then none
  else if digits.isEmpty || port = usual then some []
  else some (':' :: Json.encodeNat port)

/-- The standard form of a host with its user and port. -/
def standardAuthority? (usual : Nat) (characters : List Char) : Option (List Char) := do
  let behind := (characters.reverse.takeWhile (· != '@')).reverse
  let user := (characters.take (characters.length - behind.length)).dropLast
  let host := behind.takeWhile (· != ':')
  let port ← standardPort? usual ((behind.dropWhile (· != ':')).drop 1)
  if host.isEmpty || host.any isForbidden then none
  else
    let userText :=
      if user.isEmpty then [] else percentEncode userSet (user.takeWhile (· != ':')) ++
        (user.dropWhile (· != ':')).take 1 ++
        percentEncode userSet ((user.dropWhile (· != ':')).drop 1) ++ ['@']
    return userText ++ host.map Text.lowerAsciiChar ++ port

/-- Reads the address with a scheme from what stands behind the colon. -/
def ofScheme? (scheme : String) (rest : List Char) : Option Url :=
  match usualPort? scheme with
  | some usual => do
    let start := rest.dropWhile fun c => c == '/' || c == '\\'
    let isEnd (c : Char) : Bool := c == '/' || c == '\\' || c == '?' || c == '#'
    let authority ← standardAuthority? usual (start.takeWhile fun c => !isEnd c)
    let rest := standardRest (start.dropWhile fun c => !isEnd c)
    return { scheme, authority := some (String.ofList authority), rest := String.ofList rest }
  | none => some { scheme, authority := none, rest := String.ofList (percentEncode [] rest) }

/-- Reads an address; blanks around it and ends of lines inside do not matter. -/
def ofText? (text : String) : Option Url :=
  let isEdge (c : Char) : Bool := c.toNat ≤ 0x20
  let trimmed := ((text.toList.dropWhile isEdge).reverse.dropWhile isEdge).reverse
  let characters := trimmed.filter fun c => c != '\t' && c != '\n' && c != '\r'
  let scheme := characters.takeWhile isSchemeChar
  match characters.dropWhile isSchemeChar with
  | ':' :: rest =>
    if scheme.head?.any isLetter then
      ofScheme? (String.ofList (scheme.map Text.lowerAsciiChar)) rest
    else none
  | _ => none

end Url

/-! ## Reading percent signs -/

/-- The bytes that characters stand for. -/
def percentBytes : List Char → List UInt8
  | [] => []
  | '%' :: high :: low :: rest =>
    if Text.isHexDigit high && Text.isHexDigit low then
      UInt8.ofNat (Text.hexDigitValue high * 16 + Text.hexDigitValue low) :: percentBytes rest
    else '%'.toNat.toUInt8 :: percentBytes (high :: low :: rest)
  | c :: rest => (String.singleton c).toUTF8.toList ++ percentBytes rest

/-- The text that characters stand for, unless their bytes are no UTF-8. -/
def percentDecode? (characters : List Char) : Option String :=
  String.fromUTF8? ⟨(percentBytes characters).toArray⟩

end Http
end ChatFlow
