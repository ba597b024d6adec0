import ChatFlow.Http.Status
import ChatFlow.Http.Url

/-!
# Requests and answers

A client makes requests through a network, which is whatever carries a request to a server and
brings back an answer or none.  A request that cannot be written down never reaches the network.
-/

namespace ChatFlow
namespace Http

/-- What a request asks for. -/
inductive Method where
  /-- What is there. -/
  | get
  /-- What is there, without its body. -/
  | head
  /-- To take what is sent. -/
  | post
deriving DecidableEq, Inhabited, Repr

/-- The name of a method. -/
def Method.name : Method → String
  | .get => "GET"
  | .head => "HEAD"
  | .post => "POST"

/-- A request. -/
structure Request where
  /-- What is asked for. -/
  method : Method
  /-- The address, as it is given. -/
  url : String
  /-- The token that is shown. -/
  token : Option String := none
  /-- The bytes that are asked for, if not all are. -/
  range : Option String := none
  /-- What is sent. -/
  body : Option Json.Value := none
deriving Inhabited, Repr

/-- An answer. -/
structure Response where
  /-- The status code. -/
  status : Nat
  /-- The content type, if it is given and is plain text. -/
  contentType : Option String := none
  /-- The body. -/
  body : String := ""
deriving DecidableEq, Inhabited, Repr

/-- Why there is no answer. -/
inductive Failure where
  /-- The request cannot be written down. -/
  | unwritable
  /-- The address names no host. -/
  | hostless (url : Url)
  /-- The network brings no answer. -/
  | unanswered (url : Url)
deriving DecidableEq, Inhabited, Repr

/-- The text of a failure. -/
def Failure.message : Failure → String
  | .unwritable => "builder error"
  | .hostless url => "builder error for url (" ++ url.text ++ ")"
  | .unanswered url => "error sending request for url (" ++ url.text ++ ")"

/-- Whether a token can be shown: it holds no control characters but tabs. -/
def isShowable (token : String) : Bool :=
  token.toList.all fun c => c == '\t' || (0x20 ≤ c.toNat && c.toNat != 0x7F)

/-- The address of a request that can be written down. -/
def Request.check (request : Request) : Except Failure Url :=
  match Url.ofText? request.url with
  | none => .error .unwritable
  | some url =>
    if url.authority.isNone then .error (.hostless url)
    else if !request.token.all isShowable then .error .unwritable
    else .ok url

/-- What carries requests, the second argument being the address in its standard form. -/
abbrev Network (m : Type → Type) := Request → Url → m (Option Response)

/-- Makes a request. -/
def exchange [Monad m] (network : Network m) (request : Request) :
    m (Except Failure Response) := do
  match request.check with
  | .error failure => return .error failure
  | .ok url =>
    match ← network request url with
    | some response => return .ok response
    | none => return .error (.unanswered url)

/-- A base address and a path that goes on from it. -/
def endpoint (base path : String) : String :=
  String.ofList (base.toList.reverse.dropWhile (· == '/')).reverse ++ "/" ++ path

end Http
end ChatFlow
