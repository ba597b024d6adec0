import ChatFlow.Decimal.Binary
import ChatFlow.Keyed

/-!
# JSON values

A JSON value as the library computes with it: numbers are either integers that fit into
sixty-four bits or doubles, and an object is a list of fields in the order of their keys, without
repetition.
-/

namespace ChatFlow
namespace Json

/-- A JSON number. -/
inductive Number where
  /-- An integer between `-2 ^ 63` and `2 ^ 64 - 1`. -/
  | integer (value : Int)
  /-- Any other number, as the nearest double. -/
  | real (value : Double)
deriving DecidableEq, Inhabited, Repr

namespace Number

/-- The double nearest to a number. -/
def toDouble : Number → Double
  | .integer value => Double.ofInt value
  | .real value => value

end Number

/-- A JSON value. -/
inductive Value where
  /-- The null value. -/
  | null
  /-- A truth value. -/
  | bool (value : Bool)
  /-- A number. -/
  | number (value : Number)
  /-- A string. -/
  | string (value : String)
  /-- An array. -/
  | array (items : List Value)
  /-- An object, as its fields in the order of their keys. -/
  | object (fields : List (String × Value))
deriving Inhabited, Repr

/-- The fields of an object, in the order of their keys. -/
abbrev Fields := Keyed Value

namespace Value

/-- The text of a string value. -/
def string? : Value → Option String
  | .string text => some text
  | _ => none

/-- The value of a field of an object. -/
def field? (key : String) : Value → Option Value
  | .object fields => Keyed.get? key fields
  | _ => none

/-- An object from its fields in any order. -/
def record (pairs : List (String × Value)) : Value :=
  .object (Keyed.ofList pairs)

/-- A natural number. -/
def natural (n : Nat) : Value :=
  .number (.integer n)

/-- A text, or null when there is none. -/
def ofOption (text : Option String) : Value :=
  match text with
  | some text => .string text
  | none => .null

end Value

end Json
end ChatFlow
