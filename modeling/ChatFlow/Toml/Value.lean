import ChatFlow.Decimal.Binary

/-!
# Values of a TOML document

What a TOML document says: texts, numbers, truth values, dates and times, arrays and tables.  The
fields of a table are kept in the order in which they were written.
-/

namespace ChatFlow
namespace Toml

/-- A value of a TOML document. -/
inductive Value where
  /-- A text. -/
  | string (text : String)
  /-- An integer. -/
  | integer (number : Int)
  /-- A floating-point number. -/
  | float (number : Double)
  /-- A truth value. -/
  | bool (value : Bool)
  /-- A date, a time or both, as it is written. -/
  | moment (text : String)
  /-- Several values. -/
  | array (items : List Value)
  /-- Values by their names. -/
  | table (fields : List (String × Value))
deriving Inhabited, Repr

namespace Value

/-- The text of a value that is one. -/
def string? : Value → Option String
  | .string text => some text
  | _ => none

/-- The truth value of a value that is one. -/
def bool? : Value → Option Bool
  | .bool value => some value
  | _ => none

/-- The natural number up to a limit that a value is. -/
def natural? (limit : Nat) : Value → Option Nat
  | .integer number =>
    if 0 ≤ number ∧ number ≤ limit then some number.toNat else none
  | _ => none

/-- The items of a value that is an array. -/
def items? : Value → Option (List Value)
  | .array items => some items
  | _ => none

/-- The single-precision number nearest to a value that is a number. -/
def single? : Value → Option Single
  | .integer number => some (Single.ofInt number)
  | .float number => some (Single.ofDouble number)
  | _ => none

/-- The fields of a record with these names: those of a table, or the items of an array in the
order of the names.  A date or time counts as a table without any of the fields. -/
def fields? (names : List String) : Value → Option (List (String × Value))
  | .table fields => some fields
  | .array items => some (names.zip items)
  | .moment _ => some []
  | _ => none

end Value

end Toml
end ChatFlow
