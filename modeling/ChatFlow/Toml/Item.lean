import ChatFlow.Toml.Value

/-!
# Tables while a document is read

The parts of a document name tables from several sides: by headers, and by keys with dots.  While
it is read, an item remembers how it came to be, because that decides what may be added to it: a
header may not name a table twice, a key with dots may not reach into a table that a header or a
value made, and no key may be set twice.
-/

namespace ChatFlow
namespace Toml

/-- How a table came to be. -/
inductive Origin where
  /-- It has its own header. -/
  | header
  /-- It lies on the way to a header. -/
  | implied
  /-- It lies on the way to the last part of a key with dots. -/
  | dotted
deriving DecidableEq, Inhabited, Repr

/-- What stands under a key. -/
inductive Item where
  /-- A value. -/
  | value (value : Value)
  /-- A table. -/
  | table (origin : Origin) (fields : List (String × Item))
  /-- A list of tables, each with its own header, the latest last. -/
  | tables (tables : List (List (String × Item)))
deriving Inhabited, Repr

/-- The items of a table by their keys. -/
abbrev Items := List (String × Item)

namespace Items

/-- The item of a key. -/
def get? (items : Items) (key : String) : Option Item :=
  (items.find? fun pair => pair.1 == key).map Prod.snd

/-- Sets the item of a key, in its place if it has one. -/
def set (items : Items) (key : String) (item : Item) : Items :=
  if items.any fun pair => pair.1 == key then
    items.map fun pair => if pair.1 == key then (key, item) else pair
  else items ++ [(key, item)]

/-- Changes the table at the end of a path, whose origin the change is told; tables that are
missing on the way are added.  None when the path cannot be walked: it leads through a value, or,
being part of a key with dots, through a table that has a header. -/
def alter
    (dotted : Bool) (change : Origin → Items → Option Items) :
    (path : List String) → Origin → Items → Option Items
  | [], origin, items => change origin items
  | key :: path, _, items =>
    match items.get? key with
    | none =>
      let origin := if dotted then Origin.dotted else Origin.implied
      (alter dotted change path origin []).map fun inner => items.set key (.table origin inner)
    | some (.value _) => none
    | some (.table origin inner) =>
      if dotted ∧ origin = .header then none
      else
        (alter dotted change path origin inner).map fun inner =>
          items.set key (.table origin inner)
    | some (.tables tables) =>
      (alter dotted change path .header (tables.getLastD [])).map fun inner =>
        items.set key (.tables (tables.dropLast ++ [inner]))

/-- Sets the value of a key with dots, which must be new. -/
def assign (path : List String) (key : String) (value : Value) : Items → Option Items :=
  alter true
    (fun origin items =>
      if !path.isEmpty && origin ≠ .dotted then none
      else if (items.get? key).isSome then none
      else some (items.set key (.value value)))
    path .header

/-- Sets the value of a key with dots in the table with a header. -/
def assignIn (header path : List String) (key : String) (value : Value) (items : Items) :
    Option Items :=
  alter false (fun _ table => assign path key value table) header .header items

/-- Begins the table with a header. -/
def beginTable (path : List String) (key : String) : Items → Option Items :=
  alter false
    (fun _ items =>
      match items.get? key with
      | none => some (items.set key (.table .header []))
      | some (.table .implied inner) => some (items.set key (.table .header inner))
      | some _ => none)
    path .header

/-- Begins the next table of the list with a header. -/
def beginNext (path : List String) (key : String) : Items → Option Items :=
  alter false
    (fun _ items =>
      match items.get? key with
      | none => some (items.set key (.tables [[]]))
      | some (.tables tables) => some (items.set key (.tables (tables ++ [[]])))
      | some _ => none)
    path .header

end Items

mutual

/-- The value of an item. -/
def Item.toValue : Item → Value
  | .value given => given
  | .table _ fields => .table (Item.toFields fields)
  | .tables list => .array (Item.toTables list)

/-- The values of the items of a table. -/
def Item.toFields : List (String × Item) → List (String × Value)
  | [] => []
  | (key, item) :: rest => (key, item.toValue) :: Item.toFields rest

/-- The values of a list of tables. -/
def Item.toTables : List (List (String × Item)) → List Value
  | [] => []
  | fields :: rest => .table (Item.toFields fields) :: Item.toTables rest

end

end Toml
end ChatFlow
