/-!
# TOML values

A TOML document is a table.  Entries are kept in ascending order of their keys, each key once.
How a table came to be decides what may still be added to it.
-/

namespace SubnetRouter

namespace Toml

/-- How a table came to be. -/
inductive Origin where
  /-- By a header of its own, or as the document. -/
  | header
  /-- On the way to the table of a longer header. -/
  | implied
  /-- By a dotted key. -/
  | dotted
  /-- Between braces. -/
  | braces
deriving Repr, DecidableEq

end Toml

/-- A TOML value. -/
inductive Toml where
  | string (value : String)
  | integer (value : Int)
  | float (value : Float)
  /-- A number in form that denotes none, or one out of range; only readers that ask for its value
  notice. -/
  | malformed (text : String)
  | boolean (value : Bool)
  /-- A date, a time, or both, in its normal form. -/
  | datetime (text : String)
  | array (items : List Toml)
  /-- The tables of one repeated header. -/
  | tables (items : List (List (String × Toml)))
  | table (origin : Toml.Origin) (entries : List (String × Toml))

namespace Toml

instance : Inhabited Toml := ⟨.boolean false⟩

/-- The entries of a table. -/
abbrev Entries := List (String × Toml)

/-- Puts an entry at its place in the order of keys, over one of the same key. -/
def insertEntry (key : String) (value : Toml) : Entries → Entries
  | [] => [(key, value)]
  | (other, old) :: rest =>
    if key < other then (key, value) :: (other, old) :: rest
    else if key = other then (key, value) :: rest
    else (other, old) :: insertEntry key value rest

mutual

/-- All numbers of the value have values, and its integers lie from `least` to `most`. -/
def numbersWithin (least most : Int) : Toml → Bool
  | .integer value => least ≤ value && value ≤ most
  | .malformed _ => false
  | .array items => itemsWithin least most items
  | .tables items => tablesWithin least most items
  | .table _ entries => entriesWithin least most entries
  | _ => true

/-- All numbers of the items have values within the bounds. -/
def itemsWithin (least most : Int) : List Toml → Bool
  | [] => true
  | item :: items => numbersWithin least most item && itemsWithin least most items

def tablesWithin (least most : Int) : List (List (String × Toml)) → Bool
  | [] => true
  | entries :: rest => entriesWithin least most entries && tablesWithin least most rest

def entriesWithin (least most : Int) : List (String × Toml) → Bool
  | [] => true
  | (_, value) :: entries => numbersWithin least most value && entriesWithin least most entries

end

end Toml

end SubnetRouter
