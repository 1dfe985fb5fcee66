import SubnetRouter.Document.Fault
import SubnetRouter.Json.Printer
import SubnetRouter.Toml.Value

/-!
# Documents

JSON and TOML values seen alike.  Where the two formats differ, in what a choice of one name
looks like, in lists that are too long and in values that nobody asks for, the format decides.
-/

namespace SubnetRouter

/-- The kind of a document value, and its parts. -/
inductive Shape (α : Type) where
  | null
  | boolean (value : Bool)
  | integer (value : Int)
  /-- A floating-point number, in the words of its format. -/
  | float (text : String)
  | string (value : String)
  | sequence (items : List α)
  | record (members : List (String × α))

def Shape.found {α : Type} : Shape α → Found
  | .null => .null
  | .boolean value => .boolean value
  | .integer value => .integer value
  | .float text => .float text
  | .string value => .string value
  | .sequence _ => .sequence
  | .record _ => .record

/-- A document format. -/
class Document (α : Type) where
  shape : α → Shape α
  /-- The name that a choice makes, and whether what stands beside the name is admitted. -/
  choice : α → Except DocumentFault (String × Except DocumentFault Unit)
  /-- Lists may not have more items than there are fields. -/
  refusesExtraItems : Bool
  /-- The value can be passed over. -/
  canIgnore : α → Bool

/-! ## JSON -/

def Json.shape : Json → Shape Json
  | .null => .null
  | .bool value => .boolean value
  | .number (.int value _) => .integer value
  | .number (.float value) => .float (String.ofList (Json.floatLayout.chars value))
  | .string value => .string value
  | .array items => .sequence items
  | .object members => .record members

/-- A choice is a string, or an object whose one member is null. -/
def Json.choice (value : Json) : Except DocumentFault (String × Except DocumentFault Unit) :=
  match value.shape with
  | .string name => .ok (name, .ok ())
  | .record [(name, .null)] => .ok (name, .ok ())
  | .record [(name, other)] => .ok (name, .error (.wrongKind other.shape.found .nothing))
  | .record _ => .error (.badChoice "invalid value: map, expected map with a single key")
  | other => .error (.wrongKind other.found .chainKind)

instance : Document Json where
  shape := Json.shape
  choice := Json.choice
  refusesExtraItems := true
  canIgnore _ := true

/-! ## TOML -/

/-- Floating-point numbers have no exponent. -/
def Toml.floatLayout : Decimal.Layout := ⟨none, none, .up⟩

def Toml.floatText (x : Float) : String :=
  if x.isNaN then "NaN"
  else if x.isInf then (if x < 0.0 then "-inf" else "inf")
  else String.ofList (Toml.floatLayout.chars x)

/-- The kind of a TOML value.  A date counts as a record of its own, and a number without a value
as its text. -/
def Toml.shape : Toml → Shape Toml
  | .string value => .string value
  | .integer value => .integer value
  | .float value => .float (Toml.floatText value)
  | .malformed text => .float text
  | .boolean value => .boolean value
  | .datetime text => .record [("datetime", .string text)]
  | .array items => .sequence items
  | .tables items => .sequence (items.map (.table .header))
  | .table _ entries => .record entries

def Toml.kindName : Toml → String
  | .string _ => "string"
  | .integer _ => "integer"
  | .float _ => "float"
  | .malformed _ => "number"
  | .boolean _ => "boolean"
  | .datetime _ => "datetime"
  | .array _ => "array"
  | .tables _ => "array"
  | .table _ _ => "table"

/-- Only an empty table or array may stand beside the name of a choice. -/
def Toml.checkEmpty : Toml → Except DocumentFault Unit
  | .table _ [] => .ok ()
  | .table _ _ => .error (.badChoice "expected empty table")
  | .array [] => .ok ()
  | .array _ => .error (.badChoice "expected empty array")
  | .tables _ => .error (.badChoice "expected empty array")
  | other => .error (.badChoice ("expected table, found " ++ other.kindName))

/-- A choice is a string, or a table with one empty entry. -/
def Toml.choice : Toml → Except DocumentFault (String × Except DocumentFault Unit)
  | .string name => .ok (name, .ok ())
  | .table _ [(name, value)] => .ok (name, value.checkEmpty)
  | .table _ [] => .error (.badChoice "wanted exactly 1 element, found 0 elements")
  | .table _ _ => .error (.badChoice "wanted exactly 1 element, more than 1 element")
  | _ => .error (.badChoice "wanted string or table")

instance : Document Toml where
  shape := Toml.shape
  choice := Toml.choice
  refusesExtraItems := false
  canIgnore value :=
    value.numbersWithin (-0x80000000000000000000000000000000) 0xFFFFFFFFFFFFFFFFFFFFFFFFFFFFFFFF

end SubnetRouter
