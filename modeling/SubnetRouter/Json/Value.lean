/-!
# JSON values

Numbers are either integers, kept exactly between -2^63 and 2^64, or floating-point numbers.
The members of an object are kept in ascending order of their names, each name once; later
members replace earlier ones of the same name.
-/

namespace SubnetRouter

namespace Json

/-- The integers that are kept exactly. -/
def FitsInteger (i : Int) : Prop :=
  -0x8000000000000000 ≤ i ∧ i < 0x10000000000000000

instance (i : Int) : Decidable (FitsInteger i) :=
  inferInstanceAs (Decidable (_ ∧ _))

/-- A JSON number. -/
inductive Number where
  | int (value : Int) (fits : FitsInteger value)
  | float (value : Float)

end Json

/-- A JSON value. -/
inductive Json where
  | null
  | bool (value : Bool)
  | number (value : Json.Number)
  | string (value : String)
  | array (items : List Json)
  | object (members : List (String × Json))

namespace Json

instance : Inhabited Json := ⟨.null⟩

def ofUInt64 (n : UInt64) : Json :=
  .number (.int n.toNat ⟨by omega, by have := n.toNat_lt; omega⟩)

/-- Puts a member at its place in the order of names, over one of the same name. -/
def insertMember (name : String) (value : Json) : List (String × Json) → List (String × Json)
  | [] => [(name, value)]
  | (other, old) :: rest =>
    if name < other then (name, value) :: (other, old) :: rest
    else if name = other then (name, value) :: rest
    else (other, old) :: insertMember name value rest

/-- The object with the given members; of two with one name the later one counts. -/
def ofMembers (members : List (String × Json)) : Json :=
  .object (members.foldl (fun sorted (name, value) => insertMember name value sorted) [])

/-- The member of an object; no other value has members. -/
def member? (name : String) : Json → Option Json
  | .object members => members.lookup name
  | _ => none

def string? : Json → Option String
  | .string value => some value
  | _ => none

end Json

end SubnetRouter
