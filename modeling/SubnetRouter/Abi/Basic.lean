import SubnetRouter.Json.Value

/-!
# Contract ABIs

The ABI of a contract is a JSON value as compilers write it: an array whose objects describe
functions, events and errors.
-/

namespace SubnetRouter

/-- The ABI of a contract. -/
abbrev Abi := Json

/-- Where the ABIs of contracts are looked up by name. -/
abbrev AbiSource := String → Option Abi

namespace Abi

/-- What an entry describes: its type if that is a string, else a function. -/
def entryKind (entry : Json) : String :=
  ((entry.member? "type").bind Json.string?).getD "function"

def entryName? (entry : Json) : Option String :=
  (entry.member? "name").bind Json.string?

def describes (method : String) (entry : Json) : Bool :=
  entryKind entry == "function" && entryName? entry == some method

def declares (abi : Abi) (method : String) : Bool :=
  match abi with
  | .array entries => entries.any (describes method)
  | _ => false

end Abi

end SubnetRouter
