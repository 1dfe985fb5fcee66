import SubnetRouter.Config.Reader
import SubnetRouter.Text.Sorted

/-!
# Built-in networks

The networks that are known by name, each with the id of its root chain and its configuration.  They
are kept as texts, which are read when a network is asked for.
-/

namespace SubnetRouter

/-- A network with a name. -/
structure Network where
  name : String
  id : SubnetId
  config : SubnetConfig
deriving Repr, DecidableEq

namespace Network

/-- A network as it is kept. -/
structure Row where
  name : String
  root : UInt64
  url : String
  registry : String
  gateway : String
deriving Repr, DecidableEq

def table : List Row :=
  [{ name := "calibration"
     root := 314159
     url := "https://api.calibration.node.glif.io/rpc/v1"
     registry := "0x0341fA160C66aBB112195192aE359a6D61df45cd"
     gateway := "0xc7068Cea947035560128a6a6F4c8913523A5A44C" }]

/-- The names of the networks in ascending order. -/
def names : List String :=
  Text.sorted (table.map (·.name))

def defaultName : String := "calibration"

def ofRow (idna : Url.Idna) (row : Row) : Except ConfigFault Network := do
  let endpoint ← Endpoint.read idna row.url
  let registry ← ContractAddress.read row.registry
  let gateway ← ContractAddress.read row.gateway
  return ⟨row.name, .ofRoot row.root, ⟨.fevm, (endpoint.withRegistry registry).withGateway gateway⟩⟩

def find (idna : Url.Idna) (name : String) : Except ConfigFault Network :=
  match table.find? (·.name == name) with
  | some row => ofRow idna row
  | none => .error (.unknownNetwork name)

end Network

end SubnetRouter
