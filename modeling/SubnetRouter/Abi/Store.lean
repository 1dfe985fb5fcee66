import SubnetRouter.Abi.Basic
import SubnetRouter.Json.Reader
import SubnetRouter.RouterFault
import Std.Data.ExtTreeMap

/-!
# ABI stores

A store keeps ABIs by the names of their contracts.  It is filled by hand or from the files that
compilers write, JSON objects with the ABI as a member.
-/

namespace SubnetRouter

/-- ABIs by contract name. -/
structure AbiStore where
  abis : Std.ExtTreeMap String Abi compare

namespace AbiStore

def empty : AbiStore :=
  ⟨∅⟩

instance : Inhabited AbiStore := ⟨empty⟩

def lookup? (s : AbiStore) (name : String) : Option Abi :=
  s.abis[name]?

instance : Coe AbiStore AbiSource := ⟨lookup?⟩

/-- Stores the ABI of a contract, over one that was there. -/
def insert (s : AbiStore) (name : String) (abi : Abi) : AbiStore :=
  ⟨s.abis.insert name abi⟩

/-- There is an ABI for the contract. -/
def contains (s : AbiStore) (name : String) : Bool :=
  s.abis.contains name

def size (s : AbiStore) : Nat :=
  s.abis.size

def isEmpty (s : AbiStore) : Bool :=
  s.abis.isEmpty

/-! ## Files -/

def readArtifact (files : Files) (path : String) : Except ArtifactFault Abi :=
  match files.readText path with
  | .error fault => .error (.file fault)
  | .ok text =>
    match Json.read? text with
    | none => .error .notJson
    | some artifact =>
      match artifact.member? "abi" with
      | some abi => .ok abi
      | none => .error .noAbi

/-- Stores the ABI of a file under the name of a contract. -/
def loadFile (files : Files) (name path : String) (s : AbiStore) :
    AbiStore × Except RouterFault Unit :=
  match readArtifact files path with
  | .ok abi => (s.insert name abi, .ok ())
  | .error fault => (s, .error (.abiLoad name fault))

def artifactPath (directory name : String) : String :=
  Files.join directory (name ++ ".json")

/-- Stores the ABIs of the named contracts from a directory, one after the other up to the first
failure.  What was stored before the failure stays. -/
def loadAll (files : Files) (directory : String) : List String → AbiStore →
    AbiStore × Except RouterFault Unit
  | [], s => (s, .ok ())
  | name :: names, s =>
    match s.loadFile files name (artifactPath directory name) with
    | (s, .ok _) => loadAll files directory names s
    | (s, .error fault) => (s, .error fault)

/-- Stores the ABIs of the named contracts from a directory, and counts the names. -/
def loadDirectory (files : Files) (directory : String) (names : List String) (s : AbiStore) :
    AbiStore × Except RouterFault Nat :=
  let (s, result) := loadAll files directory names s
  (s, result.map fun _ => names.length)

def protocolContracts : List String :=
  ["Gateway", "GatewayDiamond", "GatewayGetterFacet", "GatewayManagerFacet",
    "GatewayRouterFacet", "SubnetActor", "SubnetActorDiamond", "SubnetActorGetterFacet",
    "SubnetActorManagerFacet", "SubnetRegistry"]

def ofProtocol (files : Files) (directory : String) : Except RouterFault AbiStore :=
  match loadDirectory files directory protocolContracts empty with
  | (s, .ok _) => .ok s
  | (_, .error fault) => .error fault

end AbiStore

end SubnetRouter
