import SubnetRouter.Abi.Store
import SubnetRouter.Chain

/-!
# Connections and contract bindings

A connection holds what is known of a resolved subnet.  Binding a contract looks its ABI up at
that moment; the binding keeps the ABI, and a call of a method that the ABI declares is handed to
the chain.
-/

namespace SubnetRouter

open Text

/-- A contract at an address, with the ABI that its calls are checked against. -/
structure Binding where
  name : String
  address : ContractAddress
  endpoint : Url
  authToken : Option String
  sender : Option ContractAddress
  abi : Abi

/-- What is needed to call the contracts of a subnet. -/
structure Connection where
  subnet : SubnetId
  endpoint : Url
  gateway : ContractAddress
  registry : Option ContractAddress
  authToken : Option String
  sender : Option ContractAddress
deriving Repr, DecidableEq

/-- An optional address as connections show it. -/
def optionalAddressText : Option ContractAddress → String
  | none => "None"
  | some address => "Some(" ++ address.debugText ++ ")"

namespace Binding

def hasMethod (b : Binding) (method : String) : Bool :=
  b.abi.declares method

def request (b : Binding) (method : String) (args : List Json) : ContractCall :=
  { endpoint := b.endpoint
    authToken := b.authToken
    contract := b.name
    address := b.address
    abi := b.abi
    method := method
    args := args
    sender := b.sender }

/-- Calls a method.  A method that the contract does not have never reaches the chain. -/
def call (b : Binding) (method : String) (args : List Json) (chain : Chain) :
    Except RouterFault Json × Chain :=
  if b.hasMethod method then
    let (answer, chain) := chain.send (b.request method args)
    (answer.mapError .rpc, chain)
  else (.error (.unknownMethod b.name method), chain)

def debugText (b : Binding) : String :=
  "ContractBinding \x7b name: " ++ quoted b.name ++ ", address: " ++ b.address.debugText
    ++ ", endpoint: " ++ quoted b.endpoint.text ++ " \x7d"

end Binding

namespace Connection

def withSender (c : Connection) (sender : ContractAddress) : Connection :=
  { c with sender := some sender }

def bind (c : Connection) (abis : AbiSource) (name : String) (address : ContractAddress) :
    Except RouterFault Binding :=
  match abis name with
  | none => .error (.abiNotFound name)
  | some abi => .ok ⟨name, address, c.endpoint, c.authToken, c.sender, abi⟩

def gatewayFacet (c : Connection) (abis : AbiSource) (name : String) : Except RouterFault Binding :=
  c.bind abis name c.gateway

def registryFacet (c : Connection) (abis : AbiSource) (name : String) :
    Except RouterFault Binding :=
  match c.registry with
  | none => .error (.incomplete c.subnet .registry)
  | some registry => c.bind abis name registry

/-- The connection with its parts named.  The token is left out. -/
def debugText (c : Connection) : String :=
  "Connection \x7b subnet: " ++ quoted c.subnet.text ++ ", endpoint: " ++ quoted c.endpoint.text
    ++ ", gateway: " ++ c.gateway.debugText ++ ", registry: " ++ optionalAddressText c.registry
    ++ ", sender: " ++ optionalAddressText c.sender ++ " \x7d"

end Connection

end SubnetRouter
