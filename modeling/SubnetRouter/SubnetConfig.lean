import SubnetRouter.ContractAddress
import SubnetRouter.Url.Reader

/-!
# Subnet configurations

What is needed to reach a subnet: the kind of its chain, the URL of an endpoint, perhaps a token
for it, and the addresses of the contracts that are deployed.
-/

namespace SubnetRouter

/-- The kind of chain that a subnet runs. -/
inductive ChainKind where
  | fevm
deriving Repr, DecidableEq

def ChainKind.name : ChainKind → String
  | .fevm => "fevm"

/-- How to reach a subnet and its contracts. -/
structure Endpoint where
  url : Url
  authToken : Option String
  registry : Option ContractAddress
  gateway : Option ContractAddress
deriving Repr, DecidableEq

namespace Endpoint

def ofUrl (url : Url) : Endpoint :=
  ⟨url, none, none, none⟩

def withGateway (e : Endpoint) (gateway : ContractAddress) : Endpoint :=
  { e with gateway := some gateway }

def withRegistry (e : Endpoint) (registry : ContractAddress) : Endpoint :=
  { e with registry := some registry }

def withAuthToken (e : Endpoint) (token : String) : Endpoint :=
  { e with authToken := some token }

end Endpoint

/-- The configuration of a subnet. -/
structure SubnetConfig where
  kind : ChainKind
  endpoint : Endpoint
deriving Repr, DecidableEq

end SubnetRouter
