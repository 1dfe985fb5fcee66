import SubnetRouter.Connection
import SubnetRouter.Registry

/-!
# Providers

A provider resolves subnets by a registry and, if there are accounts, gives each connection the
account of its subnet.
-/

namespace SubnetRouter

/-- Resolves a subnet: its entry must be in the registry and name a gateway. -/
def Registry.resolve (r : Registry) (senders : Option SenderSource) (id : SubnetId) :
    Except RouterFault Connection :=
  match r.get? id.text with
  | none => .error (.notConfigured id)
  | some config =>
    match config.endpoint.gateway with
    | none => .error (.incomplete id .gateway)
    | some gateway =>
      .ok
        { subnet := id
          endpoint := config.endpoint.url
          gateway := gateway
          registry := config.endpoint.registry
          authToken := config.endpoint.authToken
          sender := senders.bind fun source => source id }

/-- A registry and perhaps the accounts that send calls. -/
structure Provider where
  registry : Registry
  senders : Option SenderSource

namespace Provider

def connection (p : Provider) (id : SubnetId) : Except RouterFault Connection :=
  p.registry.resolve p.senders id

def ofNetwork (idna : Url.Idna) (name : String) (senders : Option SenderSource) :
    Except RouterFault Provider :=
  match Registry.ofNetwork idna name with
  | .ok registry => .ok ⟨registry, senders⟩
  | .error fault => .error (.config fault)

def getterFacet : String := "GatewayGetterFacet"

def listMethod : String := "listSubnets"

def listSubnets (p : Provider) (abis : AbiSource) (id : SubnetId) (chain : Chain) :
    Except RouterFault Json × Chain :=
  match (p.connection id).bind fun c => c.gatewayFacet abis getterFacet with
  | .error fault => (.error fault, chain)
  | .ok binding => binding.call listMethod [] chain

end Provider

end SubnetRouter
