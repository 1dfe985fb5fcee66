import SubnetRouter.Json.Value
import SubnetRouter.SubnetConfig
import SubnetRouter.SubnetId.Basic

/-!
# Ids and configurations in JSON

The written form of ids and configurations; what is not set is left out.
-/

namespace SubnetRouter

def Json.optionalMember {α : Type} (name : String) (text : α → String) (value : Option α) :
    List (String × Json) :=
  (value.map fun value => (name, Json.string (text value))).toList

def SubnetId.toJson (id : SubnetId) : Json :=
  .string id.text

def Endpoint.toJson (e : Endpoint) : Json :=
  Json.ofMembers
    (("provider_http", .string e.url.text)
      :: Json.optionalMember "auth_token" id e.authToken
      ++ Json.optionalMember "registry_addr" ContractAddress.text e.registry
      ++ Json.optionalMember "gateway_addr" ContractAddress.text e.gateway)

def SubnetConfig.toJson (c : SubnetConfig) : Json :=
  Json.ofMembers [("network_type", .string c.kind.name), ("fevm", c.endpoint.toJson)]

end SubnetRouter
