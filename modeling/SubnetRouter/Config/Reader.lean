import SubnetRouter.Config.Fault
import SubnetRouter.SubnetConfig

/-!
# Reading the parts of a configuration

Endpoints and contract addresses from texts that stand for themselves.
-/

namespace SubnetRouter

def Endpoint.read (idna : Url.Idna) (text : String) : Except ConfigFault Endpoint :=
  match Url.read idna text with
  | .ok url => .ok (Endpoint.ofUrl url)
  | .error fault => .error (.badEndpoint text fault)

def ContractAddress.read (text : String) : Except ConfigFault ContractAddress :=
  match ContractAddress.read? text with
  | some address => .ok address
  | none => .error (.badAddress text)

end SubnetRouter
