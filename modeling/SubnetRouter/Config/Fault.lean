import SubnetRouter.Document.Fault
import SubnetRouter.Files.Basic

/-!
# Faults in configurations

Why a network or a registry of subnets cannot be had.
-/

namespace SubnetRouter

open Text

/-- Why there is no configuration. -/
inductive ConfigFault where
  | unknownNetwork (name : String)
  | badEndpoint (text : String) (fault : Url.Fault)
  | badAddress (text : String)
  /-- Two entries have the same subnet, whose canonical text is given. -/
  | duplicateSubnet (key : String)
  | id (fault : SubnetId.Fault)
  | file (fault : FileFault)
  /-- A document is no TOML, or holds a number that cannot be represented. -/
  | notToml
  | document (fault : DocumentFault)

def ConfigFault.message : ConfigFault → String
  | .unknownNetwork name => "Config not found for network: " ++ name
  | .badEndpoint text fault => "Invalid endpoint " ++ quoted text ++ ": " ++ fault.message
  | .badAddress text => "Invalid contract address: " ++ text
  | .duplicateSubnet key => "Subnet configured twice: " ++ key
  | .id fault => "Invalid subnet id: " ++ fault.message
  | .file fault => "I/O error: " ++ fault.message
  | .notToml => "Invalid TOML"
  | .document fault => fault.message

end SubnetRouter
