import SubnetRouter.Config.Fault

/-!
# Faults on the way to a contract

Why a subnet cannot be resolved, a contract bound, or a method called.
-/

namespace SubnetRouter

/-- Why there is no ABI in a file. -/
inductive ArtifactFault where
  | file (fault : FileFault)
  | notJson
  | noAbi
deriving Repr, DecidableEq

def ArtifactFault.message : ArtifactFault → String
  | .file fault => fault.message
  | .notJson => "invalid JSON"
  | .noAbi => "missing `abi` field"

/-- A contract address that a configuration may lack. -/
inductive MissingField where
  | gateway
  | registry
deriving Repr, DecidableEq

def MissingField.name : MissingField → String
  | .gateway => "gateway_addr"
  | .registry => "registry_addr"

/-- Why a chain refuses a call, as the chain reports it. -/
structure Refusal where
  endpoint : String
  method : String
  reason : String
deriving Repr, DecidableEq

def Refusal.message (r : Refusal) : String :=
  "RPC call " ++ r.method ++ " on " ++ r.endpoint ++ " failed: " ++ r.reason

/-- Why a call does not come about, or fails. -/
inductive RouterFault where
  | notConfigured (subnet : SubnetId)
  | incomplete (subnet : SubnetId) (field : MissingField)
  | abiNotFound (name : String)
  | abiLoad (name : String) (fault : ArtifactFault)
  | unknownMethod (contract method : String)
  | rpc (refusal : Refusal)
  | config (fault : ConfigFault)
  | id (fault : SubnetId.Fault)

def RouterFault.message : RouterFault → String
  | .notConfigured subnet => "Subnet not configured: " ++ subnet.text
  | .incomplete subnet field =>
    "Incomplete configuration for subnet " ++ subnet.text ++ ": missing " ++ field.name
  | .abiNotFound name => "ABI not found: " ++ name
  | .abiLoad name fault => "Failed to load ABI " ++ name ++ ": " ++ fault.message
  | .unknownMethod contract method => "Contract " ++ contract ++ " has no method " ++ method
  | .rpc refusal => refusal.message
  | .config fault => fault.message
  | .id fault => fault.message

end SubnetRouter
