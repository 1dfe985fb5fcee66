import SubnetRouter.ContractAddress
import SubnetRouter.SubnetId.Reader

/-!
# Invocations

What a command line asks for: a command, and perhaps a registry to look subnets up in.
-/

namespace SubnetRouter

/-- A dry run of a contract call. -/
structure CallRequest where
  subnet : SubnetId
  contract : String
  method : String
  abiDirectory : String
  /-- The address of the contract; the gateway of the subnet where none is given. -/
  address : Option ContractAddress
  args : List String
deriving Repr, DecidableEq

/-- What is to be done. -/
inductive Command where
  | networks
  | resolve (subnet : SubnetId)
  | call (request : CallRequest)
deriving Repr, DecidableEq

/-- A command and the options that choose a registry. -/
structure Invocation where
  network : Option String
  config : Option String
  command : Command
deriving Repr, DecidableEq

/-- Why a command line is no invocation. -/
inductive UsageFault where
  | help
  | nothing
  /-- There are options but no command. -/
  | noCommand
  | unknownCommand
  /-- There is no such option, or there is no place for an argument. -/
  | unknownArgument
  | unwantedValue
  /-- An option has no value, or an empty one that has to name a path. -/
  | missingValue
  | badValue
  /-- Two options cannot stand together, or one is given twice. -/
  | conflict
  | missingArgument
deriving Repr, DecidableEq

end SubnetRouter
