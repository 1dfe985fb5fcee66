import SubnetRouter.Abi.Basic
import SubnetRouter.RouterFault
import SubnetRouter.SubnetConfig

/-!
# Chains and accounts

What lies beyond the router: the chain that contract calls are handed to, and the accounts that
they are sent from.
-/

namespace SubnetRouter

/-- A call of a method of a contract. -/
structure ContractCall where
  endpoint : Url
  authToken : Option String
  contract : String
  address : ContractAddress
  abi : Abi
  method : String
  args : List Json
  sender : Option ContractAddress

/-- A chain: how it answers a call after the calls before it, and the calls that it has been
handed, the oldest first.  An answer is a value or a refusal. -/
structure Chain where
  answer : List ContractCall → ContractCall → Except Refusal Json
  calls : List ContractCall

namespace Chain

def send (chain : Chain) (call : ContractCall) : Except Refusal Json × Chain :=
  (chain.answer chain.calls call, { chain with calls := chain.calls ++ [call] })

end Chain

/-- Which account sends the calls to a subnet, if there is one. -/
abbrev SenderSource := SubnetId → Option ContractAddress

end SubnetRouter
