import SubnetRouter.CommandLine.Invocation
import SubnetRouter.Json.Printer
import SubnetRouter.Provider

/-!
# Running invocations

An invocation gives a text or a fault.  Nothing is sent to a chain: a call is shown as it would
be handed over.
-/

namespace SubnetRouter

/-- Why an invocation fails. -/
inductive RunFault where
  | config (fault : ConfigFault)
  | router (fault : RouterFault)

def RunFault.message : RunFault → String
  | .config fault => fault.message
  | .router fault => fault.message

/-! ## Registry -/

/-- The source of the registry: a file before a network, options before the environment. -/
def Invocation.source (i : Invocation) (env : Environment) : Registry.Source :=
  match i.config, i.network with
  | some path, _ => .file path
  | none, some name => .network name
  | none, none => env.source

def Invocation.registry (i : Invocation) (idna : Url.Idna) (files : Files) (env : Environment) :
    Except RunFault Registry :=
  (Registry.ofSource idna files (i.source env)).mapError .config

/-! ## Results -/

/-- How to reach a subnet, one line each for the subnet, the endpoint and its contracts. -/
def Connection.summary (c : Connection) : String :=
  "subnet:   " ++ c.subnet.text ++ "\nendpoint: " ++ c.endpoint.text
    ++ "\ngateway:  " ++ c.gateway.text
    ++ "\nregistry: " ++ (c.registry.map ContractAddress.text).getD "(none)"

/-- A call as JSON.  The token is left out. -/
def ContractCall.echo (call : ContractCall) : Json :=
  Json.ofMembers
    [("endpoint", .string call.endpoint.text),
      ("contract", .string call.contract),
      ("to", .string call.address.text),
      ("from", (call.sender.map fun sender => Json.string sender.text).getD .null),
      ("method", .string call.method),
      ("args", .array call.args)]

/-- The chain that answers each call with the call. -/
def Chain.dryRun : Chain :=
  ⟨fun _ call => .ok call.echo, []⟩

/-- The value of an argument: that of its JSON text, or else the text itself. -/
def readArgument (text : String) : Json :=
  (Json.read? text).getD (.string text)

/-! ## Commands -/

def runResolve (registry : Registry) (subnet : SubnetId) : Except RunFault String :=
  match (Provider.mk registry none).connection subnet with
  | .ok connection => .ok connection.summary
  | .error fault => .error (.router fault)

/-- Binds the contract of a request: at its address if there is one, else at the gateway. -/
def CallRequest.bind (request : CallRequest) (abis : AbiStore) (c : Connection) :
    Except RouterFault Binding :=
  match request.address with
  | some address => c.bind abis request.contract address
  | none => c.gatewayFacet abis request.contract

def CallRequest.perform (request : CallRequest) (registry : Registry) (abis : AbiStore)
    (chain : Chain) : Except RouterFault Json × Chain :=
  match ((Provider.mk registry none).connection request.subnet).bind (request.bind abis) with
  | .error fault => (.error fault, chain)
  | .ok binding => binding.call request.method (request.args.map readArgument) chain

/-- Shows the call of a request.  The ABI is loaded before the registry. -/
def runCall (request : CallRequest) (files : Files) (loaded : Except RunFault Registry) :
    Except RunFault String :=
  match AbiStore.loadDirectory files request.abiDirectory [request.contract] .empty with
  | (_, .error fault) => .error (.router fault)
  | (abis, .ok _) => do
    let registry ← loaded
    match (request.perform registry abis .dryRun).1 with
    | .ok reply => return reply.indented
    | .error fault => throw (.router fault)

def Invocation.paths (i : Invocation) (env : Environment) : List String :=
  match i.command with
  | .networks => []
  | .resolve _ => (i.source env).paths
  | .call request =>
    AbiStore.artifactPath request.abiDirectory request.contract :: (i.source env).paths

/-- Runs an invocation with what loading its registry gives. -/
def Invocation.runWith (i : Invocation) (files : Files) (loaded : Except RunFault Registry) :
    Except RunFault String :=
  match i.command with
  | .networks => .ok ("\n".intercalate Network.names)
  | .resolve subnet => do
    let registry ← loaded
    runResolve registry subnet
  | .call request => runCall request files loaded

def Invocation.run (i : Invocation) (idna : Url.Idna) (files : Files) (env : Environment) :
    Except RunFault String :=
  i.runWith files (i.registry idna files env)

end SubnetRouter
