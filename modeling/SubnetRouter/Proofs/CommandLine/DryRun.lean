import SubnetRouter.CommandLine.Run
import SubnetRouter.Proofs.Abi.Stores
import SubnetRouter.Proofs.Json.RoundTrip
import SubnetRouter.Proofs.Networks
import SubnetRouter.Proofs.Provider.Routing
import SubnetRouter.Proofs.Registry.Lookup

/-!
# Dry runs of calls

A dry run takes its steps in a fixed order: it reads the ABI, loads the registry, finds the entry of
the subnet and the gateway in it, and looks for the method in the ABI.  It fails with the fault of
the first step that fails, and otherwise shows the call.

* `CallRequest.perform_eq_route`: a dry run is a request to a provider.
* `CallRequest.readArgument_shown`: what is shown reads back.
* `CallRequest.ready_or_firstFailure`: either all steps succeed or one of them is the first to fail.
* `Invocation.run_call_of_ready`, `Invocation.run_call_of_firstFailure`: what is run in each case.
* `Invocation.run_call_iff`: both ways, and the faults that no invocation ends with.
-/

namespace SubnetRouter

open Json (Exact)

def CallRequest.target (request : CallRequest) : Target :=
  match request.address with
  | some address => .contract address
  | none => .gatewayFacet

/-- The request that a dry run makes. -/
def CallRequest.toRequest (request : CallRequest) : Request where
  subnet := request.subnet
  accounts := []
  target := request.target
  contract := request.contract
  method := request.method
  args := request.args.map readArgument

theorem CallRequest.perform_eq_route (request : CallRequest) (r : Registry) (abis : AbiStore)
    (chain : Chain) :
    request.perform r abis chain = (Provider.mk r none).route abis request.toRequest chain := by
  unfold perform Provider.route toRequest
  dsimp only
  cases (Provider.mk r none).connection request.subnet with
  | error fault => rfl
  | ok connection =>
      unfold Except.bind CallRequest.bind target
      cases request.address with
      | none => rfl
      | some address => rfl

namespace CallRequest

/-- What the file with the ABI of the contract holds. -/
def artifact (request : CallRequest) (files : Files) : Except ArtifactFault Abi :=
  AbiStore.readArtifact files (AbiStore.artifactPath request.abiDirectory request.contract)

/-- What a dry run shows: the call by the entry of the subnet and its gateway. -/
def shown (request : CallRequest) (config : SubnetConfig) (gateway : ContractAddress) : Json :=
  .object
    [("args", .array (request.args.map readArgument)),
      ("contract", .string request.contract),
      ("endpoint", .string config.endpoint.url.text),
      ("from", .null),
      ("method", .string request.method),
      ("to", .string (request.address.getD gateway).text)]

variable (request : CallRequest) (idna : Url.Idna) (source : Registry.Source) (files : Files)

/-- All steps of a dry run succeed. -/
structure Ready (config : SubnetConfig) (gateway : ContractAddress) : Prop where
  method : ∃ abi, request.artifact files = .ok abi ∧ Abi.HasFunction abi request.method
  entry : ∃ registry, Registry.ofSource idna files source = .ok registry ∧
    registry.getSubnet? request.subnet = some config
  gateway_eq : config.endpoint.gateway = some gateway

/-- The fault of the first step of a dry run that fails. -/
inductive FirstFailure : RunFault → Prop where
  | abi {fault : ArtifactFault} (hartifact : request.artifact files = .error fault) :
      FirstFailure (.router (.abiLoad request.contract fault))
  | registry {abi : Abi} {fault : ConfigFault} (hartifact : request.artifact files = .ok abi)
      (hregistry : Registry.ofSource idna files source = .error fault) :
      FirstFailure (.config fault)
  | entry {abi : Abi} {registry : Registry} (hartifact : request.artifact files = .ok abi)
      (hregistry : Registry.ofSource idna files source = .ok registry)
      (hentry : registry.getSubnet? request.subnet = none) :
      FirstFailure (.router (.notConfigured request.subnet))
  | gateway {abi : Abi} {registry : Registry} {config : SubnetConfig}
      (hartifact : request.artifact files = .ok abi)
      (hregistry : Registry.ofSource idna files source = .ok registry)
      (hentry : registry.getSubnet? request.subnet = some config)
      (hgateway : config.endpoint.gateway = none) :
      FirstFailure (.router (.incomplete request.subnet .gateway))
  | method {abi : Abi} {registry : Registry} {config : SubnetConfig} {gateway : ContractAddress}
      (hartifact : request.artifact files = .ok abi)
      (hregistry : Registry.ofSource idna files source = .ok registry)
      (hentry : registry.getSubnet? request.subnet = some config)
      (hgateway : config.endpoint.gateway = some gateway)
      (hmethod : ¬ Abi.HasFunction abi request.method) :
      FirstFailure (.router (.unknownMethod request.contract request.method))

theorem ready_or_firstFailure :
    (∃ config gateway, request.Ready idna source files config gateway) ∨
      ∃ fault, request.FirstFailure idna source files fault := by
  cases hartifact : request.artifact files with
  | error fault => exact Or.inr ⟨_, .abi hartifact⟩
  | ok abi =>
      cases hregistry : Registry.ofSource idna files source with
      | error fault => exact Or.inr ⟨_, .registry hartifact hregistry⟩
      | ok registry =>
          cases hentry : registry.getSubnet? request.subnet with
          | none => exact Or.inr ⟨_, .entry hartifact hregistry hentry⟩
          | some config =>
              cases hgateway : config.endpoint.gateway with
              | none => exact Or.inr ⟨_, .gateway hartifact hregistry hentry hgateway⟩
              | some gateway =>
                  by_cases hmethod : Abi.HasFunction abi request.method
                  · exact Or.inl ⟨config, gateway, ⟨abi, hartifact, hmethod⟩,
                      ⟨registry, hregistry, hentry⟩, hgateway⟩
                  · exact Or.inr ⟨_, .method hartifact hregistry hentry hgateway hmethod⟩

end CallRequest

/-! ## What is shown -/

namespace CallRequest

variable {request : CallRequest}

/-- The values of the arguments stand in an array in the object. -/
theorem exact_shown {depth : Nat} (h : ∀ value ∈ request.args.map readArgument, Exact depth value)
    (config : SubnetConfig) (gateway : ContractAddress) :
    Exact (depth + 2) (request.shown config gateway) := by
  have hnames : ["args", "contract", "endpoint", "from", "method", "to"].Pairwise (· < ·) := by
    decide
  refine .object (List.pairwise_map.1 hnames) ?_
  simp only [List.forall_mem_cons]
  exact ⟨.array h, .string _, .string _, .null, .string _, .string _, by simp⟩

theorem readArgument_shown (h : ∀ value ∈ request.args.map readArgument, Exact 125 value)
    (config : SubnetConfig) (gateway : ContractAddress) :
    readArgument (request.shown config gateway).indented = request.shown config gateway := by
  rw [readArgument, Json.read?_indented (exact_shown h config gateway), Option.getD_some]

end CallRequest

/-- The connection to a subnet with a gateway, when there are no accounts. -/
def Connection.ofConfig (subnet : SubnetId) (config : SubnetConfig) (gateway : ContractAddress) :
    Connection :=
  ⟨subnet, config.endpoint.url, gateway, config.endpoint.registry, config.endpoint.authToken, none⟩

/-! ## One step after the other -/

theorem CallRequest.address?_target (request : CallRequest) (gateway : ContractAddress)
    (registry : Option ContractAddress) :
    request.target.address? (some gateway) registry = some (request.address.getD gateway) := by
  unfold target
  cases request.address with
  | none => rfl
  | some address => rfl

/-- The members of a call that is shown are in the order of their names. -/
theorem CallRequest.echo_toCall (request : CallRequest) (config : SubnetConfig)
    (gateway : ContractAddress) (abi : Abi) :
    (request.toRequest.toCall none config (request.address.getD gateway) abi).echo =
      request.shown config gateway := by
  rfl

theorem runCall_eq (request : CallRequest) (files : Files) (loaded : Except RunFault Registry) :
    runCall request files loaded =
      match request.artifact files with
      | .error fault => .error (.router (.abiLoad request.contract fault))
      | .ok abi =>
        match loaded with
        | .error fault => .error fault
        | .ok registry =>
          match ((Provider.mk registry none).route (AbiStore.empty.insert request.contract abi)
            request.toRequest .dryRun).1 with
          | .ok reply => .ok reply.indented
          | .error fault => .error (.router fault) := by
  unfold runCall CallRequest.artifact
  rw [AbiStore.loadDirectory_singleton]
  cases AbiStore.readArtifact files
      (AbiStore.artifactPath request.abiDirectory request.contract) with
  | error fault => rfl
  | ok abi =>
      cases loaded with
      | error fault => rfl
      | ok registry =>
          simp only [bind, Except.bind, CallRequest.perform_eq_route]
          rfl

namespace Invocation

variable {i : Invocation} {request : CallRequest} {idna : Url.Idna} {files : Files}
  {env : Environment}

theorem run_eq_runCall (h : i.command = .call request) (idna : Url.Idna) (files : Files)
    (env : Environment) :
    i.run idna files env =
      runCall request files ((Registry.ofSource idna files (i.source env)).mapError .config) := by
  unfold run runWith
  rw [h]
  rfl

theorem run_call_of_ready (h : i.command = .call request) {config : SubnetConfig}
    {gateway : ContractAddress} (hready : request.Ready idna (i.source env) files config gateway) :
    i.run idna files env = .ok (request.shown config gateway).indented := by
  obtain ⟨abi, hartifact, hmethod⟩ := hready.method
  obtain ⟨registry, hregistry, hentry⟩ := hready.entry
  have hserved : request.toRequest.Served (Provider.mk registry none)
      (AbiStore.empty.insert request.contract abi) config (request.address.getD gateway) abi := by
    refine ⟨hentry, by rw [hready.gateway_eq]; rfl, ?_, ?_, hmethod⟩
    · rw [hready.gateway_eq]
      exact request.address?_target gateway config.endpoint.registry
    · exact AbiStore.empty.lookup?_insert_self request.contract abi
  rw [run_eq_runCall h, runCall_eq, hartifact, hregistry]
  dsimp only [Except.mapError]
  rw [Provider.route_of_served hserved, ← request.echo_toCall config gateway abi]
  rfl

theorem run_call_of_firstMissing (h : i.command = .call request) {abi : Abi} {registry : Registry}
    (hartifact : request.artifact files = .ok abi)
    (hregistry : Registry.ofSource idna files (i.source env) = .ok registry) {fault : RouterFault}
    (hmissing : request.toRequest.FirstMissing (Provider.mk registry none)
      (AbiStore.empty.insert request.contract abi) fault) :
    i.run idna files env = .error (.router fault) := by
  rw [run_eq_runCall h, runCall_eq, hartifact, hregistry]
  dsimp only [Except.mapError]
  rw [Provider.route_of_firstMissing hmissing]

theorem run_call_of_firstFailure (h : i.command = .call request) {fault : RunFault}
    (hfault : request.FirstFailure idna (i.source env) files fault) :
    i.run idna files env = .error fault := by
  cases hfault with
  | abi hartifact => rw [run_eq_runCall h, runCall_eq, hartifact]
  | registry hartifact hregistry =>
      rw [run_eq_runCall h, runCall_eq, hartifact, hregistry]
      rfl
  | entry hartifact hregistry hentry =>
      apply run_call_of_firstMissing h hartifact hregistry
      exact .entry hentry
  | gateway hartifact hregistry hentry hgateway =>
      apply run_call_of_firstMissing h hartifact hregistry
      exact .gateway hentry hgateway
  | method hartifact hregistry hentry hgateway hmethod =>
      rename_i abi registry config gateway
      have haddress := request.address?_target gateway config.endpoint.registry
      rw [← hgateway] at haddress
      have hsome : config.endpoint.gateway.isSome := by rw [hgateway]; rfl
      have habi := AbiStore.empty.lookup?_insert_self request.contract abi
      apply run_call_of_firstMissing h hartifact hregistry
      exact .method hentry hsome haddress habi hmethod

theorem runResolve_eq (registry : Registry) (subnet : SubnetId) :
    runResolve registry subnet =
      match registry.get? subnet.text with
      | none => .error (.router (.notConfigured subnet))
      | some config =>
        match config.endpoint.gateway with
        | none => .error (.router (.incomplete subnet .gateway))
        | some gateway => .ok (Connection.ofConfig subnet config gateway).summary := by
  unfold runResolve Provider.connection Registry.resolve
  dsimp only
  cases registry.get? subnet.text with
  | none => rfl
  | some config =>
      dsimp only
      cases config.endpoint.gateway with
      | none => rfl
      | some gateway => rfl

def fundArtifact : String :=
  "\x7b\"abi\": [\x7b\"name\": \"fund\"\x7d]\x7d"

theorem exists_ready_fund (idna : Url.Idna) (args : List String) :
    ∃ gateway, (⟨Network.calibration.id, "Gateway", "fund", "abis", none, args⟩ : CallRequest).Ready
      idna (.network "calibration") (fun _ => .ok fundArtifact.toUTF8) Network.calibration.config
      gateway := by
  have hread : ((Json.read? fundArtifact).bind (Json.member? "abi")).any
      (Abi.declares · "fund") = true := by
    decide +kernel
  obtain ⟨abi, hmember, hdeclares⟩ := (Option.any_eq_true _ _).1 hread
  obtain ⟨artifact, hartifact, habi⟩ := Option.bind_eq_some_iff.1 hmember
  refine ⟨_, ⟨abi, ?_, (Abi.declares_iff abi "fund").1 hdeclares⟩,
    ⟨_, Registry.ofNetwork_default idna, ?_⟩, rfl⟩
  · exact AbiStore.readArtifact_of_toUTF8 rfl hartifact habi
  · rw [Registry.getSubnet?_insert, if_pos rfl]

end Invocation

end SubnetRouter
