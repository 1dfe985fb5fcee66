import SubnetRouter.Proofs.Abi.Functions
import SubnetRouter.Provider

/-!
# Calls from a subnet id to the chain

A request names a subnet, the accounts that replace the sender of its connection, a way to bind a
contract, and a method with arguments.  It is served when the registry, the ABIs and the entry of
the subnet have all that it needs.

* `route_of_served`: a request that is served hands its call to the chain.
* `route_of_firstMissing`: a request that lacks something fails for the first thing it lacks.
* `served_or_firstMissing`: one of the two is the case.
* `route_spec`: both ways, for every provider, request and chain.
-/

namespace SubnetRouter

/-- The ways to bind a contract of a subnet. -/
inductive Target where
  | gatewayFacet
  | registryFacet
  | contract (address : ContractAddress)

/-- The address that a target stands for, by the contracts of the subnet. -/
def Target.address? (gateway registry : Option ContractAddress) :
    Target → Option ContractAddress
  | .gatewayFacet => gateway
  | .registryFacet => registry
  | .contract address => some address

/-- A call as it is asked for. -/
structure Request where
  subnet : SubnetId
  /-- The accounts that the connection is given, one after the other. -/
  accounts : List ContractAddress
  target : Target
  contract : String
  method : String
  args : List Json

def Connection.bindTarget (c : Connection) (abis : AbiSource) (name : String) :
    Target → Except RouterFault Binding
  | .gatewayFacet => c.gatewayFacet abis name
  | .registryFacet => c.registryFacet abis name
  | .contract address => c.bind abis name address

/-- Connects to the subnet of a request, gives the connection the accounts, binds the contract and
calls the method. -/
def Provider.route (p : Provider) (abis : AbiSource) (q : Request) (chain : Chain) :
    Except RouterFault Json × Chain :=
  match p.connection q.subnet with
  | .error fault => (.error fault, chain)
  | .ok connection =>
    match (q.accounts.foldl Connection.withSender connection).bindTarget abis q.contract q.target with
    | .error fault => (.error fault, chain)
    | .ok binding => binding.call q.method q.args chain

namespace Request

/-- The provider and the ABIs have all that a request needs. -/
structure Served (q : Request) (p : Provider) (abis : AbiSource) (config : SubnetConfig)
    (address : ContractAddress) (abi : Abi) : Prop where
  entry_eq : p.registry.get? q.subnet.text = some config
  gateway_isSome : config.endpoint.gateway.isSome
  address_eq : q.target.address? config.endpoint.gateway config.endpoint.registry = some address
  abi_eq : abis q.contract = some abi
  hasFunction : Abi.HasFunction abi q.method

/-- The fault for the first thing that a request lacks. -/
inductive FirstMissing (q : Request) (p : Provider) (abis : AbiSource) : RouterFault → Prop where
  | entry (hentry : p.registry.get? q.subnet.text = none) :
      FirstMissing q p abis (.notConfigured q.subnet)
  | gateway {config : SubnetConfig} (hentry : p.registry.get? q.subnet.text = some config)
      (hgateway : config.endpoint.gateway = none) :
      FirstMissing q p abis (.incomplete q.subnet .gateway)
  | registry {config : SubnetConfig} (hentry : p.registry.get? q.subnet.text = some config)
      (hgateway : config.endpoint.gateway.isSome) (htarget : q.target = .registryFacet)
      (hregistry : config.endpoint.registry = none) :
      FirstMissing q p abis (.incomplete q.subnet .registry)
  | abi {config : SubnetConfig} {address : ContractAddress}
      (hentry : p.registry.get? q.subnet.text = some config)
      (hgateway : config.endpoint.gateway.isSome)
      (haddress : q.target.address? config.endpoint.gateway config.endpoint.registry = some address)
      (habi : abis q.contract = none) :
      FirstMissing q p abis (.abiNotFound q.contract)
  | method {config : SubnetConfig} {address : ContractAddress} {abi : Abi}
      (hentry : p.registry.get? q.subnet.text = some config)
      (hgateway : config.endpoint.gateway.isSome)
      (haddress : q.target.address? config.endpoint.gateway config.endpoint.registry = some address)
      (habi : abis q.contract = some abi) (hmethod : ¬ Abi.HasFunction abi q.method) :
      FirstMissing q p abis (.unknownMethod q.contract q.method)

/-- The call that a request comes down to. -/
def toCall (q : Request) (senders : Option SenderSource) (config : SubnetConfig)
    (address : ContractAddress) (abi : Abi) : ContractCall where
  endpoint := config.endpoint.url
  authToken := config.endpoint.authToken
  contract := q.contract
  address := address
  abi := abi
  method := q.method
  args := q.args
  sender := q.accounts.getLast?.or (senders.bind fun source => source q.subnet)

end Request

/-! ## Connecting -/

theorem Provider.connection_of_gateway (p : Provider) {id : SubnetId} {config : SubnetConfig}
    {gateway : ContractAddress} (hentry : p.registry.get? id.text = some config)
    (hgateway : config.endpoint.gateway = some gateway) :
    p.connection id = .ok
      { subnet := id
        endpoint := config.endpoint.url
        gateway := gateway
        registry := config.endpoint.registry
        authToken := config.endpoint.authToken
        sender := p.senders.bind fun source => source id } := by
  unfold connection Registry.resolve
  simp only [hentry, hgateway]

theorem Connection.foldl_withSender (c : Connection) (accounts : List ContractAddress) :
    accounts.foldl withSender c = { c with sender := accounts.getLast?.or c.sender } := by
  induction accounts generalizing c with
  | nil => rfl
  | cons account accounts ih =>
      rw [List.foldl_cons, ih, withSender]
      cases accounts with
      | nil => rfl
      | cons next rest =>
          rw [List.getLast?_cons_cons, List.getLast?_eq_some_getLast (List.cons_ne_nil next rest),
            Option.some_or, Option.some_or]

/-! ## Binding -/

theorem Connection.bindTarget_eq (c : Connection) (abis : AbiSource) (name : String)
    (target : Target) :
    c.bindTarget abis name target =
      match target.address? (some c.gateway) c.registry with
      | none => .error (.incomplete c.subnet .registry)
      | some address => c.bind abis name address := by
  cases target with
  | gatewayFacet => rfl
  | registryFacet =>
      unfold bindTarget registryFacet Target.address?
      cases c.registry with
      | none => rfl
      | some registry => rfl
  | contract address => rfl

theorem Target.address?_eq_none_iff (gateway : ContractAddress)
    (registry : Option ContractAddress) (target : Target) :
    target.address? (some gateway) registry = none ↔
      target = .registryFacet ∧ registry = none := by
  cases target with
  | gatewayFacet => simp [address?]
  | registryFacet => simp [address?]
  | contract address => simp [address?]

/-! ## Routing -/

namespace Provider

variable {p : Provider} {abis : AbiSource} {q : Request} {config : SubnetConfig}
  {address : ContractAddress} {abi : Abi}

theorem route_of_gateway {gateway : ContractAddress}
    (hentry : p.registry.get? q.subnet.text = some config)
    (hgateway : config.endpoint.gateway = some gateway) (chain : Chain) :
    p.route abis q chain =
      match q.target.address? config.endpoint.gateway config.endpoint.registry with
      | none => (.error (.incomplete q.subnet .registry), chain)
      | some address =>
        match abis q.contract with
        | none => (.error (.abiNotFound q.contract), chain)
        | some abi =>
          if abi.declares q.method then
            ((chain.answer chain.calls (q.toCall p.senders config address abi)).mapError .rpc,
              { chain with calls := chain.calls ++ [q.toCall p.senders config address abi] })
          else (.error (.unknownMethod q.contract q.method), chain) := by
  unfold route
  rw [connection_of_gateway p hentry hgateway]
  simp only [Connection.foldl_withSender, Connection.bindTarget_eq, hgateway]
  cases q.target.address? (some gateway) config.endpoint.registry with
  | none => rfl
  | some address =>
      simp only [Connection.bind]
      cases abis q.contract with
      | none => rfl
      | some abi => rfl

theorem route_of_served (h : q.Served p abis config address abi) (chain : Chain) :
    p.route abis q chain =
      ((chain.answer chain.calls (q.toCall p.senders config address abi)).mapError .rpc,
        { chain with calls := chain.calls ++ [q.toCall p.senders config address abi] }) := by
  obtain ⟨gateway, hgateway⟩ := Option.isSome_iff_exists.1 h.gateway_isSome
  have hdeclares : abi.declares q.method = true := (Abi.declares_iff abi q.method).2 h.hasFunction
  rw [route_of_gateway h.entry_eq hgateway, h.address_eq]
  simp only [h.abi_eq, hdeclares, if_true]

theorem route_of_firstMissing {fault : RouterFault} (h : q.FirstMissing p abis fault)
    (chain : Chain) : p.route abis q chain = (.error fault, chain) := by
  cases h with
  | entry hentry =>
      unfold route connection Registry.resolve
      rw [hentry]
  | gateway hentry hgateway =>
      unfold route connection Registry.resolve
      simp only [hentry, hgateway]
  | registry hentry hgateway htarget hregistry =>
      obtain ⟨gateway, hgateway⟩ := Option.isSome_iff_exists.1 hgateway
      rw [route_of_gateway hentry hgateway, htarget, hregistry]
      rfl
  | abi hentry hgateway haddress habi =>
      obtain ⟨gateway, hgateway⟩ := Option.isSome_iff_exists.1 hgateway
      rw [route_of_gateway hentry hgateway, haddress]
      simp only [habi]
  | method hentry hgateway haddress habi hmethod =>
      obtain ⟨gateway, hgateway⟩ := Option.isSome_iff_exists.1 hgateway
      rw [← Abi.declares_iff] at hmethod
      rw [route_of_gateway hentry hgateway, haddress]
      simp only [habi, hmethod, Bool.false_eq_true, if_false]

theorem served_or_firstMissing (p : Provider) (abis : AbiSource) (q : Request) :
    (∃ config address abi, q.Served p abis config address abi) ∨
      ∃ fault, q.FirstMissing p abis fault := by
  cases hentry : p.registry.get? q.subnet.text with
  | none => exact Or.inr ⟨_, .entry hentry⟩
  | some config =>
      cases hgateway : config.endpoint.gateway with
      | none => exact Or.inr ⟨_, .gateway hentry hgateway⟩
      | some gateway =>
          have hsome : config.endpoint.gateway.isSome := by rw [hgateway]; rfl
          cases haddress : q.target.address? config.endpoint.gateway config.endpoint.registry with
          | none =>
              rw [hgateway, Target.address?_eq_none_iff] at haddress
              exact Or.inr ⟨_, .registry hentry hsome haddress.1 haddress.2⟩
          | some address =>
              cases habi : abis q.contract with
              | none => exact Or.inr ⟨_, .abi hentry hsome haddress habi⟩
              | some abi =>
                  by_cases hmethod : Abi.HasFunction abi q.method
                  · exact Or.inl ⟨config, address, abi, hentry, hsome, haddress, habi, hmethod⟩
                  · exact Or.inr ⟨_, .method hentry hsome haddress habi hmethod⟩

/-- A request hands exactly one call to the chain when it is served, and otherwise none.  The call
is that of the request, and the reply is the answer of the chain.  Otherwise the chain is left as
it is, and the reply is the fault for the first thing that is missing. -/
theorem route_spec (p : Provider) (abis : AbiSource) (q : Request) (chain : Chain) :
    ((∃ call, (p.route abis q chain).2.calls = chain.calls ++ [call]) ↔
      ∃ config address abi, q.Served p abis config address abi) ∧
    (∀ config address abi, q.Served p abis config address abi →
      p.route abis q chain =
        ((chain.answer chain.calls (q.toCall p.senders config address abi)).mapError .rpc,
          { chain with calls := chain.calls ++ [q.toCall p.senders config address abi] })) ∧
    (∀ fault, q.FirstMissing p abis fault ↔ p.route abis q chain = (.error fault, chain)) ∧
    ((∃ config address abi, q.Served p abis config address abi) ∨
      ∃ fault, q.FirstMissing p abis fault) := by
  have hall := served_or_firstMissing p abis q
  have hlonger : ∀ call, chain.calls ++ [call] ≠ chain.calls := by
    intro call heq
    have hlength := congrArg List.length heq
    rw [List.length_append, List.length_singleton] at hlength
    omega
  refine ⟨⟨?_, ?_⟩, fun config address abi h => route_of_served h chain, ?_, hall⟩
  · intro h
    obtain ⟨call, hcall⟩ := h
    rcases hall with hserved | ⟨fault, hmissing⟩
    · exact hserved
    · rw [route_of_firstMissing hmissing] at hcall
      exact absurd hcall.symm (hlonger call)
  · intro h
    obtain ⟨config, address, abi, hserved⟩ := h
    rw [route_of_served hserved]
    exact ⟨_, rfl⟩
  · intro fault
    constructor
    · intro hmissing
      exact route_of_firstMissing hmissing chain
    · intro hroute
      rcases hall with ⟨config, address, abi, hserved⟩ | ⟨first, hmissing⟩
      · rw [route_of_served hserved, Prod.mk.injEq] at hroute
        exact absurd (congrArg Chain.calls hroute.2) (hlonger _)
      · rw [route_of_firstMissing hmissing, Prod.mk.injEq, Except.error.injEq] at hroute
        rw [← hroute.1]
        exact hmissing

/-- Listing the subnets below a subnet is a request to a facet of its gateway. -/
theorem listSubnets_eq_route (p : Provider) (abis : AbiSource) (id : SubnetId) (chain : Chain) :
    p.listSubnets abis id chain =
      p.route abis ⟨id, [], .gatewayFacet, getterFacet, listMethod, []⟩ chain := by
  unfold listSubnets route
  cases p.connection id with
  | error fault => rfl
  | ok connection => rfl

end Provider

end SubnetRouter
