import SubnetRouter.Proofs.Provider.Routing
import SubnetRouter.Proofs.Registry.Keys

/-!
# Requests without tokens

A token goes from an entry to the connection, to the binding and to the call that is handed to the
chain.  Taking the tokens out of the registry first gives the same connections, bindings and calls
without their tokens, and so the same replies of a chain that does not look at tokens.

* `agreeUpToTokens_iff`: registries that differ in tokens only are the same without them.
* `connect_withoutTokens`, `bind_withoutTokens`, `route_withoutTokens`: the steps of a request.
* `routeAll_withoutTokens`: a run of requests.
-/

namespace SubnetRouter

/-! ## Leaving tokens out -/

def SubnetConfig.withoutToken (config : SubnetConfig) : SubnetConfig :=
  { config with endpoint := { config.endpoint with authToken := none } }

def Connection.withoutToken (c : Connection) : Connection :=
  { c with authToken := none }

def Binding.withoutToken (b : Binding) : Binding :=
  { b with authToken := none }

def ContractCall.withoutToken (call : ContractCall) : ContractCall :=
  { call with authToken := none }

def Registry.withoutTokens (r : Registry) : Registry :=
  ⟨r.configs.map fun _ config => config.withoutToken⟩

def Provider.withoutTokens (p : Provider) : Provider :=
  { p with registry := p.registry.withoutTokens }

def Chain.withoutTokens (chain : Chain) : Chain :=
  { chain with calls := chain.calls.map ContractCall.withoutToken }

/-- The registries have the same keys, and under each of them configurations that differ in nothing
but the token. -/
structure Registry.AgreeUpToTokens (r r' : Registry) : Prop where
  keys_eq : r.keys = r'.keys
  withoutToken_eq : ∀ key config config', r.get? key = some config → r'.get? key = some config' →
    config.withoutToken = config'.withoutToken

/-- The answers to calls do not depend on tokens. -/
def Chain.BlindToTokens (chain : Chain) : Prop :=
  ∀ calls call, chain.answer (calls.map ContractCall.withoutToken) call.withoutToken =
    chain.answer calls call

namespace Registry

theorem get?_withoutTokens (r : Registry) (key : String) :
    r.withoutTokens.get? key = (r.get? key).map SubnetConfig.withoutToken :=
  Std.ExtTreeMap.getElem?_map

theorem keys_withoutTokens (r : Registry) : r.withoutTokens.keys = r.keys :=
  congrArg Text.sorted Std.ExtTreeMap.keys_map

theorem agreeUpToTokens_iff (r r' : Registry) :
    r.AgreeUpToTokens r' ↔ r.withoutTokens = r'.withoutTokens := by
  constructor
  · intro h
    apply ext_get?
    intro key
    have hsame : (r.get? key).isSome ↔ (r'.get? key).isSome := by
      rw [← mem_keys_iff, ← mem_keys_iff, h.keys_eq]
    rw [get?_withoutTokens, get?_withoutTokens]
    cases hget : r.get? key with
    | none =>
        rw [hget] at hsame
        cases hget' : r'.get? key with
        | none => rfl
        | some config' => simp [hget'] at hsame
    | some config =>
        rw [hget] at hsame
        obtain ⟨config', hget'⟩ := Option.isSome_iff_exists.1 (hsame.1 rfl)
        rw [hget', Option.map_some, Option.map_some, h.withoutToken_eq key config config' hget hget']
  · intro h
    constructor
    · rw [← keys_withoutTokens, h, keys_withoutTokens]
    · intro key config config' hget hget'
      have heq : r.withoutTokens.get? key = r'.withoutTokens.get? key := by rw [h]
      rw [get?_withoutTokens, get?_withoutTokens, hget, hget'] at heq
      exact Option.some.inj heq

/-! ## Resolving -/

theorem resolve_withoutTokens (r : Registry) (senders : Option SenderSource) (id : SubnetId) :
    r.withoutTokens.resolve senders id = (r.resolve senders id).map Connection.withoutToken := by
  unfold resolve
  rw [get?_withoutTokens]
  cases r.get? id.text with
  | none => rfl
  | some config =>
      obtain ⟨kind, url, token, registry, gateway⟩ := config
      cases gateway with
      | none => rfl
      | some gateway => rfl

end Registry

/-! ## Binding and calling -/

theorem Connection.bind_withoutToken (c : Connection) (abis : AbiSource) (name : String)
    (address : ContractAddress) :
    c.withoutToken.bind abis name address =
      (c.bind abis name address).map Binding.withoutToken := by
  unfold bind
  cases abis name with
  | none => rfl
  | some abi => rfl

theorem Connection.bindTarget_withoutToken (c : Connection) (abis : AbiSource) (name : String)
    (target : Target) :
    c.withoutToken.bindTarget abis name target =
      (c.bindTarget abis name target).map Binding.withoutToken := by
  have hgateway : c.withoutToken.gateway = c.gateway := rfl
  have hregistry : c.withoutToken.registry = c.registry := rfl
  rw [bindTarget_eq, bindTarget_eq, hgateway, hregistry]
  cases target.address? (some c.gateway) c.registry with
  | none => rfl
  | some address => exact c.bind_withoutToken abis name address

theorem Binding.call_withoutToken (b : Binding) (method : String) (args : List Json) {chain : Chain}
    (h : chain.BlindToTokens) :
    b.withoutToken.call method args chain.withoutTokens =
      ((b.call method args chain).1, (b.call method args chain).2.withoutTokens) := by
  have hrequest : b.withoutToken.request method args = (b.request method args).withoutToken := rfl
  have hmethod : b.withoutToken.hasMethod method = b.hasMethod method := rfl
  unfold call
  rw [hmethod]
  by_cases hdeclares : b.hasMethod method = true
  · rw [if_pos hdeclares, if_pos hdeclares, hrequest]
    have hanswer := h chain.calls (b.request method args)
    simp only [Chain.send, Chain.withoutTokens, hanswer, List.map_append, List.map_singleton]
  · rw [if_neg hdeclares, if_neg hdeclares]
    rfl

theorem Binding.answer_call (b : Binding) (method : String) (args : List Json) (chain : Chain) :
    (b.call method args chain).2.answer = chain.answer := by
  unfold call
  by_cases hdeclares : b.hasMethod method = true
  · rw [if_pos hdeclares]
    rfl
  · rw [if_neg hdeclares]

/-! ## Requests -/

namespace Provider

/-- The connection that a request is made on. -/
def connect (p : Provider) (q : Request) : Except RouterFault Connection :=
  (p.connection q.subnet).map fun c => q.accounts.foldl Connection.withSender c

/-- The binding that a request is made on. -/
def bind (p : Provider) (abis : AbiSource) (q : Request) : Except RouterFault Binding :=
  (p.connect q).bind fun c => c.bindTarget abis q.contract q.target

/-- Makes requests one after the other. -/
def routeAll (p : Provider) (abis : AbiSource) :
    List Request → Chain → List (Except RouterFault Json) × Chain
  | [], chain => ([], chain)
  | q :: rest, chain =>
    let (reply, chain) := p.route abis q chain
    let (replies, chain) := p.routeAll abis rest chain
    (reply :: replies, chain)

theorem route_eq_bind (p : Provider) (abis : AbiSource) (q : Request) (chain : Chain) :
    p.route abis q chain =
      match p.bind abis q with
      | .error fault => (.error fault, chain)
      | .ok binding => binding.call q.method q.args chain := by
  unfold route bind connect
  cases p.connection q.subnet with
  | error fault => rfl
  | ok connection => rfl

theorem connect_withoutTokens (p : Provider) (q : Request) :
    p.withoutTokens.connect q = (p.connect q).map Connection.withoutToken := by
  have hconnection : p.withoutTokens.connection q.subnet =
      (p.connection q.subnet).map Connection.withoutToken :=
    p.registry.resolve_withoutTokens p.senders q.subnet
  unfold connect
  rw [hconnection]
  cases p.connection q.subnet with
  | error fault => rfl
  | ok connection =>
      simp only [Except.map, Connection.foldl_withSender]
      rfl

theorem map_debugText_connect_withoutTokens (p : Provider) (q : Request) :
    (p.withoutTokens.connect q).map Connection.debugText =
      (p.connect q).map Connection.debugText := by
  rw [connect_withoutTokens]
  cases p.connect q with
  | error fault => rfl
  | ok connection => rfl

theorem bind_withoutTokens (p : Provider) (abis : AbiSource) (q : Request) :
    p.withoutTokens.bind abis q = (p.bind abis q).map Binding.withoutToken := by
  unfold bind
  rw [connect_withoutTokens]
  cases p.connect q with
  | error fault => rfl
  | ok connection => exact connection.bindTarget_withoutToken abis q.contract q.target

theorem map_debugText_bind_withoutTokens (p : Provider) (abis : AbiSource) (q : Request) :
    (p.withoutTokens.bind abis q).map Binding.debugText =
      (p.bind abis q).map Binding.debugText := by
  rw [bind_withoutTokens]
  cases p.bind abis q with
  | error fault => rfl
  | ok binding => rfl

theorem route_withoutTokens (p : Provider) (abis : AbiSource) (q : Request) {chain : Chain}
    (h : chain.BlindToTokens) :
    p.withoutTokens.route abis q chain.withoutTokens =
      ((p.route abis q chain).1, (p.route abis q chain).2.withoutTokens) := by
  rw [route_eq_bind, route_eq_bind, bind_withoutTokens]
  cases p.bind abis q with
  | error fault => rfl
  | ok binding => exact binding.call_withoutToken q.method q.args h

theorem blindToTokens_route (p : Provider) (abis : AbiSource) (q : Request) {chain : Chain}
    (h : chain.BlindToTokens) : (p.route abis q chain).2.BlindToTokens := by
  rw [route_eq_bind]
  cases p.bind abis q with
  | error fault => exact h
  | ok binding =>
      unfold Chain.BlindToTokens
      dsimp only
      rw [binding.answer_call]
      exact h

theorem routeAll_withoutTokens (p : Provider) (abis : AbiSource) (requests : List Request)
    {chain : Chain} (h : chain.BlindToTokens) :
    p.withoutTokens.routeAll abis requests chain.withoutTokens =
      ((p.routeAll abis requests chain).1, (p.routeAll abis requests chain).2.withoutTokens) := by
  -- One request keeps the chain blind, and the calls before the next one differ in tokens only.
  induction requests generalizing chain with
  | nil => rfl
  | cons q rest ih =>
      have hstep := p.route_withoutTokens abis q h
      have hrest := ih (p.blindToTokens_route abis q h)
      simp only [routeAll, hstep, hrest]

end Provider

end SubnetRouter
