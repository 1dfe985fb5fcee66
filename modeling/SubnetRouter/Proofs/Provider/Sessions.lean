import SubnetRouter.Proofs.Abi.Stores
import SubnetRouter.Proofs.Networks
import SubnetRouter.Proofs.Provider.Routing

/-!
# Sessions on a shared store

Connections share a store of ABIs that is filled while they are in use.  What is stored shows in
every bind that comes after it, and in no binding that was made before.

* `effect_step`: all that an event can do to a session.
* `Effect.abis_eq`, `abis_run`: the store after one event, and after a run of them.
* `Effect.bindings_grow`, `bindings_run`: bindings are added, and none is changed.
* `Effect.handsOverFunctions`, `handsOverFunctions_run`: nothing but calls of functions of bindings
  is handed to the chain.
* `run_live_frozen`: every bind and every call in a session.
-/

namespace SubnetRouter

open AbiStore (MostRecent)

/-! ## Binds and calls -/

/-- The binding that a connection makes of a contract. -/
def Connection.bound (c : Connection) (name : String) (address : ContractAddress) (abi : Abi) :
    Binding where
  name := name
  address := address
  endpoint := c.endpoint
  authToken := c.authToken
  sender := c.sender
  abi := abi

theorem Connection.bindTarget_eq_ok_iff (c : Connection) {abis : AbiSource} {name : String}
    {target : Target} {address : ContractAddress}
    (haddress : target.address? (some c.gateway) c.registry = some address) {binding : Binding} :
    c.bindTarget abis name target = .ok binding ↔
      ∃ abi, abis name = some abi ∧ binding = c.bound name address abi := by
  rw [bindTarget_eq, haddress]
  dsimp only [bind]
  cases abis name with
  | none => simp
  | some abi => simp [bound, eq_comm]

theorem Connection.exists_address_of_bindTarget {c : Connection} {abis : AbiSource} {name : String}
    {target : Target} {binding : Binding} (h : c.bindTarget abis name target = .ok binding) :
    ∃ address, target.address? (some c.gateway) c.registry = some address := by
  rw [bindTarget_eq] at h
  cases haddress : target.address? (some c.gateway) c.registry with
  | none =>
      rw [haddress] at h
      cases h
  | some address => exact ⟨address, rfl⟩

theorem Binding.call_of_hasFunction (b : Binding) {method : String} {args : List Json}
    {chain : Chain} (h : Abi.HasFunction b.abi method) :
    b.call method args chain =
      ((chain.answer chain.calls (b.request method args)).mapError .rpc,
        { chain with calls := chain.calls ++ [b.request method args] }) := by
  have hdeclares : b.hasMethod method = true := (Abi.declares_iff b.abi method).2 h
  unfold call
  rw [if_pos hdeclares]
  rfl

theorem Binding.call_of_not_hasFunction (b : Binding) {method : String} {args : List Json}
    {chain : Chain} (h : ¬ Abi.HasFunction b.abi method) :
    b.call method args chain = (.error (.unknownMethod b.name method), chain) := by
  have hdeclares : ¬ b.hasMethod method = true := mt (Abi.declares_iff b.abi method).1 h
  unfold call
  rw [if_neg hdeclares]

/-- What happens to a store, to a connection that looks ABIs up in it, or to the binding that was
made at an index.  The files may be others each time. -/
inductive Event where
  | insert (name : String) (abi : Abi)
  | loadFile (files : Files) (name path : String)
  | loadDirectory (files : Files) (directory : String) (names : List String)
  | bind (connection : Connection) (name : String) (target : Target)
  | call (index : Nat) (method : String) (args : List Json)

/-- The ABIs that an event stores.  Loading stores what it can read before it fails. -/
def Event.stores : Event → List (String × Abi)
  | .insert name abi => [(name, abi)]
  | .loadFile files name path =>
    match AbiStore.readArtifact files path with
    | .ok abi => [(name, abi)]
    | .error _ => []
  | .loadDirectory files directory names => AbiStore.readable files directory names
  | .bind _ _ _ | .call _ _ _ => []

def storedBy (events : List Event) : List (String × Abi) :=
  events.flatMap Event.stores

theorem storedBy_append (before after : List Event) :
    storedBy (before ++ after) = storedBy before ++ storedBy after :=
  List.flatMap_append

/-- A store, the bindings that were made so far, the oldest first, and the chain that their calls
are handed to. -/
structure Session where
  abis : AbiStore
  bindings : List Binding
  chain : Chain

namespace Session

def start (answer : List ContractCall → ContractCall → Except Refusal Json) : Session :=
  ⟨.empty, [], ⟨answer, []⟩⟩

/-- What fails leaves nothing behind, except what a directory has given before. -/
def step (s : Session) : Event → Session
  | .insert name abi => { s with abis := s.abis.insert name abi }
  | .loadFile files name path =>
    { s with abis := (s.abis.loadFile files name path).1 }
  | .loadDirectory files directory names =>
    { s with abis := (s.abis.loadDirectory files directory names).1 }
  | .bind connection name target =>
    match connection.bindTarget s.abis name target with
    | .ok binding => { s with bindings := s.bindings ++ [binding] }
    | .error _ => s
  | .call index method args =>
    match s.bindings[index]? with
    | some binding => { s with chain := (binding.call method args s.chain).2 }
    | none => s

def run (s : Session) (events : List Event) : Session :=
  events.foldl step s

theorem run_append (s : Session) (before after : List Event) :
    s.run (before ++ after) = (s.run before).run after :=
  List.foldl_append

/-! ## Events -/

/-- What an event does: it changes the store, or adds a binding, or makes a call. -/
inductive Effect (s : Session) : Event → Session → Prop where
  | stored (event : Event) : Effect s event { s with abis := s.abis.insertEach event.stores }
  | bound {connection : Connection} {name : String} {target : Target} {binding : Binding}
      (hbind : connection.bindTarget s.abis name target = .ok binding) :
      Effect s (.bind connection name target) { s with bindings := s.bindings ++ [binding] }
  | called {index : Nat} {method : String} {args : List Json} {binding : Binding}
      (hbinding : s.bindings[index]? = some binding) :
      Effect s (.call index method args) { s with chain := (binding.call method args s.chain).2 }

theorem effect_step (s : Session) (event : Event) : s.Effect event (s.step event) := by
  cases event with
  | insert name abi => exact .stored (.insert name abi)
  | loadFile files name path =>
      have hstep : s.step (.loadFile files name path) =
          { s with abis := s.abis.insertEach (Event.loadFile files name path).stores } := by
        dsimp only [step, AbiStore.loadFile, Event.stores]
        cases AbiStore.readArtifact files path with
        | error fault => rfl
        | ok abi => rfl
      rw [hstep]
      exact .stored _
  | loadDirectory files directory names =>
      have hstore := s.abis.loadDirectory_fst files directory names
      dsimp only [step]
      rw [hstore]
      exact .stored (.loadDirectory files directory names)
  | bind connection name target =>
      dsimp only [step]
      cases hbind : connection.bindTarget s.abis name target with
      | error fault => exact .stored (.bind connection name target)
      | ok binding => exact .bound hbind
  | call index method args =>
      dsimp only [step]
      cases hbinding : s.bindings[index]? with
      | none => exact .stored (.call index method args)
      | some binding => exact .called hbinding

/-! ## The store -/

theorem Effect.abis_eq {s s' : Session} {event : Event} (h : s.Effect event s') :
    s'.abis = s.abis.insertEach event.stores := by
  cases h with
  | stored event => rfl
  | bound hbind => rfl
  | called hbinding => rfl

theorem abis_run (s : Session) (events : List Event) :
    (s.run events).abis = s.abis.insertEach (storedBy events) := by
  induction events generalizing s with
  | nil => rfl
  | cons event events ih =>
      calc
        (s.run (event :: events)).abis = (s.step event).abis.insertEach (storedBy events) := ih _
        _ = (s.abis.insertEach event.stores).insertEach (storedBy events) := by
            rw [(s.effect_step event).abis_eq]
        _ = s.abis.insertEach (storedBy (event :: events)) :=
            (s.abis.insertEach_append event.stores (storedBy events)).symm

/-! ## The bindings -/

theorem Effect.bindings_grow {s s' : Session} {event : Event} (h : s.Effect event s') :
    s.bindings <+: s'.bindings := by
  cases h with
  | stored event => exact List.prefix_rfl
  | bound hbind => exact List.prefix_append _ _
  | called hbinding => exact List.prefix_rfl

theorem bindings_run (s : Session) (events : List Event) :
    s.bindings <+: (s.run events).bindings := by
  induction events generalizing s with
  | nil => exact List.prefix_rfl
  | cons event events ih => exact (s.effect_step event).bindings_grow.trans (ih _)

theorem getElem?_bindings_run {s : Session} {index : Nat} {binding : Binding}
    (h : s.bindings[index]? = some binding) (events : List Event) :
    (s.run events).bindings[index]? = some binding := by
  obtain ⟨added, hadded⟩ := s.bindings_run events
  have hindex : index < s.bindings.length := (List.getElem?_eq_some_iff.1 h).1
  rw [← hadded, List.getElem?_append_left hindex, h]

/-! ## The chain -/

/-- The chain has been handed nothing but calls of functions of bindings. -/
def HandsOverFunctions (s : Session) : Prop :=
  ∀ call ∈ s.chain.calls, ∃ binding ∈ s.bindings, ∃ method args,
    Abi.HasFunction binding.abi method ∧ call = binding.request method args

theorem Effect.handsOverFunctions {s s' : Session} {event : Event} (heffect : s.Effect event s')
    (h : s.HandsOverFunctions) : s'.HandsOverFunctions := by
  cases heffect with
  | stored event => exact h
  | bound hbind =>
      intro call hcall
      obtain ⟨binding, hmem, hrequest⟩ := h call hcall
      exact ⟨binding, List.mem_append_left _ hmem, hrequest⟩
  | called hbinding =>
      rename_i index method args binding
      by_cases hmethod : Abi.HasFunction binding.abi method
      · intro call hcall
        rw [binding.call_of_hasFunction hmethod] at hcall
        rcases List.mem_append.1 hcall with hcall | hcall
        · exact h call hcall
        · exact ⟨binding, List.mem_of_getElem? hbinding, method, args, hmethod,
            List.mem_singleton.1 hcall⟩
      · rw [binding.call_of_not_hasFunction hmethod]
        exact h

theorem handsOverFunctions_run {s : Session} (h : s.HandsOverFunctions) (events : List Event) :
    (s.run events).HandsOverFunctions := by
  induction events generalizing s with
  | nil => exact h
  | cons event events ih => exact ih ((s.effect_step event).handsOverFunctions h)

/-! ## Live stores, frozen bindings -/

/-- The store holds what was stored in this order, and every bind sees it. -/
structure Live (s : Session) (stores : List (String × Abi)) : Prop where
  lookup?_iff : ∀ name abi, s.abis.lookup? name = some abi ↔ MostRecent stores name abi
  contains_eq : ∀ name, s.abis.contains name = (s.abis.lookup? name).isSome
  size_eq : s.abis.size = (stores.map Prod.fst).toFinset.card
  bind_succeeds_iff : ∀ (c : Connection) name target address,
    target.address? (some c.gateway) c.registry = some address →
    ((∃ binding, c.bindTarget s.abis name target = .ok binding) ↔ name ∈ stores.map Prod.fst)
  bind_iff : ∀ (c : Connection) name target address,
    target.address? (some c.gateway) c.registry = some address → ∀ binding,
    (c.bindTarget s.abis name target = .ok binding ↔
      ∃ abi, MostRecent stores name abi ∧ binding = c.bound name address abi)

/-- The binding stands at the index, and accepts and sends the calls of its own ABI. -/
structure Holds (s : Session) (index : Nat) (binding : Binding) : Prop where
  binding_eq : s.bindings[index]? = some binding
  hasMethod_iff : ∀ method, binding.hasMethod method = true ↔ Abi.HasFunction binding.abi method
  sent : ∀ method args, Abi.HasFunction binding.abi method →
    (s.step (.call index method args)).chain.calls =
        s.chain.calls ++ [binding.request method args] ∧
      (binding.request method args).abi = binding.abi
  refused : ∀ method args, ¬ Abi.HasFunction binding.abi method →
    s.step (.call index method args) = s ∧
      (binding.call method args s.chain).1 = .error (.unknownMethod binding.name method)

theorem live_of_abis_eq {s : Session} {stores : List (String × Abi)}
    (h : s.abis = AbiStore.empty.insertEach stores) : s.Live stores := by
  have hlookup : ∀ name abi, s.abis.lookup? name = some abi ↔ MostRecent stores name abi := by
    intro name abi
    rw [h, AbiStore.lookup?_insertEach_iff]
  have hbind : ∀ (c : Connection) name target address,
      target.address? (some c.gateway) c.registry = some address → ∀ binding,
      (c.bindTarget s.abis name target = .ok binding ↔
        ∃ abi, MostRecent stores name abi ∧ binding = c.bound name address abi) := by
    intro c name target address haddress binding
    rw [c.bindTarget_eq_ok_iff haddress]
    simp only [hlookup]
  refine ⟨hlookup, s.abis.contains_eq_isSome_lookup?, ?_, ?_, hbind⟩
  · rw [h, AbiStore.size_insertEach]
  · intro c name target address haddress
    simp only [hbind c name target address haddress]
    rw [← AbiStore.exists_mostRecent_iff]
    constructor
    · rintro ⟨binding, abi, hrecent, -⟩
      exact ⟨abi, hrecent⟩
    · rintro ⟨abi, hrecent⟩
      exact ⟨_, abi, hrecent, rfl⟩

theorem holds_of_getElem? {s : Session} {index : Nat} {binding : Binding}
    (h : s.bindings[index]? = some binding) : s.Holds index binding := by
  refine ⟨h, fun method => Abi.declares_iff binding.abi method, ?_, ?_⟩
  · intro method args hmethod
    dsimp only [step]
    rw [h]
    dsimp only
    rw [binding.call_of_hasFunction hmethod]
    exact ⟨rfl, rfl⟩
  · intro method args hmethod
    dsimp only [step]
    rw [h]
    dsimp only
    rw [binding.call_of_not_hasFunction hmethod]
    exact ⟨rfl, rfl⟩

/-- In every session a bind of a name comes about exactly when an ABI was stored under it before,
and takes the one that was stored last.  The binding stays as it is, and it accepts the methods of
its ABI and sends that ABI, whatever happens afterwards.  The same bind made later takes the ABI that
was stored last by then. -/
theorem run_live_frozen (answer : List ContractCall → ContractCall → Except Refusal Json)
    (events : List Event) :
    ((start answer).run events).Live (storedBy events) ∧
    ((start answer).run events).HandsOverFunctions ∧
    ∀ (c : Connection) (name : String) (target : Target) (binding : Binding),
      c.bindTarget ((start answer).run events).abis name target = .ok binding →
      MostRecent (storedBy events) name binding.abi ∧
      ∀ later,
        let s := (start answer).run (events ++ .bind c name target :: later)
        s.Holds ((start answer).run events).bindings.length binding ∧
        (name ∉ (storedBy later).map Prod.fst → c.bindTarget s.abis name target = .ok binding) ∧
        ∀ abi, MostRecent (storedBy later) name abi →
          c.bindTarget s.abis name target = .ok { binding with abi := abi } := by
  have hlive : ∀ events, ((start answer).run events).Live (storedBy events) :=
    fun events => live_of_abis_eq (abis_run (start answer) events)
  have hunused : (start answer).HandsOverFunctions :=
    fun call hcall => absurd hcall List.not_mem_nil
  refine ⟨hlive events, handsOverFunctions_run hunused events, ?_⟩
  intro c name target binding hbind
  obtain ⟨address, haddress⟩ := Connection.exists_address_of_bindTarget hbind
  obtain ⟨abi, hrecent, rfl⟩ := ((hlive events).bind_iff c name target address haddress binding).1 hbind
  refine ⟨hrecent, fun later => ?_⟩
  have hstores : storedBy (events ++ .bind c name target :: later) =
      storedBy events ++ storedBy later :=
    storedBy_append events (.bind c name target :: later)
  have hagain := (hlive (events ++ .bind c name target :: later)).bind_iff c name target address haddress
  rw [hstores] at hagain
  refine ⟨?_, fun hnone => ?_, fun abi' hlast => ?_⟩
  · apply holds_of_getElem?
    rw [run_append]
    apply getElem?_bindings_run (s := step _ _)
    dsimp only [step]
    rw [hbind]
    exact List.getElem?_concat_length
  · exact (hagain _).2 ⟨abi, AbiStore.mostRecent_append_of_not_mem hrecent hnone, rfl⟩
  · exact (hagain _).2 ⟨abi', AbiStore.mostRecent_append_of_mostRecent hlast _, rfl⟩

/-- An ABI is replaced after a bind. -/
theorem run_live_frozen_replaced :
    let endpoint := Network.calibration.config.endpoint
    let gateway : ContractAddress := ⟨"0xc7068Cea947035560128a6a6F4c8913523A5A44C", by decide⟩
    let c : Connection := ⟨SubnetId.ofRoot 1, endpoint.url, gateway, none, none, none⟩
    let s := (start fun _ _ => .ok .null).run
      [.insert "n" (.array []), .bind c "n" .gatewayFacet, .insert "n" .null]
    ∃ binding, s.Holds 0 binding ∧ binding.abi = .array [] ∧
      c.bindTarget s.abis "n" .gatewayFacet = .ok { binding with abi := .null } := by
  intro endpoint gateway c s
  obtain ⟨hlive, -, hfrozen⟩ := run_live_frozen (fun _ _ => .ok .null) [.insert "n" (.array [])]
  obtain ⟨binding, hbind⟩ := (hlive.bind_succeeds_iff c "n" .gatewayFacet gateway rfl).2
    (List.mem_singleton_self _)
  obtain ⟨hrecent, hlater⟩ := hfrozen c "n" .gatewayFacet binding hbind
  obtain ⟨hholds, -, hagain⟩ := hlater [.insert "n" .null]
  have habi := (AbiStore.mostRecent_concat_iff [] ("n", .array []) "n" binding.abi).1 hrecent
  rw [if_pos rfl] at habi
  exact ⟨binding, hholds, habi.symm, hagain .null (AbiStore.mostRecent_concat_self [] "n" .null)⟩

end Session

end SubnetRouter
