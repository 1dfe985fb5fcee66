import Mathlib.Data.Set.Basic
import SubnetRouter.Proofs.Abi.Loading
import SubnetRouter.Proofs.Json.RoundTrip
import SubnetRouter.Proofs.Provider.Sessions

/-!
# Methods of loaded contracts

A file with an ABI is loaded under the name of a contract, a connection binds the contract, and the
binding accepts methods.  Which methods it accepts depends on nothing but the ABI in the file.

* `Loaded.abi_eq`: the binding has the ABI of the file.
* `Loaded.mem_methods_iff`, `call_iff`: the methods that are accepted, and what a call shows of it.
* `Loaded.methods_congr`, `Loaded.methods_append`: ABIs with other entries.
* `methods_of_loaded`: from the file to the calls.
-/

namespace SubnetRouter

open AbiStore (HoldsAbi)

namespace Binding

/-- The methods that a binding accepts. -/
def methods (b : Binding) : Set String :=
  {method | b.hasMethod method = true}

/-- The binding was made of a contract after a file with the ABI had been loaded under its name.  The
store held anything before, and what it holds under the name has not changed since. -/
def Loaded (b : Binding) (abi : Abi) : Prop :=
  ∃ (files : Files) (path : String) (s s' later : AbiStore) (c : Connection) (target : Target),
    HoldsAbi files path abi ∧ s.loadFile files b.name path = (s', .ok ()) ∧
      later.lookup? b.name = s'.lookup? b.name ∧ c.bindTarget later b.name target = .ok b

variable {b b' both : Binding} {abi : Abi} {entries entries' : List Json}

/-! ## From files to bindings -/

theorem lookup?_of_loadFile {files : Files} {name path : String} {s s' : AbiStore}
    (hfile : HoldsAbi files path abi) (hload : s.loadFile files name path = (s', .ok ())) :
    s'.lookup? name = some abi := by
  rw [AbiStore.loadFile_of_holdsAbi hfile, Prod.mk.injEq] at hload
  rw [← hload.1, AbiStore.lookup?_insert_self]

theorem bindTarget_eq_ok_iff_of_lookup? (c : Connection) {s : AbiStore} {name : String}
    (hlookup : s.lookup? name = some abi) {target : Target} {address : ContractAddress}
    (haddress : target.address? (some c.gateway) c.registry = some address) :
    c.bindTarget s name target = .ok b ↔ b = c.bound name address abi := by
  rw [Connection.bindTarget_eq_ok_iff c haddress, hlookup]
  simp only [Option.some.injEq, exists_eq_left']

theorem Loaded.abi_eq (h : b.Loaded abi) : b.abi = abi := by
  obtain ⟨files, path, s, s', later, c, target, hfile, hload, hlater, hbind⟩ := h
  rw [lookup?_of_loadFile hfile hload] at hlater
  obtain ⟨address, haddress⟩ := Connection.exists_address_of_bindTarget hbind
  have hbound := (bindTarget_eq_ok_iff_of_lookup? c hlater haddress).1 hbind
  rw [hbound]
  rfl

/-- A file with an ABI is loaded, and its contract is bound wherever there is an address for it. -/
theorem loaded_of_holdsAbi {files : Files} {path : String} (hfile : HoldsAbi files path abi)
    (name : String) (s : AbiStore) :
    ∃ s', s.loadFile files name path = (s', .ok ()) ∧
      ∀ (later : AbiStore) (c : Connection) target, later.lookup? name = s'.lookup? name →
        (∀ address, target.address? (some c.gateway) c.registry = some address →
          ∃ b, c.bindTarget later name target = .ok b) ∧
        ∀ b, c.bindTarget later name target = .ok b → b.name = name ∧ b.Loaded abi := by
  have hload := AbiStore.loadFile_of_holdsAbi hfile name s
  refine ⟨s.insert name abi, hload, fun later c target hlater => ?_⟩
  have hlookup : later.lookup? name = some abi := by
    rw [hlater, lookup?_of_loadFile hfile hload]
  constructor
  · intro address haddress
    exact ⟨_, (bindTarget_eq_ok_iff_of_lookup? c hlookup haddress).2 rfl⟩
  · intro b hbind
    obtain ⟨address, haddress⟩ := Connection.exists_address_of_bindTarget hbind
    obtain rfl : b.name = name := by
      rw [(bindTarget_eq_ok_iff_of_lookup? c hlookup haddress).1 hbind]
      rfl
    exact ⟨rfl, files, path, s, _, later, c, target, hfile, hload, hlater, hbind⟩

/-- The text of an object with the ABI as its one member is a file with the ABI. -/
theorem holdsAbi_compact {files : Files} {path : String} (habi : Json.Exact 126 abi)
    (hfile : files path = .ok (Json.compact (.object [("abi", abi)])).toUTF8) :
    HoldsAbi files path abi := by
  have hexact : Json.Exact Json.maxDepth (.object [("abi", abi)]) :=
    .object (List.pairwise_singleton _ _) (by simpa using habi)
  have hread := Json.read?_compact hexact
  exact (AbiStore.readArtifact_eq_ok_iff files path abi).1
    (AbiStore.readArtifact_of_toUTF8 hfile hread rfl)

/-! ## Methods -/

theorem mem_methods_iff (b : Binding) (method : String) :
    method ∈ b.methods ↔ Abi.HasFunction b.abi method :=
  Abi.declares_iff b.abi method

theorem Loaded.mem_methods_iff (h : b.Loaded abi) (method : String) :
    method ∈ b.methods ↔ Abi.HasFunction abi method := by
  rw [Binding.mem_methods_iff, h.abi_eq]

/-- A method is accepted exactly when its calls are not refused as unknown, and exactly when they are
handed to the chain. -/
theorem call_iff (b : Binding) (method : String) (args : List Json) (chain : Chain) :
    ((b.call method args chain).1 ≠ .error (.unknownMethod b.name method) ↔ method ∈ b.methods) ∧
    ((b.call method args chain).2.calls = chain.calls ++ [b.request method args] ↔
      method ∈ b.methods) := by
  rw [mem_methods_iff]
  by_cases hmethod : Abi.HasFunction b.abi method
  · rw [call_of_hasFunction b hmethod]
    refine ⟨iff_of_true ?_ hmethod, iff_of_true rfl hmethod⟩
    -- What the chain refuses is told as its refusal.
    intro hunknown
    obtain ⟨refusal, -, hrefusal⟩ := (mapError_eq_error_iff _ _ _).1 hunknown
    cases hrefusal
  · rw [call_of_not_hasFunction b hmethod]
    refine ⟨iff_of_false (not_not_intro rfl) hmethod, iff_of_false ?_ hmethod⟩
    intro hcalls
    exact absurd (List.self_eq_append_right.1 hcalls) (List.cons_ne_nil _ _)

theorem Loaded.methods_eq_empty (h : b.Loaded abi) (habi : ∀ entries, abi ≠ .array entries) :
    b.methods = ∅ := by
  ext method
  rw [h.mem_methods_iff]
  constructor
  · intro hmethod
    obtain ⟨entries, hentries, -⟩ := hmethod
    exact absurd hentries (habi entries)
  · intro hmem
    exact absurd hmem (Set.notMem_empty method)

theorem Loaded.methods_congr (h : b.Loaded (.array entries)) (h' : b'.Loaded (.array entries'))
    (hentries : ∀ entry ∈ entries, entry ∈ entries' ∨ Abi.IsInert entry)
    (hentries' : ∀ entry ∈ entries', entry ∈ entries ∨ Abi.IsInert entry) :
    b.methods = b'.methods := by
  ext method
  rw [h.mem_methods_iff, h'.mem_methods_iff]
  exact Abi.hasFunction_congr hentries hentries' method

theorem Loaded.methods_append (h : b.Loaded (.array entries)) (h' : b'.Loaded (.array entries'))
    (hboth : both.Loaded (.array (entries ++ entries'))) :
    both.methods = b.methods ∪ b'.methods := by
  ext method
  rw [Set.mem_union, h.mem_methods_iff, h'.mem_methods_iff, hboth.mem_methods_iff]
  exact Abi.hasFunction_append_iff entries entries' method

/-! ## From files to calls -/

/-- A file with an ABI is always loaded.  As long as the store keeps that ABI, the contract is bound
wherever there is an address for it, and a binding accepts exactly the methods that an entry of the
array describes as functions: the others are refused as unknown, and no call of them is handed to the
chain.  An ABI that is no array gives no methods.  The order of the entries and their repetition make no
difference, and neither do entries that are no objects or of another type; arrays put together give
the methods of both. -/
theorem methods_of_loaded :
    (∀ (files : Files) (path : String) (abi : Abi) (name : String) (s : AbiStore),
      HoldsAbi files path abi →
      ∃ s', s.loadFile files name path = (s', .ok ()) ∧
        ∀ (later : AbiStore) (c : Connection) target, later.lookup? name = s'.lookup? name →
          (∀ address, target.address? (some c.gateway) c.registry = some address →
            ∃ b, c.bindTarget later name target = .ok b) ∧
          ∀ b, c.bindTarget later name target = .ok b → b.name = name ∧ b.Loaded abi) ∧
    (∀ (b : Binding) (abi : Abi), b.Loaded abi → ∀ method,
      (method ∈ b.methods ↔ ∃ entries members, abi = .array entries ∧
        .object members ∈ entries ∧ members.lookup "name" = some (.string method) ∧
        Abi.HasFunctionType members) ∧
      ∀ args chain,
        ((b.call method args chain).1 ≠ .error (.unknownMethod b.name method) ↔
          method ∈ b.methods) ∧
        ((b.call method args chain).2.calls = chain.calls ++ [b.request method args] ↔
          method ∈ b.methods)) ∧
    (∀ (b : Binding) (abi : Abi), b.Loaded abi → (∀ entries, abi ≠ .array entries) → b.methods = ∅) ∧
    ∀ (entries entries' : List Json) (b b' : Binding),
      b.Loaded (.array entries) → b'.Loaded (.array entries') →
      ((∀ entry, entry ∈ entries ↔ entry ∈ entries') → b.methods = b'.methods) ∧
      ((∀ entry ∈ entries, entry ∈ entries') →
        (∀ entry ∈ entries', entry ∈ entries ∨ Abi.IsInert entry) → b'.methods = b.methods) ∧
      ∀ both : Binding, both.Loaded (.array (entries ++ entries')) →
        both.methods = b.methods ∪ b'.methods := by
  refine ⟨?_, ?_, ?_, ?_⟩
  · intro files path abi name s hfile
    exact loaded_of_holdsAbi hfile name s
  · intro b abi hloaded method
    refine ⟨?_, call_iff b method⟩
    rw [hloaded.mem_methods_iff, Abi.hasFunction_iff]
  · intro b abi hloaded habi
    exact hloaded.methods_eq_empty habi
  · intro entries entries' b b' hloaded hloaded'
    refine ⟨?_, ?_, ?_⟩
    · intro hsame
      exact hloaded.methods_congr hloaded' (fun entry hentry => Or.inl ((hsame entry).1 hentry))
        fun entry hentry => Or.inl ((hsame entry).2 hentry)
    · intro hsubset hinert
      exact hloaded'.methods_congr hloaded hinert fun entry hentry => Or.inl (hsubset entry hentry)
    · intro both hboth
      exact hloaded.methods_append hloaded' hboth

/-- An event has the name of a function that has no readable type. -/
theorem methods_of_loaded_sameName :
    let event : Json := .object [("name", .string "vote"), ("type", .string "event")]
    let vote : Json := .object [("name", .string "vote"), ("type", .null)]
    ∃ events votes vote' both nothing : Binding,
      events.Loaded (.array [event, .null]) ∧ votes.Loaded (.array [vote, vote]) ∧
      vote'.Loaded (.array [vote]) ∧ both.Loaded (.array ([event, .null] ++ [vote, vote])) ∧
      nothing.Loaded .null ∧
      "vote" ∉ events.methods ∧ "vote" ∈ votes.methods ∧ vote'.methods = votes.methods ∧
      both.methods = events.methods ∪ votes.methods ∧ both.methods = votes.methods ∧
      nothing.methods = ∅ := by
  intro event vote
  obtain ⟨hloads, hmethods, hempty, hentries⟩ := methods_of_loaded
  have hbinding : ∀ abi, Json.Exact 126 abi → ∃ b : Binding, b.Loaded abi := by
    intro abi habi
    obtain ⟨s, -, hbinds⟩ := hloads
      (fun _ => .ok (Json.compact (.object [("abi", abi)])).toUTF8) "abis/Gateway.json" abi "Gateway"
      .empty (holdsAbi_compact habi rfl)
    obtain ⟨hexists, hall⟩ := hbinds s ⟨SubnetId.ofRoot 1, Network.calibration.config.endpoint.url,
      ⟨"0xc7068Cea947035560128a6a6F4c8913523A5A44C", by decide⟩, none, none, none⟩ .gatewayFacet rfl
    obtain ⟨b, hb⟩ := hexists _ rfl
    exact ⟨b, (hall b hb).2⟩
  have hevent : Json.Exact 125 event := .object (by decide) (by simp [Json.Exact.string])
  have hvote : Json.Exact 125 vote :=
    .object (by decide) (by simp [Json.Exact.string, Json.Exact.null])
  obtain ⟨events, hevents⟩ := hbinding (.array [event, .null])
    (.array (by simp [hevent, Json.Exact.null]))
  obtain ⟨votes, hvotes⟩ := hbinding (.array [vote, vote]) (.array (by simp [hvote]))
  obtain ⟨vote', hvote'⟩ := hbinding (.array [vote]) (.array (by simp [hvote]))
  obtain ⟨both, hboth⟩ := hbinding (.array ([event, .null] ++ [vote, vote]))
    (.array (by simp [hevent, hvote, Json.Exact.null]))
  obtain ⟨nothing, hnothing⟩ := hbinding .null .null
  have hinert : ∀ entry ∈ [event, .null] ++ [vote, vote],
      entry ∈ [vote, vote] ∨ Abi.IsInert entry := by
    intro entry hentry
    rcases List.mem_append.1 hentry with hmem | hmem
    · rcases List.mem_pair.1 hmem with rfl | rfl
      · exact Or.inr (Or.inr ⟨"event", rfl, by decide⟩)
      · exact Or.inr (Or.inl fun members => nofun)
    · exact Or.inl hmem
  refine ⟨events, votes, vote', both, nothing, hevents, hvotes, hvote', hboth, hnothing,
    ?_, ?_, ?_, ?_, ?_, ?_⟩
  · rw [(hmethods events _ hevents "vote").1]
    rintro ⟨entries, members, hentries, hmem, -, htype⟩
    cases hentries
    rcases List.mem_pair.1 hmem with hmembers | hmembers
    · rw [Json.object.inj hmembers] at htype
      exact absurd ((Abi.hasFunctionType_iff _).1 htype "event" rfl) (by decide)
    · cases hmembers
  · exact (hmethods votes _ hvotes "vote").1.2
      ⟨_, _, rfl, List.mem_cons_self, rfl, .notString rfl nofun⟩
  · exact (hentries _ _ vote' votes hvote' hvotes).1 (by simp)
  · exact (hentries _ _ events votes hevents hvotes).2.2 both hboth
  · exact (hentries _ _ votes both hvotes hboth).2.1 (by simp) hinert
  · exact hempty nothing .null hnothing nofun

end Binding

end SubnetRouter
