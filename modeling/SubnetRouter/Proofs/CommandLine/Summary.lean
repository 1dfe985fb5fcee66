import SubnetRouter.Proofs.CommandLine.Tokens
import SubnetRouter.Proofs.ContractAddress.Bytes
import SubnetRouter.Proofs.Document.Endpoints
import SubnetRouter.Proofs.Provider.Routing
import SubnetRouter.Proofs.Url.Texts

/-!
# What is shown of a subnet

A resolved subnet is shown in four lines.  No field has a line break in it, and no address looks like
the words for an address that is not set, so the fields can be taken from the text again.  The field of
the endpoint tells which URL it is, since no two URLs that have been read have the same text.

* `Url.WellFormed.text_eq_iff`: URLs with the same text.
* `labelledLines_summary`: the lines of a summary.
* `summary_eq_iff`: connections with the same summary.
* `run_resolve_eq_ok_iff`: when a subnet is shown.
* `run_resolve_unambiguous`: what the lines hold, and what two runs with the same text have in common.
-/

namespace SubnetRouter

open Text

/-- The lines of a text, each as the label of ten characters in front and what follows it. -/
def labelledLines (text : String) : List (String × String) :=
  (text.toList.splitOn '\n').map fun line =>
    (String.ofList (line.take 10), String.ofList (line.drop 10))

/-- An optional address as summaries show it. -/
def shownAddress (address : Option ContractAddress) : String :=
  (address.map ContractAddress.text).getD "(none)"

/-! ## Fields -/

theorem SubnetId.newline_not_mem_text (id : SubnetId) : '\n' ∉ id.text.toList := by
  rw [text, String.toList_ofList, chars, List.mem_append, not_or, List.mem_flatMap]
  refine ⟨not_mem_root (by decide) (by decide) id.root, ?_⟩
  rintro ⟨actor, -, hmem⟩
  rcases List.mem_cons.1 hmem with hslash | hmem
  · cases hslash
  · exact not_mem_ethereumChars (by decide) (by decide) actor hmem

theorem ContractAddress.newline_not_mem_text (a : ContractAddress) : '\n' ∉ a.text.toList := by
  obtain ⟨digits, htext, -, hdigits⟩ := (isWellFormed_iff _).1 a.wellFormed
  rw [htext, List.mem_cons, List.mem_cons, not_or, not_or]
  refine ⟨by decide, by decide, fun hmem => ?_⟩
  exact absurd (hdigits _ hmem) (by decide)

theorem ContractAddress.ext_text {a b : ContractAddress} (h : a.text = b.text) : a = b := by
  cases a
  cases b
  cases h
  rfl

theorem ContractAddress.text_ne_none (a : ContractAddress) : a.text ≠ "(none)" := by
  obtain ⟨digits, htext, -⟩ := (isWellFormed_iff _).1 a.wellFormed
  intro hnone
  rw [hnone] at htext
  cases htext

theorem Url.WellFormed.newline_not_mem_text {u : Url} (h : u.WellFormed) : '\n' ∉ u.text.toList := by
  rw [Url.text, String.toList_ofList]
  intro hmem
  exact absurd (Url.avoids_chars h _ hmem) (by decide)

/-- URLs with the same text are the same in all of their parts. -/
theorem Url.WellFormed.text_eq_iff {u v : Url} (hu : u.WellFormed) (hv : v.WellFormed) :
    u.text = v.text ↔ u = v := by
  rw [Url.text, Url.text, String.ofList_inj]
  exact ⟨Url.chars_inj hu hv, congrArg Url.chars⟩

theorem newline_not_mem_shownAddress (address : Option ContractAddress) :
    '\n' ∉ (shownAddress address).toList := by
  cases address with
  | none => decide
  | some a => exact a.newline_not_mem_text

/-- An address that is not set is not shown like one that is. -/
theorem shownAddress_eq_iff (a b : Option ContractAddress) :
    shownAddress a = shownAddress b ↔ a = b := by
  constructor
  · intro h
    cases a with
    | none =>
        cases b with
        | none => rfl
        | some b => exact absurd h.symm b.text_ne_none
    | some a =>
        cases b with
        | none => exact absurd h a.text_ne_none
        | some b => exact congrArg some (ContractAddress.ext_text h)
  · rintro rfl
    rfl

/-! ## Lines -/

/-- The line of a label and the value after it. -/
def fieldChars (field : String × String) : List Char :=
  field.1.toList ++ field.2.toList

theorem labelledLines_eq {text : String} {first : String × String} {fields : List (String × String)}
    (htext : text.toList = fieldChars first ++ fields.flatMap fun field => '\n' :: fieldChars field)
    (hlabels : ∀ field ∈ first :: fields, field.1.toList.length = 10 ∧ '\n' ∉ field.1.toList)
    (hvalues : ∀ field ∈ first :: fields, '\n' ∉ field.2.toList) :
    labelledLines text = first :: fields := by
  have hlines : ∀ field ∈ first :: fields, '\n' ∉ fieldChars field := by
    intro field hmem
    rw [fieldChars, List.mem_append, not_or]
    exact ⟨(hlabels field hmem).2, hvalues field hmem⟩
  have hflat : (fields.flatMap fun field => '\n' :: fieldChars field) =
      (fields.map fieldChars).flatMap ('\n' :: ·) := by
    rw [List.flatMap_map]
  have hrest : ∀ segment ∈ fields.map fieldChars, '\n' ∉ segment := by
    intro segment hsegment
    obtain ⟨field, hfield, rfl⟩ := List.mem_map.1 hsegment
    exact hlines field (List.mem_cons_of_mem _ hfield)
  have hsplit : text.toList.splitOn '\n' = (first :: fields).map fieldChars := by
    rw [htext, hflat, SubnetId.splitOn_append_flatMap _ _ _ (hlines first List.mem_cons_self) hrest,
      List.map_cons]
  have hfield : ∀ field ∈ first :: fields,
      (String.ofList ((fieldChars field).take 10), String.ofList ((fieldChars field).drop 10)) =
        field := by
    intro field hmem
    have hlength := (hlabels field hmem).1
    rw [fieldChars, List.take_left' hlength, List.drop_left' hlength, String.ofList_toList,
      String.ofList_toList]
  rw [labelledLines, hsplit, List.map_map]
  exact (List.map_congr_left hfield).trans (List.map_id' _)

namespace Connection

theorem labelledLines_summary {c : Connection} (h : c.endpoint.WellFormed) :
    labelledLines c.summary =
      [("subnet:   ", c.subnet.text), ("endpoint: ", c.endpoint.text), ("gateway:  ", c.gateway.text),
        ("registry: ", shownAddress c.registry)] := by
  apply labelledLines_eq
  · unfold summary shownAddress
    simp [fieldChars]
  · simp only [List.forall_mem_cons, List.not_mem_nil, false_implies, implies_true, and_true]
    decide
  · simp only [List.forall_mem_cons, List.not_mem_nil, false_implies, implies_true, and_true]
    exact ⟨c.subnet.newline_not_mem_text, h.newline_not_mem_text, c.gateway.newline_not_mem_text,
      newline_not_mem_shownAddress c.registry⟩

/-- Connections with the same summary are the same in all that a summary shows. -/
theorem summary_eq_iff {c c' : Connection} (h : c.endpoint.WellFormed) (h' : c'.endpoint.WellFormed) :
    c.summary = c'.summary ↔
      c.subnet.text = c'.subnet.text ∧ c.endpoint = c'.endpoint ∧
        c.gateway = c'.gateway ∧ c.registry = c'.registry := by
  constructor
  · intro heq
    have hlines := labelledLines_summary h
    rw [heq, labelledLines_summary h'] at hlines
    simp only [List.cons.injEq, Prod.mk.injEq, true_and, and_true] at hlines
    obtain ⟨hsubnet, hendpoint, hgateway, hregistry⟩ := hlines
    exact ⟨hsubnet.symm, (h.text_eq_iff h').1 hendpoint.symm, ContractAddress.ext_text hgateway.symm,
      (shownAddress_eq_iff _ _).1 hregistry.symm⟩
  · rintro ⟨hsubnet, hendpoint, hgateway, hregistry⟩
    unfold summary
    rw [hsubnet, hendpoint, hgateway, hregistry]

end Connection

/-! ## Runs -/

namespace Invocation

variable {i : Invocation} {idna : Url.Idna} {files : Files} {env : Environment} {subnet : SubnetId}

/-- The registry of the run has an entry with a gateway under the text of the subnet. -/
structure Finds (i : Invocation) (idna : Url.Idna) (files : Files) (env : Environment)
    (subnet : SubnetId) (config : SubnetConfig) (gateway : ContractAddress) : Prop where
  entry : ∃ registry, i.registry idna files env = .ok registry ∧
    registry.get? subnet.text = some config
  gateway_eq : config.endpoint.gateway = some gateway

theorem Finds.wellFormed {config : SubnetConfig} {gateway : ContractAddress}
    (h : i.Finds idna files env subnet config gateway) : config.endpoint.url.WellFormed := by
  obtain ⟨registry, hregistry, hentry⟩ := h.entry
  exact Registry.wellFormed_of_ofSource ((mapError_eq_ok_iff _ _ _).1 hregistry) hentry

theorem run_resolve_eq_bind (h : i.command = .resolve subnet) (idna : Url.Idna) (files : Files)
    (env : Environment) :
    i.run idna files env = i.registry idna files env >>= (runResolve · subnet) := by
  unfold run runWith
  rw [h]

theorem runResolve_eq_ok_iff (registry : Registry) (subnet : SubnetId) (out : String) :
    runResolve registry subnet = .ok out ↔ ∃ config gateway,
      registry.get? subnet.text = some config ∧ config.endpoint.gateway = some gateway ∧
        (Connection.ofConfig subnet config gateway).summary = out := by
  rw [runResolve_eq]
  constructor
  · intro h
    split at h
    · cases h
    · rename_i config hentry
      split at h
      · cases h
      · rename_i gateway hgateway
        exact ⟨config, gateway, hentry, hgateway, Except.ok.inj h⟩
  · rintro ⟨config, gateway, hentry, hgateway, rfl⟩
    simp only [hentry, hgateway]

theorem run_resolve_eq_ok_iff (h : i.command = .resolve subnet) (out : String) :
    i.run idna files env = .ok out ↔ ∃ config gateway, i.Finds idna files env subnet config gateway ∧
      (Connection.ofConfig subnet config gateway).summary = out := by
  rw [run_resolve_eq_bind h, bind_eq_ok_iff]
  simp only [runResolve_eq_ok_iff]
  constructor
  · rintro ⟨registry, hregistry, config, gateway, hentry, hgateway, hout⟩
    exact ⟨config, gateway, ⟨⟨registry, hregistry, hentry⟩, hgateway⟩, hout⟩
  · rintro ⟨config, gateway, hfinds, hout⟩
    obtain ⟨registry, hregistry, hentry⟩ := hfinds.entry
    exact ⟨registry, hregistry, config, gateway, hentry, hfinds.gateway_eq, hout⟩

/-- A subnet whose id has been read is shown exactly when the registry loads and has an entry with a
gateway under the text of the id.  The text has four lines for the id, the endpoint, the gateway and
the registry contract, and the first of them reads back as the id.  Two runs show the same text
exactly when they show the same id, endpoint, gateway and registry contract, and endpoints are the same
when all parts of the URLs are; a registry contract that is not set is like no other. -/
theorem run_resolve_unambiguous {asked : String} (hread : SubnetId.read asked = .ok subnet)
    (hcommand : i.command = .resolve subnet) (idna : Url.Idna) (files : Files) (env : Environment) :
    ((∃ out, i.run idna files env = .ok out) ↔
      ∃ config gateway, i.Finds idna files env subnet config gateway) ∧
    (∀ config gateway, i.Finds idna files env subnet config gateway →
      ∃ out, i.run idna files env = .ok out ∧
        labelledLines out =
          [("subnet:   ", subnet.text), ("endpoint: ", config.endpoint.url.text),
            ("gateway:  ", gateway.text), ("registry: ", shownAddress config.endpoint.registry)] ∧
        SubnetId.read subnet.text = .ok subnet) ∧
    ∀ (i' : Invocation) (files' : Files) (env' : Environment) (subnet' : SubnetId) (asked' : String),
      SubnetId.read asked' = .ok subnet' → i'.command = .resolve subnet' →
      ∀ config gateway config' gateway', i.Finds idna files env subnet config gateway →
        i'.Finds idna files' env' subnet' config' gateway' →
        (i.run idna files env = i'.run idna files' env' ↔
          subnet = subnet' ∧ config.endpoint.url = config'.endpoint.url ∧
            gateway = gateway' ∧ config.endpoint.registry = config'.endpoint.registry) := by
  refine ⟨?_, ?_, ?_⟩
  · simp only [run_resolve_eq_ok_iff hcommand]
    constructor
    · rintro ⟨out, config, gateway, hfinds, -⟩
      exact ⟨config, gateway, hfinds⟩
    · rintro ⟨config, gateway, hfinds⟩
      exact ⟨_, config, gateway, hfinds, rfl⟩
  · intro config gateway hfinds
    refine ⟨_, (run_resolve_eq_ok_iff hcommand _).2 ⟨config, gateway, hfinds, rfl⟩,
      Connection.labelledLines_summary hfinds.wellFormed, ?_⟩
    rw [SubnetId.read_text, SubnetId.canonical_of_read hread]
  · intro i' files' env' subnet' asked' hread' hcommand' config gateway config' gateway' hfinds hfinds'
    have hrun := (run_resolve_eq_ok_iff hcommand _).2 ⟨config, gateway, hfinds, rfl⟩
    have hrun' := (run_resolve_eq_ok_iff hcommand' _).2 ⟨config', gateway', hfinds', rfl⟩
    rw [hrun, hrun', Except.ok.injEq, Connection.summary_eq_iff hfinds.wellFormed hfinds'.wellFormed]
    exact and_congr_left' (SubnetId.text_eq_iff_of_read hread hread')

/-- A document with the entry of the built-in network, but without its registry contract. -/
def unregisteredDocument : String :=
  "subnets.a = \x7bid = 'r314159', network_type = 'fevm', fevm = \x7b" ++
    "provider_http = 'https://api.calibration.node.glif.io/rpc/v1', " ++
    "gateway_addr = '0xc7068Cea947035560128a6a6F4c8913523A5A44C'\x7d\x7d"

/-- Both are shown, and the text tells whether there is a registry contract. -/
theorem run_resolve_unambiguous_unregistered :
    let i (config : Option String) : Invocation := ⟨none, config, .resolve Network.calibration.id⟩
    let files : Files := fun _ => .ok unregisteredDocument.toUTF8
    let env : Environment := ⟨.unset, .unset⟩
    (∃ out, (i none).run .asciiOnly files env = .ok out) ∧
      (∃ out, (i (some "reg.toml")).run .asciiOnly files env = .ok out) ∧
      (i none).run .asciiOnly files env ≠ (i (some "reg.toml")).run .asciiOnly files env := by
  intro i files env
  let gateway : ContractAddress := ⟨"0xc7068Cea947035560128a6a6F4c8913523A5A44C", by decide⟩
  let url := Network.calibration.config.endpoint.url
  let config : SubnetConfig := ⟨.fevm, (Endpoint.ofUrl url).withGateway gateway⟩
  have hasked : SubnetId.read "r314159" = .ok Network.calibration.id :=
    (toOption_eq_some_iff _ _).1 (by decide +kernel)
  have hread : Registry.readToml .asciiOnly unregisteredDocument =
      .ok [("a", ⟨Network.calibration.id, config⟩)] :=
    (toOption_eq_some_iff _ _).1 (by decide +kernel)
  have htext : files.readText "reg.toml" = .ok unregisteredDocument := Files.readText_of_toUTF8 rfl
  have hbuiltIn :
      (i none).Finds .asciiOnly files env Network.calibration.id Network.calibration.config
        gateway := by
    have hregistry := congrArg (Except.mapError RunFault.config) (Registry.ofNetwork_default .asciiOnly)
    refine ⟨⟨_, hregistry, ?_⟩, rfl⟩
    rw [Registry.get?_insert, if_pos rfl]
  have hdocument :
      (i (some "reg.toml")).Finds .asciiOnly files env Network.calibration.id config gateway := by
    refine ⟨⟨Registry.empty.insert Network.calibration.id config, ?_, ?_⟩, rfl⟩
    · rw [registry_of_file rfl htext, Registry.ofToml_eq_insertAll hread,
        Registry.insertAll, Registry.getSubnet?, Registry.get?_empty]
      rfl
    · rw [Registry.get?_insert, if_pos rfl]
  obtain ⟨hshown, -, htwo⟩ := run_resolve_unambiguous (i := i none) hasked rfl .asciiOnly files env
  obtain ⟨hshown', -, -⟩ :=
    run_resolve_unambiguous (i := i (some "reg.toml")) hasked rfl .asciiOnly files env
  refine ⟨hshown.2 ⟨_, _, hbuiltIn⟩, hshown'.2 ⟨_, _, hdocument⟩, fun hsame => ?_⟩
  have hregistry :=
    ((htwo _ files env _ _ hasked rfl _ _ _ _ hbuiltIn hdocument).1 hsame).2.2.2
  cases hregistry

end Invocation

end SubnetRouter
