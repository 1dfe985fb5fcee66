import SubnetRouter.Config.Json
import SubnetRouter.Proofs.ContractAddress.Bytes
import SubnetRouter.Proofs.Json.RoundTrip
import SubnetRouter.Proofs.Networks

/-!
# Written configurations read back

A configuration is written as an object with a member for everything that is set.  What is not set has
no member, so reading the object back finds it unset again.  The text of a URL stands for itself here:
of the URL it is only used that its text is read as the same URL.

* `Endpoint.toJson_eq`: the members that are written, in order.
* `Endpoint.exact_toJson`, `SubnetConfig.exact_toJson`: the written forms have texts that read back.
* `readEndpoint_toJson`, `readConfig_toJson`: reading back.
* `SubnetConfig.readConfig_toJson_and_members`: reading back in all its parts.
-/

namespace SubnetRouter

variable {idna : Url.Idna}

/-- The text of the URL is read as the URL itself. -/
def Url.ReadsBack (idna : Idna) (u : Url) : Prop :=
  Url.read idna u.text = .ok u

/-- Reads a value as an endpoint and writes that. -/
def Endpoint.rewrite (idna : Url.Idna) (value : Json) : Except DocumentFault Json :=
  (Document.readEndpoint idna value).map Endpoint.toJson

/-- Reads a value as a configuration and writes that. -/
def SubnetConfig.rewrite (idna : Url.Idna) (value : Json) : Except DocumentFault Json :=
  (Document.readConfig idna value).map SubnetConfig.toJson

/-! ## Members that may be left out -/

namespace Json

variable {β : Type} (name : String) (text : β → String) (value : Option β)

theorem lookup_optionalMember (key : String) :
    (optionalMember name text value).lookup key =
      if key = name then value.map fun b => .string (text b) else none := by
  cases value with
  | none => simp [optionalMember]
  | some b =>
      rw [optionalMember, Option.map_some, Option.toList_some, List.lookup_cons]
      by_cases h : key = name
      · rw [h, beq_self_eq_true, if_pos rfl]
        rfl
      · rw [beq_eq_false_iff_ne.2 h, if_neg h]
        rfl

theorem map_fst_optionalMember_sublist :
    ((optionalMember name text value).map Prod.fst).Sublist [name] := by
  cases value with
  | none => exact List.nil_sublist [name]
  | some b => exact List.Sublist.refl [name]

theorem exact_of_mem_optionalMember {depth : Nat} {member : String × Json}
    (h : member ∈ optionalMember name text value) : Exact depth member.2 := by
  cases value with
  | none => cases h
  | some b =>
      rw [List.mem_singleton.1 h]
      exact .string (text b)

/-- A reader that takes the member for what it was written from has afterwards what was there. -/
theorem foldlM_optionalMember {σ : Type} (read : σ → String × Json → Except DocumentFault σ)
    (put : Option β → σ)
    (h : ∀ b, read (put none) (name, .string (text b)) = .ok (put (some b))) :
    (optionalMember name text value).foldlM read (put none) = .ok (put value) := by
  cases value with
  | none => rfl
  | some b =>
      change List.foldlM read (put none) [(name, .string (text b))] = _
      rw [List.foldlM_cons, h]
      rfl

end Json

/-! ## Endpoints -/

/-- The members of a written endpoint, in the order of their names. -/
theorem Endpoint.toJson_eq (e : Endpoint) :
    e.toJson = .object
      (Json.optionalMember "auth_token" id e.authToken
        ++ (Json.optionalMember "gateway_addr" ContractAddress.text e.gateway
          ++ ("provider_http", .string e.url.text)
            :: Json.optionalMember "registry_addr" ContractAddress.text e.registry)) := by
  obtain ⟨url, token, registry, gateway⟩ := e
  cases token <;> cases registry <;> cases gateway <;> rfl

/-- The members of a written endpoint are in order, and all are strings. -/
theorem Endpoint.exact_toJson (e : Endpoint) (depth : Nat) : Json.Exact (depth + 1) e.toJson := by
  rw [toJson_eq]
  have hnames : (["auth_token"] ++ (["gateway_addr"] ++ (["provider_http"] ++ ["registry_addr"]))).Pairwise
      (· < ·) := by decide
  refine .object (List.pairwise_map.1 (hnames.sublist ?_)) ?_
  · rw [List.map_append, List.map_append, List.map_cons]
    refine .append ?_ (.append ?_ (.cons_cons _ ?_))
    · exact Json.map_fst_optionalMember_sublist _ _ _
    · exact Json.map_fst_optionalMember_sublist _ _ _
    · exact Json.map_fst_optionalMember_sublist _ _ _
  · intro member hmember
    simp only [List.mem_append, List.mem_cons] at hmember
    rcases hmember with htoken | hgateway | rfl | hregistry
    · exact Json.exact_of_mem_optionalMember _ _ _ htoken
    · exact Json.exact_of_mem_optionalMember _ _ _ hgateway
    · exact .string _
    · exact Json.exact_of_mem_optionalMember _ _ _ hregistry

namespace Document

theorem readText_string (expected : Expected) (text : String) :
    readText expected (Json.string text) = .ok text := rfl

theorem readAddress_text (a : ContractAddress) : readAddress (Json.string a.text) = .ok a := by
  rw [ContractAddress.readAddress_of_shape rfl, (ContractAddress.read?_eq_some_iff _ a).2 rfl]

theorem readUrl_text {u : Url} (h : u.ReadsBack idna) :
    readUrl idna (Json.string u.text) = .ok u := by
  rw [readUrl, readText_string, bind_eq_ok_iff]
  exact ⟨u.text, rfl, (mapError_eq_ok_iff _ _ u).2 h⟩

theorem readOptional_string {β : Type} (read : Json → Except DocumentFault β) (text : String) :
    readOptional read (Json.string text) = (read (Json.string text)).map some := rfl

namespace EndpointMembers

theorem read_url (m : EndpointMembers) {u : Url} (h : u.ReadsBack idna) :
    m.read idna ("provider_http", Json.string u.text) = .ok { m with url := some u } := by
  simp only [read]
  rw [readUrl_text h, Except.map]

/-- A member that may be left out is read into its place. -/
theorem read_optional {β : Type} {name text : String} {reader : Json → Except DocumentFault β} {b : β}
    (place : EndpointMembers → Option β → EndpointMembers)
    (hname : ∀ m value, read idna m (name, value) = (readOptional reader value).map (place m))
    (hreader : reader (.string text) = .ok b) (m : EndpointMembers) :
    m.read idna (name, Json.string text) = .ok (place m (some b)) := by
  rw [hname, readOptional_string, hreader, Except.map, Except.map]

/-- The members of a written endpoint are read one after the other, each into its own place. -/
theorem foldlM_read_toJson (e : Endpoint) (h : e.url.ReadsBack idna) :
    (Json.optionalMember "auth_token" id e.authToken
      ++ (Json.optionalMember "gateway_addr" ContractAddress.text e.gateway
        ++ ("provider_http", .string e.url.text)
          :: Json.optionalMember "registry_addr" ContractAddress.text e.registry)).foldlM
        (read idna) ⟨none, none, none, none⟩ =
      .ok ⟨some e.url, e.authToken, e.registry, e.gateway⟩ := by
  have htoken := Json.foldlM_optionalMember "auth_token" id e.authToken (read idna)
    (fun token => ⟨none, token, none, none⟩)
    fun token => read_optional (fun m token => { m with authToken := token })
      (fun _ _ => rfl) (readText_string .text token) _
  have hgateway := Json.foldlM_optionalMember "gateway_addr" ContractAddress.text e.gateway (read idna)
    (fun gateway => ⟨none, e.authToken, none, gateway⟩)
    fun gateway => read_optional (fun m gateway => { m with gateway := gateway })
      (fun _ _ => rfl) (readAddress_text gateway) _
  have hregistry := Json.foldlM_optionalMember "registry_addr" ContractAddress.text e.registry
    (read idna) (fun registry => ⟨some e.url, e.authToken, registry, e.gateway⟩)
    fun registry => read_optional (fun m registry => { m with registry := registry })
      (fun _ _ => rfl) (readAddress_text registry) _
  rw [List.foldlM_append, bind_eq_ok_iff]
  refine ⟨_, htoken, ?_⟩
  rw [List.foldlM_append, bind_eq_ok_iff]
  refine ⟨_, hgateway, ?_⟩
  rw [List.foldlM_cons, bind_eq_ok_iff]
  exact ⟨_, read_url _ h, hregistry⟩

end EndpointMembers

theorem readEndpoint_toJson (e : Endpoint) (h : e.url.ReadsBack idna) :
    readEndpoint idna e.toJson = .ok e := by
  rw [Endpoint.toJson_eq]
  change (List.foldlM (EndpointMembers.read idna) _ _ >>= _) = _
  rw [EndpointMembers.foldlM_read_toJson e h]
  rfl

end Document

theorem Endpoint.member?_toJson (e : Endpoint) :
    e.toJson.member? "provider_http" = some (.string e.url.text) ∧
    e.toJson.member? "auth_token" = e.authToken.map .string ∧
    e.toJson.member? "registry_addr" = e.registry.map (.string ·.text) ∧
    e.toJson.member? "gateway_addr" = e.gateway.map (.string ·.text) := by
  rw [toJson_eq]
  simp [Json.member?, Json.lookup_optionalMember, List.lookup_append, List.lookup_cons]

/-! ## Configurations -/

theorem SubnetConfig.toJson_eq (c : SubnetConfig) :
    c.toJson = .object [("fevm", c.endpoint.toJson), ("network_type", .string c.kind.name)] := rfl

theorem SubnetConfig.exact_toJson (c : SubnetConfig) (depth : Nat) :
    Json.Exact (depth + 2) c.toJson := by
  rw [toJson_eq]
  refine .object (List.pairwise_map.1 (?_ : ["fevm", "network_type"].Pairwise (· < ·))) ?_
  · decide
  · intro member hmember
    rcases List.mem_pair.1 hmember with rfl | rfl
    · exact c.endpoint.exact_toJson depth
    · exact .string _

namespace Document

theorem readChainKind_name (kind : ChainKind) : readChainKind (Json.string kind.name) = .ok kind := by
  cases kind
  rfl

theorem readConfig_toJson (c : SubnetConfig) (h : c.endpoint.url.ReadsBack idna) :
    readConfig idna c.toJson = .ok c := by
  have hendpoint : ConfigMembers.read idna ⟨none, none⟩ ("fevm", c.endpoint.toJson) =
      .ok ⟨none, some c.endpoint⟩ := by
    simp only [ConfigMembers.read]
    rw [readEndpoint_toJson _ h, Except.map]
  have hkind :
      ConfigMembers.read idna ⟨none, some c.endpoint⟩ ("network_type", Json.string c.kind.name) =
        .ok ⟨some c.kind, some c.endpoint⟩ := by
    simp only [ConfigMembers.read]
    rw [readChainKind_name, Except.map]
  rw [SubnetConfig.toJson_eq]
  change (List.foldlM (ConfigMembers.read idna) _ _ >>= _) = _
  have hfold : [("fevm", c.endpoint.toJson), ("network_type", Json.string c.kind.name)].foldlM
      (ConfigMembers.read idna) ⟨none, none⟩ = .ok ⟨some c.kind, some c.endpoint⟩ := by
    rw [List.foldlM_cons, bind_eq_ok_iff]
    refine ⟨_, hendpoint, ?_⟩
    rw [List.foldlM_cons, bind_eq_ok_iff]
    exact ⟨_, hkind, rfl⟩
  rw [hfold]
  rfl

end Document

theorem Network.readsBack_calibration (idna : Url.Idna) :
    calibration.config.endpoint.url.ReadsBack idna :=
  rfl

/-- A configuration or an endpoint whose URL reads back is read from its written form as it was,
however it was obtained; those of the networks with a name are among them.  The written form itself
reads back from its text, compact or indented.  What may be set has a member with its text if it is
set, if only with an empty text, and no member if it is not.  So whatever value a configuration or an
endpoint was read from, writing it gives a value that is rewritten as itself. -/
theorem SubnetConfig.readConfig_toJson_and_members (idna : Url.Idna) :
    (∀ c : SubnetConfig, c.endpoint.url.ReadsBack idna →
      Document.readConfig idna c.toJson = .ok c) ∧
    (∀ e : Endpoint, e.url.ReadsBack idna → Document.readEndpoint idna e.toJson = .ok e) ∧
    (∀ row ∈ Network.table, ∃ network, Network.ofRow idna row = .ok network ∧
      Document.readConfig idna network.config.toJson = .ok network.config) ∧
    (∀ c : SubnetConfig, Json.read? (Json.compact c.toJson) = some c.toJson ∧
      Json.read? (Json.indented c.toJson) = some c.toJson) ∧
    (∀ e : Endpoint, Json.read? (Json.compact e.toJson) = some e.toJson ∧
      Json.read? (Json.indented e.toJson) = some e.toJson) ∧
    (∀ e : Endpoint,
      e.toJson.member? "provider_http" = some (.string e.url.text) ∧
      e.toJson.member? "auth_token" = e.authToken.map .string ∧
      e.toJson.member? "registry_addr" = e.registry.map (.string ·.text) ∧
      e.toJson.member? "gateway_addr" = e.gateway.map (.string ·.text)) ∧
    (∀ value c, Document.readConfig idna value = .ok c → c.endpoint.url.ReadsBack idna →
      ∃ written, rewrite idna value = .ok written ∧ rewrite idna written = .ok written) ∧
    (∀ value e, Document.readEndpoint idna value = .ok e → e.url.ReadsBack idna →
      ∃ written, Endpoint.rewrite idna value = .ok written ∧
        Endpoint.rewrite idna written = .ok written) := by
  refine ⟨Document.readConfig_toJson, Document.readEndpoint_toJson, ?_, fun c => ?_, fun e => ?_,
    Endpoint.member?_toJson, ?_, ?_⟩
  · intro row hmem
    exact ⟨Network.calibration, Network.ofRow_of_mem idna hmem,
      Document.readConfig_toJson _ (Network.readsBack_calibration idna)⟩
  · have hexact : Json.Exact Json.maxDepth c.toJson := c.exact_toJson 125
    exact ⟨Json.read?_compact hexact, Json.read?_indented hexact⟩
  · have hexact : Json.Exact Json.maxDepth e.toJson := e.exact_toJson 126
    exact ⟨Json.read?_compact hexact, Json.read?_indented hexact⟩
  · intro value c hread hurl
    refine ⟨c.toJson, ?_, ?_⟩
    · rw [rewrite, hread, Except.map]
    · rw [rewrite, Document.readConfig_toJson c hurl, Except.map]
  · intro value e hread hurl
    refine ⟨e.toJson, ?_, ?_⟩
    · rw [Endpoint.rewrite, hread, Except.map]
    · rw [Endpoint.rewrite, Document.readEndpoint_toJson e hurl, Except.map]

/-- A configuration as it may come in: the kind as an object, an empty token, an address that is null,
and a member that nobody asks for. -/
theorem SubnetConfig.readConfig_toJson_and_members_emptyToken :
    let value : Json := .object
      [("fevm", .object [("auth_token", .string ""), ("comment", .bool true), ("gateway_addr", .null),
          ("provider_http", .string "HTTP://x")]),
        ("network_type", .object [("fevm", .null)])]
    ∃ c, Document.readConfig .asciiOnly value = .ok c ∧ c.endpoint.url.ReadsBack .asciiOnly ∧
      Document.readConfig .asciiOnly c.toJson = .ok c ∧
      c.endpoint.toJson.member? "auth_token" = some (.string "") ∧
      c.endpoint.toJson.member? "gateway_addr" = none := by
  intro value
  have hurl : Url.ReadsBack .asciiOnly
      ⟨"http".toList, some ⟨[], [], .domain ['x'], none⟩, .segments [[]], none, none⟩ := rfl
  have hread : Document.readConfig .asciiOnly value =
      .ok ⟨.fevm, ⟨⟨"http".toList, some ⟨[], [], .domain ['x'], none⟩, .segments [[]], none, none⟩,
        some "", none, none⟩⟩ := rfl
  obtain ⟨hback, -, -, -, -, hmembers, -⟩ := readConfig_toJson_and_members .asciiOnly
  exact ⟨_, hread, hurl, hback _ hurl, (hmembers _).2.1, (hmembers _).2.2.2⟩

end SubnetRouter
