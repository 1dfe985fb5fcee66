import SubnetRouter.Proofs.CommandLine.DryRun
import SubnetRouter.Proofs.Provider.Tokens

/-!
# Tokens are not shown

Registries that differ in tokens only cannot be told apart by what is shown of them, and documents
that differ in tokens only cannot either.

* `run_congr`: running an invocation.
* `map_ofToml_congr`: loading documents.
* `tokens_not_shown`: two registries and two documents.
-/

namespace SubnetRouter

/-! ## Invocations -/

theorem Chain.blindToTokens_dryRun : dryRun.BlindToTokens :=
  fun _ _ => rfl

theorem runResolve_withoutTokens (r : Registry) (subnet : SubnetId) :
    runResolve r.withoutTokens subnet = runResolve r subnet := by
  unfold runResolve Provider.connection
  dsimp only
  rw [r.resolve_withoutTokens]
  cases r.resolve none subnet with
  | error fault => rfl
  | ok connection => rfl

theorem CallRequest.perform_withoutTokens (request : CallRequest) (r : Registry) (abis : AbiStore) :
    (request.perform r.withoutTokens abis .dryRun).1 = (request.perform r abis .dryRun).1 := by
  have hroute := (Provider.mk r none).route_withoutTokens abis request.toRequest
    Chain.blindToTokens_dryRun
  have hreply := congrArg Prod.fst hroute
  rw [perform_eq_route, perform_eq_route]
  exact hreply

namespace Invocation

/-- The files have the same ABI for the call that is asked for. -/
def SameArtifact (i : Invocation) (files files' : Files) : Prop :=
  ∀ request, i.command = .call request →
    files.readText (AbiStore.artifactPath request.abiDirectory request.contract) =
      files'.readText (AbiStore.artifactPath request.abiDirectory request.contract)

theorem runWith_withoutTokens (i : Invocation) (files : Files) (loaded : Except RunFault Registry) :
    i.runWith files (loaded.map Registry.withoutTokens) = i.runWith files loaded := by
  cases loaded with
  | error fault => rfl
  | ok registry =>
      unfold runWith
      cases i.command with
      | networks => rfl
      | resolve subnet => exact runResolve_withoutTokens registry subnet
      | call request =>
          unfold runCall
          simp only [Except.map, bind, Except.bind, CallRequest.perform_withoutTokens]

theorem runWith_congr_files {i : Invocation} {files files' : Files} (h : i.SameArtifact files files')
    (loaded : Except RunFault Registry) : i.runWith files loaded = i.runWith files' loaded := by
  unfold runWith
  cases hcommand : i.command with
  | networks => rfl
  | resolve subnet => rfl
  | call request =>
      have hartifact := h request hcommand
      unfold runCall
      simp only [AbiStore.loadDirectory, AbiStore.loadAll, AbiStore.loadFile, AbiStore.readArtifact,
        hartifact]

/-- Registries that differ in tokens only, or the same fault in place of both, make no difference to
running an invocation. -/
theorem run_congr {i : Invocation} {idna : Url.Idna} {files files' : Files} {env env' : Environment}
    (hartifact : i.SameArtifact files files')
    (hloaded : (i.registry idna files env).map Registry.withoutTokens =
      (i.registry idna files' env').map Registry.withoutTokens) :
    i.run idna files env = i.run idna files' env' := by
  calc
    i.run idna files env = i.runWith files (i.registry idna files env) := rfl
    _ = i.runWith files ((i.registry idna files env).map Registry.withoutTokens) :=
        (i.runWith_withoutTokens files _).symm
    _ = i.runWith files ((i.registry idna files' env').map Registry.withoutTokens) := by rw [hloaded]
    _ = i.runWith files (i.registry idna files' env') := i.runWith_withoutTokens files _
    _ = i.runWith files' (i.registry idna files' env') := runWith_congr_files hartifact _
    _ = i.run idna files' env' := rfl

end Invocation

/-! ## Documents -/

def Document.Entry.withoutToken (entry : Document.Entry) : Document.Entry :=
  { entry with config := entry.config.withoutToken }

namespace Registry

theorem withoutTokens_empty : empty.withoutTokens = empty := by
  apply ext_get?
  intro key
  rw [get?_withoutTokens, get?_empty]
  rfl

theorem withoutTokens_insert (r : Registry) (id : SubnetId) (config : SubnetConfig) :
    (r.insert id config).withoutTokens = r.withoutTokens.insert id config.withoutToken := by
  apply ext_get?
  intro key
  rw [get?_withoutTokens, get?_insert, get?_insert, get?_withoutTokens]
  by_cases htext : id.text = key
  · rw [if_pos htext, if_pos htext]
    rfl
  · rw [if_neg htext, if_neg htext]

/-- The entries of a document without their tokens. -/
def entriesWithoutTokens (entries : List (String × Document.Entry)) :
    List (String × Document.Entry) :=
  entries.map fun entry => (entry.1, entry.2.withoutToken)

theorem insertAll_withoutTokens (r : Registry) (entries : List (String × Document.Entry)) :
    r.withoutTokens.insertAll (entriesWithoutTokens entries) =
      (r.insertAll entries).map withoutTokens := by
  induction entries generalizing r with
  | nil => rfl
  | cons head rest ih =>
      obtain ⟨name, entry⟩ := head
      have hid : entry.withoutToken.id = entry.id := rfl
      have hrest := ih (r.insert entry.id entry.config)
      rw [withoutTokens_insert] at hrest
      rw [entriesWithoutTokens, List.map_cons, insertAll, insertAll]
      simp only [getSubnet?, hid, get?_withoutTokens]
      cases r.get? entry.id.text with
      | some config => rfl
      | none => exact hrest

theorem map_ofToml {idna : Url.Idna} {document : String} {entries : List (String × Document.Entry)}
    (h : readToml idna document = .ok entries) :
    (ofToml idna document).map withoutTokens = empty.insertAll (entriesWithoutTokens entries) := by
  rw [ofToml_eq_insertAll h, ← insertAll_withoutTokens, withoutTokens_empty]

end Registry

theorem Invocation.registry_of_file {i : Invocation} {idna : Url.Idna} {files : Files}
    {env : Environment} {path document : String} (hsource : i.source env = .file path)
    (htext : files.readText path = .ok document) :
    i.registry idna files env = (Registry.ofToml idna document).mapError .config := by
  unfold registry
  rw [hsource, Registry.ofSource, Registry.ofFile, htext]

theorem Invocation.map_registry_of_file {i : Invocation} {idna : Url.Idna} {files : Files}
    {env : Environment} {path document : String} (hsource : i.source env = .file path)
    (htext : files.readText path = .ok document) :
    (i.registry idna files env).map Registry.withoutTokens =
      ((Registry.ofToml idna document).map Registry.withoutTokens).mapError .config := by
  rw [registry_of_file hsource htext]
  cases Registry.ofToml idna document with
  | error fault => rfl
  | ok registry => rfl

/-! ## Two registries, two documents -/

namespace Registry

/-- The registries cannot be told apart by what is shown: connections, bindings, the replies to any
run of requests by a chain that is blind to tokens, and what running an invocation gives. -/
structure ShowAlike (r r' : Registry) : Prop where
  connect_eq : ∀ (senders : Option SenderSource) (q : Request),
    ((Provider.mk r senders).connect q).map Connection.debugText =
      ((Provider.mk r' senders).connect q).map Connection.debugText
  bind_eq : ∀ (senders : Option SenderSource) (abis : AbiSource) (q : Request),
    ((Provider.mk r senders).bind abis q).map Binding.debugText =
      ((Provider.mk r' senders).bind abis q).map Binding.debugText
  replies_eq : ∀ (senders : Option SenderSource) (abis : AbiSource) (requests : List Request)
    (chain : Chain), chain.BlindToTokens →
    ((Provider.mk r senders).routeAll abis requests chain).1 =
      ((Provider.mk r' senders).routeAll abis requests chain).1
  runWith_eq : ∀ (i : Invocation) (files files' : Files), i.SameArtifact files files' →
    i.runWith files (.ok r) = i.runWith files' (.ok r')
  run_eq : ∀ (idna : Url.Idna) (i : Invocation) (env env' : Environment) (files files' : Files),
    i.SameArtifact files files' →
    i.registry idna files env = .ok r → i.registry idna files' env' = .ok r' →
    i.run idna files env = i.run idna files' env'

theorem AgreeUpToTokens.showAlike {r r' : Registry} (h : r.AgreeUpToTokens r') : r.ShowAlike r' := by
  rw [agreeUpToTokens_iff] at h
  have hprovider : ∀ senders, (Provider.mk r senders).withoutTokens =
      (Provider.mk r' senders).withoutTokens :=
    fun senders => congrArg (Provider.mk · senders) h
  constructor
  · intro senders q
    rw [← Provider.map_debugText_connect_withoutTokens, hprovider,
      Provider.map_debugText_connect_withoutTokens]
  · intro senders abis q
    rw [← Provider.map_debugText_bind_withoutTokens, hprovider,
      Provider.map_debugText_bind_withoutTokens]
  · intro senders abis requests chain hblind
    have hleft := (Provider.mk r senders).routeAll_withoutTokens abis requests hblind
    have hright := (Provider.mk r' senders).routeAll_withoutTokens abis requests hblind
    rw [hprovider, hright, Prod.mk.injEq] at hleft
    exact hleft.1.symm
  · intro i files files' hartifact
    have hleft := i.runWith_withoutTokens files (.ok r)
    have hright := i.runWith_withoutTokens files (.ok r')
    rw [Except.map, h] at hleft
    rw [← hleft, ← Invocation.runWith_congr_files hartifact, ← hright, Except.map]
  · intro idna i env env' files files' hartifact hregistry hregistry'
    apply Invocation.run_congr hartifact
    rw [hregistry, hregistry', Except.map, Except.map, h]

theorem map_ofToml_congr {idna : Url.Idna} {document document' : String}
    {entries entries' : List (String × Document.Entry)}
    (hread : readToml idna document = .ok entries) (hread' : readToml idna document' = .ok entries')
    (h : entriesWithoutTokens entries = entriesWithoutTokens entries') :
    (ofToml idna document).map withoutTokens = (ofToml idna document').map withoutTokens := by
  rw [map_ofToml hread, map_ofToml hread', h]

/-- Tokens are not shown.  Registries that differ in tokens only cannot be told apart, by dry runs
either.  Documents whose entries differ in tokens only give such registries or the same fault, and
it makes no difference which of them an invocation is run with. -/
theorem tokens_not_shown (idna : Url.Idna) :
    (∀ r r' : Registry, r.AgreeUpToTokens r' → r.ShowAlike r') ∧
    Chain.dryRun.BlindToTokens ∧
    ∀ document document' entries entries',
      readToml idna document = .ok entries → readToml idna document' = .ok entries' →
      entriesWithoutTokens entries = entriesWithoutTokens entries' →
      ((∃ r r', ofToml idna document = .ok r ∧ ofToml idna document' = .ok r' ∧ r.AgreeUpToTokens r') ∨
        ∃ fault, ofToml idna document = .error fault ∧ ofToml idna document' = .error fault) ∧
      ∀ (i : Invocation) (env env' : Environment) (files files' : Files) (path path' : String),
        i.SameArtifact files files' → i.source env = .file path → i.source env' = .file path' →
        files.readText path = .ok document → files'.readText path' = .ok document' →
        i.run idna files env = i.run idna files' env' := by
  refine ⟨fun r r' h => h.showAlike, Chain.blindToTokens_dryRun, ?_⟩
  intro document document' entries entries' hread hread' hentries
  have hload := map_ofToml_congr hread hread' hentries
  constructor
  · cases hleft : ofToml idna document with
    | error fault =>
        cases hright : ofToml idna document' with
        | error fault' =>
            rw [hleft, hright, Except.map, Except.map, Except.error.injEq] at hload
            exact Or.inr ⟨fault, rfl, by rw [hload]⟩
        | ok r' =>
            rw [hleft, hright] at hload
            cases hload
    | ok r =>
        cases hright : ofToml idna document' with
        | error fault' =>
            rw [hleft, hright] at hload
            cases hload
        | ok r' =>
            rw [hleft, hright, Except.map, Except.map, Except.ok.injEq] at hload
            exact Or.inl ⟨r, r', rfl, rfl, (agreeUpToTokens_iff r r').2 hload⟩
  · intro i env env' files files' path path' hartifact hsource hsource' htext htext'
    apply Invocation.run_congr hartifact
    rw [Invocation.map_registry_of_file hsource htext,
      Invocation.map_registry_of_file hsource' htext', hload]

/-- A document with one subnet, whose endpoint has a token. -/
def tokenDocument (token : String) : String :=
  "subnets.a = \x7bid = 'r1', network_type = 'fevm', fevm = ['http://h', '" ++ token ++ "']\x7d"

theorem tokens_not_shown_tokenDocument :
    let config := Network.calibration.config
    let secret : SubnetConfig := ⟨.fevm, config.endpoint.withAuthToken "secret"⟩
    let r := empty.insert Network.calibration.id config
    let r' := empty.insert Network.calibration.id secret
    let i : Invocation := ⟨none, some "reg.toml", .resolve (SubnetId.ofRoot 1)⟩
    let files (token : String) : Files := fun _ => .ok (tokenDocument token).toUTF8
    let env : Environment := ⟨.unset, .unset⟩
    r.getSubnet? Network.calibration.id ≠ r'.getSubnet? Network.calibration.id ∧ r.ShowAlike r' ∧
      i.run .asciiOnly (files "a") env = i.run .asciiOnly (files "b") env := by
  intro config secret r r' i files env
  obtain ⟨hregistries, -, hdocuments⟩ := tokens_not_shown .asciiOnly
  refine ⟨?_, ?_, ?_⟩
  · rw [getSubnet?_insert, getSubnet?_insert, if_pos rfl, if_pos rfl]
    decide
  · apply hregistries
    rw [agreeUpToTokens_iff, withoutTokens_insert, withoutTokens_insert]
    rfl
  · let url : Url := ⟨"http".toList, some ⟨[], [], .domain ['h'], none⟩, .segments [[]], none, none⟩
    let entries (token : String) : List (String × Document.Entry) :=
      [("a", ⟨SubnetId.ofRoot 1, ⟨.fevm, (Endpoint.ofUrl url).withAuthToken token⟩⟩)]
    have hread : ∀ token ∈ ["a", "b"],
        (readToml .asciiOnly (tokenDocument token)).toOption = some (entries token) := by
      decide +kernel
    have ha := (toOption_eq_some_iff _ _).1 (hread "a" (by decide))
    have hb := (toOption_eq_some_iff _ _).1 (hread "b" (by decide))
    have hsame : entriesWithoutTokens (entries "a") = entriesWithoutTokens (entries "b") := rfl
    have hartifact : i.SameArtifact (files "a") (files "b") := by
      intro request hcommand
      cases hcommand
    have hruns := (hdocuments _ _ _ _ ha hb hsame).2
    exact hruns i _ _ _ _ "reg.toml" "reg.toml" hartifact rfl rfl (Files.readText_of_toUTF8 rfl)
      (Files.readText_of_toUTF8 rfl)

end Registry

end SubnetRouter
