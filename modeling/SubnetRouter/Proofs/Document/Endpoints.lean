import SubnetRouter.Proofs.Networks
import SubnetRouter.Proofs.Registry.Loading
import SubnetRouter.Proofs.Url.WellFormed

/-!
# The endpoints of loaded registries

Every endpoint in a registry that has been loaded was read from a text, in a document or in that of a
built-in network, so its URL is well formed.

* `Document.wellFormed_of_readEntry`: the endpoint of an entry.
* `Registry.wellFormed_of_ofSource`: the endpoints of a registry.
-/

namespace SubnetRouter

variable {idna : Url.Idna}

namespace Document

variable {α : Type}

/-! ## Items of a list -/

theorem exists_of_readFirst {β : Type} {read : α → Except DocumentFault β} {fault : DocumentFault}
    {items rest : List α} {b : β} (h : readFirst read (.error fault) items = .ok (b, rest)) :
    ∃ item, read item = .ok b := by
  cases items with
  | nil => cases h
  | cons item items =>
      obtain ⟨found, hread, heq⟩ := (map_eq_ok_iff _ _ _).1 h
      cases heq
      exact ⟨item, hread⟩

variable [Document α]

theorem finishItems_eq_ok {β : Type} {items rest : List α} {result out : β}
    (h : finishItems items rest result = .ok out) : result = out := by
  unfold finishItems at h
  split at h
  · cases h
  · cases h
    rfl

/-! ## Endpoints -/

theorem wellFormed_of_readUrl {value : α} {u : Url} (h : readUrl idna value = .ok u) :
    u.WellFormed := by
  unfold readUrl at h
  obtain ⟨text, -, hread⟩ := (bind_eq_ok_iff _ _ _).1 h
  exact Url.wellFormed_of_read ((mapError_eq_ok_iff _ _ _).1 hread)

def EndpointMembers.UrlWellFormed (m : EndpointMembers) : Prop :=
  ∀ u, m.url = some u → u.WellFormed

theorem EndpointMembers.UrlWellFormed.read {m n : EndpointMembers} (hm : m.UrlWellFormed)
    {member : String × α} (h : EndpointMembers.read idna m member = .ok n) : n.UrlWellFormed := by
  unfold EndpointMembers.read at h
  split at h
  · obtain ⟨url, hurl, rfl⟩ := (map_eq_ok_iff _ _ _).1 h
    intro u hu
    cases hu
    exact wellFormed_of_readUrl hurl
  · obtain ⟨token, -, rfl⟩ := (map_eq_ok_iff _ _ _).1 h
    exact hm
  · obtain ⟨address, -, rfl⟩ := (map_eq_ok_iff _ _ _).1 h
    exact hm
  · obtain ⟨address, -, rfl⟩ := (map_eq_ok_iff _ _ _).1 h
    exact hm
  · rw [← ((ignore_eq_ok_iff _ _ _).1 h).2]
    exact hm

theorem wellFormed_of_readEndpoint {value : α} {e : Endpoint} (h : readEndpoint idna value = .ok e) :
    e.url.WellFormed := by
  unfold readEndpoint at h
  split at h
  · rename_i members _
    obtain ⟨m, hm, h⟩ := (bind_eq_ok_iff _ _ _).1 h
    have hread : m.UrlWellFormed := by
      apply foldlM_invariant (fun _ _ _ hm h => EndpointMembers.UrlWellFormed.read hm h) _ hm
      intro u hu
      cases hu
    split at h
    · rename_i url hurl
      cases h
      exact hread url hurl
    · cases h
  · obtain ⟨⟨url, rest⟩, hurl, h⟩ := (bind_eq_ok_iff _ _ _).1 h
    obtain ⟨⟨token, rest⟩, -, h⟩ := (bind_eq_ok_iff _ _ _).1 h
    obtain ⟨⟨registry, rest⟩, -, h⟩ := (bind_eq_ok_iff _ _ _).1 h
    obtain ⟨⟨gateway, rest⟩, -, h⟩ := (bind_eq_ok_iff _ _ _).1 h
    obtain ⟨item, hitem⟩ := exists_of_readFirst hurl
    rw [← finishItems_eq_ok h]
    exact wellFormed_of_readUrl hitem
  · cases h

/-! ## Entries -/

def EntryMembers.UrlWellFormed (m : EntryMembers) : Prop :=
  ∀ e, m.endpoint = some e → e.url.WellFormed

theorem EntryMembers.UrlWellFormed.read {m n : EntryMembers} (hm : m.UrlWellFormed)
    {member : String × α} (h : EntryMembers.read idna m member = .ok n) : n.UrlWellFormed := by
  unfold EntryMembers.read at h
  split at h
  · obtain ⟨id, -, rfl⟩ := (map_eq_ok_iff _ _ _).1 h
    exact hm
  · obtain ⟨kind, -, rfl⟩ := (map_eq_ok_iff _ _ _).1 h
    exact hm
  · obtain ⟨endpoint, hendpoint, rfl⟩ := (map_eq_ok_iff _ _ _).1 h
    intro e he
    cases he
    exact wellFormed_of_readEndpoint hendpoint
  · rw [← ((ignore_eq_ok_iff _ _ _).1 h).2]
    exact hm

theorem wellFormed_of_readEntry {value : α} {entry : Entry} (h : readEntry idna value = .ok entry) :
    entry.config.endpoint.url.WellFormed := by
  unfold readEntry at h
  split at h
  · obtain ⟨m, hm, h⟩ := (bind_eq_ok_iff _ _ _).1 h
    have hread : m.UrlWellFormed := by
      apply foldlM_invariant (fun _ _ _ hm h => EntryMembers.UrlWellFormed.read hm h) _ hm
      intro e he
      cases he
    split at h
    · rename_i endpoint _ _ hendpoint
      cases h
      exact hread endpoint hendpoint
    all_goals cases h
  · obtain ⟨⟨id, rest⟩, -, h⟩ := (bind_eq_ok_iff _ _ _).1 h
    obtain ⟨⟨kind, rest⟩, -, h⟩ := (bind_eq_ok_iff _ _ _).1 h
    obtain ⟨⟨endpoint, rest⟩, hendpoint, h⟩ := (bind_eq_ok_iff _ _ _).1 h
    obtain ⟨item, hitem⟩ := exists_of_readFirst hendpoint
    rw [← finishItems_eq_ok h]
    exact wellFormed_of_readEndpoint hitem
  · cases h

end Document

/-! ## Registries -/

theorem Network.wellFormed_of_ofRow {row : Network.Row} {network : Network}
    (h : Network.ofRow idna row = .ok network) : network.config.endpoint.url.WellFormed := by
  obtain ⟨endpoint, hendpoint, h⟩ := (bind_eq_ok_iff _ _ _).1 h
  obtain ⟨registry, -, h⟩ := (bind_eq_ok_iff _ _ _).1 h
  obtain ⟨gateway, -, h⟩ := (bind_eq_ok_iff _ _ _).1 h
  cases h
  unfold Endpoint.read at hendpoint
  split at hendpoint
  · rename_i url hurl
    cases hendpoint
    exact Url.wellFormed_of_read hurl
  · cases hendpoint

namespace Registry

theorem wellFormed_of_ofNetwork {name key : String} {r : Registry} {config : SubnetConfig}
    (h : ofNetwork idna name = .ok r) (hentry : r.get? key = some config) :
    config.endpoint.url.WellFormed := by
  obtain ⟨network, hfind, rfl⟩ := (map_eq_ok_iff _ _ _).1 h
  obtain ⟨row, -, hrow⟩ := Network.exists_row_of_find hfind
  rw [get?_insert, get?_empty] at hentry
  split at hentry
  · cases hentry
    exact Network.wellFormed_of_ofRow hrow
  · cases hentry

theorem wellFormed_of_ofToml {document key : String} {r : Registry} {config : SubnetConfig}
    (h : ofToml idna document = .ok r) (hentry : r.get? key = some config) :
    config.endpoint.url.WellFormed := by
  obtain ⟨entries, hentries, hnodup, rfl⟩ := (ofToml_eq_ok_iff document r).1 h
  obtain ⟨name, entry, hmem, -, rfl⟩ := (get?_insertEach_storesOf hnodup).1 hentry
  obtain ⟨listed, -, -, hall⟩ := Document.exists_listed hentries
  obtain ⟨value, -, hread⟩ := (Document.mem_entries_iff hall name entry).1 hmem
  exact Document.wellFormed_of_readEntry hread

theorem wellFormed_of_ofSource {files : Files} {source : Source} {key : String} {r : Registry}
    {config : SubnetConfig} (h : ofSource idna files source = .ok r)
    (hentry : r.get? key = some config) : config.endpoint.url.WellFormed := by
  cases source with
  | file path =>
      rw [ofSource, ofFile] at h
      split at h
      · cases h
      · exact wellFormed_of_ofToml h hentry
  | network name => exact wellFormed_of_ofNetwork h hentry

end Registry

end SubnetRouter
