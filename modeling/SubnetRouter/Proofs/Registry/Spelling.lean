import SubnetRouter.Proofs.CommandLine.SubnetArgument
import SubnetRouter.Proofs.Registry.Loading
import SubnetRouter.Proofs.Url.WellFormed
import Mathlib.Data.List.Nodup

/-!
# Lookup and spelling

A registry that is loaded from a document finds a subnet by any spelling of its id, whatever the
spelling in the document is.

* `getSubnet?_ofToml_iff`: which entry of the document a lookup gives, in terms of the two texts.
-/

namespace SubnetRouter

/-- The document lists, under the name, a value whose text for its id spells the same id as `text`,
and which has the configuration. -/
structure Document.Configures (idna : Url.Idna) (document text name : String) (value : Toml)
    (config : SubnetConfig) : Prop where
  listed : Lists document name value
  spelled : ∃ idText, idText? value = some idText ∧
    SubnetId.SpellAlike idText.toList text.toList
  config_eq : ∃ entry, readEntry idna value = .ok entry ∧ entry.config = config

namespace Registry

open Document

variable {idna : Url.Idna}

theorem configures_iff {document text : String} {entries : List (String × Entry)} {id : SubnetId}
    (hentries : readToml idna document = .ok entries) (hread : SubnetId.read text = .ok id)
    (name : String) (config : SubnetConfig) :
    (∃ value, Configures idna document text name value config) ↔
      ∃ entry, (name, entry) ∈ entries ∧ entry.id.text = id.text ∧ entry.config = config := by
  obtain ⟨listed, hordered, hlists, hall⟩ := exists_listed hentries
  -- No key stands twice in a table, so the text that is read is the one that stands there.
  have hidText : ∀ value entry, (name, value) ∈ listed → readEntry idna value = .ok entry →
      ∃ idText, idText? value = some idText ∧ SubnetId.read idText = .ok entry.id := by
    intro value entry hmem hentry
    apply idText?_of_readEntry _ hentry
    intro members hshape
    exact (ordered_of_shape_record (hordered.ordered _ hmem) hshape).ascending
  constructor
  · rintro ⟨value, hlisted, ⟨idText, hid, halike⟩, entry, hentry, hconfig⟩
    have hmem := (hlists name value).1 hlisted
    obtain ⟨idText', hid', hread'⟩ := hidText value entry hmem hentry
    rw [hid, Option.some.injEq] at hid'
    subst hid'
    refine ⟨entry, (mem_entries_iff hall name entry).2 ⟨value, hmem, hentry⟩, ?_, hconfig⟩
    rw [(SubnetId.spellAlike_iff hread' hread).1 halike]
  · rintro ⟨entry, hmem, htext, hconfig⟩
    obtain ⟨value, hvalue, hentry⟩ := (mem_entries_iff hall name entry).1 hmem
    obtain ⟨idText, hid, hread'⟩ := hidText value entry hvalue hentry
    have hsame : entry.id = id := (SubnetId.text_eq_iff_of_read hread' hread).1 htext
    exact ⟨value, (hlists name value).2 hvalue,
      ⟨idText, hid, (SubnetId.spellAlike_iff hread' hread).2 hsame⟩, entry, hentry, hconfig⟩

theorem name_eq_of_nodup {entries : List (String × Entry)} {name name' : String}
    {entry entry' : Entry} (h : (entries.map fun entry => entry.2.id.text).Nodup)
    (hmem : (name, entry) ∈ entries) (hmem' : (name', entry') ∈ entries)
    (htext : entry.id.text = entry'.id.text) : name = name' ∧ entry = entry' := by
  have heq := List.inj_on_of_nodup_map h hmem hmem' htext
  rwa [Prod.mk.injEq] at heq

theorem value_eq_of_lists {document name : String} {value value' : Toml}
    (h : Lists document name value) (h' : Lists document name value') : value = value' := by
  obtain ⟨members, table, entries, hmembers, hlookup, hshape, hmem⟩ := h
  obtain ⟨table', entries', hlookup', hshape', hmem'⟩ := (lists_iff hmembers name value').1 h'
  rw [hlookup, Option.some.injEq] at hlookup'
  subst hlookup'
  rw [hshape, Shape.record.injEq] at hshape'
  subst hshape'
  have htable := Toml.ordered_of_lookup (Toml.ordered_read? hmembers) hlookup
  exact value_eq_of_ascending (ordered_of_shape_record htable hshape).ascending hmem hmem'

/-- Looking up the id that a text spells gives the configuration of the one listed value whose text
for its id spells the same id.  Texts of equal ids give the same outcome of resolving, wherever
they stand on a command line. -/
theorem getSubnet?_ofToml_iff {document text : String} {r : Registry} {id : SubnetId}
    (hload : ofToml idna document = .ok r) (hread : SubnetId.read text = .ok id) :
    (∀ config, r.getSubnet? id = some config ↔
      ∃ name value, Configures idna document text name value config) ∧
    (∀ name name' value value' config config', Configures idna document text name value config →
      Configures idna document text name' value' config' →
      name = name' ∧ value = value' ∧ config = config') ∧
    (∀ text' id', SubnetId.read text' = .ok id' → (id == id') = true →
      ∀ (before options dashes after : List String) (files : Files) (env : Environment),
      CommandLine.OptionWords before → CommandLine.OptionWords options →
      (dashes = [] ∨ dashes = ["--"]) →
      (CommandLine.read (before ++ "resolve" :: (options ++ dashes ++ text :: after))).map
          (·.run idna files env) =
        (CommandLine.read (before ++ "resolve" :: (options ++ dashes ++ text' :: after))).map
          (·.run idna files env)) := by
  obtain ⟨entries, hentries, hnodup, rfl⟩ := (ofToml_eq_ok_iff document r).1 hload
  refine ⟨?_, ?_, ?_⟩
  · intro config
    simp only [configures_iff hentries hread]
    exact get?_insertEach_storesOf hnodup
  · intro name name' value value' config config' h h'
    obtain ⟨entry, hmem, htext, rfl⟩ := (configures_iff hentries hread name config).1 ⟨value, h⟩
    obtain ⟨entry', hmem', htext', rfl⟩ :=
      (configures_iff hentries hread name' config').1 ⟨value', h'⟩
    obtain ⟨rfl, rfl⟩ := name_eq_of_nodup hnodup hmem hmem' (htext.trans htext'.symm)
    exact ⟨rfl, value_eq_of_lists h.listed h'.listed, rfl⟩
  · intro text' id' hread' hbeq before options dashes after files env hbefore hoptions hdashes
    have hsame : id = id' := (SubnetId.beq_iff_of_read hread hread').1 hbeq
    rw [CommandLine.read_resolve_congr hbefore hoptions hdashes hread (hsame ▸ hread')]

def spelledDocument : String :=
  "subnets.a = \x7bid = 'r01/0xAB00', network_type = 'fevm', fevm = ['http://bücher.de']\x7d"

/-- The entry is found by another spelling of its id, at a host that is not ASCII. -/
theorem getSubnet?_ofToml_iff_spelledDocument :
    ∃ r id, ofToml .bookshop spelledDocument = .ok r ∧ SubnetId.read "r+1/ab" = .ok id ∧
      ∃ config name value, r.getSubnet? id = some config ∧
        Configures .bookshop spelledDocument "r+1/ab" name value config := by
  let actor : ActorAddress := ⟨10, [0xAB], by decide⟩
  let id : SubnetId := ⟨1, [actor]⟩
  have hread : SubnetId.read "r+1/ab" = .ok id := by decide +kernel
  have hids : (readToml .bookshop spelledDocument).toOption.map (·.map fun entry => entry.2.id) =
      some [id] := by
    decide +kernel
  cases hentries : readToml .bookshop spelledDocument with
  | error fault =>
      rw [hentries] at hids
      cases hids
  | ok entries =>
      rw [hentries] at hids
      obtain ⟨entry, rfl, hid⟩ := List.map_eq_singleton_iff.1 (Option.some.inj hids)
      have hnodup : ([entry].map fun entry => entry.2.id.text).Nodup := List.nodup_singleton _
      have hload := (ofToml_eq_ok_iff spelledDocument _).2 ⟨_, hentries, hnodup, rfl⟩
      have hget : (empty.insertEach (storesOf [entry])).get? id.text = some entry.2.config := by
        rw [get?_insertEach_storesOf hnodup]
        exact ⟨entry.1, entry.2, List.mem_singleton.2 rfl, by rw [hid], rfl⟩
      obtain ⟨name, value, hconfigures⟩ := ((getSubnet?_ofToml_iff hload hread).1 _).1 hget
      exact ⟨_, id, hload, hread, _, name, value, hget, hconfigures⟩

end Registry

end SubnetRouter
