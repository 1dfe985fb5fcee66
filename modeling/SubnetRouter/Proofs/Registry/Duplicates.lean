import SubnetRouter.Proofs.Registry.Keys
import SubnetRouter.Proofs.Url.WellFormed
import Mathlib.Data.List.Nodup
import Mathlib.Logic.Equiv.Basic

/-!
# Duplicates in a document

Loading a document refuses nothing but what it cannot decode and the first entry, in the order of
the names, whose subnet an entry before it has.  The names themselves and their places in the
document make no difference to what is loaded.

* `insertAll_of_firstRepeat`, `exists_firstRepeat`: the entry that is refused.
* `keys_insertEach_storesOf`: the keys of a document without duplicates.
* `ofToml_of_relabels`: other names, other places.
* `ofToml_eq_ok_or_firstRepeat`: the three outcomes of loading.
-/

namespace SubnetRouter.Registry

open Document Text
open SubnetRouter.Toml (Ascending OrderedEntries)

variable {idna : Url.Idna}

/-- The texts that entries are stored under. -/
def keysOf (entries : List (String × Entry)) : List String :=
  entries.map fun entry => entry.2.id.text

/-- The entry comes after entries of different subnets, and has the subnet of one of them. -/
structure FirstRepeat (entries before : List (String × Entry)) (entry : Entry) : Prop where
  split : ∃ name after, entries = before ++ (name, entry) :: after
  distinct : (keysOf before).Nodup
  repeats : entry.id.text ∈ keysOf before

/-- The documents have the same members, but the names in their tables `subnets` are changed one
to one.  What has been read of a table keeps nothing of the places in the document. -/
structure Relabels (rename : Equiv.Perm String) (members members' : List (String × Toml)) :
    Prop where
  others : ∀ member : String × Toml, member.1 ≠ "subnets" → (member ∈ members ↔ member ∈ members')
  subnets : ∃ table table' listed listed',
    ("subnets", table) ∈ members ∧ ("subnets", table') ∈ members' ∧
    shape table = .record listed ∧ shape table' = .record listed' ∧
    ∀ name value, (name, value) ∈ listed ↔ (rename name, value) ∈ listed'

/-! ## The entry that is refused -/

theorem insertAll_append (r : Registry) (before after : List (String × Entry)) :
    r.insertAll (before ++ after) = r.insertAll before >>= fun r' => r'.insertAll after := by
  induction before generalizing r with
  | nil => rfl
  | cons head rest ih =>
      obtain ⟨name, entry⟩ := head
      rw [List.cons_append, insertAll, insertAll]
      cases r.getSubnet? entry.id with
      | some config => rfl
      | none => exact ih _

theorem insertAll_empty_of_nodup {entries : List (String × Entry)} (h : (keysOf entries).Nodup) :
    empty.insertAll entries = .ok (empty.insertEach (storesOf entries)) := by
  rw [insertAll_eq_ok_iff]
  exact ⟨fun entry _ => get?_empty _, h, rfl⟩

theorem insertAll_of_firstRepeat {entries before : List (String × Entry)} {entry : Entry}
    (h : FirstRepeat entries before entry) :
    empty.insertAll entries = .error (.duplicateSubnet entry.id.text) := by
  obtain ⟨name, after, rfl⟩ := h.split
  obtain ⟨⟨name', entry'⟩, hmem, htext⟩ := List.mem_map.1 h.repeats
  have hget : (empty.insertEach (storesOf before)).getSubnet? entry.id = some entry'.config :=
    (get?_insertEach_storesOf h.distinct).2 ⟨name', entry', hmem, htext, rfl⟩
  rw [insertAll_append, insertAll_empty_of_nodup h.distinct]
  change insertAll _ ((name, entry) :: after) = _
  rw [insertAll, hget]

theorem keysOf_append (front back : List (String × Entry)) :
    keysOf (front ++ back) = keysOf front ++ keysOf back :=
  List.map_append

theorem exists_firstRepeat {entries : List (String × Entry)} (h : ¬ (keysOf entries).Nodup) :
    ∃ before entry, FirstRepeat entries before entry := by
  -- From the end: either the last entry is the first one to repeat, or one before it is.
  induction entries using List.reverseRecOn with
  | nil => exact absurd List.nodup_nil h
  | append_singleton front last ih =>
      by_cases hfront : (keysOf front).Nodup
      · refine ⟨front, last.2, ⟨last.1, [], rfl⟩, hfront, ?_⟩
        by_contra hnot
        apply h
        rw [keysOf_append, List.nodup_append]
        refine ⟨hfront, List.nodup_singleton _, ?_⟩
        rintro key hkey other hother rfl
        rw [List.mem_singleton.1 hother] at hkey
        exact hnot hkey
      · obtain ⟨before, entry, ⟨name, after, heq⟩, hdistinct, hrepeats⟩ := ih hfront
        refine ⟨before, entry, ⟨name, after ++ [last], ?_⟩, hdistinct, hrepeats⟩
        rw [heq, List.append_assoc, List.cons_append]

/-! ## The keys of a document -/

theorem keys_insertEach_storesOf {entries : List (String × Entry)} (h : (keysOf entries).Nodup) :
    (empty.insertEach (storesOf entries)).keys.Perm (keysOf entries) := by
  have hnodup : (empty.insertEach (storesOf entries)).keys.Nodup := by
    apply List.Pairwise.imp _ (pairwise_keys _)
    intro key key' hlt heq
    exact String.lt_irrefl _ (heq ▸ hlt)
  rw [List.perm_ext_iff_of_nodup hnodup h]
  intro key
  rw [mem_keys_iff, Option.isSome_iff_exists]
  simp only [get?_insertEach_storesOf h]
  unfold keysOf
  rw [List.mem_map]
  constructor
  · intro hstored
    obtain ⟨config, name, entry, hmem, htext, -⟩ := hstored
    exact ⟨(name, entry), hmem, htext⟩
  · intro hstored
    obtain ⟨⟨name, entry⟩, hmem, htext⟩ := hstored
    exact ⟨entry.config, name, entry, hmem, htext, rfl⟩

/-! ## Decoding -/

theorem fault_of_readToml {document : String} {fault : ConfigFault}
    (h : readToml idna document = .error fault) :
    fault = .notToml ∨ ∃ inner, fault = .document inner := by
  unfold readToml at h
  split at h
  · cases h
    exact Or.inl rfl
  · split at h
    · cases h
    · rename_i inner _
      split at h
      · cases h
        exact Or.inr ⟨inner, rfl⟩
      · cases h
        exact Or.inl rfl

theorem ascending_readToml {document : String} {entries : List (String × Entry)}
    (h : readToml idna document = .ok entries) : Ascending entries := by
  obtain ⟨listed, hordered, -, hall⟩ := exists_listed h
  exact ascending_of_names_eq (names_eq hall) hordered.ascending

theorem mem_readToml_iff {document : String} {entries : List (String × Entry)}
    (h : readToml idna document = .ok entries) (name : String) (entry : Entry) :
    (name, entry) ∈ entries ↔
      ∃ value, Lists document name value ∧ readEntry idna value = .ok entry := by
  obtain ⟨listed, -, hlists, hall⟩ := exists_listed h
  simp only [mem_entries_iff hall, hlists]

/-- One value in the table that is no entry spoils a document, whatever else is in it. -/
theorem exists_fault_of_lists {document name : String} {value : Toml}
    (hlists : Lists document name value) (hentry : ∀ entry, readEntry idna value ≠ .ok entry) :
    ∃ fault, readToml idna document = .error fault := by
  cases h : readToml idna document with
  | error fault => exact ⟨fault, rfl⟩
  | ok entries =>
      obtain ⟨listed, -, hlisted, hall⟩ := exists_listed h
      have hmem := (hlisted name value).1 hlists
      have hread := (readNamedEntries_eq_ok_iff listed entries).2 hall
      obtain ⟨entry, hok⟩ := (exists_readNamedEntries_iff listed).1 ⟨entries, hread⟩ _ hmem
      exact absurd hok (hentry entry)

/-! ## Other names -/

theorem Relabels.symm {rename : Equiv.Perm String} {members members' : List (String × Toml)}
    (h : Relabels rename members members') : Relabels rename.symm members' members where
  others member hne := (h.others member hne).symm
  subnets := by
    obtain ⟨table, table', listed, listed', hmem, hmem', hshape, hshape', hiff⟩ := h.subnets
    refine ⟨table', table, listed', listed, hmem', hmem, hshape', hshape, fun name value => ?_⟩
    rw [hiff, Equiv.apply_symm_apply]

theorem perm_of_renamed {rename : Equiv.Perm String} {listed listed' : List (String × Toml)}
    {entries entries' : List (String × Entry)}
    (hiff : ∀ name value, (name, value) ∈ listed ↔ (rename name, value) ∈ listed')
    (hascending : Ascending listed) (hascending' : Ascending listed')
    (hread : readNamedEntries idna listed = .ok entries)
    (hread' : readNamedEntries idna listed' = .ok entries') :
    (storesOf entries).Perm (storesOf entries') := by
  rw [readNamedEntries_eq_ok_iff] at hread hread'
  have hnodup : entries.Nodup :=
    nodup_of_ascending (ascending_of_names_eq (names_eq hread) hascending)
  have hnodup' : entries'.Nodup :=
    nodup_of_ascending (ascending_of_names_eq (names_eq hread') hascending')
  have hinjective : Function.Injective fun entry : String × Entry => (rename entry.1, entry.2) := by
    rintro ⟨name, entry⟩ ⟨name', entry'⟩ heq
    have hname : name = name' := rename.injective (Prod.mk.inj heq).1
    have hentry : entry = entry' := (Prod.mk.inj heq).2
    rw [hname, hentry]
  have hperm : (entries.map fun entry => (rename entry.1, entry.2)).Perm entries' := by
    rw [List.perm_ext_iff_of_nodup (hnodup.map hinjective) hnodup']
    rintro ⟨name, entry⟩
    obtain ⟨old, rfl⟩ := rename.surjective name
    rw [List.mem_map_of_injective hinjective (a := (old, entry))]
    simp only [mem_entries_iff hread, mem_entries_iff hread', hiff]
  have hstores := hperm.map fun entry => (entry.2.id, entry.2.config)
  rwa [List.map_map] at hstores

theorem readEntries_of_relabels {rename : Equiv.Perm String}
    {members members' : List (String × Toml)} {entries : List (String × Entry)}
    (h : Relabels rename members members') (hordered : OrderedEntries members)
    (hordered' : OrderedEntries members') (hread : readEntries idna members = .ok entries) :
    ∃ entries', readEntries idna members' = .ok entries' ∧
      (storesOf entries).Perm (storesOf entries') := by
  obtain ⟨table, table', listed, listed', hmem, hmem', hshape, hshape', hiff⟩ := h.subnets
  have hlookup := lookup_eq_some_of_mem hordered.ascending hmem
  have hlookup' := lookup_eq_some_of_mem hordered'.ascending hmem'
  have hlisted := ordered_of_shape_record (Toml.ordered_of_lookup hordered hlookup) hshape
  have hlisted' := ordered_of_shape_record (Toml.ordered_of_lookup hordered' hlookup') hshape'
  obtain ⟨hignore, htable⟩ := (readEntries_eq_ok_iff hordered.ascending).1 hread
  have hentries : readNamedEntries idna listed = .ok entries := by
    rw [hlookup] at htable
    simpa [readEntryTable_of_shape hshape] using htable
  have hall : ∀ member ∈ listed', ∃ entry, readEntry idna member.2 = .ok entry := by
    rintro ⟨name, value⟩ hmember
    obtain ⟨old, rfl⟩ := rename.surjective name
    have hold : (old, value) ∈ listed := (hiff old value).2 hmember
    exact (exists_readNamedEntries_iff listed).1 ⟨entries, hentries⟩ (old, value) hold
  obtain ⟨entries', hentries'⟩ := (exists_readNamedEntries_iff listed').2 hall
  refine ⟨entries', (readEntries_eq_ok_iff hordered'.ascending).2 ⟨?_, Or.inr ?_⟩,
    perm_of_renamed hiff hlisted.ascending hlisted'.ascending hentries hentries'⟩
  · intro member hmember hne
    exact hignore member ((h.others member hne).2 hmember) hne
  · exact ⟨table', hlookup', (readEntryTable_of_shape hshape').trans hentries'⟩

theorem ofToml_of_relabels {rename : Equiv.Perm String} {document document' : String}
    {members members' : List (String × Toml)} (hmembers : Toml.read? document = some members)
    (hmembers' : Toml.read? document' = some members') (h : Relabels rename members members')
    {r : Registry} (hload : ofToml idna document = .ok r) : ofToml idna document' = .ok r := by
  obtain ⟨entries, hread, hnodup, rfl⟩ := (ofToml_eq_ok_iff document r).1 hload
  rw [readToml_eq_ok_iff hmembers] at hread
  obtain ⟨entries', hread', hperm⟩ := readEntries_of_relabels h (Toml.ordered_read? hmembers)
    (Toml.ordered_read? hmembers') hread
  rw [← readToml_eq_ok_iff hmembers'] at hread'
  have hkeys : (keysOf entries).Perm (keysOf entries') := by
    have hmap := hperm.map fun store => store.1.text
    rwa [map_text_storesOf, map_text_storesOf] at hmap
  have hnodup' : ((storesOf entries).map fun store => store.1.text).Nodup := by
    rwa [map_text_storesOf]
  exact (ofToml_eq_ok_iff document' _).2
    ⟨entries', hread', hkeys.nodup_iff.1 hnodup, insertEach_perm empty hperm hnodup'⟩

/-! ## Outcomes -/

/-- A document that does not decode is a fault of the document, and one value that is no entry is
enough for that.  One that decodes has entries in ascending order of the bytes of their names, and
is loaded when these are of different subnets: then the registry has an entry for each of them, in
whatever order they are stored.  Otherwise the fault is the first entry whose subnet an entry
before it has.  Other names, or other places in the document, give the same registry or none
either. -/
theorem ofToml_eq_ok_or_firstRepeat (idna : Url.Idna) (document : String) :
    (∀ fault, readToml idna document = .error fault →
      ofToml idna document = .error fault ∧ (fault = .notToml ∨ ∃ inner, fault = .document inner)) ∧
    (∀ name value, Lists document name value → (∀ entry, readEntry idna value ≠ .ok entry) →
      ∃ fault, readToml idna document = .error fault) ∧
    (∀ entries, readToml idna document = .ok entries →
      (entries.Pairwise fun a b => utf8Bytes a.1.toList < utf8Bytes b.1.toList) ∧
      (∀ name entry, (name, entry) ∈ entries ↔
        ∃ value, Lists document name value ∧ readEntry idna value = .ok entry) ∧
      ((keysOf entries).Nodup → ∃ r, ofToml idna document = .ok r ∧ r.keys.Perm (keysOf entries) ∧
        (∀ entry ∈ entries, r.get? entry.2.id.text = some entry.2.config) ∧
        ∀ stores, stores.Perm (storesOf entries) → empty.insertEach stores = r) ∧
      (¬ (keysOf entries).Nodup → ∃ before entry, FirstRepeat entries before entry ∧
        ofToml idna document = .error (.duplicateSubnet entry.id.text))) ∧
    (∀ document' members members' rename, Toml.read? document = some members →
      Toml.read? document' = some members' → Relabels rename members members' →
      (ofToml idna document').toOption = (ofToml idna document).toOption) := by
  refine ⟨?_, fun name value => exists_fault_of_lists, ?_, ?_⟩
  · intro fault hfault
    refine ⟨?_, fault_of_readToml hfault⟩
    unfold ofToml
    rw [hfault]
    rfl
  · intro entries hread
    have hload := ofToml_eq_insertAll hread
    refine ⟨?_, mem_readToml_iff hread, ?_, ?_⟩
    · exact (ascending_readToml hread).imp fun hlt => utf8Bytes_lt_of_lt hlt
    · intro hnodup
      refine ⟨_, hload.trans (insertAll_empty_of_nodup hnodup),
        keys_insertEach_storesOf hnodup, ?_, ?_⟩
      · intro entry hmem
        exact (get?_insertEach_storesOf hnodup).2 ⟨entry.1, entry.2, hmem, rfl, rfl⟩
      · intro stores hperm
        have hdistinct : (stores.map fun store => store.1.text).Nodup := by
          rw [(hperm.map _).nodup_iff, map_text_storesOf]
          exact hnodup
        exact insertEach_perm empty hperm hdistinct
    · intro hrepeated
      obtain ⟨before, entry, hfirst⟩ := exists_firstRepeat hrepeated
      exact ⟨before, entry, hfirst, hload.trans (insertAll_of_firstRepeat hfirst)⟩
  · intro document' members members' rename hmembers hmembers' hrelabels
    apply Option.ext
    intro r
    rw [toOption_eq_some_iff, toOption_eq_some_iff]
    constructor
    · exact ofToml_of_relabels hmembers' hmembers hrelabels.symm
    · exact ofToml_of_relabels hmembers hmembers' hrelabels

def respelledDocument : String :=
  "subnets.b = \x7bid = 'r1/0xAB', network_type = 'fevm', fevm = ['http://h']\x7d\n" ++
    "subnets.a = \x7bid = 'r01/ab00', network_type = 'fevm', fevm = ['http://bücher.de']\x7d"

/-- Two spellings of one subnet are a duplicate, and a host that is not ASCII is none the less read. -/
theorem ofToml_eq_ok_or_firstRepeat_respelled :
    let id : SubnetId := ⟨1, [⟨10, [0xAB], by decide⟩]⟩
    ofToml .bookshop respelledDocument = .error (.duplicateSubnet id.text) := by
  intro id
  have hids :
      (readToml .bookshop respelledDocument).toOption.map (·.map fun entry => entry.2.id.text) =
        some [id.text, id.text] := by
    decide +kernel
  cases hread : readToml .bookshop respelledDocument with
  | error fault =>
      rw [hread] at hids
      cases hids
  | ok entries =>
      rw [hread] at hids
      have hkeys : keysOf entries = [id.text, id.text] := Option.some.inj hids
      have hrepeated : ¬ (keysOf entries).Nodup := by
        rw [hkeys]
        simp
      obtain ⟨before, entry, hfirst, hload⟩ :=
        ((ofToml_eq_ok_or_firstRepeat .bookshop respelledDocument).2.2.1 entries hread).2.2.2 hrepeated
      obtain ⟨name, after, hsplit⟩ := hfirst.split
      have hmem : entry.id.text ∈ keysOf entries := by
        rw [hsplit, keysOf_append]
        exact List.mem_append_left _ hfirst.repeats
      have htext : entry.id.text = id.text := by simpa [hkeys] using hmem
      rw [hload, htext]

end SubnetRouter.Registry
