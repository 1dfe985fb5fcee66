import SubnetRouter.Proofs.Document.Entries
import SubnetRouter.Proofs.Registry.Lookup
import SubnetRouter.Proofs.SubnetId.Spellings

/-!
# Registries from documents

A document is loaded by storing its entries one after the other, unless two of them have the same
subnet.

* `insertAll_eq_ok_iff`: when the entries can be stored, and what is stored then.
* `ofToml_eq_ok_iff`, `get?_insertEach_storesOf`: the registry of a document, and what is under its
  keys.
-/

namespace SubnetRouter.Registry

variable {idna : Url.Idna}

theorem get?_empty (key : String) : empty.get? key = none :=
  Std.ExtTreeMap.getElem?_empty

theorem get?_insert_eq_none_iff (r : Registry) (id : SubnetId) (config : SubnetConfig)
    (key : String) : (r.insert id config).get? key = none ↔ id.text ≠ key ∧ r.get? key = none := by
  rw [get?_insert]
  by_cases htext : id.text = key
  · rw [if_pos htext]
    simp [htext]
  · rw [if_neg htext]
    simp [htext]

/-- The stores that loading comes down to. -/
def storesOf (entries : List (String × Document.Entry)) : List (SubnetId × SubnetConfig) :=
  entries.map fun entry => (entry.2.id, entry.2.config)

theorem insertAll_eq_ok_iff (r r' : Registry) (entries : List (String × Document.Entry)) :
    r.insertAll entries = .ok r' ↔
      (∀ entry ∈ entries, r.get? entry.2.id.text = none) ∧
      (entries.map fun entry => entry.2.id.text).Nodup ∧ r' = r.insertEach (storesOf entries) := by
  induction entries generalizing r with
  | nil =>
      rw [insertAll, Except.ok.injEq, eq_comm]
      simp [storesOf, insertEach]
  | cons head rest ih =>
      obtain ⟨name, entry⟩ := head
      rw [insertAll]
      cases hget : r.getSubnet? entry.id with
      | some config =>
          constructor
          · intro h
            cases h
          · rintro ⟨hnone, -⟩
            have hnone := (List.forall_mem_cons.1 hnone).1
            rw [getSubnet?, hnone] at hget
            cases hget
      | none =>
          dsimp only
          have hstores : r.insertEach (storesOf ((name, entry) :: rest)) =
              (r.insert entry.id entry.config).insertEach (storesOf rest) := rfl
          -- For the rest the new key is taken, too.
          have hnotin : entry.id.text ∉ rest.map (fun entry => entry.2.id.text) ↔
              ∀ other ∈ rest, entry.id.text ≠ other.2.id.text := by
            simp only [List.mem_map, not_exists, not_and, ne_eq, eq_comm]
          rw [ih, List.forall_mem_cons, List.map_cons, List.nodup_cons, hstores, hnotin]
          simp only [get?_insert_eq_none_iff, forall₂_and]
          constructor
          · rintro ⟨⟨hne, hnone⟩, hnodup, heq⟩
            exact ⟨⟨hget, hnone⟩, ⟨hne, hnodup⟩, heq⟩
          · rintro ⟨⟨-, hnone⟩, ⟨hne, hnodup⟩, heq⟩
            exact ⟨⟨hne, hnone⟩, hnodup, heq⟩

theorem lastStored?_eq_some_iff {stores : List (SubnetId × SubnetConfig)} {key : String}
    {config : SubnetConfig} (h : (stores.map fun store => store.1.text).Nodup) :
    lastStored? key stores = some config ↔ ∃ id, (id, config) ∈ stores ∧ id.text = key := by
  induction stores generalizing config with
  | nil => simp [lastStored?]
  | cons store rest ih =>
      obtain ⟨id, c⟩ := store
      rw [List.map_cons, List.nodup_cons] at h
      rw [lastStored?, Option.or_eq_some_iff, ih h.2]
      constructor
      · rintro (⟨other, hmem, htext⟩ | ⟨-, hhere⟩)
        · exact ⟨other, List.mem_cons_of_mem _ hmem, htext⟩
        · split at hhere
          · rename_i htext
            cases hhere
            exact ⟨id, List.mem_cons_self, htext⟩
          · cases hhere
      · rintro ⟨other, hmem, htext⟩
        rcases List.mem_cons.1 hmem with heq | hmem
        · cases heq
          right
          refine ⟨?_, if_pos htext⟩
          rw [Option.eq_none_iff_forall_ne_some]
          intro c hc
          obtain ⟨later, hlater, hsame⟩ := (ih h.2).1 hc
          exact h.1 (List.mem_map.2 ⟨(later, c), hlater, hsame.trans htext.symm⟩)
        · exact Or.inl ⟨other, hmem, htext⟩

/-- Stores for different texts can be made in any order. -/
theorem insertEach_perm (r : Registry) {stores stores' : List (SubnetId × SubnetConfig)}
    (hperm : stores.Perm stores') (h : (stores.map fun store => store.1.text).Nodup) :
    r.insertEach stores = r.insertEach stores' := by
  have h' : (stores'.map fun store => store.1.text).Nodup := (hperm.map _).nodup_iff.1 h
  apply ext_get?
  intro key
  have hlast : lastStored? key stores = lastStored? key stores' := by
    apply Option.ext
    intro config
    simp only [lastStored?_eq_some_iff h, lastStored?_eq_some_iff h', hperm.mem_iff]
  rw [get?_insertEach, get?_insertEach, hlast]

theorem ofToml_eq_insertAll {document : String} {entries : List (String × Document.Entry)}
    (h : readToml idna document = .ok entries) : ofToml idna document = empty.insertAll entries := by
  unfold ofToml
  rw [h]
  rfl

theorem ofToml_eq_ok_iff (document : String) (r : Registry) :
    ofToml idna document = .ok r ↔ ∃ entries, readToml idna document = .ok entries ∧
      (entries.map fun entry => entry.2.id.text).Nodup ∧
      r = empty.insertEach (storesOf entries) := by
  unfold ofToml
  simp only [bind_eq_ok_iff, insertAll_eq_ok_iff, get?_empty, implies_true, true_and]

theorem map_text_storesOf (entries : List (String × Document.Entry)) :
    (storesOf entries).map (fun store => store.1.text) = entries.map fun entry => entry.2.id.text := by
  unfold storesOf
  rw [List.map_map]
  rfl

theorem get?_insertEach_storesOf {entries : List (String × Document.Entry)} {key : String}
    {config : SubnetConfig} (h : (entries.map fun entry => entry.2.id.text).Nodup) :
    (empty.insertEach (storesOf entries)).get? key = some config ↔
      ∃ name entry, (name, entry) ∈ entries ∧ entry.id.text = key ∧ entry.config = config := by
  have hnodup : ((storesOf entries).map fun store => store.1.text).Nodup := by
    rwa [map_text_storesOf]
  rw [get?_insertEach, get?_empty, Option.or_none, lastStored?_eq_some_iff hnodup]
  unfold storesOf
  simp only [List.mem_map, Prod.mk.injEq, Prod.exists]
  constructor
  · rintro ⟨id, ⟨name, entry, hmem, rfl, rfl⟩, htext⟩
    exact ⟨name, entry, hmem, htext, rfl⟩
  · rintro ⟨name, entry, hmem, htext, rfl⟩
    exact ⟨entry.id, ⟨name, entry, hmem, rfl, rfl⟩, htext⟩

end SubnetRouter.Registry
