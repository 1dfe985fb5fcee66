import SubnetRouter.Proofs.Networks
import SubnetRouter.Proofs.Registry.Loading
import SubnetRouter.Proofs.Text.ByteOrder

/-!
# The keys of a registry

However a registry is built, and whatever is stored in it afterwards, its keys are canonical texts
of ids, in the order of their bytes.  So a text that spells an id in another way is no key.

* `hasCanonicalKeys_insert`, `hasCanonicalKeys_insertEach`: what a store and a run of stores preserve.
* `exists_stores_of_built`: a registry from any source is a run of stores.
* `keys_eq_sorted`: the order in which the table lists its keys is lost.
* `built_insertEach_invariant`: the invariant of all registries.
-/

namespace SubnetRouter

open Text

variable {idna : Url.Idna}

namespace Registry

open SubnetId (IsCanonical)

/-! ## Stores -/

def HasCanonicalKeys (r : Registry) : Prop :=
  ∀ key, (r.get? key).isSome → IsCanonical key

theorem hasCanonicalKeys_insert {r : Registry} (h : r.HasCanonicalKeys) (id : SubnetId)
    (config : SubnetConfig) : (r.insert id config).HasCanonicalKeys := by
  intro key hkey
  rw [get?_insert] at hkey
  by_cases htext : id.text = key
  · rw [← htext]
    exact SubnetId.isCanonical_text id
  · rw [if_neg htext] at hkey
    exact h key hkey

theorem hasCanonicalKeys_insertEach {r : Registry} (h : r.HasCanonicalKeys)
    (stores : List (SubnetId × SubnetConfig)) : (r.insertEach stores).HasCanonicalKeys := by
  induction stores generalizing r with
  | nil => exact h
  | cons store rest ih => exact ih (hasCanonicalKeys_insert h store.1 store.2)

theorem lastStored?_eq_none {key : String} {stores : List (SubnetId × SubnetConfig)}
    (h : ∀ store ∈ stores, store.1.text ≠ key) : lastStored? key stores = none := by
  induction stores with
  | nil => rfl
  | cons store rest ih =>
      obtain ⟨hfirst, hrest⟩ := List.forall_mem_cons.1 h
      rw [lastStored?, ih hrest, if_neg hfirst, Option.or_none]

theorem get?_insertEach_of_last (r : Registry) (before after : List (SubnetId × SubnetConfig))
    (id : SubnetId) (config : SubnetConfig) (h : ∀ store ∈ after, store.1.text ≠ id.text) :
    (r.insertEach (before ++ (id, config) :: after)).get? id.text = some config := by
  rw [get?_insertEach, lastStored?_append, lastStored?, lastStored?_eq_none h, if_pos rfl]
  rfl

theorem get?_insertEach_of_none (r : Registry) {key : String}
    {stores : List (SubnetId × SubnetConfig)} (h : ∀ store ∈ stores, store.1.text ≠ key) :
    (r.insertEach stores).get? key = r.get? key := by
  rw [get?_insertEach, lastStored?_eq_none h, Option.none_or]

/-! ## Sources -/

/-- The registry comes from one of the sources. -/
inductive Built (idna : Url.Idna) (files : Files) : Registry → Prop where
  | empty : Built idna files empty
  | network {name : String} {r : Registry} : ofNetwork idna name = .ok r → Built idna files r
  | document {text : String} {r : Registry} : ofToml idna text = .ok r → Built idna files r
  | file {path : String} {r : Registry} : ofFile idna files path = .ok r → Built idna files r
  | environment {env : Environment} {r : Registry} :
    ofEnvironment idna files env = .ok r → Built idna files r

theorem exists_stores_of_ofNetwork {name : String} {r : Registry} (h : ofNetwork idna name = .ok r) :
    ∃ stores, r = empty.insertEach stores := by
  obtain ⟨network, -, rfl⟩ := (map_eq_ok_iff _ _ _).1 h
  exact ⟨[(network.id, network.config)], rfl⟩

theorem exists_stores_of_ofFile {files : Files} {path : String} {r : Registry}
    (h : ofFile idna files path = .ok r) : ∃ stores, r = empty.insertEach stores := by
  unfold ofFile at h
  split at h
  · cases h
  · obtain ⟨entries, -, -, rfl⟩ := (ofToml_eq_ok_iff _ r).1 h
    exact ⟨_, rfl⟩

theorem exists_stores_of_built {files : Files} {r : Registry} (h : Built idna files r) :
    ∃ stores, r = empty.insertEach stores := by
  cases h with
  | empty => exact ⟨[], rfl⟩
  | network h => exact exists_stores_of_ofNetwork h
  | document h =>
      obtain ⟨entries, -, -, rfl⟩ := (ofToml_eq_ok_iff _ r).1 h
      exact ⟨_, rfl⟩
  | file h => exact exists_stores_of_ofFile h
  | environment h =>
      rename_i env
      unfold ofEnvironment ofSource at h
      split at h
      · exact exists_stores_of_ofFile h
      · exact exists_stores_of_ofNetwork h

theorem hasCanonicalKeys_of_built {files : Files} {r : Registry} (h : Built idna files r) :
    r.HasCanonicalKeys := by
  obtain ⟨stores, rfl⟩ := exists_stores_of_built h
  apply hasCanonicalKeys_insertEach
  intro key hkey
  rw [get?_empty] at hkey
  cases hkey

/-! ## Keys -/

/-- The keys are sorted from whatever order the table of a registry lists them in. -/
theorem keys_eq_sorted {r : Registry} {listed : List String} (h : listed.Perm r.configs.keys) :
    r.keys = sorted listed :=
  sorted_eq_of_perm h.symm

theorem keys_perm (r : Registry) : r.keys.Perm r.configs.keys :=
  sorted_perm _

theorem mem_keys_iff (r : Registry) (key : String) : key ∈ r.keys ↔ (r.get? key).isSome := by
  rw [r.keys_perm.mem_iff, get?, Std.ExtTreeMap.mem_keys,
    Std.ExtTreeMap.isSome_getElem?_eq_contains, Std.ExtTreeMap.mem_iff_contains]

theorem pairwise_keys (r : Registry) : r.keys.Pairwise (· < ·) :=
  pairwise_sorted Std.ExtTreeMap.nodup_keys

theorem pairwise_utf8Bytes_keys (r : Registry) :
    r.keys.Pairwise fun a b => utf8Bytes a.toList < utf8Bytes b.toList :=
  (pairwise_keys r).imp fun h => utf8Bytes_lt_of_lt h

/-- What holds of the keys of every registry. -/
structure KeyInvariant (r : Registry) : Prop where
  canonical : ∀ key, (r.get? key).isSome → IsCanonical key
  ascending : r.keys.Pairwise fun a b => utf8Bytes a.toList < utf8Bytes b.toList
  length_keys : r.keys.length = r.size
  mem_keys : ∀ key, key ∈ r.keys ↔ (r.get? key).isSome
  get?_iff : ∀ key config, r.get? key = some config ↔
    ∃ id, SubnetId.read key = .ok id ∧ id.text = key ∧ r.getSubnet? id = some config

theorem keyInvariant_of_hasCanonicalKeys {r : Registry} (h : r.HasCanonicalKeys) :
    r.KeyInvariant where
  canonical := h
  ascending := pairwise_utf8Bytes_keys r
  length_keys := r.keys_perm.length_eq.trans Std.ExtTreeMap.length_keys
  mem_keys := mem_keys_iff r
  get?_iff key config := by
    constructor
    · intro hget
      obtain ⟨id, hread, rfl⟩ := h key (by rw [hget]; rfl)
      exact ⟨id, hread, rfl, hget⟩
    · rintro ⟨id, -, rfl, hget⟩
      exact hget

theorem get?_of_not_canonical {r : Registry} (h : r.HasCanonicalKeys) {key : String}
    {id : SubnetId} (hread : SubnetId.read key = .ok id) (hne : id.text ≠ key) :
    r.get? key = none := by
  rw [← Option.not_isSome_iff_eq_none]
  intro hsome
  obtain ⟨id', hread', htext⟩ := h key hsome
  rw [hread, Except.ok.injEq] at hread'
  rw [hread'] at hne
  exact hne htext

/-- The invariant of a registry from any source after any run of stores.  Under a key is what was
stored last under it, or what the source has there.  A text that spells an id in another way than the
id is written is no key, even when the subnet is there. -/
theorem built_insertEach_invariant {files : Files} {base : Registry} (h : Built idna files base)
    (stores : List (SubnetId × SubnetConfig)) :
    (base.insertEach stores).KeyInvariant ∧
    (∀ before id config after, stores = before ++ (id, config) :: after →
      (∀ store ∈ after, store.1.text ≠ id.text) →
      (base.insertEach stores).get? id.text = some config) ∧
    (∀ key, (∀ store ∈ stores, store.1.text ≠ key) →
      (base.insertEach stores).get? key = base.get? key) ∧
    (∀ key id, SubnetId.read key = .ok id → id.text ≠ key →
      (base.insertEach stores).get? key = none ∧
      ∀ config, ((base.insertEach stores).insert id config).getSubnet? id = some config ∧
        ((base.insertEach stores).insert id config).get? key = none) := by
  have hkeys := hasCanonicalKeys_insertEach (hasCanonicalKeys_of_built h) stores
  refine ⟨keyInvariant_of_hasCanonicalKeys hkeys, ?_, ?_, ?_⟩
  · rintro before id config after rfl hafter
    exact get?_insertEach_of_last base before after id config hafter
  · intro key hnone
    exact get?_insertEach_of_none base hnone
  · intro key id hread hne
    refine ⟨get?_of_not_canonical hkeys hread hne, fun config => ⟨?_, ?_⟩⟩
    · rw [getSubnet?_insert, if_pos rfl]
    · exact get?_of_not_canonical (hasCanonicalKeys_insert hkeys id config) hread hne

/-- The registry of a network, with an id of another namespace stored. -/
theorem built_insertEach_invariant_calibration :
    let base := empty.insert Network.calibration.id Network.calibration.config
    let foreign : SubnetId := ⟨1, [⟨11, [1], by decide⟩]⟩
    Built .asciiOnly (fun _ => .error .notFound) base ∧
      (base.insertEach [(foreign, Network.calibration.config)]).KeyInvariant ∧
      (base.insertEach [(foreign, Network.calibration.config)]).get? "r1/01" = none := by
  intro base foreign
  have hbuilt : Built .asciiOnly (fun _ => .error .notFound) base :=
    .network (ofNetwork_default .asciiOnly)
  obtain ⟨hkeys, -, -, hspelled⟩ :=
    built_insertEach_invariant hbuilt [(foreign, Network.calibration.config)]
  have hread : SubnetId.read "r1/01" = .ok ⟨1, [⟨10, [1], by decide⟩]⟩ := by decide +kernel
  exact ⟨hbuilt, hkeys, (hspelled _ _ hread (by decide +kernel)).1⟩

end Registry

end SubnetRouter
