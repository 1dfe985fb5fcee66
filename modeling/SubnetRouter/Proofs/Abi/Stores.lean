import Mathlib.Data.Finset.Card
import Mathlib.Data.List.Induction
import SubnetRouter.Abi.Store

/-!
# What an ABI store holds

Under each name a store has the ABI that was stored there last, in whatever way it came in.

* `lookup?_insertEach_iff`, `size_insertEach`: what a run of stores leaves.
* `loadFile_eq`, `loadDirectory_fst`: which runs of stores the files of compilers come to.
* `loadDirectory_singleton`: one contract from a directory.
-/

namespace SubnetRouter

theorem Files.readText_of_toUTF8 {files : Files} {path text : String}
    (h : files path = .ok text.toUTF8) : files.readText path = .ok text := by
  have hvalid : text.toUTF8.IsValidUTF8 := text.isValidUTF8
  unfold readText String.fromUTF8?
  simp only [h, dif_pos hvalid]
  rfl

namespace AbiStore

theorem lookup?_insert (s : AbiStore) (name : String) (abi : Abi) (other : String) :
    (s.insert name abi).lookup? other = if name = other then some abi else s.lookup? other := by
  unfold insert lookup?
  rw [Std.ExtTreeMap.getElem?_insert]
  simp only [Std.compare_eq_iff_eq]

theorem lookup?_insert_self (s : AbiStore) (name : String) (abi : Abi) :
    (s.insert name abi).lookup? name = some abi := by
  rw [lookup?_insert, if_pos rfl]

theorem contains_eq_isSome_lookup? (s : AbiStore) (name : String) :
    s.contains name = (s.lookup? name).isSome :=
  Std.ExtTreeMap.contains_eq_isSome_getElem?

theorem size_insert (s : AbiStore) (name : String) (abi : Abi) :
    (s.insert name abi).size = if s.contains name then s.size else s.size + 1 :=
  Std.ExtTreeMap.size_insert

/-! ## Runs of stores -/

/-- The store after a run of stores, the first of them first. -/
def insertEach (s : AbiStore) (stores : List (String × Abi)) : AbiStore :=
  stores.foldl (fun s store => s.insert store.1 store.2) s

/-- The ABI is the last one that is stored under the name. -/
def MostRecent (stores : List (String × Abi)) (name : String) (abi : Abi) : Prop :=
  ∃ before after, stores = before ++ (name, abi) :: after ∧ name ∉ after.map Prod.fst

theorem insertEach_append (s : AbiStore) (before after : List (String × Abi)) :
    s.insertEach (before ++ after) = (s.insertEach before).insertEach after :=
  List.foldl_append

theorem insertEach_concat (s : AbiStore) (stores : List (String × Abi)) (store : String × Abi) :
    s.insertEach (stores ++ [store]) = (s.insertEach stores).insert store.1 store.2 :=
  s.insertEach_append stores [store]

theorem mostRecent_concat_self (stores : List (String × Abi)) (name : String) (abi : Abi) :
    MostRecent (stores ++ [(name, abi)]) name abi :=
  ⟨stores, [], rfl, List.not_mem_nil⟩

theorem mostRecent_concat_iff (stores : List (String × Abi)) (last : String × Abi) (name : String)
    (abi : Abi) :
    MostRecent (stores ++ [last]) name abi ↔
      if last.1 = name then last.2 = abi else MostRecent stores name abi := by
  constructor
  · intro h
    obtain ⟨before, after, heq, hafter⟩ := h
    -- What is stored last is either the ABI itself or comes after it.
    rcases List.eq_nil_or_concat after with rfl | ⟨front, store, rfl⟩
    · have hlast : last = (name, abi) := (List.concat_inj.1 (by simpa using heq)).2
      rw [hlast, if_pos rfl]
    · rw [List.concat_eq_append, ← List.cons_append, ← List.append_assoc] at heq
      have hsplit := List.append_inj' heq rfl
      have hlast : last = store := List.singleton_inj.1 hsplit.2
      rw [List.concat_eq_append, List.map_append, List.mem_append, not_or] at hafter
      have hne : last.1 ≠ name := by
        intro hname
        apply hafter.2
        rw [← hname, hlast]
        exact List.mem_singleton_self _
      rw [if_neg hne]
      exact ⟨before, front, hsplit.1, hafter.1⟩
  · intro h
    by_cases hname : last.1 = name
    · rw [if_pos hname] at h
      rw [← hname, ← h]
      exact mostRecent_concat_self stores last.1 last.2
    · rw [if_neg hname] at h
      obtain ⟨before, after, rfl, hafter⟩ := h
      refine ⟨before, after ++ [last], by simp, ?_⟩
      rw [List.map_append, List.mem_append, not_or]
      exact ⟨hafter, by simpa using Ne.symm hname⟩

theorem lookup?_insertEach_iff (stores : List (String × Abi)) (name : String) (abi : Abi) :
    (empty.insertEach stores).lookup? name = some abi ↔ MostRecent stores name abi := by
  induction stores using List.reverseRecOn with
  | nil =>
      constructor
      · intro h
        cases h
      · rintro ⟨before, after, heq, -⟩
        cases List.append_eq_nil_iff.1 heq.symm |>.2
  | append_singleton stores last ih =>
      rw [insertEach_concat, lookup?_insert, mostRecent_concat_iff]
      by_cases hname : last.1 = name
      · rw [if_pos hname, if_pos hname, Option.some.injEq]
      · rw [if_neg hname, if_neg hname, ih]

theorem mostRecent_append_of_mostRecent {after : List (String × Abi)} {name : String} {abi : Abi}
    (h : MostRecent after name abi) (before : List (String × Abi)) :
    MostRecent (before ++ after) name abi := by
  obtain ⟨front, back, rfl, hback⟩ := h
  exact ⟨before ++ front, back, (List.append_assoc _ _ _).symm, hback⟩

theorem mostRecent_append_of_not_mem {before after : List (String × Abi)} {name : String} {abi : Abi}
    (h : MostRecent before name abi) (hafter : name ∉ after.map Prod.fst) :
    MostRecent (before ++ after) name abi := by
  obtain ⟨front, back, rfl, hback⟩ := h
  refine ⟨front, back ++ after, by rw [List.append_assoc, List.cons_append], ?_⟩
  rw [List.map_append, List.mem_append, not_or]
  exact ⟨hback, hafter⟩

theorem contains_insertEach_iff (stores : List (String × Abi)) (name : String) :
    (empty.insertEach stores).contains name = true ↔ name ∈ stores.map Prod.fst := by
  induction stores using List.reverseRecOn with
  | nil =>
      rw [contains_eq_isSome_lookup?]
      exact ⟨nofun, nofun⟩
  | append_singleton stores last ih =>
      rw [contains_eq_isSome_lookup?] at ih
      rw [insertEach_concat, contains_eq_isSome_lookup?, lookup?_insert, List.map_append,
        List.mem_append, ← ih]
      by_cases hname : last.1 = name
      · simp [hname]
      · simp [hname, Ne.symm hname]

theorem exists_mostRecent_iff (stores : List (String × Abi)) (name : String) :
    (∃ abi, MostRecent stores name abi) ↔ name ∈ stores.map Prod.fst := by
  simp only [← lookup?_insertEach_iff, ← contains_insertEach_iff, contains_eq_isSome_lookup?,
    Option.isSome_iff_exists]

theorem size_insertEach (stores : List (String × Abi)) :
    (empty.insertEach stores).size = (stores.map Prod.fst).toFinset.card := by
  induction stores using List.reverseRecOn with
  | nil => rfl
  | append_singleton stores last ih =>
      have hnames : ((stores ++ [last]).map Prod.fst).toFinset =
          Insert.insert last.1 (stores.map Prod.fst).toFinset := by
        ext name
        simp
      rw [insertEach_concat, size_insert, ih, hnames]
      by_cases hmem : last.1 ∈ stores.map Prod.fst
      · rw [if_pos ((contains_insertEach_iff stores last.1).2 hmem),
          Finset.insert_eq_of_mem (List.mem_toFinset.2 hmem)]
      · have hnew : last.1 ∉ (stores.map Prod.fst).toFinset := by
          rwa [List.mem_toFinset]
        rw [if_neg (mt (contains_insertEach_iff stores last.1).1 hmem),
          Finset.card_insert_of_notMem hnew]

/-! ## Files -/

/-- The ABIs of the named contracts in a directory, up to the first one that cannot be read. -/
def readable (files : Files) (directory : String) : List String → List (String × Abi)
  | [] => []
  | name :: names =>
    match readArtifact files (artifactPath directory name) with
    | .ok abi => (name, abi) :: readable files directory names
    | .error _ => []

theorem readArtifact_of_toUTF8 {files : Files} {path text : String} {artifact : Json} {abi : Abi}
    (htext : files path = .ok text.toUTF8) (hartifact : Json.read? text = some artifact)
    (habi : artifact.member? "abi" = some abi) : readArtifact files path = .ok abi := by
  unfold readArtifact
  rw [Files.readText_of_toUTF8 htext]
  simp only [hartifact, habi]

theorem loadAll_fst (files : Files) (directory : String) (names : List String) (s : AbiStore) :
    (loadAll files directory names s).1 = s.insertEach (readable files directory names) := by
  induction names generalizing s with
  | nil => rfl
  | cons name names ih =>
      rw [loadAll, readable, loadFile]
      cases readArtifact files (artifactPath directory name) with
      | error fault => rfl
      | ok abi => exact ih _

theorem loadDirectory_fst (files : Files) (directory : String) (names : List String)
    (s : AbiStore) :
    (loadDirectory files directory names s).1 = s.insertEach (readable files directory names) :=
  loadAll_fst files directory names s

theorem loadDirectory_singleton (files : Files) (directory name : String) (s : AbiStore) :
    loadDirectory files directory [name] s =
      match readArtifact files (artifactPath directory name) with
      | .ok abi => (s.insert name abi, .ok 1)
      | .error fault => (s, .error (.abiLoad name fault)) := by
  unfold loadDirectory
  rw [loadAll, loadFile]
  cases readArtifact files (artifactPath directory name) with
  | error fault => rfl
  | ok abi => rfl

end AbiStore

end SubnetRouter
