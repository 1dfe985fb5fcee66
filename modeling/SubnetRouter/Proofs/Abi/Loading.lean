import SubnetRouter.Proofs.Abi.Stores
import SubnetRouter.Proofs.Outcome

/-!
# What loading leaves behind

A file is loaded as a whole or not at all.  The files of a directory are loaded one after the other, so
a failure leaves behind what stood before it.

* `Filled`: what the files of some names make of a store; `Filled.unique`: it is one store.
* `outcome_loadAll`: what a run over the names of a directory leaves.
* `loadDirectory_eq_ok_iff`, `exists_of_loadDirectory_eq_error`: success, and the store in either case.
* `load_leaves`: files, directories and the contracts of the protocol.
-/

namespace SubnetRouter

theorem Json.member?_eq_some_iff (name : String) (value member : Json) :
    value.member? name = some member ↔
      ∃ members, value = .object members ∧ members.lookup name = some member := by
  cases value with
  | object members => simp [member?]
  | null | bool b | number n | string text | array items => simp [member?]

theorem Files.readText_eq_ok_iff (files : Files) (path text : String) :
    files.readText path = .ok text ↔
      ∃ bytes, files path = .ok bytes ∧ String.fromUTF8? bytes = some text := by
  unfold readText
  cases files path with
  | error fault => simp
  | ok bytes =>
      cases htext : String.fromUTF8? bytes with
      | none => simp [htext]
      | some found => simp [htext]

namespace AbiStore

variable {files : Files} {path : String → String} {directory name : String}
  {names names' : List String} {abi : Abi} {s s' s'' : AbiStore}

/-! ## Files -/

/-- The file is readable text, a JSON object with the ABI as its member `abi`. -/
def HoldsAbi (files : Files) (path : String) (abi : Abi) : Prop :=
  ∃ bytes text members, files path = .ok bytes ∧ String.fromUTF8? bytes = some text ∧
    Json.read? text = some (.object members) ∧ members.lookup "abi" = some abi

/-- The file has an ABI that can be loaded. -/
def Loads (files : Files) (path : String) : Prop :=
  ∃ abi, HoldsAbi files path abi

theorem readArtifact_eq_ok_iff (files : Files) (path : String) (abi : Abi) :
    readArtifact files path = .ok abi ↔ HoldsAbi files path abi := by
  have hartifact : readArtifact files path = .ok abi ↔ ∃ text, files.readText path = .ok text ∧
      ∃ artifact, Json.read? text = some artifact ∧ artifact.member? "abi" = some abi := by
    unfold readArtifact
    cases files.readText path with
    | error fault => simp
    | ok text =>
        cases hread : Json.read? text with
        | none => simp [hread]
        | some artifact => cases hmember : artifact.member? "abi" <;> simp [hread, hmember]
  rw [hartifact]
  simp only [Files.readText_eq_ok_iff, Json.member?_eq_some_iff]
  constructor
  · rintro ⟨text, ⟨bytes, hfile, htext⟩, artifact, hread, members, rfl, hlookup⟩
    exact ⟨bytes, text, members, hfile, htext, hread, hlookup⟩
  · rintro ⟨bytes, text, members, hfile, htext, hread, hlookup⟩
    exact ⟨text, ⟨bytes, hfile, htext⟩, _, hread, members, rfl, hlookup⟩

theorem HoldsAbi.unique {path : String} {abi' : Abi} (h : HoldsAbi files path abi)
    (h' : HoldsAbi files path abi') : abi = abi' := by
  have hsame := (readArtifact_eq_ok_iff files path abi).2 h
  rw [(readArtifact_eq_ok_iff files path abi').2 h', Except.ok.injEq] at hsame
  exact hsame.symm

theorem not_loads_of_error {path : String} {fault : ArtifactFault}
    (h : readArtifact files path = .error fault) : ¬ Loads files path := by
  rintro ⟨abi, habi⟩
  rw [(readArtifact_eq_ok_iff files path abi).2 habi] at h
  cases h

theorem loadFile_of_holdsAbi {path : String} (h : HoldsAbi files path abi) (name : String)
    (s : AbiStore) : s.loadFile files name path = (s.insert name abi, .ok ()) := by
  unfold loadFile
  rw [(readArtifact_eq_ok_iff files path abi).2 h]

theorem loadFile_of_error {path : String} {fault : ArtifactFault}
    (h : readArtifact files path = .error fault) (name : String) (s : AbiStore) :
    s.loadFile files name path = (s, .error (.abiLoad name fault)) := by
  unfold loadFile
  rw [h]

/-! ## Stores filled from files -/

/-- The second store has under each of the names the ABI of the name's own file, and everywhere else
what the first store has there. -/
structure Filled (files : Files) (path : String → String) (names : List String)
    (s s' : AbiStore) : Prop where
  stored : ∀ name ∈ names, ∃ abi, HoldsAbi files (path name) abi ∧ s'.lookup? name = some abi
  kept : ∀ name, name ∉ names → s'.lookup? name = s.lookup? name

theorem ext_lookup? (h : ∀ name, s.lookup? name = s'.lookup? name) : s = s' := by
  cases s
  cases s'
  rw [mk.injEq]
  exact Std.ExtTreeMap.ext_getElem? h

theorem Filled.loads (h : Filled files path names s s') : ∀ name ∈ names, Loads files (path name) := by
  intro name hname
  obtain ⟨abi, habi, -⟩ := h.stored name hname
  exact ⟨abi, habi⟩

theorem Filled.unique (h : Filled files path names s s') (h' : Filled files path names s s'') :
    s' = s'' := by
  apply ext_lookup?
  intro name
  by_cases hname : name ∈ names
  · obtain ⟨abi, habi, hlookup⟩ := h.stored name hname
    obtain ⟨abi', habi', hlookup'⟩ := h'.stored name hname
    rw [hlookup, hlookup', habi.unique habi']
  · rw [h.kept name hname, h'.kept name hname]

theorem Filled.perm (h : Filled files path names s s') (hperm : names.Perm names') :
    Filled files path names' s s' where
  stored name hname := h.stored name (hperm.mem_iff.2 hname)
  kept name hname := h.kept name fun hmem => hname (hperm.mem_iff.1 hmem)

theorem Filled.nil (files : Files) (path : String → String) (s : AbiStore) :
    Filled files path [] s s :=
  ⟨by simp, fun _ _ => rfl⟩

/-- What is stored under a name before it is loaded again is stored once more. -/
theorem Filled.cons (habi : HoldsAbi files (path name) abi)
    (h : Filled files path names (s.insert name abi) s') : Filled files path (name :: names) s s' := by
  constructor
  · intro other hother
    by_cases hmem : other ∈ names
    · exact h.stored other hmem
    · obtain rfl : other = name := (List.mem_cons.1 hother).resolve_right hmem
      exact ⟨abi, habi, by rw [h.kept other hmem, lookup?_insert_self]⟩
  · intro other hother
    rw [List.mem_cons, not_or] at hother
    rw [h.kept other hother.2, lookup?_insert, if_neg (Ne.symm hother.1)]

theorem filled_singleton {path : String} (h : HoldsAbi files path abi) (name : String)
    (s : AbiStore) : Filled files (fun _ => path) [name] s (s.insert name abi) :=
  .cons h (.nil files _ _)

/-! ## Directories -/

/-- What loading the named contracts from a directory leaves: all of them, or those before the first
one whose file cannot be loaded. -/
inductive Outcome (files : Files) (directory : String) (names : List String) (s : AbiStore) :
    AbiStore × Except RouterFault Unit → Prop where
  | all {s' : AbiStore} (hfilled : Filled files (artifactPath directory) names s s') :
      Outcome files directory names s (s', .ok ())
  | stopped {before after : List String} {name : String} {fault : ArtifactFault} {s' : AbiStore}
      (hsplit : names = before ++ name :: after)
      (hfault : readArtifact files (artifactPath directory name) = .error fault)
      (hfilled : Filled files (artifactPath directory) before s s') :
      Outcome files directory names s (s', .error (.abiLoad name fault))

theorem outcome_loadAll (files : Files) (directory : String) (names : List String) (s : AbiStore) :
    Outcome files directory names s (loadAll files directory names s) := by
  induction names generalizing s with
  | nil => exact .all (.nil files _ s)
  | cons name names ih =>
      rw [loadAll]
      cases hartifact : readArtifact files (artifactPath directory name) with
      | error fault =>
          rw [loadFile_of_error hartifact]
          exact .stopped (List.nil_append _).symm hartifact (.nil files _ s)
      | ok abi =>
          have habi := (readArtifact_eq_ok_iff files _ abi).1 hartifact
          rw [loadFile_of_holdsAbi habi]
          have hrest := ih (s.insert name abi)
          dsimp only
          generalize loadAll files directory names (s.insert name abi) = result at hrest ⊢
          cases hrest with
          | all hfilled => exact .all (.cons habi hfilled)
          | stopped hsplit hfault hfilled =>
              rw [hsplit]
              exact .stopped (List.cons_append).symm hfault (.cons habi hfilled)

theorem loadDirectory_eq (files : Files) (directory : String) (names : List String) (s : AbiStore) :
    s.loadDirectory files directory names =
      ((loadAll files directory names s).1,
        (loadAll files directory names s).2.map fun _ => names.length) :=
  rfl

theorem loadAll_eq_ok_iff (files : Files) (directory : String) (names : List String)
    (s s' : AbiStore) :
    loadAll files directory names s = (s', .ok ()) ↔
      Filled files (artifactPath directory) names s s' := by
  have houtcome := outcome_loadAll files directory names s
  generalize loadAll files directory names s = result at houtcome ⊢
  cases houtcome with
  | all hfilled =>
      constructor
      · intro h
        cases h
        exact hfilled
      · intro h
        rw [h.unique hfilled]
  | stopped hsplit hfault hfilled =>
      constructor
      · intro h
        cases h
      · intro h
        have hloads := h.loads _ (hsplit ▸ List.mem_append_right _ List.mem_cons_self)
        exact absurd hloads (not_loads_of_error hfault)

theorem loadDirectory_eq_ok_iff (files : Files) (directory : String) (names : List String)
    (s s' : AbiStore) (count : Nat) :
    s.loadDirectory files directory names = (s', .ok count) ↔
      count = names.length ∧ Filled files (artifactPath directory) names s s' := by
  rw [loadDirectory_eq, Prod.mk.injEq, map_eq_ok_iff, ← loadAll_eq_ok_iff]
  constructor
  · rintro ⟨hstore, _, hok, rfl⟩
    exact ⟨rfl, Prod.ext hstore hok⟩
  · rintro ⟨rfl, h⟩
    rw [h]
    exact ⟨rfl, (), rfl, rfl⟩

/-- The failure of a directory is that of its first file that cannot be loaded. -/
theorem exists_of_loadDirectory_eq_error {fault : RouterFault}
    (h : s.loadDirectory files directory names = (s', .error fault)) :
    ∃ before name after inner, names = before ++ name :: after ∧
      readArtifact files (artifactPath directory name) = .error inner ∧
      fault = .abiLoad name inner ∧ Filled files (artifactPath directory) before s s' := by
  rw [loadDirectory_eq, Prod.mk.injEq, map_eq_error_iff] at h
  obtain ⟨rfl, hfault⟩ := h
  have houtcome := outcome_loadAll files directory names s
  generalize loadAll files directory names s = result at houtcome hfault ⊢
  cases houtcome with
  | all hfilled => cases hfault
  | stopped hsplit hinner hfilled =>
      cases hfault
      exact ⟨_, _, _, _, hsplit, hinner, rfl, hfilled⟩

theorem exists_loadDirectory_iff (files : Files) (directory : String) (names : List String)
    (s : AbiStore) :
    (∃ s' count, s.loadDirectory files directory names = (s', .ok count)) ↔
      ∀ name ∈ names, Loads files (artifactPath directory name) := by
  constructor
  · rintro ⟨s', count, h⟩
    exact ((loadDirectory_eq_ok_iff files directory names s s' count).1 h).2.loads
  · intro h
    cases hresult : (s.loadDirectory files directory names).2 with
    | ok count => exact ⟨_, count, Prod.ext rfl hresult⟩
    | error fault =>
        obtain ⟨before, name, after, inner, hsplit, hinner, -⟩ :=
          exists_of_loadDirectory_eq_error (Prod.ext rfl hresult)
        have hloads := h name (hsplit ▸ List.mem_append_right _ List.mem_cons_self)
        exact absurd hloads (not_loads_of_error hinner)

/-! ## The contracts of the protocol -/

theorem map_fst_readable (h : ∀ name ∈ names, Loads files (artifactPath directory name)) :
    (readable files directory names).map Prod.fst = names := by
  induction names with
  | nil => rfl
  | cons name names ih =>
      obtain ⟨⟨abi, habi⟩, hrest⟩ := List.forall_mem_cons.1 h
      rw [readable, (readArtifact_eq_ok_iff files _ abi).2 habi]
      dsimp only
      rw [List.map_cons, ih hrest]

theorem ofProtocol_eq_ok_iff (files : Files) (directory : String) (s' : AbiStore) :
    ofProtocol files directory = .ok s' ↔
      Filled files (artifactPath directory) protocolContracts empty s' := by
  have hcount : (∃ count, empty.loadDirectory files directory protocolContracts = (s', .ok count)) ↔
      Filled files (artifactPath directory) protocolContracts empty s' := by
    simp only [loadDirectory_eq_ok_iff, exists_eq_left]
  rw [← hcount, ofProtocol]
  generalize empty.loadDirectory files directory protocolContracts = result
  obtain ⟨store, outcome⟩ := result
  cases outcome with
  | ok count => simp
  | error fault => simp

theorem contains_iff_of_filled (h : Filled files path names empty s') (name : String) :
    s'.contains name = true ↔ name ∈ names := by
  rw [contains_eq_isSome_lookup?]
  by_cases hname : name ∈ names
  · obtain ⟨abi, -, hlookup⟩ := h.stored name hname
    simp [hname, hlookup]
  · rw [h.kept name hname]
    exact ⟨nofun, fun hmem => absurd hmem hname⟩

theorem size_of_filled (h : Filled files (artifactPath directory) names empty s') :
    s'.size = names.toFinset.card := by
  have hstore := loadAll_fst files directory names empty
  rw [(loadAll_eq_ok_iff files directory names empty s').2 h] at hstore
  dsimp only at hstore
  rw [hstore, size_insertEach, map_fst_readable h.loads]

/-! ## All ways of loading -/

/-- A file is loaded when it holds an ABI, and changes nothing but the entry of its name then, and
nothing at all otherwise.  A directory is loaded when all its files are, in any order; the first file
that cannot be loaded decides the failure, and the files before it are what has been loaded.  The
contracts of the protocol are loaded all ten or not at all. -/
theorem load_leaves (files : Files) (s : AbiStore) :
    (∀ name path,
      (Loads files path ∧ ∃ s', s.loadFile files name path = (s', .ok ()) ∧
          Filled files (fun _ => path) [name] s s') ∨
        ¬ Loads files path ∧
          ∃ fault, s.loadFile files name path = (s, .error (.abiLoad name fault))) ∧
    (∀ directory names,
      ((∃ s' count, s.loadDirectory files directory names = (s', .ok count)) ↔
        ∀ name ∈ names, Loads files (artifactPath directory name)) ∧
      (∀ s' count, s.loadDirectory files directory names = (s', .ok count) ↔
        count = names.length ∧ Filled files (artifactPath directory) names s s') ∧
      (∀ names' s' count, names.Perm names' →
        s.loadDirectory files directory names = (s', .ok count) →
        s.loadDirectory files directory names' = (s', .ok count)) ∧
      ∀ s' fault, s.loadDirectory files directory names = (s', .error fault) →
        ∃ before name after, names = before ++ name :: after ∧
          (∀ earlier ∈ before, Loads files (artifactPath directory earlier)) ∧
          (s.loadFile files name (artifactPath directory name)).2 = .error fault ∧
          Filled files (artifactPath directory) before s s') ∧
    ∀ directory,
      ((∃ s', ofProtocol files directory = .ok s') ↔
        ∀ name ∈ protocolContracts, Loads files (artifactPath directory name)) ∧
      ∀ s', ofProtocol files directory = .ok s' →
        Filled files (artifactPath directory) protocolContracts empty s' ∧
        (∀ name, s'.contains name = true ↔ name ∈ protocolContracts) ∧ s'.size = 10 := by
  refine ⟨?_, ?_, ?_⟩
  · intro name path
    cases hartifact : readArtifact files path with
    | ok abi =>
        have habi := (readArtifact_eq_ok_iff files path abi).1 hartifact
        exact Or.inl ⟨⟨abi, habi⟩, _, loadFile_of_holdsAbi habi name s, filled_singleton habi name s⟩
    | error fault =>
        exact Or.inr ⟨not_loads_of_error hartifact, fault, loadFile_of_error hartifact name s⟩
  · intro directory names
    refine ⟨exists_loadDirectory_iff files directory names s,
      loadDirectory_eq_ok_iff files directory names s, ?_, ?_⟩
    · intro names' s' count hperm h
      obtain ⟨rfl, hfilled⟩ := (loadDirectory_eq_ok_iff files directory names s s' count).1 h
      exact (loadDirectory_eq_ok_iff files directory names' s s' _).2
        ⟨hperm.length_eq, hfilled.perm hperm⟩
    · intro s' fault h
      obtain ⟨before, name, after, inner, hsplit, hinner, rfl, hfilled⟩ :=
        exists_of_loadDirectory_eq_error h
      exact ⟨before, name, after, hsplit, hfilled.loads, by rw [loadFile_of_error hinner], hfilled⟩
  · intro directory
    refine ⟨?_, ?_⟩
    · simp only [ofProtocol_eq_ok_iff, ← exists_loadDirectory_iff files directory _ empty,
        loadDirectory_eq_ok_iff, exists_eq_left]
    · intro s' h
      have hfilled := (ofProtocol_eq_ok_iff files directory s').1 h
      refine ⟨hfilled, contains_iff_of_filled hfilled, ?_⟩
      rw [size_of_filled hfilled]
      rfl

/-- A file with an ABI that declares nothing. -/
def emptyArtifact : String :=
  "\x7b\"abi\": []\x7d"

theorem holdsAbi_emptyArtifact {path : String} (h : files path = .ok emptyArtifact.toUTF8) :
    HoldsAbi files path (.array []) := by
  have hread : Json.read? emptyArtifact = some (.object [("abi", .array [])]) := by rfl
  exact (readArtifact_eq_ok_iff files path _).1 (readArtifact_of_toUTF8 h hread rfl)

/-- Of four names, one of them twice, the third has no file. -/
theorem load_leaves_stopped :
    let files : Files := fun path =>
      if path = "abis/B.json" then .error .notFound else .ok emptyArtifact.toUTF8
    let s := empty.insert "A" .null
    (∃ s', s.loadDirectory files "abis" ["A", "Z"] = (s', .ok 2) ∧
      s.loadDirectory files "abis" ["Z", "A"] = (s', .ok 2)) ∧
    (∃ s' before name after,
      s.loadDirectory files "abis" ["A", "A", "B", "Z"] =
        (s', .error (.abiLoad "B" (.file .notFound))) ∧
      ["A", "A", "B", "Z"] = before ++ name :: after ∧
      Filled files (artifactPath "abis") before s s') ∧
    ∃ s', ofProtocol files "abis" = .ok s' ∧ s'.size = 10 := by
  intro files s
  obtain ⟨-, hdirectory, hprotocol⟩ := load_leaves files s
  have hholds : ∀ name, artifactPath "abis" name ≠ "abis/B.json" →
      HoldsAbi files (artifactPath "abis" name) (.array []) :=
    fun name hname => holdsAbi_emptyArtifact (if_neg hname)
  have hnames : ∀ name ∈ "A" :: "Z" :: protocolContracts,
      artifactPath "abis" name ≠ "abis/B.json" := by
    decide +kernel
  have hA := hholds "A" (hnames "A" (by decide))
  refine ⟨?_, ?_, ?_⟩
  · have hloads : ∀ name ∈ ["A", "Z"], Loads files (artifactPath "abis" name) := by
      intro name hname
      exact ⟨_, hholds name (hnames name (List.mem_append_left protocolContracts hname))⟩
    obtain ⟨s', count, h⟩ := (hdirectory "abis" ["A", "Z"]).1.2 hloads
    obtain ⟨rfl, -⟩ := ((hdirectory "abis" ["A", "Z"]).2.1 s' count).1 h
    exact ⟨s', h, (hdirectory "abis" ["A", "Z"]).2.2.1 ["Z", "A"] s' 2 (.swap _ _ _) h⟩
  · have hB : readArtifact files (artifactPath "abis" "B") = .error (.file .notFound) := by rfl
    have hresult : s.loadDirectory files "abis" ["A", "A", "B", "Z"] =
        ((s.insert "A" (.array [])).insert "A" (.array []),
          .error (.abiLoad "B" (.file .notFound))) := by
      rw [loadDirectory_eq]
      simp only [loadAll, loadFile_of_holdsAbi hA, loadFile_of_error hB, Except.map]
    obtain ⟨before, name, after, hsplit, -, -, hfilled⟩ :=
      (hdirectory "abis" ["A", "A", "B", "Z"]).2.2.2 _ _ hresult
    exact ⟨_, before, name, after, hresult, hsplit, hfilled⟩
  · have hloads : ∀ name ∈ protocolContracts, Loads files (artifactPath "abis" name) := by
      intro name hname
      exact ⟨_, hholds name (hnames name (List.mem_cons_of_mem _ (List.mem_cons_of_mem _ hname)))⟩
    obtain ⟨s', h⟩ := (hprotocol "abis").1.2 hloads
    exact ⟨s', h, ((hprotocol "abis").2 s' h).2.2⟩

end AbiStore

end SubnetRouter
