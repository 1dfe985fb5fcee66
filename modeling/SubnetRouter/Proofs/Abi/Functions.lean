import SubnetRouter.Abi.Basic

/-!
# Functions of an ABI

An entry with the name of a method describes it as a function unless its type is a string other
than `function`: an entry without a type counts.

* `declares_iff`: the functions of an ABI are those that an entry of the array describes.
* `describesFunction_iff`: such an entry by its members.
* `hasFunction_append_iff`, `hasFunction_congr`: arrays put together, and arrays that differ only in
  entries that describe no function.
-/

namespace SubnetRouter.Abi

/-- The entry has the name, and no type that makes it anything but a function. -/
structure DescribesFunction (method : String) (entry : Json) : Prop where
  name_eq : entry.member? "name" = some (.string method)
  type_eq : ∀ kind, entry.member? "type" = some (.string kind) → kind = "function"

/-- The ABI is an array with an entry for the function. -/
def HasFunction (abi : Abi) (method : String) : Prop :=
  ∃ entries, abi = .array entries ∧ ∃ entry ∈ entries, DescribesFunction method entry

theorem string?_eq_some_iff (value : Json) (text : String) :
    value.string? = some text ↔ value = .string text := by
  cases value with
  | string s => simp [Json.string?]
  | null | bool b | number n | array items | object members => simp [Json.string?]

theorem bind_string?_eq_some_iff (member : Option Json) (text : String) :
    member.bind Json.string? = some text ↔ member = some (.string text) := by
  rw [Option.bind_eq_some_iff]
  simp only [string?_eq_some_iff, exists_eq_right]

theorem entryKind_eq_function_iff (entry : Json) :
    entryKind entry = "function" ↔
      ∀ kind, entry.member? "type" = some (.string kind) → kind = "function" := by
  simp only [← bind_string?_eq_some_iff]
  unfold entryKind
  cases (entry.member? "type").bind Json.string? with
  | none => simp
  | some kind => simp

theorem describes_iff (method : String) (entry : Json) :
    describes method entry = true ↔ DescribesFunction method entry := by
  unfold describes entryName?
  rw [Bool.and_eq_true, beq_iff_eq, beq_iff_eq, entryKind_eq_function_iff,
    bind_string?_eq_some_iff]
  constructor
  · intro h
    exact ⟨h.2, h.1⟩
  · intro h
    exact ⟨h.type_eq, h.name_eq⟩

theorem declares_iff (abi : Abi) (method : String) :
    abi.declares method = true ↔ HasFunction abi method := by
  unfold HasFunction
  cases abi with
  | array entries =>
      change entries.any (describes method) = true ↔ _
      rw [List.any_eq_true]
      simp only [describes_iff, Json.array.injEq, exists_eq_left']
  | null | bool b | number n | string s | object members => simp [declares]

/-! ## Entries -/

/-- The members of an object that counts as a function: there is no type, or it is no string, or it is
`function`. -/
inductive HasFunctionType (members : List (String × Json)) : Prop where
  | missing (htype : members.lookup "type" = none)
  | notString {value : Json} (htype : members.lookup "type" = some value)
    (hvalue : ∀ kind, value ≠ .string kind)
  | function (htype : members.lookup "type" = some (.string "function"))

/-- An entry that describes no function of any name: no object, or one of another type. -/
def IsInert (entry : Json) : Prop :=
  (∀ members, entry ≠ .object members) ∨
    ∃ kind, entry.member? "type" = some (.string kind) ∧ kind ≠ "function"

theorem hasFunctionType_iff (members : List (String × Json)) :
    HasFunctionType members ↔
      ∀ kind, members.lookup "type" = some (.string kind) → kind = "function" := by
  constructor
  · intro h kind hkind
    cases h with
    | missing htype =>
        rw [htype] at hkind
        cases hkind
    | notString htype hvalue =>
        rw [htype, Option.some.injEq] at hkind
        exact absurd hkind (hvalue kind)
    | function htype =>
        rw [htype, Option.some.injEq, Json.string.injEq] at hkind
        exact hkind.symm
  · intro h
    cases htype : members.lookup "type" with
    | none => exact .missing htype
    | some value =>
        by_cases hstring : ∃ kind, value = .string kind
        · obtain ⟨kind, rfl⟩ := hstring
          rw [h kind htype] at htype
          exact .function htype
        · exact .notString htype (not_exists.1 hstring)

theorem describesFunction_iff (method : String) (entry : Json) :
    DescribesFunction method entry ↔ ∃ members, entry = .object members ∧
      members.lookup "name" = some (.string method) ∧ HasFunctionType members := by
  constructor
  · intro h
    obtain ⟨hname, htype⟩ := h
    cases entry with
    | object members => exact ⟨members, rfl, hname, (hasFunctionType_iff members).2 htype⟩
    | null | bool b | number n | string s | array items => cases hname
  · intro h
    obtain ⟨members, rfl, hname, htype⟩ := h
    exact ⟨hname, (hasFunctionType_iff members).1 htype⟩

theorem hasFunction_iff (abi : Abi) (method : String) :
    HasFunction abi method ↔ ∃ entries members, abi = .array entries ∧ .object members ∈ entries ∧
      members.lookup "name" = some (.string method) ∧ HasFunctionType members := by
  unfold HasFunction
  simp only [describesFunction_iff]
  constructor
  · intro h
    obtain ⟨entries, habi, entry, hentry, members, rfl, hmembers⟩ := h
    exact ⟨entries, members, habi, hentry, hmembers⟩
  · intro h
    obtain ⟨entries, members, habi, hentry, hmembers⟩ := h
    exact ⟨entries, habi, .object members, hentry, members, rfl, hmembers⟩

theorem IsInert.not_describesFunction {entry : Json} (h : IsInert entry) (method : String) :
    ¬ DescribesFunction method entry := by
  intro hdescribes
  rcases h with hobject | ⟨kind, hkind, hne⟩
  · obtain ⟨members, hmembers, -⟩ := (describesFunction_iff method entry).1 hdescribes
    exact hobject members hmembers
  · exact hne (hdescribes.type_eq kind hkind)

/-! ## Arrays -/

variable {entries entries' : List Json}

theorem hasFunction_array_iff (entries : List Json) (method : String) :
    HasFunction (.array entries) method ↔ ∃ entry ∈ entries, DescribesFunction method entry := by
  unfold HasFunction
  simp only [Json.array.injEq, exists_eq_left']

theorem hasFunction_append_iff (entries entries' : List Json) (method : String) :
    HasFunction (.array (entries ++ entries')) method ↔
      HasFunction (.array entries) method ∨ HasFunction (.array entries') method := by
  simp only [hasFunction_array_iff, List.mem_append, or_and_right, exists_or]

theorem hasFunction_of_subset (h : ∀ entry ∈ entries, entry ∈ entries' ∨ IsInert entry)
    {method : String} (hmethod : HasFunction (.array entries) method) :
    HasFunction (.array entries') method := by
  rw [hasFunction_array_iff] at hmethod ⊢
  obtain ⟨entry, hentry, hdescribes⟩ := hmethod
  have hmem := (h entry hentry).resolve_right fun hinert =>
    hinert.not_describesFunction method hdescribes
  exact ⟨entry, hmem, hdescribes⟩

/-- Order, repetition and entries that describe no function make no difference. -/
theorem hasFunction_congr (h : ∀ entry ∈ entries, entry ∈ entries' ∨ IsInert entry)
    (h' : ∀ entry ∈ entries', entry ∈ entries ∨ IsInert entry) (method : String) :
    HasFunction (.array entries) method ↔ HasFunction (.array entries') method :=
  ⟨hasFunction_of_subset h, hasFunction_of_subset h'⟩

end SubnetRouter.Abi
