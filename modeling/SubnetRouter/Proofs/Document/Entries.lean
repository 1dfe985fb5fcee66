import SubnetRouter.Proofs.Outcome
import SubnetRouter.Proofs.Toml.Order
import SubnetRouter.Registry
import Mathlib.Data.List.Forall2

/-!
# Entries of a registry document

What the entries that are read have to do with the values that stand in a document: there is one
for each value in its table `subnets`, with the id that the text in that value is read as.

* `readId_eq_ok_iff`, `idText?_of_readEntry`: the text that an entry has its id from.
* `readNamedEntries_eq_ok_iff`: the entries one by one.
* `mem_entries_iff`, `exists_listed`, `lists_iff`: the values that the entries of a TOML document stand
  for.
-/

namespace SubnetRouter.Document

open SubnetRouter.Toml (Ascending Ordered OrderedEntries)

variable {α : Type} [Document α] {idna : Url.Idna}

def textOf? (value : α) : Option String :=
  match shape value with
  | .string text => some text
  | _ => none

/-- The text that an entry gives for its id: the member `id` of a record, or the first item of a
list. -/
def idText? (value : α) : Option String :=
  match shape value with
  | .record members => (members.lookup "id").bind textOf?
  | .sequence items => items.head?.bind textOf?
  | _ => none

theorem readId_eq_ok {value : α} {id : SubnetId} (h : readId value = .ok id) :
    ∃ text, textOf? value = some text ∧ SubnetId.read text = .ok id := by
  unfold readId readText at h
  obtain ⟨text, htext, hread⟩ := (bind_eq_ok_iff _ _ _).1 h
  refine ⟨text, ?_, (mapError_eq_ok_iff _ _ _).1 hread⟩
  unfold textOf?
  cases hshape : shape value with
  | string found =>
      rw [hshape] at htext
      cases htext
      rfl
  | _ =>
      rw [hshape] at htext
      cases htext

/-! ## Members of a record -/

theorem lookup_eq_none_of_lt {β : Type} {key : String} {members : List (String × β)}
    (h : ∀ member ∈ members, key < member.1) : members.lookup key = none := by
  rw [List.lookup_eq_none_iff]
  intro member hmem
  rw [bne_iff_ne]
  intro heq
  have hlt := h member hmem
  rw [heq] at hlt
  exact String.lt_irrefl _ hlt

theorem lookup_cons_of_ne {β : Type} {key name : String} (h : name ≠ key) (value : β)
    (members : List (String × β)) : ((name, value) :: members).lookup key = members.lookup key := by
  rw [List.lookup_cons, beq_eq_false_iff_ne.2 (Ne.symm h)]

theorem id_of_read {m n : EntryMembers} {name : String} {value : α}
    (h : EntryMembers.read idna m (name, value) = .ok n) :
    (name ≠ "id" ∧ n.id = m.id) ∨
      ∃ id, name = "id" ∧ readId value = .ok id ∧ n.id = some id := by
  unfold EntryMembers.read at h
  split at h
  · rename_i v heq
    cases heq
    obtain ⟨id, hid, rfl⟩ := (map_eq_ok_iff _ _ _).1 h
    exact Or.inr ⟨id, rfl, hid, rfl⟩
  · rename_i v heq
    cases heq
    obtain ⟨kind, -, rfl⟩ := (map_eq_ok_iff _ _ _).1 h
    exact Or.inl ⟨by decide, rfl⟩
  · rename_i v heq
    cases heq
    obtain ⟨e, -, rfl⟩ := (map_eq_ok_iff _ _ _).1 h
    exact Or.inl ⟨by decide, rfl⟩
  · rename_i name' v hid _ _ heq
    cases heq
    unfold ignore at h
    split at h
    · cases h
      exact Or.inl ⟨hid, rfl⟩
    · cases h

theorem id_of_foldlM {members : List (String × α)} {m n : EntryMembers}
    (hascending : Ascending members) (h : members.foldlM (EntryMembers.read idna) m = .ok n) :
    (members.lookup "id" = none ∧ n.id = m.id) ∨
      ∃ value id, members.lookup "id" = some value ∧ readId value = .ok id ∧ n.id = some id := by
  induction members generalizing m with
  | nil =>
      cases h
      exact Or.inl ⟨rfl, rfl⟩
  | cons member rest ih =>
      obtain ⟨name, value⟩ := member
      obtain ⟨hlt, hrest⟩ := List.pairwise_cons.1 hascending
      obtain ⟨next, hread, hfold⟩ := (bind_eq_ok_iff _ _ _).1 h
      rcases id_of_read hread with ⟨hname, hsame⟩ | ⟨id, rfl, hid, hnext⟩
      · rw [lookup_cons_of_ne hname, ← hsame]
        exact ih hrest hfold
      · have hnone : rest.lookup "id" = none := lookup_eq_none_of_lt hlt
        rcases ih hrest hfold with ⟨-, hsame⟩ | ⟨value', id', hlookup, -⟩
        · exact Or.inr ⟨value, id, List.lookup_cons_self, hid, hsame.trans hnext⟩
        · rw [hnone] at hlookup
          cases hlookup

/-- The id of an entry is read from the text that the entry gives for it. -/
theorem idText?_of_readEntry {value : α} {entry : Entry}
    (hascending : ∀ members, shape value = .record members → Ascending members)
    (h : readEntry idna value = .ok entry) :
    ∃ text, idText? value = some text ∧ SubnetId.read text = .ok entry.id := by
  unfold readEntry at h
  unfold idText?
  cases hshape : shape value with
  | record members =>
      rw [hshape] at h
      obtain ⟨m, hm, h⟩ := (bind_eq_ok_iff _ _ _).1 h
      have hid : m.id = some entry.id := by
        split at h
        · rename_i hid _ _
          cases h
          exact hid
        all_goals cases h
      rcases id_of_foldlM (hascending members hshape) hm with
        ⟨-, hnone⟩ | ⟨v, id, hlookup, hread, hsome⟩
      · rw [hid] at hnone
        cases hnone
      · rw [hid, Option.some.injEq] at hsome
        obtain ⟨text, htext, hread⟩ := readId_eq_ok hread
        subst hsome
        dsimp only
        rw [hlookup]
        exact ⟨text, htext, hread⟩
  | sequence items =>
      rw [hshape] at h
      obtain ⟨⟨id, rest⟩, hfirst, h⟩ := (bind_eq_ok_iff _ _ _).1 h
      obtain ⟨⟨kind, rest'⟩, -, h⟩ := (bind_eq_ok_iff _ _ _).1 h
      obtain ⟨⟨endpoint, rest''⟩, -, h⟩ := (bind_eq_ok_iff _ _ _).1 h
      have hid : entry.id = id := by
        dsimp only [finishItems] at h
        split at h
        · cases h
        · cases h
          rfl
      cases items with
      | nil => cases hfirst
      | cons item items =>
          obtain ⟨id', hread, heq⟩ := (map_eq_ok_iff _ _ _).1 hfirst
          cases heq
          obtain ⟨text, htext, hread⟩ := readId_eq_ok hread
          rw [hid]
          exact ⟨text, htext, hread⟩
  | _ =>
      rw [hshape] at h
      cases h

/-! ## Tables -/

/-- The entry is what is read of the member, under its name. -/
def ReadsAs (idna : Url.Idna) (member : String × α) (entry : String × Entry) : Prop :=
  member.1 = entry.1 ∧ readEntry idna member.2 = .ok entry.2

theorem readNamedEntries_eq_ok_iff (members : List (String × α)) (entries : List (String × Entry)) :
    readNamedEntries idna members = .ok entries ↔ List.Forall₂ (ReadsAs idna) members entries := by
  induction members generalizing entries with
  | nil =>
      rw [readNamedEntries, List.forall₂_nil_left_iff, Except.ok.injEq, eq_comm]
  | cons member rest ih =>
      obtain ⟨name, value⟩ := member
      rw [readNamedEntries, List.forall₂_cons_left_iff]
      simp only [bind_eq_ok_iff, pure_eq_ok_iff, ih]
      constructor
      · rintro ⟨entry, hentry, others, hothers, rfl⟩
        exact ⟨(name, entry), others, ⟨rfl, hentry⟩, hothers, rfl⟩
      · rintro ⟨⟨name', entry⟩, others, ⟨rfl, hentry⟩, hothers, rfl⟩
        exact ⟨entry, hentry, others, hothers, rfl⟩

theorem exists_readNamedEntries_iff (members : List (String × α)) :
    (∃ entries, readNamedEntries idna members = .ok entries) ↔
      ∀ member ∈ members, ∃ entry, readEntry idna member.2 = .ok entry := by
  simp only [readNamedEntries_eq_ok_iff]
  induction members with
  | nil => simp
  | cons member rest ih =>
      rw [List.forall_mem_cons, ← ih]
      constructor
      · intro h
        obtain ⟨entries, h⟩ := h
        obtain ⟨first, others, hfirst, hothers, -⟩ := List.forall₂_cons_left_iff.1 h
        exact ⟨⟨first.2, hfirst.2⟩, others, hothers⟩
      · intro h
        obtain ⟨⟨entry, hentry⟩, others, hothers⟩ := h
        exact ⟨(member.1, entry) :: others, .cons ⟨rfl, hentry⟩ hothers⟩

/-- Reads a member of a document after the entries that are there. -/
def readMember (idna : Url.Idna) (entries : List (String × Entry)) (member : String × α) :
    Except DocumentFault (List (String × Entry)) :=
  match member with
  | ("subnets", value) => readEntryTable idna value
  | (_, value) => ignore value entries

theorem readEntries_eq_foldlM (members : List (String × α)) :
    readEntries idna members = members.foldlM (readMember idna) [] := rfl

theorem readMember_of_ne {name : String} (h : name ≠ "subnets") (entries : List (String × Entry))
    (value : α) : readMember idna entries (name, value) = ignore value entries := by
  unfold readMember
  split
  · rename_i heq
    cases heq
    exact absurd rfl h
  · rename_i heq
    cases heq
    rfl

theorem ignore_eq_ok_iff {β : Type} (value : α) (result out : β) :
    ignore value result = .ok out ↔ canIgnore value = true ∧ result = out := by
  unfold ignore
  by_cases h : canIgnore value = true
  · rw [if_pos h, Except.ok.injEq]
    simp [h]
  · rw [if_neg h]
    simp [h]

theorem foldlM_readMember_eq_ok_iff {members : List (String × α)}
    {start entries : List (String × Entry)} (hascending : Ascending members) :
    members.foldlM (readMember idna) start = .ok entries ↔
      (∀ member ∈ members, member.1 ≠ "subnets" → canIgnore member.2 = true) ∧
      ((members.lookup "subnets" = none ∧ entries = start) ∨
        ∃ table, members.lookup "subnets" = some table ∧ readEntryTable idna table = .ok entries) := by
  induction members generalizing start with
  | nil =>
      rw [List.foldlM_nil, pure_eq_ok_iff, eq_comm]
      simp
  | cons member rest ih =>
      obtain ⟨name, value⟩ := member
      obtain ⟨hlt, hrest⟩ := List.pairwise_cons.1 hascending
      rw [List.foldlM_cons, bind_eq_ok_iff, List.forall_mem_cons]
      simp only [ih hrest]
      by_cases hname : name = "subnets"
      · subst hname
        have hread : readMember idna start ("subnets", value) = readEntryTable idna value := rfl
        have hnone : rest.lookup "subnets" = none := lookup_eq_none_of_lt hlt
        rw [hread, hnone, List.lookup_cons_self]
        constructor
        · intro h
          obtain ⟨next, hnext, hignore, heq⟩ := h
          have hsame : entries = next := by simpa using heq
          exact ⟨⟨fun hne => absurd rfl hne, hignore⟩, Or.inr ⟨value, rfl, hsame ▸ hnext⟩⟩
        · intro h
          obtain ⟨⟨-, hignore⟩, heq⟩ := h
          have htable : readEntryTable idna value = .ok entries := by simpa using heq
          exact ⟨entries, htable, hignore, Or.inl ⟨rfl, rfl⟩⟩
      · simp only [readMember_of_ne hname, ignore_eq_ok_iff]
        rw [lookup_cons_of_ne hname]
        constructor
        · intro h
          obtain ⟨next, ⟨hvalue, rfl⟩, hignore, htable⟩ := h
          exact ⟨⟨fun _ => hvalue, hignore⟩, htable⟩
        · intro h
          obtain ⟨⟨hvalue, hignore⟩, htable⟩ := h
          exact ⟨start, ⟨hvalue hname, rfl⟩, hignore, htable⟩

/-- A document has entries when everything beside its table `subnets` can be passed over and the
table, if there is one, can be read. -/
theorem readEntries_eq_ok_iff {members : List (String × α)} {entries : List (String × Entry)}
    (hascending : Ascending members) :
    readEntries idna members = .ok entries ↔
      (∀ member ∈ members, member.1 ≠ "subnets" → canIgnore member.2 = true) ∧
      ((members.lookup "subnets" = none ∧ entries = []) ∨
        ∃ table, members.lookup "subnets" = some table ∧ readEntryTable idna table = .ok entries) := by
  rw [readEntries_eq_foldlM, foldlM_readMember_eq_ok_iff hascending]

theorem readEntryTable_of_shape {table : α} {members : List (String × α)}
    (h : shape table = .record members) :
    readEntryTable idna table = readNamedEntries idna members := by
  unfold readEntryTable
  rw [h]

theorem readEntryTable_eq_ok {table : α} {entries : List (String × Entry)}
    (h : readEntryTable idna table = .ok entries) :
    ∃ members, shape table = .record members ∧ List.Forall₂ (ReadsAs idna) members entries := by
  unfold readEntryTable at h
  split at h
  · rename_i members hshape
    exact ⟨members, hshape, (readNamedEntries_eq_ok_iff members entries).1 h⟩
  · cases h

theorem names_eq {members : List (String × α)} {entries : List (String × Entry)}
    (h : List.Forall₂ (ReadsAs idna) members entries) :
    entries.map Prod.fst = members.map Prod.fst := by
  induction h with
  | nil => rfl
  | cons hhead _ ih => rw [List.map_cons, List.map_cons, ih, hhead.1]

theorem ascending_of_names_eq {β γ : Type} {members : List (String × β)}
    {entries : List (String × γ)} (h : entries.map Prod.fst = members.map Prod.fst)
    (hascending : Ascending members) : Ascending entries := by
  have hnames : (members.map Prod.fst).Pairwise (· < ·) := List.pairwise_map.2 hascending
  rw [← h] at hnames
  exact List.pairwise_map.1 hnames

theorem mem_entries_iff {members : List (String × α)} {entries : List (String × Entry)}
    (h : List.Forall₂ (ReadsAs idna) members entries) (name : String) (entry : Entry) :
    (name, entry) ∈ entries ↔ ∃ value, (name, value) ∈ members ∧ readEntry idna value = .ok entry := by
  induction h with
  | nil => simp
  | cons hhead hrest ih =>
      rename_i member first members entries
      obtain ⟨name', value'⟩ := member
      obtain ⟨name'', first⟩ := first
      obtain ⟨rfl, hfirst⟩ := hhead
      simp only [List.mem_cons, ih, Prod.mk.injEq]
      constructor
      · rintro (⟨rfl, rfl⟩ | ⟨value, hmem, hread⟩)
        · exact ⟨value', Or.inl ⟨rfl, rfl⟩, hfirst⟩
        · exact ⟨value, Or.inr hmem, hread⟩
      · rintro ⟨value, ⟨rfl, rfl⟩ | hmem, hread⟩
        · rw [hfirst, Except.ok.injEq] at hread
          exact Or.inl ⟨rfl, hread.symm⟩
        · exact Or.inr ⟨value, hmem, hread⟩

/-! ## TOML documents -/

theorem ordered_of_shape_record {value : Toml} {members : List (String × Toml)}
    (h : Ordered value) (hshape : shape value = .record members) : OrderedEntries members := by
  cases value with
  | table origin entries =>
      cases hshape
      exact (Toml.ordered_table_iff origin members).1 h
  | datetime text =>
      cases hshape
      exact ⟨List.pairwise_singleton _ _, by simpa using .string text⟩
  | string value | integer value | float value | malformed text | boolean value | array items
  | tables items => cases hshape

/-- The value stands in the table `subnets` of the document, under the name. -/
def Lists (document name : String) (value : Toml) : Prop :=
  ∃ members table entries, Toml.read? document = some members ∧
    members.lookup "subnets" = some table ∧ shape table = .record entries ∧
    (name, value) ∈ entries

theorem readToml_eq_ok_iff {document : String} {members : List (String × Toml)}
    (h : Toml.read? document = some members) (entries : List (String × Entry)) :
    Registry.readToml idna document = .ok entries ↔ readEntries idna members = .ok entries := by
  unfold Registry.readToml
  rw [h]
  dsimp only
  cases readEntries idna members with
  | ok found => simp
  | error fault =>
      dsimp only
      split <;> simp

theorem readEntries_of_readToml {document : String} {entries : List (String × Entry)}
    (h : Registry.readToml idna document = .ok entries) :
    ∃ members, Toml.read? document = some members ∧ readEntries idna members = .ok entries := by
  cases hmembers : Toml.read? document with
  | none =>
      unfold Registry.readToml at h
      rw [hmembers] at h
      cases h
  | some members => exact ⟨members, rfl, (readToml_eq_ok_iff hmembers entries).1 h⟩

theorem lists_iff {document : String} {members : List (String × Toml)}
    (h : Toml.read? document = some members) (name : String) (value : Toml) :
    Lists document name value ↔ ∃ table entries, members.lookup "subnets" = some table ∧
      shape table = .record entries ∧ (name, value) ∈ entries := by
  unfold Lists
  rw [h]
  simp only [Option.some.injEq, exists_and_left, exists_eq_left']

theorem exists_listed {document : String} {entries : List (String × Entry)}
    (h : Registry.readToml idna document = .ok entries) :
    ∃ listed : List (String × Toml), OrderedEntries listed ∧
      (∀ name value, Lists document name value ↔ (name, value) ∈ listed) ∧
      List.Forall₂ (ReadsAs idna) listed entries := by
  obtain ⟨members, hmembers, hentries⟩ := readEntries_of_readToml h
  have hordered := Toml.ordered_read? hmembers
  rcases ((readEntries_eq_ok_iff hordered.ascending).1 hentries).2 with
    ⟨hnone, rfl⟩ | ⟨table, hlookup, htable⟩
  · refine ⟨[], .nil, fun name value => ?_, .nil⟩
    rw [lists_iff hmembers, hnone]
    simp
  · obtain ⟨listed, hshape, hall⟩ := readEntryTable_eq_ok htable
    have htableOrdered := Toml.ordered_of_lookup hordered hlookup
    refine ⟨listed, ordered_of_shape_record htableOrdered hshape, fun name value => ?_, hall⟩
    rw [lists_iff hmembers, hlookup]
    simp only [Option.some.injEq, exists_and_left, exists_eq_left', hshape, Shape.record.injEq]

/-- No name stands twice. -/
theorem value_eq_of_ascending {β : Type} {members : List (String × β)} (h : Ascending members)
    {name : String} {value value' : β} (hmem : (name, value) ∈ members)
    (hmem' : (name, value') ∈ members) : value = value' := by
  induction members with
  | nil => cases hmem
  | cons member rest ih =>
      obtain ⟨hlt, hrest⟩ := List.pairwise_cons.1 h
      rcases List.mem_cons.1 hmem with heq | hlater
      · subst heq
        rcases List.mem_cons.1 hmem' with heq' | hlater'
        · cases heq'
          rfl
        · exact absurd (hlt _ hlater') (String.lt_irrefl _)
      · rcases List.mem_cons.1 hmem' with heq' | hlater'
        · subst heq'
          exact absurd (hlt _ hlater) (String.lt_irrefl _)
        · exact ih hrest hlater hlater'

theorem lookup_eq_some_of_mem {β : Type} {members : List (String × β)} (h : Ascending members)
    {name : String} {value : β} (hmem : (name, value) ∈ members) :
    members.lookup name = some value := by
  cases hlookup : members.lookup name with
  | none =>
      have hne := List.lookup_eq_none_iff.1 hlookup (name, value) hmem
      simp at hne
  | some found =>
      obtain ⟨front, back, heq, -⟩ := List.lookup_eq_some_iff.1 hlookup
      have hfound : (name, found) ∈ members := by simp [heq]
      rw [value_eq_of_ascending h hmem hfound]

theorem nodup_of_ascending {β : Type} {members : List (String × β)} (h : Ascending members) :
    members.Nodup := by
  apply List.Pairwise.imp _ h
  rintro a b hlt rfl
  exact String.lt_irrefl _ hlt

end SubnetRouter.Document
