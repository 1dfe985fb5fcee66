import SubnetRouter.Toml.Reader

/-!
# The order of TOML tables

Every table of a document, at every depth, has its entries in strictly ascending order of their
keys.  So no key stands twice in it.

* `ordered_insertEntry`, `ordered_changeAt`: a change of one entry, at the end of any path.
* `yields_readValue`: values as they are read.
* `ordered_read?`: documents.
-/

namespace SubnetRouter.Toml

/-- The keys are in strictly ascending order. -/
def Ascending {α : Type} (entries : List (String × α)) : Prop :=
  entries.Pairwise fun a b => a.1 < b.1

/-- All tables in the value are ascending. -/
inductive Ordered : Toml → Prop where
  | string (value : String) : Ordered (.string value)
  | integer (value : Int) : Ordered (.integer value)
  | float (value : Float) : Ordered (.float value)
  | malformed (text : String) : Ordered (.malformed text)
  | boolean (value : Bool) : Ordered (.boolean value)
  | datetime (text : String) : Ordered (.datetime text)
  | array {items : List Toml} : (∀ item ∈ items, Ordered item) → Ordered (.array items)
  | tables {items : List Entries} : (∀ entries ∈ items, Ascending entries) →
    (∀ entries ∈ items, ∀ entry ∈ entries, Ordered entry.2) → Ordered (.tables items)
  | table {origin : Origin} {entries : Entries} : Ascending entries →
    (∀ entry ∈ entries, Ordered entry.2) → Ordered (.table origin entries)

structure OrderedEntries (entries : Entries) : Prop where
  ascending : Ascending entries
  ordered : ∀ entry ∈ entries, Ordered entry.2

theorem ordered_table_iff (origin : Origin) (entries : Entries) :
    Ordered (.table origin entries) ↔ OrderedEntries entries := by
  constructor
  · intro h
    cases h with
    | table hascending hordered => exact ⟨hascending, hordered⟩
  · intro h
    exact .table h.ascending h.ordered

theorem ordered_tables_iff (items : List Entries) :
    Ordered (.tables items) ↔ ∀ entries ∈ items, OrderedEntries entries := by
  constructor
  · intro h entries hmem
    cases h with
    | tables hascending hordered => exact ⟨hascending entries hmem, hordered entries hmem⟩
  · intro h
    exact .tables (fun entries hmem => (h entries hmem).ascending)
      fun entries hmem => (h entries hmem).ordered

theorem ordered_tables_concat {items : List Entries} {last : Entries}
    (h : ∀ entries ∈ items, OrderedEntries entries) (hlast : OrderedEntries last) :
    Ordered (.tables (items ++ [last])) := by
  rw [ordered_tables_iff]
  intro entries hmem
  rcases List.mem_append.1 hmem with hmem | hmem
  · exact h entries hmem
  · rw [List.mem_singleton.1 hmem]
    exact hlast

theorem OrderedEntries.nil : OrderedEntries [] :=
  ⟨.nil, by simp⟩

/-! ## One entry -/

theorem mem_insertEntry {key : String} {value : Toml} {entries : Entries} {entry : String × Toml}
    (h : entry ∈ insertEntry key value entries) : entry = (key, value) ∨ entry ∈ entries := by
  induction entries with
  | nil => exact Or.inl (List.mem_singleton.1 h)
  | cons other rest ih =>
      obtain ⟨name, old⟩ := other
      unfold insertEntry at h
      split at h
      · exact List.mem_cons.1 h
      · split at h
        · rcases List.mem_cons.1 h with rfl | h
          · exact Or.inl rfl
          · exact Or.inr (List.mem_cons_of_mem _ h)
        · rcases List.mem_cons.1 h with rfl | h
          · exact Or.inr List.mem_cons_self
          · rcases ih h with rfl | h
            · exact Or.inl rfl
            · exact Or.inr (List.mem_cons_of_mem _ h)

theorem lt_of_not_lt_of_ne {a b : String} (h : ¬ a < b) (hne : a ≠ b) : b < a := by
  have hle : b ≤ a := String.not_lt.1 h
  exact Std.lt_of_le_of_ne hle hne.symm

theorem ascending_insertEntry (key : String) (value : Toml) {entries : Entries}
    (h : Ascending entries) : Ascending (insertEntry key value entries) := by
  induction entries with
  | nil => exact List.pairwise_singleton _ _
  | cons other rest ih =>
      obtain ⟨name, old⟩ := other
      obtain ⟨hfirst, hrest⟩ := List.pairwise_cons.1 h
      unfold insertEntry
      split
      · rename_i hlt
        refine List.pairwise_cons.2 ⟨?_, h⟩
        intro entry hmem
        rcases List.mem_cons.1 hmem with rfl | hmem
        · exact hlt
        · exact String.lt_trans hlt (hfirst entry hmem)
      · rename_i hge
        split
        · rename_i heq
          subst heq
          exact List.pairwise_cons.2 ⟨hfirst, hrest⟩
        · rename_i hne
          refine List.pairwise_cons.2 ⟨?_, ih hrest⟩
          intro entry hmem
          rcases mem_insertEntry hmem with rfl | hmem
          · exact lt_of_not_lt_of_ne hge hne
          · exact hfirst entry hmem

theorem ordered_insertEntry {key : String} {value : Toml} {entries : Entries}
    (hvalue : Ordered value) (h : OrderedEntries entries) :
    OrderedEntries (insertEntry key value entries) := by
  refine ⟨ascending_insertEntry key value h.ascending, fun entry hmem => ?_⟩
  rcases mem_insertEntry hmem with rfl | hmem
  · exact hvalue
  · exact h.ordered entry hmem

theorem ordered_of_lookup {key : String} {value : Toml} {entries : Entries}
    (h : OrderedEntries entries) (hlookup : entries.lookup key = some value) : Ordered value := by
  obtain ⟨front, back, heq, -⟩ := List.lookup_eq_some_iff.1 hlookup
  exact h.ordered (key, value) (by simp [heq])

/-! ## Paths -/

theorem ordered_changeAt {dotted : Bool} {change : Origin → Entries → Option Entries}
    (hchange : ∀ origin entries entries', OrderedEntries entries →
      change origin entries = some entries' → OrderedEntries entries')
    {origin : Origin} {path : List String} {entries entries' : Entries}
    (h : OrderedEntries entries) (heq : changeAt dotted change origin path entries = some entries') :
    OrderedEntries entries' := by
  induction path generalizing origin entries entries' with
  | nil => exact hchange origin entries entries' h heq
  | cons key path ih =>
      unfold changeAt at heq
      split at heq
      · obtain ⟨inner, hinner, rfl⟩ := Option.map_eq_some_iff.1 heq
        have hordered := ih .nil hinner
        exact ordered_insertEntry ((ordered_table_iff _ inner).2 hordered) h
      · rename_i origin inner hlookup
        have hold := (ordered_table_iff origin inner).1 (ordered_of_lookup h hlookup)
        split at heq
        · cases heq
        · obtain ⟨inner', hinner, rfl⟩ := Option.map_eq_some_iff.1 heq
          exact ordered_insertEntry ((ordered_table_iff origin inner').2 (ih hold hinner)) h
      · rename_i items hlookup
        have hold := (ordered_tables_iff items).1 (ordered_of_lookup h hlookup)
        split at heq
        · cases heq
        · rename_i last hlast
          obtain ⟨inner', hinner, rfl⟩ := Option.map_eq_some_iff.1 heq
          have hlastOrdered := ih (hold last (List.mem_of_getLast? hlast)) hinner
          have hfront : ∀ entries ∈ items.dropLast, OrderedEntries entries :=
            fun entries hmem => hold entries (List.dropLast_subset items hmem)
          exact ordered_insertEntry (ordered_tables_concat hfront hlastOrdered) h
      · cases heq

theorem ordered_assign {path : List String} {key : String} {value : Toml} {origin : Origin}
    {entries entries' : Entries} (hvalue : Ordered value) (h : OrderedEntries entries)
    (heq : assign path key value origin entries = some entries') : OrderedEntries entries' := by
  apply ordered_changeAt _ h heq
  intro origin inner inner' hinner hchange
  split at hchange
  · cases hchange
  · split at hchange
    · cases hchange
    · cases hchange
      exact ordered_insertEntry hvalue hinner

theorem ordered_assignAll {origin : Origin} {assignments : List Assignment}
    {entries entries' : Entries} (hvalues : ∀ a ∈ assignments, Ordered a.value)
    (h : OrderedEntries entries) (heq : assignAll origin assignments entries = some entries') :
    OrderedEntries entries' := by
  unfold assignAll at heq
  induction assignments generalizing entries with
  | nil =>
      cases heq
      exact h
  | cons a rest ih =>
      rw [List.forall_mem_cons] at hvalues
      obtain ⟨next, hnext, hrest⟩ := Option.bind_eq_some_iff.1 heq
      exact ih hvalues.2 (ordered_assign hvalues.1 h hnext) hrest

theorem ordered_addSection {s : Section} {document document' : Entries}
    (hvalues : ∀ a ∈ s.assignments, Ordered a.value) (h : OrderedEntries document)
    (heq : addSection s document = some document') : OrderedEntries document' := by
  apply ordered_changeAt _ h heq
  intro _ entries entries' hentries hchange
  split at hchange
  · split at hchange
    · obtain ⟨inner, hinner, rfl⟩ := Option.map_eq_some_iff.1 hchange
      have hordered := ordered_assignAll hvalues .nil hinner
      have htables : Ordered (.tables ([] ++ [inner])) := ordered_tables_concat nofun hordered
      exact ordered_insertEntry htables hentries
    · rename_i items hlookup
      have hold := (ordered_tables_iff items).1 (ordered_of_lookup hentries hlookup)
      obtain ⟨inner, hinner, rfl⟩ := Option.map_eq_some_iff.1 hchange
      have hordered := ordered_assignAll hvalues .nil hinner
      exact ordered_insertEntry (ordered_tables_concat hold hordered) hentries
    · cases hchange
  · split at hchange
    · obtain ⟨inner, hinner, rfl⟩ := Option.map_eq_some_iff.1 hchange
      have hordered := ordered_assignAll hvalues .nil hinner
      exact ordered_insertEntry ((ordered_table_iff _ inner).2 hordered) hentries
    · -- A table that is there because of a longer header is filled now.
      rename_i inner hlookup
      have hold := (ordered_table_iff _ inner).1 (ordered_of_lookup hentries hlookup)
      obtain ⟨inner', hinner, rfl⟩ := Option.map_eq_some_iff.1 hchange
      have hordered := ordered_assignAll hvalues hold hinner
      exact ordered_insertEntry ((ordered_table_iff _ inner').2 hordered) hentries
    · cases hchange

theorem ordered_build {assignments : List Assignment} {sections : List Section}
    {document : Entries} (hvalues : ∀ a ∈ assignments, Ordered a.value)
    (hsections : ∀ s ∈ sections, ∀ a ∈ s.assignments, Ordered a.value)
    (heq : build assignments sections = some document) : OrderedEntries document := by
  obtain ⟨start, hstart, hall⟩ := Option.bind_eq_some_iff.1 heq
  have hordered := ordered_assignAll hvalues .nil hstart
  clear hstart heq
  -- The sections change the document one after the other; it is ordered before each of them.
  induction sections generalizing start with
  | nil =>
      cases hall
      exact hordered
  | cons s rest ih =>
      rw [List.forall_mem_cons] at hsections
      obtain ⟨next, hnext, hrest⟩ := Option.bind_eq_some_iff.1 hall
      exact ih hsections.2 next hrest (ordered_addSection hsections.1 hordered hnext)

/-! ## Values as they are read -/

/-- What the reader takes off a text has the property. -/
def Yields {α : Type} (P : α → Prop) (reader : Reader α) : Prop :=
  ∀ text a rest, reader text = some (a, rest) → P a

theorem ordered_of_readInteger? {word : List Char} {value : Toml}
    (h : readInteger? word = some value) : Ordered value := by
  have hbase : ∀ base digits, readInBase? word base digits = some value → Ordered value := by
    intro base digits h
    unfold readInBase? at h
    dsimp only at h
    split at h
    · cases h
      exact .malformed _
    · split at h
      · cases h
        exact .integer _
      · cases h
  unfold readInteger? at h
  split at h
  · exact hbase _ _ h
  · exact hbase _ _ h
  · exact hbase _ _ h
  · unfold readDecimal? at h
    dsimp only at h
    split at h
    · cases h
    · split at h
      · cases h
        exact .integer _
      · cases h
        exact .malformed _

theorem ordered_of_readFloat? {word : List Char} {value : Toml}
    (h : readFloat? word = some value) : Ordered value := by
  unfold readFloat? at h
  dsimp only at h
  split at h
  · cases h
    exact .float _
  · cases h
    exact .float _
  · split at h
    · cases h
    · obtain ⟨decimal, -, rfl⟩ := Option.map_eq_some_iff.1 h
      split
      · exact .float _
      · exact .malformed _

theorem yields_readWord : Yields Ordered readWord := by
  intro text value rest h
  obtain ⟨value', hword, heq⟩ := Option.map_eq_some_iff.1 h
  cases heq
  unfold ofWord? at hword
  split at hword
  · cases hword
    exact .boolean _
  · cases hword
    exact .boolean _
  · simp only [Option.orElse_eq_orElse, ← Option.or_eq_orElse, Option.or_eq_some_iff] at hword
    rcases hword with hinteger | ⟨-, hfloat | ⟨-, hdate⟩⟩
    · exact ordered_of_readInteger? hinteger
    · exact ordered_of_readFloat? hfloat
    · obtain ⟨date, -, rfl⟩ := Option.map_eq_some_iff.1 hdate
      exact .datetime _

theorem yields_readList {α : Type} {P : α → Prop} {element : Reader α} (h : Yields P element)
    (close : Char) (fuel : Nat) : Yields (fun items => ∀ a ∈ items, P a) (readList element close fuel) := by
  induction fuel with
  | zero =>
      intro text items rest heq
      cases heq
  | succ fuel ih =>
      intro text items rest heq
      unfold readList at heq
      split at heq
      · cases heq
      · cases heq
      · split at heq
        · cases heq
          simp
        · obtain ⟨⟨first, after⟩, hfirst, heq⟩ := Option.bind_eq_some_iff.1 heq
          have hP := h _ _ _ hfirst
          dsimp only at heq
          split at heq
          · split at heq
            · obtain ⟨⟨others, end_⟩, hothers, hitems⟩ := Option.map_eq_some_iff.1 heq
              cases hitems
              exact List.forall_mem_cons.2 ⟨hP, ih _ _ _ hothers⟩
            · split at heq
              · cases heq
                exact List.forall_mem_cons.2 ⟨hP, by simp⟩
              · cases heq
          · cases heq

theorem yields_readAssignment {value : Reader Toml} (h : Yields Ordered value)
    (skip : List Char → Option (List Char)) :
    Yields (fun a => Ordered a.value) (readAssignment skip value) := by
  intro text a rest heq
  unfold readAssignment at heq
  obtain ⟨⟨⟨path, key⟩, after⟩, -, heq⟩ := Option.bind_eq_some_iff.1 heq
  obtain ⟨mark, -, heq⟩ := Option.bind_eq_some_iff.1 heq
  split at heq
  · obtain ⟨front, -, heq⟩ := Option.bind_eq_some_iff.1 heq
    obtain ⟨⟨v, end_⟩, hv, heq⟩ := Option.bind_eq_some_iff.1 heq
    cases heq
    exact h _ _ _ hv
  · cases heq

theorem yields_readShape {nested : Option (Reader Toml)}
    (h : ∀ value, nested = some value → Yields Ordered value) :
    Yields Ordered (readShape nested) := by
  intro text value rest heq
  unfold readShape at heq
  split at heq
  · obtain ⟨reader, hreader, heq⟩ := Option.bind_eq_some_iff.1 heq
    obtain ⟨⟨items, after⟩, hitems, heq⟩ := Option.map_eq_some_iff.1 heq
    cases heq
    exact .array (yields_readList (h reader hreader) _ _ _ _ _ hitems)
  · obtain ⟨reader, hreader, heq⟩ := Option.bind_eq_some_iff.1 heq
    obtain ⟨⟨assignments, after⟩, hassignments, heq⟩ := Option.bind_eq_some_iff.1 heq
    obtain ⟨entries, hentries, heq⟩ := Option.bind_eq_some_iff.1 heq
    cases heq
    have hvalues := yields_readList (yields_readAssignment (h reader hreader) skipAll?) _ _ _ _ _
      hassignments
    exact (ordered_table_iff _ entries).2 (ordered_assignAll hvalues .nil hentries)
  · split at heq
    · obtain ⟨⟨s, after⟩, -, heq⟩ := Option.map_eq_some_iff.1 heq
      cases heq
      exact .string _
    · exact yields_readWord _ _ _ heq
  · cases heq

theorem yields_readValue (depth : Nat) : Yields Ordered (readValue depth) := by
  induction depth with
  | zero => exact yields_readShape nofun
  | succ depth ih =>
      apply yields_readShape
      rintro value ⟨⟩
      exact ih

/-! ## Documents -/

theorem ordered_of_readLine {text rest : List Char} {a : Assignment}
    (h : readLine text = some (.assignment a, rest)) : Ordered a.value := by
  unfold readLine at h
  split at h
  · split at h <;> cases h
  · split at h <;> cases h
  · obtain ⟨⟨a', after⟩, hassignment, heq⟩ := Option.map_eq_some_iff.1 h
    cases heq
    exact yields_readAssignment (yields_readValue maxDepth) _ _ _ _ hassignment

theorem ordered_of_readLines {fuel : Nat} {text : List Char} {lines : List Line}
    (h : readLines fuel text = some lines) : ∀ a, .assignment a ∈ lines → Ordered a.value := by
  induction fuel generalizing text lines with
  | zero => cases h
  | succ fuel ih =>
      unfold readLines at h
      split at h
      · cases h
      · cases h
        simp
      · obtain ⟨⟨line, rest⟩, hline, h⟩ := Option.bind_eq_some_iff.1 h
        obtain ⟨after, -, h⟩ := Option.bind_eq_some_iff.1 h
        obtain ⟨others, hothers, rfl⟩ := Option.map_eq_some_iff.1 h
        intro a hmem
        rcases List.mem_cons.1 hmem with rfl | hmem
        · exact ordered_of_readLine hline
        · exact ih hothers a hmem

theorem ordered_sectionsOf {lines : List Line}
    (h : ∀ a, .assignment a ∈ lines → Ordered a.value) :
    (∀ a ∈ (sectionsOf lines).1, Ordered a.value) ∧
      ∀ s ∈ (sectionsOf lines).2, ∀ a ∈ s.assignments, Ordered a.value := by
  induction lines with
  | nil => exact ⟨nofun, nofun⟩
  | cons line lines ih =>
      have ih := ih fun a hmem => h a (List.mem_cons_of_mem _ hmem)
      cases line with
      | assignment a => exact ⟨List.forall_mem_cons.2 ⟨h a List.mem_cons_self, ih.1⟩, ih.2⟩
      | header repeated path key => exact ⟨nofun, List.forall_mem_cons.2 ⟨ih.1, ih.2⟩⟩

theorem ordered_read? {text : String} {document : Entries} (h : read? text = some document) :
    OrderedEntries document := by
  unfold read? at h
  obtain ⟨lines, hlines, hbuild⟩ := Option.bind_eq_some_iff.1 h
  obtain ⟨hvalues, hsections⟩ := ordered_sectionsOf (ordered_of_readLines hlines)
  exact ordered_build hvalues hsections hbuild

end SubnetRouter.Toml
