import SubnetRouter.Proofs.Json.Scalars

/-!
# Written values read back

A value without floating-point numbers is read back from its text, compact or indented, as long as it
does not nest too deep.  Both forms put items between commas and differ only in the blanks around
them, so one law about sequences serves both.

* `reads_sequence`: items that read back one by one read back as a sequence.
* `reads_compactChars`, `reads_indentedChars`: values, in front of any text that does not go on
  like a numeral.
* `read?_compact`, `read?_indented`: whole texts.
-/

namespace SubnetRouter.Json

/-- A value without floating-point numbers, with the members of its objects in order, in which arrays
and objects nest at most `depth` deep. -/
inductive Exact : Nat → Json → Prop where
  | null {depth : Nat} : Exact depth .null
  | bool {depth : Nat} (value : Bool) : Exact depth (.bool value)
  | int {depth : Nat} (value : Int) (fits : FitsInteger value) : Exact depth (.number (.int value fits))
  | string {depth : Nat} (value : String) : Exact depth (.string value)
  | array {depth : Nat} {items : List Json} :
      (∀ item ∈ items, Exact depth item) → Exact (depth + 1) (.array items)
  | object {depth : Nat} {members : List (String × Json)} :
      members.Pairwise (fun a b => a.1 < b.1) → (∀ member ∈ members, Exact depth member.2) →
        Exact (depth + 1) (.object members)

theorem Exact.mono {depth depth' : Nat} {value : Json} (h : Exact depth value)
    (hle : depth ≤ depth') : Exact depth' value := by
  induction h generalizing depth' with
  | null => exact .null
  | bool value => exact .bool value
  | int value fits => exact .int value fits
  | string value => exact .string value
  | @array depth items _ ih =>
      obtain ⟨deeper, rfl⟩ := Nat.exists_eq_add_of_lt hle
      exact .array fun item hitem => ih item hitem (Nat.le_add_right depth deeper)
  | @object depth members hascending _ ih =>
      obtain ⟨deeper, rfl⟩ := Nat.exists_eq_add_of_lt hle
      exact .object hascending fun member hmember => ih member hmember (Nat.le_add_right depth deeper)

/-- The reader takes the text off any other that does not go on like a numeral, and finds the
value in it. -/
def Reads {α : Type} (read : Reader α) (text : List Char) (value : α) : Prop :=
  ∀ rest, EndsNumeral rest → read (text ++ rest) = some (value, rest)

/-! ## Blanks -/

theorem skipSpace_append {blanks : List Char} (h : ∀ c ∈ blanks, isSpace c) (text : List Char) :
    skipSpace (blanks ++ text) = skipSpace text :=
  List.dropWhile_append_of_pos h

theorem skipSpace_cons {c : Char} (h : isSpace c = false) (rest : List Char) :
    skipSpace (c :: rest) = c :: rest := by
  rw [skipSpace, List.dropWhile_cons_of_neg]
  rw [h]
  exact Bool.false_ne_true

theorem isSpace_of_mem_nil : ∀ c ∈ ([] : List Char), isSpace c := by
  simp

theorem isSpace_of_mem_blank : ∀ c ∈ [' '], isSpace c := by
  intro c hc
  rw [List.mem_singleton.1 hc]
  decide

theorem isSpace_of_mem_newLine (level : Nat) : ∀ c ∈ newLine level, isSpace c := by
  intro c hc
  rcases List.mem_cons.1 hc with rfl | hc
  · decide
  · rw [List.eq_of_mem_replicate hc]
    decide

/-! ## Sequences -/

section Sequences

variable {α : Type} {item : Reader α} {close : Char}

/-- The marks that close a sequence: neither is a blank, a comma, or part of a numeral. -/
def IsClosing (close : Char) : Prop := close = ']' ∨ close = '}'

theorem skipSpace_closing (hclose : IsClosing close) (rest : List Char) :
    skipSpace (close :: rest) = close :: rest := by
  rcases hclose with rfl | rfl
  · exact skipSpace_cons (by decide) rest
  · exact skipSpace_cons (by decide) rest

theorem endsNumeral_closing (hclose : IsClosing close) (rest : List Char) :
    EndsNumeral (close :: rest) := by
  intro c hc
  obtain rfl : close = c := Option.some.inj hc
  rcases hclose with rfl | rfl
  · decide
  · decide

theorem endsNumeral_blanks {blanks : List Char} (hblanks : ∀ c ∈ blanks, isSpace c) {rest : List Char}
    (hrest : EndsNumeral rest) : EndsNumeral (blanks ++ rest) := by
  cases blanks with
  | nil => exact hrest
  | cons c blanks =>
      intro c' hc'
      obtain rfl : c = c' := Option.some.inj hc'
      have hspace := hblanks c List.mem_cons_self
      simp only [isSpace, Bool.or_eq_true, decide_eq_true_eq] at hspace
      rcases hspace with ((rfl | rfl) | rfl) | rfl <;> decide

variable {print : α → List Char} {blanks : List Char}

/-- The items are written one by one, blanks stand before the closing mark, and the fuel suffices. -/
theorem readItems_flatMap (hclose : IsClosing close) (hblanks : ∀ c ∈ blanks, isSpace c)
    (first : α) (more : List α) (hitems : ∀ a ∈ first :: more, Reads item (print a) a)
    (fuel : Nat) (hfuel : more.length < fuel) (rest : List Char) :
    readItems item close fuel
        (print first ++ (more.flatMap (fun a => ',' :: print a) ++ (blanks ++ close :: rest))) =
      some (first :: more, rest) := by
  induction more generalizing first fuel with
  | nil =>
      obtain ⟨fuel, rfl⟩ := Nat.exists_eq_succ_of_ne_zero (Nat.ne_zero_of_lt hfuel)
      have hends : EndsNumeral (blanks ++ close :: rest) :=
        endsNumeral_blanks hblanks (endsNumeral_closing hclose rest)
      rw [List.flatMap_nil, List.nil_append, readItems, hitems first List.mem_cons_self _ hends]
      dsimp only
      rw [skipSpace_append hblanks, skipSpace_closing hclose]
      dsimp only
      rw [if_pos rfl]
  | cons second more ih =>
      obtain ⟨fuel, rfl⟩ := Nat.exists_eq_succ_of_ne_zero (Nat.ne_zero_of_lt hfuel)
      obtain ⟨hfirst, hmore⟩ := List.forall_mem_cons.1 hitems
      have hcomma : ∀ text, EndsNumeral (',' :: text) := by
        intro text c hc
        obtain rfl : ',' = c := Option.some.inj hc
        decide
      have hne : ',' ≠ close := by
        rintro rfl
        rcases hclose with h | h <;> cases h
      rw [List.flatMap_cons, List.append_assoc, List.cons_append, readItems, hfirst _ (hcomma _)]
      dsimp only
      rw [skipSpace_cons (by decide)]
      dsimp only
      rw [if_neg hne, if_pos rfl, ih second hmore fuel (Nat.lt_of_succ_lt_succ hfuel)]
      rfl

theorem exists_item_of_readItems {fuel : Nat} {text : List Char} {found : List α × List Char}
    (h : readItems item close fuel text = some found) : ∃ first, item text = some first := by
  cases fuel with
  | zero => cases h
  | succ fuel =>
      rw [readItems] at h
      cases hitem : item text with
      | none =>
          rw [hitem] at h
          cases h
      | some first => exact ⟨first, rfl⟩

theorem length_le_length_flatMap (print : α → List Char) (more : List α) :
    more.length ≤ (more.flatMap fun a => ',' :: print a).length := by
  induction more with
  | nil => exact Nat.le_refl 0
  | cons a more ih =>
      rw [List.flatMap_cons, List.length_append, List.length_cons, List.length_cons]
      omega

/-- Items that read back one by one read back as a sequence, whatever blanks stand before the closing
mark, if no item begins like it. -/
theorem reads_sequence (hclose : IsClosing close) (hblanks : ∀ c ∈ blanks, isSpace c)
    (hbegins : ∀ text found, item text = some found → ∃ c rest, skipSpace text = c :: rest ∧ c ≠ close)
    (first : α) (more : List α) (hitems : ∀ a ∈ first :: more, Reads item (print a) a) :
    Reads (readSequence item close)
      (print first ++ (more.flatMap (fun a => ',' :: print a) ++ (blanks ++ [close])))
      (first :: more) := by
  intro rest _
  simp only [List.append_assoc, List.singleton_append]
  -- Every item after the first one has a comma of its own, so the length of the text is fuel enough.
  have hfuel : more.length < (print first ++
      (more.flatMap (fun a => ',' :: print a) ++ (blanks ++ close :: rest))).length := by
    have hle := length_le_length_flatMap print more
    simp only [List.length_append, List.length_cons]
    omega
  have hread := readItems_flatMap hclose hblanks first more hitems _ hfuel rest
  obtain ⟨found, hfound⟩ := exists_item_of_readItems hread
  obtain ⟨c, after, hskip, hne⟩ := hbegins _ found hfound
  rw [readSequence, hskip]
  dsimp only
  rw [if_neg hne, hread]

theorem reads_sequence_nil (hclose : IsClosing close) :
    Reads (readSequence item close) [close] [] := by
  intro rest _
  rw [List.singleton_append, readSequence, skipSpace_closing hclose]
  dsimp only
  rw [if_pos rfl]

end Sequences

/-! ## Scalars -/

theorem readValue_eq (depth : Nat) :
    ∃ nested, ∀ text, readValue depth text = readShape nested (skipSpace text) := by
  cases depth with
  | zero => exact ⟨none, fun _ => rfl⟩
  | succ depth => exact ⟨some (readValue depth), fun _ => rfl⟩

theorem readShape_closing {close : Char} (hclose : IsClosing close) (nested : Option (Reader Json))
    (rest : List Char) : readShape nested (close :: rest) = none := by
  rcases hclose with rfl | rfl
  · rfl
  · rfl

theorem begins_of_readValue {close : Char} (hclose : IsClosing close) (depth : Nat) (text : List Char)
    (found : Json × List Char) (h : readValue depth text = some found) :
    ∃ c rest, skipSpace text = c :: rest ∧ c ≠ close := by
  obtain ⟨nested, hread⟩ := readValue_eq depth
  rw [hread] at h
  cases htext : skipSpace text with
  | nil =>
      rw [htext] at h
      cases h
  | cons c rest =>
      refine ⟨c, rest, rfl, ?_⟩
      rintro rfl
      rw [htext, readShape_closing hclose] at h
      cases h

variable (depth : Nat)

theorem reads_null : Reads (readValue depth) ['n', 'u', 'l', 'l'] .null := by
  intro rest _
  obtain ⟨nested, hread⟩ := readValue_eq depth
  rw [hread]
  rfl

theorem reads_bool (value : Bool) : Reads (readValue depth) (boolChars value) (.bool value) := by
  intro rest _
  obtain ⟨nested, hread⟩ := readValue_eq depth
  rw [hread]
  cases value with
  | true => rfl
  | false => rfl

theorem reads_string (value : String) : Reads (readValue depth) (stringChars value) (.string value) := by
  intro rest _
  obtain ⟨nested, hread⟩ := readValue_eq depth
  rw [hread, stringChars, List.append_assoc, List.cons_append, skipSpace_cons (by decide)]
  change (readString _).map _ = _
  rw [List.singleton_append, readString_flatMap]
  rfl

/-- Characters that integers begin with. -/
def StartsInteger (c : Char) : Prop := c = '-' ∨ c.isDigit = true

theorem exists_startsInteger (value : Int) (fits : FitsInteger value) :
    ∃ c rest, (Number.int value fits).chars = c :: rest ∧ StartsInteger c := by
  obtain ⟨c, rest, hdigits⟩ :=
    List.exists_cons_of_ne_nil (Nat.toDigits_ne_nil (n := value.natAbs) (b := 10))
  by_cases hneg : value < 0
  · exact ⟨'-', Nat.toDigits 10 value.natAbs, if_pos hneg, Or.inl rfl⟩
  · refine ⟨c, rest, ?_, Or.inr (isDigit_of_mem_toDigits (hdigits ▸ List.mem_cons_self))⟩
    rw [Number.chars, if_neg hneg, hdigits]

theorem readValue_of_startsInteger {c : Char} (h : StartsInteger c) (rest : List Char) :
    readValue depth (c :: rest) = readNumber (c :: rest) := by
  have hne : ∀ mark : Char, ¬ (mark = '-' ∨ mark.isDigit = true) → c ≠ mark := by
    rintro mark hmark rfl
    exact hmark h
  have hspace : isSpace c = false := by
    simp only [isSpace, Bool.or_eq_false_iff, decide_eq_false_iff_not]
    exact ⟨⟨⟨hne ' ' (by decide), hne '\n' (by decide)⟩, hne '\t' (by decide)⟩,
      hne '\r' (by decide)⟩
  obtain ⟨nested, hread⟩ := readValue_eq depth
  rw [hread, skipSpace_cons hspace, readShape]
  · exact fun _ heq => hne '"' (by decide) (List.cons.inj heq).1
  · exact fun _ heq => hne '[' (by decide) (List.cons.inj heq).1
  · exact fun _ heq => hne '\x7b' (by decide) (List.cons.inj heq).1
  · exact fun _ heq => hne 'n' (by decide) (List.cons.inj heq).1
  · exact fun _ heq => hne 't' (by decide) (List.cons.inj heq).1
  · exact fun _ heq => hne 'f' (by decide) (List.cons.inj heq).1

theorem reads_int (value : Int) (fits : FitsInteger value) :
    Reads (readValue depth) (Number.int value fits).chars (.number (.int value fits)) := by
  intro rest hrest
  obtain ⟨c, digits, hchars, hc⟩ := exists_startsInteger value fits
  calc readValue depth ((Number.int value fits).chars ++ rest)
      = readNumber ((Number.int value fits).chars ++ rest) := by
        rw [hchars, List.cons_append, readValue_of_startsInteger depth hc]
    _ = some (.number (.int value fits), rest) := readNumber_chars value fits hrest

/-! ## Arrays and objects -/

theorem insertMember_of_lt {name : String} (value : Json) {members : List (String × Json)}
    (h : ∀ member ∈ members, member.1 < name) :
    insertMember name value members = members ++ [(name, value)] := by
  induction members with
  | nil => rfl
  | cons other rest ih =>
      obtain ⟨hother, hrest⟩ := List.forall_mem_cons.1 h
      rw [insertMember, if_neg (String.lt_asymm hother), if_neg (String.ne_of_lt hother).symm, ih hrest,
        List.cons_append]

theorem foldl_insertMember (members sorted : List (String × Json))
    (h : (sorted ++ members).Pairwise fun a b => a.1 < b.1) :
    members.foldl (fun sorted (name, value) => insertMember name value sorted) sorted =
      sorted ++ members := by
  induction members generalizing sorted with
  | nil => exact (List.append_nil sorted).symm
  | cons member rest ih =>
      obtain ⟨name, value⟩ := member
      have hlt : ∀ other ∈ sorted, other.1 < name := fun other hother =>
        (List.pairwise_append.1 h).2.2 other hother (name, value) List.mem_cons_self
      rw [List.append_cons] at h
      rw [List.foldl_cons]
      dsimp only
      rw [insertMember_of_lt value hlt, ih _ h, ← List.append_cons]

/-- Members that stand in order already stay as they are. -/
theorem ofMembers_of_ascending {members : List (String × Json)}
    (h : members.Pairwise fun a b => a.1 < b.1) : ofMembers members = .object members := by
  rw [ofMembers, foldl_insertMember members [] h, List.nil_append]

variable {depth} {text : List Char}

theorem reads_array {items : List Json} (h : Reads (readSequence (readValue depth) ']') text items) :
    Reads (readValue (depth + 1)) ('[' :: text) (.array items) := by
  intro rest hrest
  change (readSequence (readValue depth) ']' (text ++ rest)).map _ = _
  rw [h rest hrest]
  rfl

theorem reads_object {members : List (String × Json)} (hascending : members.Pairwise fun a b => a.1 < b.1)
    (h : Reads (readSequence (readMember (readValue depth)) '}') text members) :
    Reads (readValue (depth + 1)) ('{' :: text) (.object members) := by
  intro rest hrest
  change (readSequence (readMember (readValue depth)) '}' (text ++ rest)).map _ = _
  rw [h rest hrest, Option.map_some]
  dsimp only
  rw [ofMembers_of_ascending hascending]

theorem reads_member {read : Reader Json} (name : String) {value : Json} (h : Reads read text value) :
    Reads (readMember read) (stringChars name ++ ':' :: text) (name, value) := by
  intro rest hrest
  have htext : stringChars name ++ ':' :: text ++ rest =
      '"' :: (name.toList.flatMap charText ++ '"' :: ':' :: (text ++ rest)) := by
    simp only [stringChars, List.append_assoc, List.cons_append, List.nil_append]
  have hquote := skipSpace_cons (c := '"') (by decide)
  have hcolon := skipSpace_cons (c := ':') (by decide)
  rw [htext]
  simp only [readMember, hquote, hcolon, readString_flatMap, h rest hrest, Option.map_some]

theorem begins_of_readMember (read : Reader Json) (text : List Char)
    (found : (String × Json) × List Char) (h : readMember read text = some found) :
    ∃ c rest, skipSpace text = c :: rest ∧ c ≠ '\x7d' := by
  unfold readMember at h
  cases htext : skipSpace text with
  | nil =>
      rw [htext] at h
      cases h
  | cons c rest =>
      refine ⟨c, rest, rfl, ?_⟩
      rintro rfl
      rw [htext] at h
      cases h

/-! ## Compact texts -/

theorem compactItems_eq (items : List Json) :
    compactItems items = items.flatMap (fun item => ',' :: compactChars item) ++ [']'] := by
  induction items with
  | nil => rw [compactItems, List.flatMap_nil, List.nil_append]
  | cons item items ih =>
      rw [compactItems, ih, List.flatMap_cons]
      simp only [List.cons_append, List.append_assoc]

theorem compactMembers_eq (members : List (String × Json)) :
    compactMembers members =
      members.flatMap (fun member => ',' :: (stringChars member.1 ++ ':' :: compactChars member.2))
        ++ ['\x7d'] := by
  induction members with
  | nil => rw [compactMembers, List.flatMap_nil, List.nil_append]
  | cons member members ih =>
      obtain ⟨name, value⟩ := member
      rw [compactMembers, ih, List.flatMap_cons]
      simp only [List.cons_append, List.append_assoc]

theorem reads_compactChars {depth : Nat} {value : Json} (h : Exact depth value) :
    Reads (readValue depth) (compactChars value) value := by
  induction h with
  | null => exact reads_null _
  | bool value => exact reads_bool _ value
  | int value fits => exact reads_int _ value fits
  | string value => exact reads_string _ value
  | @array depth items _ ih =>
      cases items with
      | nil => exact reads_array (reads_sequence_nil (Or.inl rfl))
      | cons first more =>
          have hsequence := reads_sequence (Or.inl rfl) isSpace_of_mem_nil
            (begins_of_readValue (Or.inl rfl) depth) first more ih
          rw [List.nil_append, ← compactItems_eq] at hsequence
          rw [compactChars]
          exact reads_array hsequence
  | @object depth members hascending _ ih =>
      cases members with
      | nil => exact reads_object hascending (reads_sequence_nil (Or.inr rfl))
      | cons first more =>
          have hsequence := reads_sequence (Or.inr rfl) isSpace_of_mem_nil
            (begins_of_readMember (readValue depth)) first more
            (fun member hmember => reads_member member.1 (ih member hmember))
          rw [List.nil_append, ← compactMembers_eq, List.append_assoc] at hsequence
          rw [compactChars, List.append_assoc]
          exact reads_object hascending hsequence

/-! ## Indented texts -/

section Blanks

variable {blanks : List Char} (hblanks : ∀ c ∈ blanks, isSpace c)

include hblanks

theorem reads_blanks_value {value : Json} (h : Reads (readValue depth) text value) :
    Reads (readValue depth) (blanks ++ text) value := by
  intro rest hrest
  obtain ⟨nested, hread⟩ := readValue_eq depth
  rw [List.append_assoc, hread, skipSpace_append hblanks, ← hread]
  exact h rest hrest

theorem reads_blanks_member {read : Reader Json} {member : String × Json}
    (h : Reads (readMember read) text member) : Reads (readMember read) (blanks ++ text) member := by
  intro rest hrest
  rw [List.append_assoc, readMember, skipSpace_append hblanks]
  exact h rest hrest

end Blanks

theorem indentedItems_eq (level : Nat) (items : List Json) :
    indentedItems level items =
      items.flatMap (fun item => ',' :: (newLine (level + 1) ++ indentedChars (level + 1) item))
        ++ (newLine level ++ [']']) := by
  induction items with
  | nil => rw [indentedItems, List.flatMap_nil, List.nil_append]
  | cons item items ih =>
      rw [indentedItems, ih, List.flatMap_cons]
      simp only [List.cons_append, List.append_assoc]

theorem indentedMembers_eq (level : Nat) (members : List (String × Json)) :
    indentedMembers level members =
      members.flatMap (fun member => ',' :: (newLine (level + 1) ++
        (stringChars member.1 ++ ':' :: ([' '] ++ indentedChars (level + 1) member.2))))
        ++ (newLine level ++ ['\x7d']) := by
  induction members with
  | nil => rw [indentedMembers, List.flatMap_nil, List.nil_append]
  | cons member members ih =>
      obtain ⟨name, value⟩ := member
      rw [indentedMembers, ih, List.flatMap_cons]
      simp only [List.cons_append, List.append_assoc, List.nil_append]

theorem reads_indentedChars {depth : Nat} {value : Json} (h : Exact depth value) (level : Nat) :
    Reads (readValue depth) (indentedChars level value) value := by
  induction h generalizing level with
  | null => exact reads_null _
  | bool value => exact reads_bool _ value
  | int value fits => exact reads_int _ value fits
  | string value => exact reads_string _ value
  | @array depth items _ ih =>
      cases items with
      | nil => exact reads_array (reads_sequence_nil (Or.inl rfl))
      | cons first more =>
          have hitem : ∀ item ∈ first :: more, Reads (readValue depth)
              (newLine (level + 1) ++ indentedChars (level + 1) item) item := fun item hitem =>
            reads_blanks_value (isSpace_of_mem_newLine _) (ih item hitem (level + 1))
          have hsequence := reads_sequence (Or.inl rfl) (isSpace_of_mem_newLine level)
            (begins_of_readValue (Or.inl rfl) depth) first more hitem
          rw [← indentedItems_eq] at hsequence
          rw [indentedChars]
          exact reads_array hsequence
  | @object depth members hascending _ ih =>
      cases members with
      | nil => exact reads_object hascending (reads_sequence_nil (Or.inr rfl))
      | cons first more =>
          have hmember : ∀ member ∈ first :: more, Reads (readMember (readValue depth))
              (newLine (level + 1) ++
                (stringChars member.1 ++ ':' :: ([' '] ++ indentedChars (level + 1) member.2))) member :=
            fun member hmember => reads_blanks_member (isSpace_of_mem_newLine _) (reads_member member.1
              (reads_blanks_value isSpace_of_mem_blank (ih member hmember (level + 1))))
          have hsequence := reads_sequence (Or.inr rfl) (isSpace_of_mem_newLine level)
            (begins_of_readMember (readValue depth)) first more hmember
          rw [← indentedMembers_eq] at hsequence
          rw [indentedChars]
          simp only [List.append_assoc, List.cons_append, List.nil_append] at hsequence ⊢
          exact reads_object hascending hsequence

/-! ## Whole texts -/

theorem read?_ofList {value : Json} (h : Reads (readValue maxDepth) text value) :
    read? (String.ofList text) = some value := by
  have hread := h [] (fun c hc => by cases hc)
  rw [List.append_nil] at hread
  rw [read?, String.toList_ofList, hread]
  rfl

theorem read?_compact {value : Json} (h : Exact maxDepth value) : read? (compact value) = some value :=
  read?_ofList (reads_compactChars h)

theorem read?_indented {value : Json} (h : Exact maxDepth value) : read? (indented value) = some value :=
  read?_ofList (reads_indentedChars h 0)

end SubnetRouter.Json
