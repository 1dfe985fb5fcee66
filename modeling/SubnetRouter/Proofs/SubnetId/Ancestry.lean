import SubnetRouter.Proofs.SubnetId.RoundTrip

/-!
# Ancestry of subnets

The ancestors of an id are found in three ways: by going up from parent to parent, by asking which
ids it can be built below, and, as far as texts tell ids apart, by the beginnings of its text.

* `isAncestorOf_iff`: ancestry by roots and levels.
* `above?_eq_some_iff`: the ids above an id.
* `text_slash_prefix_iff`: texts that another text begins with.
* `isAncestorOf_iff_above?`: the three ways, and the order that ancestry is.
-/

namespace SubnetRouter.SubnetId

open Text

/-- The id `n` levels up, if there are so many levels. -/
def above? (id : SubnetId) : Nat → Option SubnetId
  | 0 => some id
  | n + 1 => (id.above? n).bind parent?

/-- At each level that both ids have, their actors have the same namespace. -/
def NamespacesAgree (a b : SubnetId) : Prop :=
  ∀ (level : Nat) (actor actor' : ActorAddress),
    a.path[level]? = some actor → b.path[level]? = some actor' → actor.ns = actor'.ns

/-- What equality compares of the actors, level by level. -/
def levels (id : SubnetId) : List (UInt64 × List UInt8) :=
  id.path.map ActorAddress.identity

/-! ## Levels -/

theorem length_levels (id : SubnetId) : id.levels.length = id.depth :=
  List.length_map _

theorem beq_iff_levels (a b : SubnetId) :
    (a == b) = true ↔ a.root = b.root ∧ a.levels = b.levels := by
  rw [beq_iff_root_path, path_beq_iff]
  rfl

theorem path_isPrefixOf_iff (l m : List ActorAddress) :
    l.isPrefixOf m = true ↔ l.map ActorAddress.identity <+: m.map ActorAddress.identity := by
  induction l generalizing m with
  | nil => simp
  | cons a l ih =>
      cases m with
      | nil => simp
      | cons b m =>
          rw [List.isPrefixOf_cons_cons, Bool.and_eq_true, ActorAddress.beq_iff_identity_eq, ih,
            List.map_cons, List.map_cons, List.cons_prefix_cons]

/-- An ancestor has the same root and fewer levels, and its levels begin those of the id. -/
theorem isAncestorOf_iff (a b : SubnetId) :
    a.isAncestorOf b = true ↔ a.root = b.root ∧ a.depth < b.depth ∧ a.levels <+: b.levels := by
  unfold isAncestorOf
  rw [Bool.and_eq_true, Bool.and_eq_true, beq_iff_eq, decide_eq_true_eq, path_isPrefixOf_iff]
  exact and_assoc

/-! ## The order of ancestry -/

variable {a b c d : SubnetId}

theorem isAncestorOf_irrefl (a : SubnetId) : a.isAncestorOf a = false := by
  rw [Bool.eq_false_iff]
  intro h
  have hlt : a.depth < a.depth := ((isAncestorOf_iff a a).1 h).2.1
  omega

theorem isAncestorOf_asymm (h : a.isAncestorOf b = true) : b.isAncestorOf a = false := by
  rw [Bool.eq_false_iff]
  intro h'
  have hlt : a.depth < b.depth := ((isAncestorOf_iff a b).1 h).2.1
  have hgt : b.depth < a.depth := ((isAncestorOf_iff b a).1 h').2.1
  omega

theorem isAncestorOf_trans (hab : a.isAncestorOf b = true) (hbc : b.isAncestorOf c = true) :
    a.isAncestorOf c = true := by
  rw [isAncestorOf_iff] at hab hbc ⊢
  have hdepth : a.depth < c.depth := Nat.lt_trans hab.2.1 hbc.2.1
  exact ⟨hab.1.trans hbc.1, hdepth, hab.2.2.trans hbc.2.2⟩

/-- Two ancestors of one id lie on one line. -/
theorem beq_or_isAncestorOf (ha : a.isAncestorOf c = true) (hb : b.isAncestorOf c = true) :
    (a == b) = true ∨ a.isAncestorOf b = true ∨ b.isAncestorOf a = true := by
  rw [isAncestorOf_iff] at ha hb
  rw [beq_iff_levels, isAncestorOf_iff, isAncestorOf_iff]
  have hroot : a.root = b.root := ha.1.trans hb.1.symm
  have hle : a.depth ≤ b.depth → a.levels <+: b.levels := by
    intro h
    apply List.prefix_of_prefix_length_le ha.2.2 hb.2.2
    rwa [length_levels, length_levels]
  have hge : b.depth ≤ a.depth → b.levels <+: a.levels := by
    intro h
    apply List.prefix_of_prefix_length_le hb.2.2 ha.2.2
    rwa [length_levels, length_levels]
  rcases Nat.lt_trichotomy a.depth b.depth with hlt | heq | hgt
  · exact Or.inr (Or.inl ⟨hroot, hlt, hle (by omega)⟩)
  · have hlength : a.levels.length = b.levels.length := by
      rw [length_levels, length_levels, heq]
    exact Or.inl ⟨hroot, (hle (by omega)).eq_of_length hlength⟩
  · exact Or.inr (Or.inr ⟨hroot.symm, hgt, hge (by omega)⟩)

/-! ## Going up -/

theorem parent?_eq_some_iff (id c : SubnetId) :
    id.parent? = some c ↔ 0 < id.depth ∧ c = ⟨id.root, id.path.take (id.depth - 1)⟩ := by
  unfold parent? depth
  rw [List.dropLast_eq_take, List.length_pos_iff]
  by_cases hnil : id.path = []
  · simp [hnil]
  · rw [if_neg (by simpa using hnil), Option.some.injEq, eq_comm]
    simp [hnil]

theorem above?_eq_some_iff (id c : SubnetId) (n : Nat) :
    id.above? n = some c ↔ n ≤ id.depth ∧ c = ⟨id.root, id.path.take (id.depth - n)⟩ := by
  induction n generalizing c with
  | zero =>
      rw [above?, Option.some.injEq, Nat.sub_zero, depth, List.take_length, eq_comm]
      simp
  | succ n ih =>
      have hup : ∀ d, id.above? n = some d → (d.parent? = some c ↔
          n + 1 ≤ id.depth ∧ c = ⟨id.root, id.path.take (id.depth - (n + 1))⟩) := by
        intro d hd
        obtain ⟨hle, rfl⟩ := (ih d).1 hd
        have hdepth : depth ⟨id.root, id.path.take (id.depth - n)⟩ = id.depth - n := by
          unfold depth
          rw [List.length_take]
          omega
        rw [parent?_eq_some_iff, hdepth, List.take_take, Nat.min_eq_left (by omega),
          Nat.sub_sub, Nat.sub_pos_iff_lt]
        rfl
      rw [above?, Option.bind_eq_some_iff]
      constructor
      · intro h
        obtain ⟨d, hd, hparent⟩ := h
        exact (hup d hd).1 hparent
      · intro h
        have hd := (ih _).2 ⟨Nat.le_of_succ_le h.1, rfl⟩
        exact ⟨_, hd, (hup _ hd).2 h⟩

theorem above?_isSome_iff (id : SubnetId) (n : Nat) : (id.above? n).isSome ↔ n ≤ id.depth := by
  rw [Option.isSome_iff_exists]
  simp only [above?_eq_some_iff, exists_and_left, exists_eq, and_true]

theorem above?_depth (id : SubnetId) : id.above? id.depth = some (ofRoot id.root) := by
  rw [above?_eq_some_iff, Nat.sub_self, List.take_zero]
  exact ⟨Nat.le_refl _, rfl⟩

theorem levels_of_above? {id : SubnetId} {n : Nat} (h : id.above? n = some c) :
    c.root = id.root ∧ c.levels = id.levels.take (id.depth - n) := by
  obtain ⟨-, rfl⟩ := (above?_eq_some_iff id c n).1 h
  exact ⟨rfl, List.map_take⟩

theorem depth_of_above? {id : SubnetId} {n : Nat} (h : id.above? n = some c) :
    c.depth + n = id.depth := by
  have hle := ((above?_eq_some_iff id c n).1 h).1
  have hlength := congrArg List.length (levels_of_above? h).2
  rw [List.length_take, length_levels, length_levels] at hlength
  omega

theorem isAncestorOf_of_above? {n : Nat} (hn : 1 ≤ n) (h : b.above? n = some c) :
    c.isAncestorOf b = true := by
  obtain ⟨hroot, hlevels⟩ := levels_of_above? h
  have hdepth := depth_of_above? h
  rw [isAncestorOf_iff, hlevels]
  exact ⟨hroot, by omega, List.take_prefix _ _⟩

theorem exists_above?_of_isAncestorOf (h : a.isAncestorOf b = true) :
    ∃ c, b.above? (b.depth - a.depth) = some c ∧ (c == a) = true := by
  obtain ⟨hroot, hlt, hprefix⟩ := (isAncestorOf_iff a b).1 h
  have hsome : (b.above? (b.depth - a.depth)).isSome := by
    rw [above?_isSome_iff]
    omega
  obtain ⟨c, hc⟩ := Option.isSome_iff_exists.1 hsome
  obtain ⟨hcroot, hclevels⟩ := levels_of_above? hc
  refine ⟨c, hc, (beq_iff_levels c a).2 ⟨hcroot.trans hroot.symm, ?_⟩⟩
  rw [hclevels, Nat.sub_sub_self (Nat.le_of_lt hlt), ← length_levels a]
  exact (List.prefix_iff_eq_take.1 hprefix).symm

theorem depth_eq_of_beq (h : (a == b) = true) : a.depth = b.depth := by
  rw [← length_levels, ← length_levels, ((beq_iff_levels a b).1 h).2]

theorem isAncestorOf_congr (hab : (a == b) = true) (hcd : (c == d) = true) :
    a.isAncestorOf c = b.isAncestorOf d := by
  have hdepth := depth_eq_of_beq hab
  have hdepth' := depth_eq_of_beq hcd
  obtain ⟨hroot, hlevels⟩ := (beq_iff_levels a b).1 hab
  obtain ⟨hroot', hlevels'⟩ := (beq_iff_levels c d).1 hcd
  rw [Bool.eq_iff_iff, isAncestorOf_iff, isAncestorOf_iff, hroot, hdepth, hlevels, hroot', hdepth',
    hlevels']

/-! ## Going down -/

theorem isAncestorOf_iff_exists_foldl_child (a b : SubnetId) :
    a.isAncestorOf b = true ↔
      ∃ actors : List ActorAddress, actors ≠ [] ∧ (actors.foldl child a == b) = true := by
  have hlevels : ∀ actors : List ActorAddress, (actors.foldl child a).levels =
      a.levels ++ actors.map ActorAddress.identity := by
    intro actors
    rw [foldl_child, levels, List.map_append]
    rfl
  rw [isAncestorOf_iff]
  constructor
  · intro h
    obtain ⟨hroot, hlt, hprefix⟩ := h
    refine ⟨b.path.drop a.depth, ?_, ?_⟩
    · rw [ne_eq, List.drop_eq_nil_iff]
      exact Nat.not_le.2 hlt
    · rw [beq_iff_levels, hlevels, List.map_drop, foldl_child, ← length_levels a]
      exact ⟨hroot, List.prefix_iff_eq_append.1 hprefix⟩
  · intro h
    obtain ⟨actors, hne, hbeq⟩ := h
    have hdepth := depth_eq_of_beq hbeq
    obtain ⟨hroot, hsame⟩ := (beq_iff_levels _ b).1 hbeq
    rw [hlevels] at hsame
    rw [foldl_child] at hroot hdepth
    have hpos := List.length_pos_iff.2 hne
    refine ⟨hroot, ?_, hsame ▸ List.prefix_append _ _⟩
    rw [← hdepth, depth, depth, List.length_append]
    omega

/-! ## Texts -/

/-- A wire form as it stands in a text. -/
def wireChars (bytes : List UInt8) : List Char :=
  '0' :: 'x' :: Hex.encode bytes

theorem wireChars_injective : Function.Injective wireChars := by
  intro bytes bytes' h
  apply Hex.encode_injective
  exact (List.cons.inj (List.cons.inj h).2).2

theorem map_ethereumChars (id : SubnetId) :
    id.path.map ActorAddress.ethereumChars = (id.path.map ActorAddress.buffer).map wireChars := by
  rw [List.map_map]
  rfl

theorem length_buffers (id : SubnetId) : (id.path.map ActorAddress.buffer).length = id.depth :=
  List.length_map _

/-- A text goes on with a slash after the text of `a` when its id has the root of `a` and further
wire forms below those of `a`. -/
theorem text_slash_prefix_iff (a b : SubnetId) :
    (a.text ++ "/").toList <+: b.text.toList ↔
      a.root = b.root ∧ a.depth < b.depth ∧
        a.path.map ActorAddress.buffer <+: b.path.map ActorAddress.buffer := by
  have hslash : (a.text ++ "/").toList = a.chars ++ ['/'] := by
    rw [String.toList_append, text, String.toList_ofList]
    rfl
  rw [hslash, text, String.toList_ofList]
  constructor
  · intro h
    obtain ⟨rest, hrest⟩ := h
    -- The pieces of the longer text are those of the shorter one and at least one more.
    have hsplit : a.chars.splitOn '/' ++ rest.splitOn '/' = b.chars.splitOn '/' := by
      rw [← hrest, List.append_assoc, List.singleton_append, List.splitOn_append_cons_self]
    rw [splitOn_chars, splitOn_chars, List.cons_append, List.cons.injEq, map_ethereumChars,
      map_ethereumChars] at hsplit
    have hroot : a.root = b.root := Natural64.write_injective (List.cons.inj hsplit.1).2
    have hprefix : a.path.map ActorAddress.buffer <+: b.path.map ActorAddress.buffer :=
      (List.prefix_map_iff_of_injective wireChars_injective).1 ⟨_, hsplit.2⟩
    have hlength := congrArg List.length hsplit.2
    have hpos : 0 < (rest.splitOn '/').length :=
      List.length_pos_iff.2 (List.splitOn_ne_nil '/' rest)
    rw [List.length_append, List.length_map, length_buffers, List.length_map,
      length_buffers] at hlength
    exact ⟨hroot, by omega, hprefix⟩
  · intro h
    obtain ⟨hroot, hlt, more, hmore⟩ := h
    have hlength := congrArg List.length hmore
    rw [List.length_append, length_buffers, length_buffers] at hlength
    have hne : more ≠ [] := by
      intro hnil
      rw [hnil, List.length_nil] at hlength
      omega
    obtain ⟨bytes, others, rfl⟩ := List.exists_cons_of_ne_nil hne
    rw [chars_eq, chars_eq, hroot, ← hmore, List.flatMap_append, List.flatMap_cons,
      ← List.append_assoc]
    apply (List.prefix_append_right_inj _).2
    exact ⟨_, rfl⟩

theorem map_snd_levels (id : SubnetId) :
    id.levels.map Prod.snd = id.path.map ActorAddress.buffer := by
  rw [levels, List.map_map]
  rfl

theorem text_slash_prefix_of_isAncestorOf (h : a.isAncestorOf b = true) :
    (a.text ++ "/").toList <+: b.text.toList := by
  obtain ⟨hroot, hlt, hprefix⟩ := (isAncestorOf_iff a b).1 h
  have hbuffers := hprefix.map Prod.snd
  rw [map_snd_levels, map_snd_levels] at hbuffers
  exact (text_slash_prefix_iff a b).2 ⟨hroot, hlt, hbuffers⟩

theorem levels_prefix_of_namespacesAgree (hns : a.NamespacesAgree b)
    (h : a.path.map ActorAddress.buffer <+: b.path.map ActorAddress.buffer) :
    a.levels <+: b.levels := by
  unfold levels
  rw [List.prefix_iff_getElem?] at h ⊢
  intro level hlevel
  have ha : level < a.path.length := by rwa [List.length_map] at hlevel
  have hbuffer := h level (by rwa [length_buffers])
  rw [List.getElem?_map, List.getElem_map, Option.map_eq_some_iff] at hbuffer
  obtain ⟨actor, hactor, hbuffer⟩ := hbuffer
  have hsame : a.path[level].ns = actor.ns :=
    hns level _ actor (List.getElem?_eq_getElem ha) hactor
  have hidentity : actor.identity = a.path[level].identity := by
    rw [ActorAddress.identity, ActorAddress.identity, hbuffer, hsame]
  rw [List.getElem?_map, List.getElem_map, hactor, Option.map_some, hidentity]

theorem isAncestorOf_of_text_slash_prefix (hns : a.NamespacesAgree b)
    (h : (a.text ++ "/").toList <+: b.text.toList) : a.isAncestorOf b = true := by
  obtain ⟨hroot, hlt, hbuffers⟩ := (text_slash_prefix_iff a b).1 h
  exact (isAncestorOf_iff a b).2 ⟨hroot, hlt, levels_prefix_of_namespacesAgree hns hbuffers⟩

theorem namespacesAgree_of_eq {ns : UInt64} (ha : ∀ actor ∈ a.path, actor.ns = ns)
    (hb : ∀ actor ∈ b.path, actor.ns = ns) : a.NamespacesAgree b := by
  intro level actor actor' hactor hactor'
  have hns := ha actor (List.mem_of_getElem? hactor)
  have hns' := hb actor' (List.mem_of_getElem? hactor')
  exact hns.trans hns'.symm

/-! ## The three ways -/

/-- The ids above an id are as many as it has levels, with its root as the last one.  They are
ancestors, and each ancestor equals exactly one of them. -/
structure HasLine (id : SubnetId) : Prop where
  isSome_iff : ∀ n, (id.above? n).isSome ↔ n ≤ id.depth
  ends : id.above? id.depth = some (ofRoot id.root) ∧ (ofRoot id.root).parent? = none
  isAncestorOf : ∀ n c, 1 ≤ n → id.above? n = some c → c.isAncestorOf id = true
  existsUnique : ∀ a : SubnetId, a.isAncestorOf id = true →
    ∃! n, 1 ≤ n ∧ ∃ c, id.above? n = some c ∧ (c == a) = true

theorem isAncestorOf_iff_exists_above? (a b : SubnetId) :
    a.isAncestorOf b = true ↔ ∃ n, 1 ≤ n ∧ ∃ c, b.above? n = some c ∧ (c == a) = true := by
  constructor
  · intro h
    have hlt := ((isAncestorOf_iff a b).1 h).2.1
    exact ⟨b.depth - a.depth, by omega, exists_above?_of_isAncestorOf h⟩
  · intro h
    obtain ⟨n, hn, c, hc, hbeq⟩ := h
    rw [← isAncestorOf_congr hbeq (BEq.refl b)]
    exact isAncestorOf_of_above? hn hc

theorem hasLine (id : SubnetId) : id.HasLine where
  isSome_iff := above?_isSome_iff id
  ends := ⟨above?_depth id, rfl⟩
  isAncestorOf _ _ hn h := isAncestorOf_of_above? hn h
  existsUnique a h := by
    obtain ⟨n, hn, c, hc, hbeq⟩ := (isAncestorOf_iff_exists_above? a id).1 h
    refine ⟨n, ⟨hn, c, hc, hbeq⟩, ?_⟩
    rintro m ⟨-, d, hd, hbeq'⟩
    have hsame : c.depth = d.depth := (depth_eq_of_beq hbeq).trans (depth_eq_of_beq hbeq').symm
    have hdepth := depth_of_above? hc
    have hdepth' := depth_of_above? hd
    omega

/-- An ancestor of an id is what its parents lead to after one step or more, and what it is built
below.  Ancestry is a strict order in which the ancestors of one id lie on one line: they are the
ids above it.  The text of an id goes on with a slash after the text of an ancestor, and it does so
after no other text as far as namespaces agree. -/
theorem isAncestorOf_iff_above? (a b : SubnetId) :
    (a.isAncestorOf b = true ↔ ∃ n, 1 ≤ n ∧ ∃ c, b.above? n = some c ∧ (c == a) = true) ∧
    (a.isAncestorOf b = true ↔
      ∃ actors : List ActorAddress, actors ≠ [] ∧ (actors.foldl child a == b) = true) ∧
    a.isAncestorOf a = false ∧
    (a.isAncestorOf b = true → b.isAncestorOf a = false) ∧
    (∀ c, a.isAncestorOf b = true → b.isAncestorOf c = true → a.isAncestorOf c = true) ∧
    (∀ c, a.isAncestorOf c = true → b.isAncestorOf c = true →
      (a == b) = true ∨ a.isAncestorOf b = true ∨ b.isAncestorOf a = true) ∧
    b.HasLine ∧
    (a.isAncestorOf b = true → (a.text ++ "/").toList <+: b.text.toList) ∧
    (a.NamespacesAgree b →
      (a.text ++ "/").toList <+: b.text.toList → a.isAncestorOf b = true) ∧
    ((∀ actor ∈ a.path, actor.ns = 10) → (∀ actor ∈ b.path, actor.ns = 10) →
      (a.isAncestorOf b = true ↔ (a.text ++ "/").toList <+: b.text.toList)) := by
  refine ⟨isAncestorOf_iff_exists_above? a b, isAncestorOf_iff_exists_foldl_child a b,
    isAncestorOf_irrefl a, isAncestorOf_asymm, fun c => isAncestorOf_trans,
    fun c => beq_or_isAncestorOf, hasLine b, text_slash_prefix_of_isAncestorOf,
    isAncestorOf_of_text_slash_prefix, ?_⟩
  intro ha hb
  have hns : a.NamespacesAgree b := namespacesAgree_of_eq ha hb
  exact ⟨text_slash_prefix_of_isAncestorOf, isAncestorOf_of_text_slash_prefix hns⟩

end SubnetRouter.SubnetId
