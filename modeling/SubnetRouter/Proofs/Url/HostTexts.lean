import SubnetRouter.Proofs.Url.Authorities

/-!
# Texts of hosts

A part of a URL that has no mark in it is determined, together with what follows it, by the text that
they make up.  Hosts are such parts, for all the short forms that IPv6 addresses have.

* `append_inj_of_avoids`, `flatMap_append_inj`: a part and what follows it.
* `ipv4Chars_inj`, `ipv6Chars_inj`: addresses.
* `host_append_inj`: hosts.
-/

namespace SubnetRouter.Url

open Text

/-! ## Parts and what follows them -/

/-- The text is empty or begins with a character of the set. -/
def BeginsIn (set : Char → Bool) (text : List Char) : Prop :=
  ∀ c rest, text = c :: rest → set c = true

theorem beginsIn_nil (set : Char → Bool) : BeginsIn set [] := nofun

theorem beginsIn_cons {set : Char → Bool} {c : Char} (h : set c = true) (rest : List Char) :
    BeginsIn set (c :: rest) := by
  rintro d rest' heq
  cases heq
  exact h

theorem Avoids.of_mem {set : Char → Bool} {text : List Char} (h : Avoids set text) {c : Char}
    (hc : set c = true) : Avoids (· = c) text := by
  apply h.mono
  intro d hd
  rw [decide_eq_true_eq] at hd
  rw [hd]
  exact hc

theorem append_inj_of_avoids {set : Char → Bool} {x x' y y' : List Char} (hx : Avoids set x)
    (hx' : Avoids set x') (hy : BeginsIn set y) (hy' : BeginsIn set y') (h : x ++ y = x' ++ y') :
    x = x' ∧ y = y' := by
  induction x generalizing x' with
  | nil =>
      cases x' with
      | nil => exact ⟨rfl, h⟩
      | cons c rest =>
          have hc := hy c _ h
          rw [(avoids_cons.1 hx').1] at hc
          cases hc
  | cons c rest ih =>
      cases x' with
      | nil =>
          have hc := hy' c _ h.symm
          rw [(avoids_cons.1 hx).1] at hc
          cases hc
      | cons d rest' =>
          rw [List.cons_append, List.cons_append, List.cons.injEq] at h
          obtain ⟨rfl, h⟩ := h
          obtain ⟨rfl, hrest⟩ := ih (avoids_cons.1 hx).2 (avoids_cons.1 hx').2 h
          exact ⟨rfl, hrest⟩

theorem beginsIn_flatMap {α : Type} (mark : Char) (f : α → List Char) (l : List α) {y : List Char}
    (hy : BeginsIn (· = mark) y) : BeginsIn (· = mark) (l.flatMap (mark :: f ·) ++ y) := by
  cases l with
  | nil => exact hy
  | cons a rest => exact beginsIn_cons (decide_eq_true rfl) _

/-- Items after marks, up to a text that is no further item. -/
theorem flatMap_append_inj {α : Type} {mark : Char} {f : α → List Char} (hf : Function.Injective f)
    {l l' : List α} {y y' : List Char} (hl : ∀ a ∈ l, Avoids (· = mark) (f a))
    (hl' : ∀ a ∈ l', Avoids (· = mark) (f a)) (hy : BeginsIn (· = mark) y)
    (hy' : BeginsIn (· = mark) y') (hstop : ∀ a rest, y ≠ mark :: (f a ++ rest))
    (hstop' : ∀ a rest, y' ≠ mark :: (f a ++ rest))
    (h : l.flatMap (mark :: f ·) ++ y = l'.flatMap (mark :: f ·) ++ y') : l = l' ∧ y = y' := by
  induction l generalizing l' with
  | nil =>
      cases l' with
      | nil => exact ⟨rfl, h⟩
      | cons a rest =>
          rw [List.flatMap_cons, List.cons_append, List.cons_append, List.append_assoc] at h
          exact absurd h (hstop a _)
  | cons a rest ih =>
      cases l' with
      | nil =>
          rw [List.flatMap_cons, List.cons_append, List.cons_append, List.append_assoc] at h
          exact absurd h.symm (hstop' a _)
      | cons b rest' =>
          rw [List.forall_mem_cons] at hl hl'
          rw [List.flatMap_cons, List.flatMap_cons, List.append_assoc, List.append_assoc,
            List.cons_append, List.cons_append, List.cons.injEq] at h
          obtain ⟨hitem, hrest⟩ := append_inj_of_avoids hl.1 hl'.1 (beginsIn_flatMap mark f rest hy)
            (beginsIn_flatMap mark f rest' hy') h.2
          obtain ⟨rfl, hend⟩ := ih hl.2 hl'.2 hrest
          exact ⟨by rw [hf hitem], hend⟩

/-! ## Numbers -/

theorem digitChar_inj {m n : Nat} (hm : m < 16) (hn : n < 16) (h : m.digitChar = n.digitChar) :
    m = n := by
  have hall : ∀ m < 16, ∀ n < 16, Nat.digitChar m = Nat.digitChar n → m = n := by decide
  exact hall m hm n hn h

theorem toDigits_injective {base : Nat} (hlower : 1 < base) (hupper : base ≤ 16) :
    Function.Injective (Nat.toDigits base) := by
  have hlonger : ∀ k c d, Nat.toDigits base k ++ [c] ≠ [d] := by
    intro k c d h
    have hlength := congrArg List.length h
    have hpos := Nat.length_toDigits_pos (b := base) (n := k)
    rw [List.length_append, List.length_singleton, List.length_singleton] at hlength
    omega
  intro m
  induction m using Nat.strongRecOn with
  | ind m ih =>
      intro n h
      rw [Nat.toDigits_eq_if hlower, Nat.toDigits_eq_if (n := n) hlower] at h
      by_cases hm : m < base <;> by_cases hn : n < base
      · rw [if_pos hm, if_pos hn, List.cons.injEq] at h
        exact digitChar_inj (by omega) (by omega) h.1
      · rw [if_pos hm, if_neg hn] at h
        exact absurd h.symm (hlonger _ _ _)
      · rw [if_neg hm, if_pos hn] at h
        exact absurd h (hlonger _ _ _)
      · rw [if_neg hm, if_neg hn] at h
        obtain ⟨hhigh, hlow⟩ := List.append_inj' h rfl
        have hdiv := ih (m / base) (Nat.div_lt_self (by omega) hlower) hhigh
        have hmod := digitChar_inj ((Nat.mod_lt m (by omega)).trans_le hupper)
          ((Nat.mod_lt n (by omega)).trans_le hupper) (List.cons.inj hlow).1
        rw [← Nat.div_add_mod m base, hdiv, hmod, Nat.div_add_mod]

/-! ## IPv4 addresses -/

/-- The digits of a byte of an address. -/
def byteChars (address shift : Nat) : List Char :=
  Nat.toDigits 10 (address / 2 ^ shift % 256)

theorem ipv4Chars_eq (address : Nat) :
    ipv4Chars address = byteChars address 24 ++ '.' :: (byteChars address 16 ++
      '.' :: (byteChars address 8 ++ '.' :: byteChars address 0)) := by
  unfold ipv4Chars
  simp only [List.append_assoc, List.cons_append]
  rfl

theorem avoids_byteChars {set : Char → Bool} (h : ∀ m < 16, set m.digitChar = false)
    (address shift : Nat) : Avoids set (byteChars address shift) :=
  avoids_toDigits (by omega) (by omega) h _

theorem avoids_ipv4Chars {set : Char → Bool} (h : ∀ m < 16, set m.digitChar = false)
    (hdot : set '.' = false) (address : Nat) : Avoids set (ipv4Chars address) := by
  rw [ipv4Chars_eq]
  simp only [avoids_append, avoids_cons, avoids_byteChars h, hdot, and_self]

theorem ipv4Chars_inj {a b : Nat} (ha : a < 256 ^ 4) (hb : b < 256 ^ 4)
    (h : ipv4Chars a = ipv4Chars b) : a = b := by
  have hdot : ∀ address shift, Avoids (· = '.') (byteChars address shift) :=
    avoids_byteChars (by decide)
  have hbegins : ∀ rest, BeginsIn (· = '.') ('.' :: rest) := beginsIn_cons (by decide)
  have hbyte : ∀ {shift}, byteChars a shift = byteChars b shift →
      a / 2 ^ shift % 256 = b / 2 ^ shift % 256 :=
    fun heq => toDigits_injective (by omega) (by omega) heq
  rw [ipv4Chars_eq, ipv4Chars_eq] at h
  obtain ⟨h24, h⟩ := append_inj_of_avoids (hdot a 24) (hdot b 24) (hbegins _) (hbegins _) h
  obtain ⟨h16, h⟩ := append_inj_of_avoids (hdot a 16) (hdot b 16) (hbegins _) (hbegins _)
    (List.cons.inj h).2
  obtain ⟨h8, h⟩ := append_inj_of_avoids (hdot a 8) (hdot b 8) (hbegins _) (hbegins _)
    (List.cons.inj h).2
  have h0 := hbyte (List.cons.inj h).2
  replace h24 := hbyte h24
  replace h16 := hbyte h16
  replace h8 := hbyte h8
  omega

/-- An IPv4 address looks like one. -/
theorem endsInNumber_ipv4Chars (address : Nat) : endsInNumber (ipv4Chars address) = true := by
  have hdot : ∀ shift, Avoids (fun c => decide (c = '.')) (byteChars address shift) :=
    avoids_byteChars (by decide) address
  have hlabels : labels (ipv4Chars address) = [byteChars address 24, byteChars address 16,
      byteChars address 8, byteChars address 0] := by
    rw [ipv4Chars_eq, labels, pieces_eq_splitOnP,
      List.splitOnP_append_cons_of_forall_mem (hdot 24) '.' rfl,
      List.splitOnP_append_cons_of_forall_mem (hdot 16) '.' rfl,
      List.splitOnP_append_cons_of_forall_mem (hdot 8) '.' rfl, List.splitOnP_eq_singleton (hdot 0)]
  have hne : byteChars address 0 ≠ [] := Nat.toDigits_ne_nil
  have hdigits : (byteChars address 0).all Char.isDigit = true :=
    List.all_eq_true.2 fun c hc => Nat.isDigit_of_mem_toDigits (by omega) (by omega) hc
  unfold endsInNumber dropFinalEmpty
  rw [hlabels]
  simp [hne, hdigits]

/-! ## IPv6 addresses -/

theorem groupChars_cons (group : Nat) (rest : List Nat) :
    groupChars (group :: rest) =
      Nat.toDigits 16 group ++ rest.flatMap fun group => ':' :: Nat.toDigits 16 group := by
  induction rest generalizing group with
  | nil => simp [groupChars]
  | cons next rest ih =>
      have hrest := ih next
      unfold groupChars at hrest ⊢
      rw [List.map_cons, List.map_cons] at *
      rw [List.intercalate_cons_cons, hrest]
      simp

theorem avoids_colon_group (group : Nat) : Avoids (· = ':') (Nat.toDigits 16 group) :=
  avoids_toDigits (by omega) (by omega) (by decide) group

/-- A text that ends a row of groups: none, or a double colon and what follows it. -/
inductive EndsGroups : List Char → Prop where
  | none : EndsGroups []
  | gap (rest : List Char) : EndsGroups (':' :: ':' :: rest)

theorem EndsGroups.beginsIn {text : List Char} (h : EndsGroups text) : BeginsIn (· = ':') text := by
  cases h with
  | none => exact beginsIn_nil _
  | gap rest => exact beginsIn_cons (decide_eq_true rfl) _

/-- A group is not empty, and no colon is a digit of it. -/
theorem group_ne_colon (group : Nat) (rest rest' : List Char) :
    Nat.toDigits 16 group ++ rest ≠ ':' :: rest' := by
  intro h
  obtain ⟨c, digits, hdigits⟩ := List.exists_cons_of_ne_nil (Nat.toDigits_ne_nil (n := group) (b := 16))
  have hcolon := avoids_colon_group group c (hdigits ▸ List.mem_cons_self)
  rw [hdigits, List.cons_append, List.cons.injEq] at h
  rw [h.1] at hcolon
  cases hcolon

theorem EndsGroups.ne_group {text : List Char} (h : EndsGroups text) (group : Nat) (rest : List Char) :
    text ≠ ':' :: (Nat.toDigits 16 group ++ rest) := by
  cases h with
  | none => nofun
  | gap rest' => exact fun heq => group_ne_colon group rest rest' (List.cons.inj heq).2.symm

theorem EndsGroups.ne_first {text : List Char} (h : EndsGroups text) (group : Nat) (rest : List Char) :
    Nat.toDigits 16 group ++ rest ≠ text := by
  cases h with
  | none => exact fun heq => Nat.toDigits_ne_nil (List.append_eq_nil_iff.1 heq).1
  | gap rest' => exact group_ne_colon group rest _

theorem groupChars_append_inj {groups groups' : List Nat} {y y' : List Char} (hy : EndsGroups y)
    (hy' : EndsGroups y') (h : groupChars groups ++ y = groupChars groups' ++ y') :
    groups = groups' ∧ y = y' := by
  have hmore : ∀ (groups : List Nat) {y}, EndsGroups y →
      BeginsIn (· = ':') ((groups.flatMap fun group => ':' :: Nat.toDigits 16 group) ++ y) :=
    fun groups _ hy => beginsIn_flatMap ':' (Nat.toDigits 16) groups hy.beginsIn
  cases groups with
  | nil =>
      cases groups' with
      | nil => exact ⟨rfl, h⟩
      | cons group' rest' =>
          rw [groupChars_cons, List.append_assoc] at h
          exact absurd h.symm (hy.ne_first group' _)
  | cons group rest =>
      cases groups' with
      | nil =>
          rw [groupChars_cons, List.append_assoc] at h
          exact absurd h (hy'.ne_first group _)
      | cons group' rest' =>
          rw [groupChars_cons, groupChars_cons, List.append_assoc, List.append_assoc] at h
          have hinj : Function.Injective (Nat.toDigits 16) :=
            toDigits_injective (by omega) (by omega)
          obtain ⟨hgroup, h⟩ := append_inj_of_avoids (avoids_colon_group group)
            (avoids_colon_group group') (hmore rest hy) (hmore rest' hy') h
          obtain ⟨rfl, hend⟩ := flatMap_append_inj hinj (fun group _ => avoids_colon_group group)
            (fun group _ => avoids_colon_group group) hy.beginsIn hy'.beginsIn hy.ne_group hy'.ne_group h
          exact ⟨by rw [hinj hgroup], hend⟩

theorem replicate_leadingZeros (groups : List Nat) :
    groups = List.replicate (leadingZeros groups) 0 ++ groups.drop (leadingZeros groups) := by
  unfold leadingZeros
  induction groups with
  | nil => rfl
  | cons group rest ih =>
      rw [List.takeWhile_cons]
      split
      · rename_i hzero
        rw [List.length_cons, List.replicate_succ, List.drop_succ_cons, List.cons_append, ← ih,
          of_decide_eq_true hzero]
      · rfl

theorem length_of_longestZeros {groups : List Nat} {start length : Nat}
    (h : longestZeros groups = some (start, length)) : length = leadingZeros (groups.drop start) := by
  have hall : ∀ run, longestZeros groups = some run → run.2 = leadingZeros (groups.drop run.1) := by
    unfold longestZeros
    apply List.foldlRecOn (motive := fun best : Option (Nat × Nat) =>
      ∀ run, best = some run → run.2 = leadingZeros (groups.drop run.1))
    · exact nofun
    · intro best hbest start _ run heq
      dsimp only at heq
      split at heq
      · exact hbest run heq
      · cases heq
        rfl
  exact hall _ h

/-- An address with a gap is the groups in front of it, zeros, and the groups behind it. -/
theorem ipv6Chars_form (groups : List Nat) :
    ipv6Chars groups = groupChars groups ∨
      ∃ front length back, groups = front ++ (List.replicate length 0 ++ back) ∧
        ipv6Chars groups = groupChars front ++ ':' :: ':' :: groupChars back := by
  unfold ipv6Chars
  cases hrun : longestZeros groups with
  | none => exact Or.inl rfl
  | some run =>
      obtain ⟨start, length⟩ := run
      refine Or.inr ⟨groups.take start, length, groups.drop (start + length), ?_, rfl⟩
      have hzeros := replicate_leadingZeros (groups.drop start)
      rw [← length_of_longestZeros hrun, List.drop_drop] at hzeros
      rw [← hzeros, List.take_append_drop]

theorem ipv6Chars_inj {a b : List Nat} (hlength : a.length = b.length)
    (h : ipv6Chars a = ipv6Chars b) : a = b := by
  rcases ipv6Chars_form a with ha | ⟨front, length, back, rfl, ha⟩ <;>
    rcases ipv6Chars_form b with hb | ⟨front', length', back', rfl, hb⟩ <;> rw [ha, hb] at h
  · rw [← List.append_nil (groupChars a), ← List.append_nil (groupChars b)] at h
    exact (groupChars_append_inj .none .none h).1
  · rw [← List.append_nil (groupChars a)] at h
    cases (groupChars_append_inj .none (.gap _) h).2
  · rw [← List.append_nil (groupChars b)] at h
    cases (groupChars_append_inj (.gap _) .none h).2
  · obtain ⟨rfl, hgap⟩ := groupChars_append_inj (.gap _) (.gap _) h
    have hback := (List.cons.inj (List.cons.inj hgap).2).2
    rw [← List.append_nil (groupChars back), ← List.append_nil (groupChars back')] at hback
    obtain ⟨rfl, -⟩ := groupChars_append_inj .none .none hback
    have hzeros : length = length' := by
      simp only [List.length_append, List.length_replicate] at hlength
      omega
    rw [hzeros]

theorem avoids_groupChars {set : Char → Bool} (h : ∀ m < 16, set m.digitChar = false)
    (hcolon : set ':' = false) (groups : List Nat) : Avoids set (groupChars groups) := by
  have hgroup : ∀ group, Avoids set (Nat.toDigits 16 group) := avoids_toDigits (by omega) (by omega) h
  cases groups with
  | nil => exact avoids_nil set
  | cons group rest =>
      rw [groupChars_cons, avoids_append]
      exact ⟨hgroup group, avoids_flatMap fun group _ => avoids_cons.2 ⟨hcolon, hgroup group⟩⟩

theorem avoids_ipv6Chars {set : Char → Bool} (h : ∀ m < 16, set m.digitChar = false)
    (hcolon : set ':' = false) (groups : List Nat) : Avoids set (ipv6Chars groups) := by
  have hgroups := avoids_groupChars h hcolon
  rcases ipv6Chars_form groups with hform | ⟨front, length, back, -, hform⟩ <;> rw [hform]
  · exact hgroups groups
  · simp only [avoids_append, avoids_cons, hgroups, hcolon, and_self]

/-! ## Hosts -/

/-- Only IPv6 addresses have marks in them. -/
theorem Host.WellFormed.avoids_of_ne {kind : SchemeKind} {host : Host} (h : host.WellFormed kind)
    (hne : ∀ groups, host ≠ .ipv6 groups) : Avoids endsName host.chars := by
  cases host with
  | domain name => exact h.1
  | ipv4 address => exact avoids_ipv4Chars (by decide) (by decide) address
  | ipv6 groups => exact absurd rfl (hne groups)

/-- Where an IPv6 address is written no other host is. -/
theorem ipv6_append_ne {kind : SchemeKind} {host : Host} (h : host.WellFormed kind)
    (hne : ∀ groups, host ≠ .ipv6 groups) (groups : List Nat) (y : List Char) {y' : List Char}
    (hy' : BeginsIn (· = ':') y') : (Host.ipv6 groups).chars ++ y ≠ host.chars ++ y' := by
  intro heq
  have hopen : ∀ c ∈ host.chars, c ≠ '[' := by
    rintro c hc rfl
    cases h.avoids_of_ne hne _ hc
  cases hchars : host.chars with
  | nil =>
      rw [hchars] at heq
      cases hy' _ _ heq.symm
  | cons c rest =>
      rw [hchars] at heq hopen
      exact hopen c List.mem_cons_self (List.cons.inj heq).1.symm

theorem host_append_inj {kind : SchemeKind} {host host' : Host} (h : host.WellFormed kind)
    (h' : host'.WellFormed kind) {y y' : List Char} (hy : BeginsIn (· = ':') y)
    (hy' : BeginsIn (· = ':') y') (heq : host.chars ++ y = host'.chars ++ y') :
    host = host' ∧ y = y' := by
  by_cases hipv6 : ∃ groups, host = .ipv6 groups
  · obtain ⟨groups, rfl⟩ := hipv6
    by_cases hipv6' : ∃ groups, host' = .ipv6 groups
    · obtain ⟨groups', rfl⟩ := hipv6'
      have hclose : ∀ groups, Avoids (· = ']') (ipv6Chars groups) :=
        avoids_ipv6Chars (by decide) (by decide)
      have hbegins : ∀ rest, BeginsIn (· = ']') (']' :: rest) := beginsIn_cons (by decide)
      simp only [Host.chars, List.cons_append, List.append_assoc, List.nil_append,
        List.cons.injEq, true_and] at heq
      obtain ⟨hgroups, heq⟩ :=
        append_inj_of_avoids (hclose groups) (hclose groups') (hbegins y) (hbegins y') heq
      have hlength : groups.length = groups'.length := h.trans h'.symm
      exact ⟨congrArg Host.ipv6 (ipv6Chars_inj hlength hgroups), (List.cons.inj heq).2⟩
    · exact absurd heq (ipv6_append_ne h' (not_exists.1 hipv6') groups y hy')
  · by_cases hipv6' : ∃ groups, host' = .ipv6 groups
    · obtain ⟨groups', rfl⟩ := hipv6'
      exact absurd heq.symm (ipv6_append_ne h (not_exists.1 hipv6) groups' y' hy)
    · obtain ⟨hchars, hrest⟩ := append_inj_of_avoids
        ((h.avoids_of_ne (not_exists.1 hipv6)).of_mem (by decide))
        ((h'.avoids_of_ne (not_exists.1 hipv6')).of_mem (by decide)) hy hy' heq
      refine ⟨?_, hrest⟩
      cases host with
      | domain name =>
          cases host' with
          | domain name' => exact congrArg Host.domain hchars
          | ipv4 address' =>
              have hnumber := h.2 h'.1
              rw [show name = ipv4Chars address' from hchars, endsInNumber_ipv4Chars] at hnumber
              cases hnumber
          | ipv6 groups' => exact absurd ⟨groups', rfl⟩ hipv6'
      | ipv4 address =>
          cases host' with
          | domain name' =>
              have hnumber := h'.2 h.1
              rw [← show ipv4Chars address = name' from hchars, endsInNumber_ipv4Chars] at hnumber
              cases hnumber
          | ipv4 address' => exact congrArg Host.ipv4 (ipv4Chars_inj h.2 h'.2 hchars)
          | ipv6 groups' => exact absurd ⟨groups', rfl⟩ hipv6'
      | ipv6 groups => exact absurd ⟨groups, rfl⟩ hipv6

end SubnetRouter.Url
