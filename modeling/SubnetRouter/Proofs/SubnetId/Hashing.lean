import SubnetRouter.Proofs.SubnetId.Equality

/-!
# Hashing of ids

What a hasher is given of an address or an id is exactly what equality compares, and it says itself
where it ends: it can be told from whatever a hasher is given after it.

* `ActorAddress.feed_append_eq_iff`, `SubnetId.feed_append_eq_iff`: a feed ends by itself.
* `ActorAddress.beq_iff_feed_eq`, `SubnetId.beq_iff_feed_eq`: equality is that of feeds.
-/

namespace SubnetRouter

variable (rest rest' : List HashWrite)

namespace ActorAddress

theorem feed_append_eq_iff (a b : ActorAddress) :
    a.feed ++ rest = b.feed ++ rest' ↔ (a == b) = true ∧ rest = rest' := by
  rw [beq_iff_identity_eq]
  simp only [feed, identity, List.cons_append, List.nil_append, List.cons.injEq,
    HashWrite.number.injEq, HashWrite.bytes.injEq, true_and, Prod.mk.injEq, and_assoc]

theorem beq_iff_feed_eq (a b : ActorAddress) : (a == b) = true ↔ a.feed = b.feed := by
  have h := feed_append_eq_iff [] [] a b
  rw [List.append_nil, List.append_nil] at h
  simp only [h, and_true]

instance : LawfulHashable ActorAddress where
  hash_eq a b h := by
    change hash a.feed = hash b.feed
    rw [(beq_iff_feed_eq a b).1 h]

end ActorAddress

namespace SubnetId

/-- As many actors on both sides are taken off one by one. -/
theorem flatMap_feed_append_eq_iff (l m : List ActorAddress) (hlength : l.length = m.length) :
    l.flatMap ActorAddress.feed ++ rest = m.flatMap ActorAddress.feed ++ rest' ↔
      (l == m) = true ∧ rest = rest' := by
  induction l generalizing m with
  | nil =>
      rw [List.length_nil, eq_comm, List.length_eq_zero_iff] at hlength
      subst hlength
      simp
  | cons a l ih =>
      cases m with
      | nil => cases hlength
      | cons b m =>
          rw [List.flatMap_cons, List.flatMap_cons, List.append_assoc, List.append_assoc,
            ActorAddress.feed_append_eq_iff, ih m (Nat.succ.inj hlength), List.cons_beq_cons,
            Bool.and_eq_true, and_assoc]

/-- The number of levels stands before the actors, so the last of them is known. -/
theorem feed_append_eq_iff (a b : SubnetId) :
    a.feed ++ rest = b.feed ++ rest' ↔ (a == b) = true ∧ rest = rest' := by
  simp only [feed, List.cons_append, List.cons.injEq, HashWrite.number.injEq,
    HashWrite.length.injEq]
  constructor
  · rintro ⟨hroot, hdepth, hfeeds⟩
    obtain ⟨hpath, hrest⟩ := (flatMap_feed_append_eq_iff rest rest' a.path b.path hdepth).1 hfeeds
    exact ⟨(beq_iff_root_path a b).2 ⟨hroot, hpath⟩, hrest⟩
  · rintro ⟨hbeq, hrest⟩
    obtain ⟨hroot, hpath⟩ := (beq_iff_root_path a b).1 hbeq
    have hdepth : a.depth = b.depth := length_eq_of_path_beq hpath
    exact ⟨hroot, hdepth, (flatMap_feed_append_eq_iff rest rest' _ _ hdepth).2 ⟨hpath, hrest⟩⟩

theorem beq_iff_feed_eq (a b : SubnetId) : (a == b) = true ↔ a.feed = b.feed := by
  have h := feed_append_eq_iff [] [] a b
  rw [List.append_nil, List.append_nil] at h
  simp only [h, and_true]

instance : LawfulHashable SubnetId where
  hash_eq a b h := by
    change hash a.feed = hash b.feed
    rw [(beq_iff_feed_eq a b).1 h]

end SubnetId

end SubnetRouter
