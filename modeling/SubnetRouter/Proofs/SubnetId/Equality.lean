import SubnetRouter.SubnetId.Basic
import Mathlib.Data.List.Basic

/-!
# Equality of ids

Ids are equal when they have the same root and, level by level, the same namespaces and wire
forms.  Equality is an equivalence that is coarser than being the same.
-/

namespace SubnetRouter

/-- Equality of what equality compares is an equivalence. -/
theorem equivBEq_of_iff {α β : Type} [BEq α] (f : α → β)
    (h : ∀ a b : α, (a == b) = true ↔ f a = f b) : EquivBEq α where
  rfl {a} := (h a a).2 rfl
  symm {a b} hab := (h b a).2 ((h a b).1 hab).symm
  trans {a b c} hab hbc := (h a c).2 (((h a b).1 hab).trans ((h b c).1 hbc))

instance : EquivBEq ActorAddress :=
  equivBEq_of_iff ActorAddress.identity ActorAddress.beq_iff_identity_eq

namespace SubnetId

theorem path_beq_iff (l m : List ActorAddress) :
    (l == m) = true ↔ l.map ActorAddress.identity = m.map ActorAddress.identity := by
  induction l generalizing m with
  | nil =>
      cases m with
      | nil => simp
      | cons b m => simp
  | cons a l ih =>
      cases m with
      | nil => simp
      | cons b m =>
          rw [List.cons_beq_cons, Bool.and_eq_true, ActorAddress.beq_iff_identity_eq, ih,
            List.map_cons, List.map_cons, List.cons.injEq]

theorem map_identity_eq_iff (l m : List ActorAddress) :
    l.map ActorAddress.identity = m.map ActorAddress.identity ↔
      l.map ActorAddress.ns = m.map ActorAddress.ns ∧
        l.map ActorAddress.buffer = m.map ActorAddress.buffer := by
  induction l generalizing m with
  | nil =>
      cases m with
      | nil => simp
      | cons b m => simp
  | cons a l ih =>
      cases m with
      | nil => simp
      | cons b m =>
          simp only [List.map_cons, List.cons.injEq, ih, ActorAddress.identity, Prod.mk.injEq]
          constructor
          · intro h
            obtain ⟨⟨hns, hbuffer⟩, hnss, hbuffers⟩ := h
            exact ⟨⟨hns, hnss⟩, hbuffer, hbuffers⟩
          · intro h
            obtain ⟨⟨hns, hnss⟩, hbuffer, hbuffers⟩ := h
            exact ⟨⟨hns, hbuffer⟩, hnss, hbuffers⟩

theorem length_eq_of_path_beq {l m : List ActorAddress} (h : (l == m) = true) :
    l.length = m.length := by
  have hlength := congrArg List.length ((path_beq_iff l m).1 h)
  rwa [List.length_map, List.length_map] at hlength

theorem beq_iff_root_path (a b : SubnetId) :
    (a == b) = true ↔ a.root = b.root ∧ (a.path == b.path) = true := by
  change (a.root == b.root && a.path == b.path) = true ↔ _
  rw [Bool.and_eq_true, beq_iff_eq]

theorem beq_iff (a b : SubnetId) :
    (a == b) = true ↔ a.root = b.root ∧ a.path.map ActorAddress.ns = b.path.map ActorAddress.ns ∧
      a.path.map ActorAddress.buffer = b.path.map ActorAddress.buffer := by
  rw [beq_iff_root_path, path_beq_iff, map_identity_eq_iff]

theorem foldl_child (id : SubnetId) (actors : List ActorAddress) :
    actors.foldl child id = ⟨id.root, id.path ++ actors⟩ := by
  induction actors generalizing id with
  | nil =>
      rw [List.foldl_nil, List.append_nil]
  | cons actor rest ih =>
      rw [List.foldl_cons, ih, child, List.append_assoc]
      rfl

theorem beq_iff_identity_eq (a b : SubnetId) : (a == b) = true ↔ a.identity = b.identity := by
  simp only [identity, Prod.mk.injEq]
  constructor
  · intro h
    obtain ⟨hroot, hpath⟩ := (beq_iff_root_path a b).1 h
    exact ⟨hroot, length_eq_of_path_beq hpath, (path_beq_iff _ _).1 hpath⟩
  · rintro ⟨hroot, -, hpath⟩
    exact (beq_iff_root_path a b).2 ⟨hroot, (path_beq_iff _ _).2 hpath⟩

instance : EquivBEq SubnetId :=
  equivBEq_of_iff identity beq_iff_identity_eq

/-- Every id is built from its root by adding its actors one below the other. -/
theorem foldl_child_ofRoot (id : SubnetId) : id.path.foldl child (ofRoot id.root) = id := by
  rw [foldl_child]
  rfl

end SubnetId

end SubnetRouter
