import SubnetRouter.Proofs.Networks
import SubnetRouter.Proofs.Registry.Loading
import SubnetRouter.Proofs.SubnetId.Ancestry

/-!
# Ids that share a key

The key of an id in a registry is its text.  Which ids share one is said level by level: namespaces
do not count, the number of levels does.

* `text_eq_iff_wireFormsAgree`, `beq_iff_namespacesAgree`: sharing a key, and equality, by levels.
* `text_ne_of_isAncestorOf`: no key is shared along a line of ancestors.
* `sharedKey_iff`: which ids share a key, and what sharing it means for a registry.
-/

namespace SubnetRouter

/-- Lists have the same images when they are equally long and have them place by place. -/
theorem map_eq_map_iff_getElem? {α β : Type} (f : α → β) (l m : List α) :
    l.map f = m.map f ↔ l.length = m.length ∧
      ∀ (i : Nat) (x y : α), l[i]? = some x → m[i]? = some y → f x = f y := by
  constructor
  · intro h
    have hlength := congrArg List.length h
    rw [List.length_map, List.length_map] at hlength
    refine ⟨hlength, fun i x y hx hy => ?_⟩
    have hi : (l.map f)[i]? = (m.map f)[i]? := by rw [h]
    rwa [List.getElem?_map, List.getElem?_map, hx, hy, Option.map_some, Option.map_some,
      Option.some.injEq] at hi
  · rintro ⟨hlength, hsame⟩
    apply List.ext_getElem
    · rw [List.length_map, List.length_map, hlength]
    · intro i hl hm
      rw [List.getElem_map, List.getElem_map]
      exact hsame i _ _ (List.getElem?_eq_getElem _) (List.getElem?_eq_getElem _)

namespace SubnetId

/-- At each level that both ids have, their actors have the same wire form. -/
def WireFormsAgree (a b : SubnetId) : Prop :=
  ∀ (level : Nat) (actor actor' : ActorAddress),
    a.path[level]? = some actor → b.path[level]? = some actor' → actor.buffer = actor'.buffer

/-! ## Levels -/

/-- Ids share a text exactly when their roots, their depths and, level by level, their wire forms
agree. -/
theorem text_eq_iff_wireFormsAgree (a b : SubnetId) :
    a.text = b.text ↔ a.root = b.root ∧ a.depth = b.depth ∧ a.WireFormsAgree b := by
  rw [text_eq_iff, map_eq_map_iff_getElem?]
  rfl

theorem beq_iff_namespacesAgree (a b : SubnetId) :
    (a == b) = true ↔
      a.root = b.root ∧ a.depth = b.depth ∧ a.WireFormsAgree b ∧ a.NamespacesAgree b := by
  rw [beq_iff, map_eq_map_iff_getElem?, map_eq_map_iff_getElem?]
  constructor
  · rintro ⟨hroot, ⟨hdepth, hns⟩, -, hwire⟩
    exact ⟨hroot, hdepth, hwire, hns⟩
  · rintro ⟨hroot, hdepth, hwire, hns⟩
    exact ⟨hroot, ⟨hdepth, hns⟩, hdepth, hwire⟩

variable {a b : SubnetId}

/-- Under the same namespaces a text is shared by equal ids only. -/
theorem text_eq_iff_beq (h : a.NamespacesAgree b) : a.text = b.text ↔ (a == b) = true := by
  rw [text_eq_iff_wireFormsAgree, beq_iff_namespacesAgree]
  simp only [h, and_true]

theorem text_ne_of_isAncestorOf (h : a.isAncestorOf b = true) : a.text ≠ b.text := by
  intro htext
  have hlt := ((isAncestorOf_iff a b).1 h).2.1
  have hdepth := ((text_eq_iff_wireFormsAgree a b).1 htext).2.1
  omega

end SubnetId

namespace Registry

/-- Ids share a text exactly when each finds what is stored for the other. -/
theorem text_eq_iff_forall_getSubnet? (a b : SubnetId) :
    a.text = b.text ↔
      ∀ (r : Registry) (config : SubnetConfig), (r.insert a config).getSubnet? b = some config := by
  constructor
  · intro htext r config
    rw [getSubnet?_insert, if_pos htext]
  · intro h
    by_contra htext
    have hget := h empty Network.calibration.config
    rw [getSubnet?_insert, if_neg htext, getSubnet?, get?_empty] at hget
    cases hget

/-- Two ids share a key exactly when their roots and depths are equal and, level by level, their
wire forms; the one then finds what is stored for the other in any registry.  So equal ids share
a key, ids whose namespaces agree share one only if they are equal, and an id shares none with the
ids above or below it. -/
theorem sharedKey_iff (a b : SubnetId) :
    (a.text = b.text ↔ a.root = b.root ∧ a.depth = b.depth ∧ a.WireFormsAgree b) ∧
    ((a == b) = true → a.text = b.text) ∧
    (a.NamespacesAgree b → (a.text = b.text ↔ (a == b) = true)) ∧
    (a.isAncestorOf b = true ∨ b.isAncestorOf a = true → a.text ≠ b.text) ∧
    (a.text = b.text ↔
      ∀ (r : Registry) (config : SubnetConfig), (r.insert a config).getSubnet? b = some config) := by
  refine ⟨SubnetId.text_eq_iff_wireFormsAgree a b, SubnetId.text_eq_of_beq, SubnetId.text_eq_iff_beq,
    ?_, text_eq_iff_forall_getSubnet? a b⟩
  rintro (habove | hbelow)
  · exact SubnetId.text_ne_of_isAncestorOf habove
  · exact (SubnetId.text_ne_of_isAncestorOf hbelow).symm

end Registry

end SubnetRouter
