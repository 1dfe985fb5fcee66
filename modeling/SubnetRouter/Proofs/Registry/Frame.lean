import SubnetRouter.Proofs.Networks
import SubnetRouter.Proofs.Registry.Lookup
import SubnetRouter.Proofs.SubnetId.RoundTrip

/-!
# What a store leaves alone

Entries lie under the texts of ids, and a text does not show the namespaces of addresses.  So ids
that are not equal may share an entry: *namespace twins*, which differ in nothing but namespaces.

* `text_eq_iff_beq_or_namespaceTwin`: sharing a text is being equal or being twins.
* `insert_frame_iff`: storing for one id leaves another alone unless they are twins.
-/

namespace SubnetRouter

/-- The ids have the same root and wire forms, but not the same namespaces. -/
structure SubnetId.NamespaceTwin (a b : SubnetId) : Prop where
  root_eq : a.root = b.root
  buffers_eq : a.path.map ActorAddress.buffer = b.path.map ActorAddress.buffer
  namespaces_ne : a.path.map ActorAddress.ns ≠ b.path.map ActorAddress.ns

namespace SubnetId

theorem text_eq_iff_beq_or_namespaceTwin (a b : SubnetId) :
    a.text = b.text ↔ (a == b) = true ∨ a.NamespaceTwin b := by
  rw [text_eq_iff, beq_iff]
  constructor
  · intro h
    obtain ⟨hroot, hbuffers⟩ := h
    by_cases hns : a.path.map ActorAddress.ns = b.path.map ActorAddress.ns
    · exact Or.inl ⟨hroot, hns, hbuffers⟩
    · exact Or.inr ⟨hroot, hbuffers, hns⟩
  · rintro (⟨hroot, -, hbuffers⟩ | htwin)
    · exact ⟨hroot, hbuffers⟩
    · exact ⟨htwin.root_eq, htwin.buffers_eq⟩

theorem text_eq_iff_namespaceTwin {a b : SubnetId} (h : (a == b) = false) :
    a.text = b.text ↔ a.NamespaceTwin b := by
  rw [text_eq_iff_beq_or_namespaceTwin, h]
  simp only [Bool.false_eq_true, false_or]

end SubnetId

namespace Registry

theorem getSubnet?_insert_eq_self_iff (r : Registry) (a b : SubnetId) (config : SubnetConfig) :
    (r.insert a config).getSubnet? b = r.getSubnet? b ↔
      a.text ≠ b.text ∨ r.getSubnet? b = some config := by
  rw [getSubnet?_insert]
  by_cases htext : a.text = b.text
  · rw [if_pos htext]
    simp only [htext, ne_eq, not_true_eq_false, false_or]
    exact eq_comm
  · rw [if_neg htext]
    simp only [ne_eq, htext, not_false_eq_true, true_or]

theorem resolve_insertEach_of_text_ne (r : Registry) (senders : Option SenderSource)
    {a b : SubnetId} (h : a.text ≠ b.text) (config : SubnetConfig)
    (before after : List (SubnetId × SubnetConfig)) :
    (r.insertEach (before ++ (a, config) :: after)).resolve senders b =
      (r.insertEach (before ++ after)).resolve senders b := by
  apply resolve_congr
  unfold getSubnet?
  rw [get?_insertEach, get?_insertEach, lastStored?_append_cons_of_ne h]

/-- Storing the configuration of `a` leaves another id `b` alone exactly when they are no twins or
the same configuration was there before.  When they are no twins, no store for `a` in a run of
stores makes a difference to resolving `b`; when they are, `b` is resolved by what is stored for
`a`. -/
theorem insert_frame_iff (r : Registry) (senders : Option SenderSource) (a b : SubnetId)
    (config : SubnetConfig) (h : (a == b) = false) :
    ((r.insert a config).getSubnet? b = r.getSubnet? b ↔
      ¬ a.NamespaceTwin b ∨ r.getSubnet? b = some config) ∧
    (¬ a.NamespaceTwin b → ∀ before after : List (SubnetId × SubnetConfig),
      (r.insertEach (before ++ (a, config) :: after)).resolve senders b =
        (r.insertEach (before ++ after)).resolve senders b) ∧
    (a.NamespaceTwin b →
      (r.insert a config).getSubnet? b = some config ∧
      (r.insert a config).resolve senders b = (empty.insert b config).resolve senders b) := by
  have htext : a.text = b.text ↔ a.NamespaceTwin b := SubnetId.text_eq_iff_namespaceTwin h
  refine ⟨?_, ?_, ?_⟩
  · rw [getSubnet?_insert_eq_self_iff, ← htext]
  · intro htwin before after
    apply resolve_insertEach_of_text_ne
    rwa [← htext] at htwin
  · intro htwin
    have hstored : (r.insert a config).getSubnet? b = some config := by
      rw [getSubnet?_insert, if_pos (htext.2 htwin)]
    refine ⟨hstored, ?_⟩
    apply resolve_congr
    rw [hstored, getSubnet?_insert, if_pos rfl]

/-- A child of the chain 1 whose actor has the namespace of addresses in ids. -/
def ethereumChild : SubnetId :=
  (SubnetId.ofRoot 1).child ⟨10, [1], by decide⟩

/-- The child whose actor has the same payload under another namespace. -/
def foreignChild : SubnetId :=
  (SubnetId.ofRoot 1).child ⟨11, [1], by decide⟩

theorem insert_foreignChild :
    (foreignChild == ethereumChild) = false ∧
    empty.getSubnet? ethereumChild = none ∧
    (empty.insert foreignChild Network.calibration.config).getSubnet? ethereumChild =
      some Network.calibration.config := by
  have htext : foreignChild.text = ethereumChild.text := by
    rw [SubnetId.text_eq_iff]
    decide
  refine ⟨by decide, ?_, ?_⟩
  · unfold getSubnet? get? empty
    exact Std.ExtTreeMap.getElem?_empty
  · rw [getSubnet?_insert, if_pos htext]

theorem insert_frame_iff_foreignChild :
    (foreignChild == ethereumChild) = false ∧
    (empty.insert foreignChild Network.calibration.config).resolve none ethereumChild =
      (empty.insert ethereumChild Network.calibration.config).resolve none ethereumChild := by
  have hne : (foreignChild == ethereumChild) = false := by decide
  have htwin : foreignChild.NamespaceTwin ethereumChild := ⟨by decide, by decide, by decide⟩
  have hframe := insert_frame_iff empty none foreignChild ethereumChild
    Network.calibration.config hne
  exact ⟨hne, (hframe.2.2 htwin).2⟩

end Registry

end SubnetRouter
