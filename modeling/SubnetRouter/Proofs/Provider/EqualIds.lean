import SubnetRouter.Proofs.SubnetId.Ancestry
import SubnetRouter.Proofs.SubnetId.Hashing
import SubnetRouter.Provider

/-!
# Equal ids behave alike

Equal addresses may have payloads of different lengths, so equal ids need not be the same.  Nothing
but that length tells them apart: every question about ids has the same answer, or equal ones.

* `parents_of_beq`, `actorsAlike_of_beq`, `child_beq_child`: going up and down.
* `resolveAlike_of_text_eq`: what resolving gives.
* `beq_congruence`: equality is an equivalence, that of feeds, and a congruence.
-/

namespace SubnetRouter

theorem option_rel_of_map_eq {α β : Type} {f : α → β} {o o' : Option α} (h : o.map f = o'.map f) :
    Option.Rel (fun x y => f x = f y) o o' := by
  cases o with
  | none =>
      rw [Option.map_none, eq_comm, Option.map_eq_none_iff] at h
      rw [h]
      exact .none
  | some x =>
      obtain ⟨y, rfl, hy⟩ := Option.map_eq_some_iff.1 h.symm
      exact .some hy.symm

/-- Resolving two ids gives connections that differ at most in the ids and their senders, or the
same fault for each. -/
inductive ResolveAlike (a b : SubnetId) :
    Except RouterFault Connection → Except RouterFault Connection → Prop where
  | connected {c d : Connection} : c.subnet = a → d.subnet = b → c.endpoint = d.endpoint →
    c.gateway = d.gateway → c.registry = d.registry → c.authToken = d.authToken →
    ResolveAlike a b (.ok c) (.ok d)
  | notConfigured : ResolveAlike a b (.error (.notConfigured a)) (.error (.notConfigured b))
  | incomplete (field : MissingField) :
    ResolveAlike a b (.error (.incomplete a field)) (.error (.incomplete b field))

/-- Both ids have no actor, or they have equal ones with one text. -/
inductive ActorsAlike :
    Except SubnetId.Fault ActorAddress → Except SubnetId.Fault ActorAddress → Prop where
  | noActor : ActorsAlike (.error .noActor) (.error .noActor)
  | actor {x y : ActorAddress} : (x == y) = true → x.ethereumText = y.ethereumText →
    ActorsAlike (.ok x) (.ok y)

namespace SubnetId

/-- What can be asked of one id has the same answer for both, or equal ones. -/
structure BehaveAlike (a b : SubnetId) : Prop where
  text_eq : a.text = b.text
  hash_eq : hash a = hash b
  root_eq : a.root = b.root
  isRoot_eq : a.isRoot = b.isRoot
  depth_eq : a.depth = b.depth
  parents : Option.Rel (fun p q => (p == q) = true) a.parent? b.parent?
  actors : ActorsAlike a.actor b.actor
  actorText_eq : a.actorText = b.actorText
  getSubnet?_eq : ∀ r : Registry, r.getSubnet? a = r.getSubnet? b
  resolve : ∀ (r : Registry) (senders : Option SenderSource),
    ResolveAlike a b (r.resolve senders a) (r.resolve senders b)

variable {a b : SubnetId}

/-! ## Going up and down -/

theorem isRoot_eq_of_beq (h : (a == b) = true) : a.isRoot = b.isRoot := by
  have hdepth := depth_eq_of_beq h
  unfold depth at hdepth
  rw [isRoot, isRoot, Bool.eq_iff_iff, List.isEmpty_iff_length_eq_zero,
    List.isEmpty_iff_length_eq_zero, hdepth]

theorem parents_of_beq (h : (a == b) = true) :
    Option.Rel (fun p q => (p == q) = true) a.parent? b.parent? := by
  have hisRoot := isRoot_eq_of_beq h
  obtain ⟨hroot, hlevels⟩ := (beq_iff_levels a b).1 h
  unfold isRoot at hisRoot
  unfold parent?
  rw [hisRoot]
  split
  · exact .none
  · refine .some ((beq_iff_levels _ _).2 ⟨hroot, ?_⟩)
    unfold levels at hlevels ⊢
    rw [List.map_dropLast, List.map_dropLast, hlevels]

theorem ethereumText_eq_of_beq {x y : ActorAddress} (h : (x == y) = true) :
    x.ethereumText = y.ethereumText := by
  rw [ActorAddress.beq_iff_identity_eq, ActorAddress.identity, ActorAddress.identity,
    Prod.mk.injEq] at h
  rw [ActorAddress.ethereumText, ActorAddress.ethereumText, ActorAddress.ethereumChars,
    ActorAddress.ethereumChars, h.2]

theorem actorsAlike_of_beq (h : (a == b) = true) : ActorsAlike a.actor b.actor := by
  have hlast : a.actor?.map ActorAddress.identity = b.actor?.map ActorAddress.identity := by
    have hlevels := ((beq_iff_levels a b).1 h).2
    unfold actor?
    rw [← List.getLast?_map, ← List.getLast?_map]
    exact congrArg List.getLast? hlevels
  have hrel := option_rel_of_map_eq hlast
  unfold actor
  generalize a.actor? = first, b.actor? = second at hrel
  cases hrel with
  | none => exact .noActor
  | some hidentity =>
      have hbeq := (ActorAddress.beq_iff_identity_eq _ _).2 hidentity
      exact .actor hbeq (ethereumText_eq_of_beq hbeq)

theorem actorText_eq_of_beq (h : (a == b) = true) : a.actorText = b.actorText := by
  have hactors := actorsAlike_of_beq h
  unfold actorText
  generalize a.actor = first, b.actor = second at hactors
  cases hactors with
  | noActor => rfl
  | actor _ htext => rw [Except.map, Except.map, htext]

theorem child_beq_child {x y : ActorAddress} (h : (a == b) = true) (hxy : (x == y) = true) :
    (a.child x == b.child y) = true := by
  obtain ⟨hroot, hlevels⟩ := (beq_iff_levels a b).1 h
  rw [ActorAddress.beq_iff_identity_eq] at hxy
  refine (beq_iff_levels _ _).2 ⟨hroot, ?_⟩
  unfold levels at hlevels ⊢
  rw [child, child, List.map_append, List.map_append, hlevels, List.map_singleton,
    List.map_singleton, hxy]

/-! ## Registries -/

theorem getSubnet?_eq_of_text_eq (h : a.text = b.text) (r : Registry) :
    r.getSubnet? a = r.getSubnet? b := by
  rw [Registry.getSubnet?, Registry.getSubnet?, h]

/-- Resolving looks at the text only, and hands the id on. -/
theorem resolveAlike_of_text_eq (h : a.text = b.text) (r : Registry)
    (senders : Option SenderSource) : ResolveAlike a b (r.resolve senders a) (r.resolve senders b) := by
  unfold Registry.resolve
  rw [h]
  split
  · exact .notConfigured
  · split
    · exact .incomplete .gateway
    · exact .connected rfl rfl rfl rfl rfl rfl

/-! ## Congruence -/

theorem behaveAlike_of_beq (h : (a == b) = true) : a.BehaveAlike b where
  text_eq := text_eq_of_beq h
  hash_eq := hash_eq h
  root_eq := ((beq_iff_levels a b).1 h).1
  isRoot_eq := isRoot_eq_of_beq h
  depth_eq := depth_eq_of_beq h
  parents := parents_of_beq h
  actors := actorsAlike_of_beq h
  actorText_eq := actorText_eq_of_beq h
  getSubnet?_eq := getSubnet?_eq_of_text_eq (text_eq_of_beq h)
  resolve := resolveAlike_of_text_eq (text_eq_of_beq h)

/-- Equality of ids and of addresses is an equivalence.  Values are equal exactly when a hasher is
given the same of them.  Equal ids behave alike; so do equal addresses below them, and equal ids on
both sides of ancestry. -/
theorem beq_congruence :
    Equivalence (fun a b : SubnetId => (a == b) = true) ∧
    Equivalence (fun x y : ActorAddress => (x == y) = true) ∧
    (∀ a b : SubnetId, (a == b) = true ↔ a.feed = b.feed) ∧
    (∀ x y : ActorAddress, (x == y) = true ↔ x.feed = y.feed) ∧
    ∀ (a b c d : SubnetId) (x y : ActorAddress),
      (a == b) = true → (c == d) = true → (x == y) = true →
      a.BehaveAlike b ∧ (a.child x == b.child y) = true ∧ a.isAncestorOf c = b.isAncestorOf d := by
  refine ⟨⟨BEq.refl, BEq.symm, BEq.trans⟩, ⟨BEq.refl, BEq.symm, BEq.trans⟩, beq_iff_feed_eq,
    ActorAddress.beq_iff_feed_eq, ?_⟩
  intro a b c d x y hab hcd hxy
  exact ⟨behaveAlike_of_beq hab, child_beq_child hab hxy, isAncestorOf_congr hab hcd⟩

/-- A zero byte at the end of a payload makes another id, which is equal and behaves alike. -/
theorem beq_congruence_padded :
    let short : ActorAddress := ⟨10, [1, 2], by decide⟩
    let padded : ActorAddress := ⟨10, [1, 2, 0], by decide⟩
    let a : SubnetId := ⟨1, [short]⟩
    let b : SubnetId := ⟨1, [padded]⟩
    a ≠ b ∧ (a == b) = true ∧ a.BehaveAlike b ∧ (a.child short == b.child padded) = true ∧
      (ofRoot 1).isAncestorOf a = (ofRoot 1).isAncestorOf b := by
  intro short padded a b
  have haddress : (short == padded) = true := by decide +kernel
  have hbeq : (a == b) = true := by decide +kernel
  obtain ⟨-, -, -, -, hcongr⟩ := beq_congruence
  have hroot : (ofRoot 1 == ofRoot 1) = true := by decide
  exact ⟨by decide, hbeq, (hcongr a b a b short padded hbeq hbeq haddress).1,
    (hcongr a b a b short padded hbeq hbeq haddress).2.1,
    (hcongr _ _ a b short padded hroot hbeq haddress).2.2⟩

end SubnetId

end SubnetRouter
