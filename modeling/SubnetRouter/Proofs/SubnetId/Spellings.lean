import SubnetRouter.Proofs.SubnetId.RoundTrip

/-!
# Spellings of an id

Texts may spell an id in many ways: a sign or zeros before the root number, hex digits in either
case, with or without `0x`, zero bytes after a payload.  An id that has been read keeps nothing of
its spelling.

* `canonical_of_read`: what is read is canonical.
* `beq_iff_of_read`, `text_eq_iff_of_read`: ids that have been read are equal in every field, or they
  have different texts.
* `spellAlike_iff`: two texts spell one id exactly when their pieces do so one by one.
-/

namespace SubnetRouter

theorem trimmed_append_replicate (bytes : List UInt8) (n : Nat) :
    trimmed (bytes ++ List.replicate n 0) = trimmed bytes := by
  induction n with
  | zero => rw [List.replicate_zero, List.append_nil]
  | succ n ih =>
      rw [List.replicate_succ', ← List.append_assoc, trimmed, List.rdropWhile_concat_pos _ _ _ (by simp)]
      exact ih

theorem ActorAddress.eq_of_ns_payload {a b : ActorAddress} (hns : a.ns = b.ns)
    (hpayload : a.payload = b.payload) : a = b := by
  cases a
  cases b
  cases hns
  cases hpayload
  rfl

namespace SubnetId

open Text

/-- The pieces of two texts between their slashes spell the same root and the same payloads. -/
def SpellAlike (text text' : List Char) : Prop :=
  ∃ first segments first' segments',
    text.splitOn '/' = first :: segments ∧ text'.splitOn '/' = first' :: segments' ∧
    (∃ root, SpellsRoot first root ∧ SpellsRoot first' root) ∧
    List.Forall₂ (fun s s' => ∃ payload, SpellsPayload s payload ∧ SpellsPayload s' payload)
      segments segments'

/-! ## One spelling, one value -/

theorem natural64_spells_unique {text : List Char} {m n : Nat} (hm : Natural64.Spells text m)
    (hn : Natural64.Spells text n) : m = n := by
  obtain ⟨digits, htext, -, hdigits, rfl⟩ := hm
  obtain ⟨digits', htext', -, hdigits', rfl⟩ := hn
  have hsign : Char.isDigit '+' = false := by decide
  rcases htext with rfl | rfl
  · rcases htext' with rfl | rfl
    · rfl
    · rw [hdigits '+' List.mem_cons_self] at hsign
      cases hsign
  · rcases htext' with rfl | htext'
    · have hplus := hdigits' _ List.mem_cons_self
      rw [hplus] at hsign
      cases hsign
    · rw [(List.cons.inj htext').2]

theorem spellsRoot_unique {piece : List Char} {m n : Nat} (hm : SpellsRoot piece m)
    (hn : SpellsRoot piece n) : m = n := by
  obtain ⟨number, rfl, hm⟩ := hm
  obtain ⟨number', heq, hn⟩ := hn
  rw [← (List.cons.inj heq).2] at hn
  exact natural64_spells_unique hm hn

theorem spellsPayload_unique {segment : List Char} {p q : List UInt8}
    (hp : SpellsPayload segment p) (hq : SpellsPayload segment q) : p = q := by
  obtain ⟨-, bytes, hbytes, rfl⟩ := hp
  obtain ⟨-, bytes', hbytes', rfl⟩ := hq
  rw [← Hex.decodeText_eq_ok_iff] at hbytes hbytes'
  rw [hbytes, Except.ok.injEq] at hbytes'
  rw [hbytes']

/-! ## What is read is canonical -/

theorem canonical_of_spellsActor {segment : List Char} {actor : ActorAddress}
    (h : SpellsActor segment actor) : actor.canonical = actor := by
  obtain ⟨hns, -, bytes, -, hpayload⟩ := h
  apply ActorAddress.eq_of_ns_payload hns.symm
  change trimmed actor.buffer = actor.payload
  rw [ActorAddress.buffer, trimmed_append_replicate, ← hpayload]
  exact List.rdropWhile_idempotent _ _

theorem canonical_of_read {text : String} {id : SubnetId} (h : read text = .ok id) :
    id.canonical = id := by
  obtain ⟨first, segments, -, -, hpath⟩ := (read_eq_ok_iff text id).1 h
  have hactors : ∀ actor ∈ id.path, actor.canonical = actor := by
    intro actor hmem
    obtain ⟨k, hk, rfl⟩ := List.getElem_of_mem hmem
    have hk' : k < segments.length := hpath.length_eq ▸ hk
    exact canonical_of_spellsActor (hpath.get hk' hk)
  have hmap : id.path.map ActorAddress.canonical = id.path := by
    rw [List.map_congr_left hactors, List.map_id']
  rw [canonical, hmap]

theorem text_eq_iff_of_read {text text' : String} {a b : SubnetId} (ha : read text = .ok a)
    (hb : read text' = .ok b) : a.text = b.text ↔ a = b := by
  constructor
  · intro h
    have hread := read_text a
    rw [h, read_text b, Except.ok.injEq, canonical_of_read ha, canonical_of_read hb] at hread
    exact hread.symm
  · rintro rfl
    rfl

theorem beq_iff_of_read {text text' : String} {a b : SubnetId} (ha : read text = .ok a)
    (hb : read text' = .ok b) : (a == b) = true ↔ a = b := by
  constructor
  · intro h
    exact (text_eq_iff_of_read ha hb).1 (text_eq_of_beq h)
  · rintro rfl
    exact BEq.refl a

/-! ## Two spellings -/

theorem path_eq_of_spellAlike {segments segments' : List (List Char)}
    {path path' : List ActorAddress} (h : List.Forall₂ SpellsActor segments path)
    (h' : List.Forall₂ SpellsActor segments' path')
    (hsame : List.Forall₂ (fun s s' => ∃ payload, SpellsPayload s payload ∧ SpellsPayload s' payload)
      segments segments') : path = path' := by
  induction h generalizing segments' path' with
  | nil =>
      cases hsame
      cases h'
      rfl
  | cons hactor hrest ih =>
      cases hsame with
      | cons hpayload hsame =>
          cases h' with
          | cons hactor' hrest' =>
              obtain ⟨payload, hp, hp'⟩ := hpayload
              have heq := ActorAddress.eq_of_ns_payload (hactor.1.trans hactor'.1.symm)
                ((spellsPayload_unique hactor.2 hp).trans (spellsPayload_unique hp' hactor'.2))
              rw [heq, ih hrest' hsame]

theorem spellAlike_of_spells {segments segments' : List (List Char)} {path : List ActorAddress}
    (h : List.Forall₂ SpellsActor segments path) (h' : List.Forall₂ SpellsActor segments' path) :
    List.Forall₂ (fun s s' => ∃ payload, SpellsPayload s payload ∧ SpellsPayload s' payload)
      segments segments' := by
  induction h generalizing segments' with
  | nil =>
      cases h'
      exact .nil
  | cons hactor hrest ih =>
      cases h' with
      | cons hactor' hrest' => exact .cons ⟨_, hactor.2, hactor'.2⟩ (ih hrest')

theorem spellAlike_iff {text text' : String} {a b : SubnetId} (ha : read text = .ok a)
    (hb : read text' = .ok b) : SpellAlike text.toList text'.toList ↔ a = b := by
  obtain ⟨first, segments, hsplit, hroot, hpath⟩ := (read_eq_ok_iff text a).1 ha
  obtain ⟨first', segments', hsplit', hroot', hpath'⟩ := (read_eq_ok_iff text' b).1 hb
  constructor
  · rintro ⟨f, s, f', s', hs, hs', ⟨root, hr, hr'⟩, hsame⟩
    rw [hsplit, List.cons.injEq] at hs
    rw [hsplit', List.cons.injEq] at hs'
    obtain ⟨rfl, rfl⟩ := hs
    obtain ⟨rfl, rfl⟩ := hs'
    have hroots : a.root = b.root := by
      rw [← UInt64.toNat_inj]
      exact (spellsRoot_unique hroot hr).trans (spellsRoot_unique hr' hroot')
    have hpaths := path_eq_of_spellAlike hpath hpath' hsame
    cases a
    cases b
    cases hroots
    cases hpaths
    rfl
  · rintro rfl
    exact ⟨first, segments, first', segments', hsplit, hsplit', ⟨_, hroot, hroot'⟩,
      spellAlike_of_spells hpath hpath'⟩

end SubnetId

end SubnetRouter
