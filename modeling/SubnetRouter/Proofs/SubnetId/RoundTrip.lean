import SubnetRouter.Config.Json
import SubnetRouter.Document.Decode
import SubnetRouter.Proofs.SubnetId.Equality
import SubnetRouter.Proofs.SubnetId.Grammar

/-!
# Texts of ids read back

A text shows the root and the wire forms of an id and nothing else.  Reading it gives the
*canonical* id with that root and those wire forms: namespaces and zero bytes at the end of
payloads are forgotten.

* `read_text`: the text of an id is read as its canonical id.
* `text_eq_iff`: which ids share a text.
* `exists_read_text`: what reading a text back keeps of the id.
-/

namespace SubnetRouter.SubnetId

open Text

def canonical (id : SubnetId) : SubnetId :=
  ⟨id.root, id.path.map ActorAddress.canonical⟩

/-- The text is read as an id whose text it is. -/
def IsCanonical (key : String) : Prop :=
  ∃ id, SubnetId.read key = .ok id ∧ id.text = key

/-! ## Pieces of a text -/

theorem not_mem_root {mark : Char} (hletter : mark ≠ 'r') (hdigit : mark.isDigit = false)
    (root : UInt64) : mark ∉ 'r' :: Natural64.write root := by
  rw [List.mem_cons, not_or]
  refine ⟨hletter, fun hmem => ?_⟩
  rw [Natural64.isDigit_of_mem_write hmem] at hdigit
  cases hdigit

theorem not_mem_ethereumChars {mark : Char} (hletter : mark ≠ 'x') (hdigit : mark ∉ Hex.digits)
    (actor : ActorAddress) : mark ∉ actor.ethereumChars := by
  have hzero : '0' ∈ Hex.digits := by decide
  rw [ActorAddress.ethereumChars, List.mem_cons, List.mem_cons, not_or, not_or]
  refine ⟨fun heq => ?_, hletter, fun hmem => hdigit (Hex.mem_digits_of_mem_encode hmem)⟩
  rw [heq] at hdigit
  exact hdigit hzero

theorem slash_not_mem_root (root : UInt64) : '/' ∉ 'r' :: Natural64.write root :=
  not_mem_root (by decide) (by decide) root

theorem slash_not_mem_ethereumChars (actor : ActorAddress) : '/' ∉ actor.ethereumChars :=
  not_mem_ethereumChars (by decide) (by decide) actor

theorem splitOn_append_flatMap (mark : Char) (first : List Char) (segments : List (List Char))
    (hfirst : mark ∉ first) (hsegments : ∀ segment ∈ segments, mark ∉ segment) :
    (first ++ segments.flatMap (mark :: ·)).splitOn mark = first :: segments := by
  induction segments generalizing first with
  | nil =>
      rw [List.flatMap_nil, List.append_nil, List.splitOn_eq_singleton hfirst]
  | cons segment rest ih =>
      rw [List.forall_mem_cons] at hsegments
      rw [List.flatMap_cons, List.cons_append,
        List.splitOn_append_cons_self_of_not_mem hfirst, ih segment hsegments.1 hsegments.2]

theorem splitOn_chars (id : SubnetId) :
    id.chars.splitOn '/' =
      ('r' :: Natural64.write id.root) :: id.path.map ActorAddress.ethereumChars := by
  have hpath : (id.path.flatMap fun actor => '/' :: actor.ethereumChars) =
      (id.path.map ActorAddress.ethereumChars).flatMap ('/' :: ·) := by
    rw [List.flatMap_map]
  rw [chars, hpath]
  apply splitOn_append_flatMap '/' _ _ (slash_not_mem_root id.root)
  intro segment hmem
  obtain ⟨actor, -, rfl⟩ := List.mem_map.1 hmem
  exact slash_not_mem_ethereumChars actor

theorem spellsActor_ethereumChars (actor : ActorAddress) :
    SpellsActor actor.ethereumChars actor.canonical := by
  have hunmarked : unmarked actor.ethereumChars = Hex.encode actor.buffer := by
    rw [unmarked, if_pos ⟨Hex.encode actor.buffer, rfl⟩]
    rfl
  refine ⟨rfl, List.cons_ne_nil _ _, actor.buffer, ?_, rfl⟩
  rw [hunmarked]
  exact Hex.spells_encode actor.buffer

/-! ## Reading back -/

theorem spells_text (id : SubnetId) : Spells id.text.toList id.canonical := by
  rw [text, String.toList_ofList]
  refine ⟨_, _, splitOn_chars id, ⟨_, rfl, Natural64.spells_write id.root⟩, ?_⟩
  rw [canonical, List.forall₂_map_left_iff, List.forall₂_map_right_iff, List.forall₂_same]
  exact fun actor _ => spellsActor_ethereumChars actor

theorem read_text (id : SubnetId) : read id.text = .ok id.canonical :=
  (read_eq_ok_iff id.text id.canonical).2 (spells_text id)

theorem map_buffer_canonical (id : SubnetId) :
    id.canonical.path.map ActorAddress.buffer = id.path.map ActorAddress.buffer := by
  rw [canonical, List.map_map]
  exact List.map_congr_left fun actor _ => actor.buffer_canonical

theorem chars_eq (id : SubnetId) :
    id.chars = 'r' :: Natural64.write id.root ++
      (id.path.map ActorAddress.buffer).flatMap fun bytes => '/' :: '0' :: 'x' :: Hex.encode bytes := by
  rw [chars, List.flatMap_map]
  rfl

/-- Ids share a text exactly when their roots and, level by level, their wire forms agree. -/
theorem text_eq_iff (a b : SubnetId) :
    a.text = b.text ↔
      a.root = b.root ∧ a.path.map ActorAddress.buffer = b.path.map ActorAddress.buffer := by
  constructor
  · intro h
    have hcanonical : a.canonical = b.canonical := by
      have hread := read_text a
      rw [h, read_text b, Except.ok.injEq] at hread
      exact hread.symm
    have hroot : a.canonical.root = b.canonical.root := by rw [hcanonical]
    refine ⟨hroot, ?_⟩
    rw [← map_buffer_canonical a, hcanonical, map_buffer_canonical b]
  · intro h
    obtain ⟨hroot, hbuffers⟩ := h
    rw [text, text, chars_eq, chars_eq, hroot, hbuffers]

theorem text_eq_of_beq {a b : SubnetId} (h : (a == b) = true) : a.text = b.text := by
  obtain ⟨hroot, -, hbuffers⟩ := (beq_iff a b).1 h
  exact (text_eq_iff a b).2 ⟨hroot, hbuffers⟩

theorem text_canonical (id : SubnetId) : id.canonical.text = id.text :=
  (text_eq_iff id.canonical id).2 ⟨rfl, map_buffer_canonical id⟩

theorem isCanonical_text (id : SubnetId) : IsCanonical id.text :=
  ⟨id.canonical, read_text id, text_canonical id⟩

theorem canonical_beq_iff (id : SubnetId) :
    (id.canonical == id) = true ↔ ∀ actor ∈ id.path, actor.ns = 10 := by
  have hns : id.canonical.path.map ActorAddress.ns = id.path.map fun _ => 10 := by
    rw [canonical, List.map_map]
    rfl
  rw [beq_iff, hns, List.map_inj_left]
  constructor
  · rintro ⟨-, h, -⟩ actor hmem
    exact (h actor hmem).symm
  · intro h
    exact ⟨rfl, fun actor hmem => (h actor hmem).symm, map_buffer_canonical id⟩

theorem readId_of_shape {α : Type} [Document α] (value : α) (id : SubnetId)
    (h : Document.shape value = .string id.text) : Document.readId value = .ok id.canonical := by
  rw [Document.readId, bind_eq_ok_iff]
  refine ⟨id.text, ?_, ?_⟩
  · rw [Document.readText, h]
  · rw [mapError_eq_ok_iff, read_text]

/-- The text of an id reads back as an id with the same root and, level by level, the same wire
forms.  Its addresses are those of the namespace 10 without zero bytes at the end of a payload; it
has the same text, and equals the id exactly when all namespaces of the id are 10.  The same
id is read from the written form in a document. -/
theorem exists_read_text (id : SubnetId) :
    ∃ back, read id.text = .ok back ∧
      back.root = id.root ∧ back.depth = id.depth ∧
      back.path.map ActorAddress.buffer = id.path.map ActorAddress.buffer ∧
      (∀ actor ∈ back.path, actor.ns = 10 ∧ IsUsedLength actor.buffer actor.length) ∧
      back.text = id.text ∧
      ((back == id) = true ↔ ∀ actor ∈ id.path, actor.ns = 10) ∧
      Document.readId id.toJson = .ok back ∧
      Document.readId (Toml.string id.text) = .ok back := by
  refine ⟨id.canonical, read_text id, rfl, ?_, map_buffer_canonical id, ?_, text_canonical id,
    canonical_beq_iff id, readId_of_shape _ id rfl, readId_of_shape _ id rfl⟩
  · exact List.length_map _
  · intro actor hmem
    obtain ⟨original, -, rfl⟩ := List.mem_map.1 hmem
    exact ⟨rfl, original.isUsedLength_canonical⟩

end SubnetRouter.SubnetId
