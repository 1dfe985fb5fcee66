import SubnetRouter.Proofs.ActorAddress.WireForm
import SubnetRouter.Proofs.Text.Decimal
import SubnetRouter.Proofs.Text.Hexadecimal
import Mathlib.Algebra.Order.Ring.Nat
import Mathlib.Data.List.Forall2

/-!
# The language of subnet ids

Which texts the reader of ids accepts, and which ids they denote, said without the reader:
between its slashes a text has a first piece with the root number and one piece for the payload
of each actor.

* `read_eq_ok_iff`: a text is read as an id exactly when it spells the id.
* `exists_read_iff_and_value`: what is accepted, and the value, piece by piece.
-/

namespace SubnetRouter.SubnetId

open Text

/-- The text without one leading `0x`. -/
def unmarked (segment : List Char) : List Char :=
  if ['0', 'x'] <+: segment then segment.drop 2 else segment

/-- The first piece is `r` and the number of the root. -/
def SpellsRoot (piece : List Char) (root : Nat) : Prop :=
  ∃ number, piece = 'r' :: number ∧ Natural64.Spells number root

/-- A further piece is not empty.  Without one leading `0x` it has pairs of hex digits for the
bytes of the payload, perhaps with zero bytes after them. -/
def SpellsPayload (segment : List Char) (payload : List UInt8) : Prop :=
  segment ≠ [] ∧ ∃ bytes, Hex.Spells (unmarked segment) bytes ∧ trimmed bytes = payload

/-- A further piece and the actor that it denotes. -/
def SpellsActor (segment : List Char) (actor : ActorAddress) : Prop :=
  actor.ns = ActorAddress.ethereumNamespace ∧ SpellsPayload segment actor.payload

/-- The pieces between the slashes denote the root and the actors. -/
def Spells (text : List Char) (id : SubnetId) : Prop :=
  ∃ first segments, text.splitOn '/' = first :: segments ∧ SpellsRoot first id.root.toNat ∧
    List.Forall₂ SpellsActor segments id.path

/-! ## Pieces -/

theorem dropMark_eq_unmarked (segment : List Char) : Hex.dropMark segment = unmarked segment := by
  unfold Hex.dropMark unmarked
  split
  · rename_i digits
    rw [if_pos ⟨digits, rfl⟩]
    rfl
  · rename_i hne
    rw [if_neg]
    rintro ⟨digits, rfl⟩
    exact hne digits rfl

theorem cut_eq_iff (text first : List Char) (segments : List (List Char)) :
    cut (· = '/') text = (first, segments) ↔ text.splitOn '/' = first :: segments := by
  have hpieces := pieces_eq_splitOnP (· = '/') text
  have hsplit : text.splitOn '/' = text.splitOnP (· = '/') := List.splitOn_eq_splitOnP
  rw [hsplit, ← hpieces, pieces]
  simp [Prod.ext_iff]

theorem readRoot_eq_ok_iff (piece : List Char) (root : UInt64) :
    readRoot piece = .ok root ↔ SpellsRoot piece root.toNat := by
  unfold readRoot
  constructor
  · intro h
    split at h
    · rename_i number
      rw [mapError_eq_ok_iff, Natural64.read_eq_ok_iff] at h
      exact ⟨number, rfl, h⟩
    · cases h
  · intro h
    obtain ⟨number, rfl, h⟩ := h
    exact (mapError_eq_ok_iff _ _ root).2 ((Natural64.read_eq_ok_iff number root).2 h)

theorem readSegment_eq_ok_iff (segment : List Char) (bytes : List UInt8) :
    readSegment segment = .ok bytes ↔ segment ≠ [] ∧ Hex.Spells (unmarked segment) bytes := by
  unfold readSegment
  by_cases hnil : segment = []
  · simp [hnil]
  · rw [if_neg (by simpa using hnil), mapError_eq_ok_iff, Hex.decodeText_eq_ok_iff,
      dropMark_eq_unmarked]
    simp [hnil]

theorem readActor_eq_ok_iff (input : String) (segment : List Char) (actor : ActorAddress) :
    readActor input segment = .ok actor ↔ SpellsActor segment actor := by
  unfold readActor
  constructor
  · intro h
    split at h
    · cases h
    · rename_i bytes hbytes
      rw [mapError_eq_ok_iff, ActorAddress.ofBytes_eq_ok_iff, dropPadding_eq_trimmed] at h
      obtain ⟨hne, hspells⟩ := (readSegment_eq_ok_iff segment bytes).1 hbytes
      exact ⟨h.1, hne, bytes, hspells, h.2.symm⟩
  · intro h
    obtain ⟨hns, hne, bytes, hspells, hpayload⟩ := h
    rw [(readSegment_eq_ok_iff segment bytes).2 ⟨hne, hspells⟩]
    change Except.mapError _ (ActorAddress.ofBytes _ _) = _
    rw [mapError_eq_ok_iff, ActorAddress.ofBytes_eq_ok_iff, dropPadding_eq_trimmed]
    exact ⟨hns, hpayload.symm⟩

theorem readPath_eq_ok_iff (input : String) (segments : List (List Char))
    (actors : List ActorAddress) :
    readPath input segments = .ok actors ↔ List.Forall₂ SpellsActor segments actors := by
  induction segments generalizing actors with
  | nil =>
      rw [readPath, List.forall₂_nil_left_iff, Except.ok.injEq, eq_comm]
  | cons segment rest ih =>
      rw [readPath, List.forall₂_cons_left_iff]
      simp only [bind_eq_ok_iff, pure_eq_ok_iff, readActor_eq_ok_iff, ih]
      constructor
      · intro h
        obtain ⟨actor, hactor, others, hothers, rfl⟩ := h
        exact ⟨actor, others, hactor, hothers, rfl⟩
      · intro h
        obtain ⟨actor, others, hactor, hothers, rfl⟩ := h
        exact ⟨actor, hactor, others, hothers, rfl⟩

/-! ## Ids -/

/-- A text is read as an id exactly when it spells the id. -/
theorem read_eq_ok_iff (input : String) (id : SubnetId) :
    read input = .ok id ↔ Spells input.toList id := by
  obtain ⟨first, segments, hsplit⟩ := List.exists_cons_of_ne_nil
    (List.splitOn_ne_nil '/' input.toList)
  unfold read
  simp only [(cut_eq_iff input.toList first segments).2 hsplit]
  constructor
  · intro h
    split at h
    · cases h
    · rename_i root hroot
      obtain ⟨actors, hactors, rfl⟩ := (map_eq_ok_iff _ _ _).1 h
      exact ⟨first, segments, hsplit, (readRoot_eq_ok_iff first root).1 hroot,
        (readPath_eq_ok_iff input segments actors).1 hactors⟩
  · intro h
    obtain ⟨first', segments', hsplit', hroot, hactors⟩ := h
    rw [hsplit, List.cons.injEq] at hsplit'
    obtain ⟨rfl, rfl⟩ := hsplit'
    rw [(readRoot_eq_ok_iff first id.root).2 hroot]
    exact (map_eq_ok_iff _ _ _).2
      ⟨id.path, (readPath_eq_ok_iff input segments id.path).2 hactors, rfl⟩

theorem exists_actor_iff (segment : List Char) :
    (∃ actor, SpellsActor segment actor) ↔
      ∃ payload, SpellsPayload segment payload ∧ payload.length ≤ 54 := by
  constructor
  · intro h
    obtain ⟨actor, -, hpayload⟩ := h
    exact ⟨actor.payload, hpayload, actor.length_le⟩
  · intro h
    obtain ⟨payload, hpayload, hle⟩ := h
    exact ⟨⟨ActorAddress.ethereumNamespace, payload, hle⟩, rfl, hpayload⟩

theorem exists_path_iff (segments : List (List Char)) :
    (∃ path, List.Forall₂ SpellsActor segments path) ↔
      ∀ segment ∈ segments, ∃ actor, SpellsActor segment actor := by
  induction segments with
  | nil => simp
  | cons segment rest ih =>
      rw [List.forall_mem_cons, ← ih]
      constructor
      · intro h
        obtain ⟨path, h⟩ := h
        obtain ⟨actor, others, hactor, hothers, -⟩ := List.forall₂_cons_left_iff.1 h
        exact ⟨⟨actor, hactor⟩, others, hothers⟩
      · intro h
        obtain ⟨⟨actor, hactor⟩, others, hothers⟩ := h
        exact ⟨actor :: others, .cons hactor hothers⟩

/-- The reader accepts exactly the texts whose first piece is `r` and a number of 64 bits and
whose other pieces are payloads of at most 54 bytes.  The id it gives has that root, and as its
actors the payloads in order, under the namespace of addresses in ids. -/
theorem exists_read_iff_and_value (input : String) :
    ((∃ id, read input = .ok id) ↔
      ∃ first segments, input.toList.splitOn '/' = first :: segments ∧
        (∃ root ≤ 2 ^ 64 - 1, SpellsRoot first root) ∧
        ∀ segment ∈ segments, ∃ payload, SpellsPayload segment payload ∧ payload.length ≤ 54) ∧
    ∀ id, read input = .ok id →
      ∃ first segments, input.toList.splitOn '/' = first :: segments ∧
        SpellsRoot first id.root.toNat ∧ id.depth = segments.length ∧
        ∀ k (hk : k < segments.length), ∃ actor, id.path[k]? = some actor ∧ actor.ns = 10 ∧
          SpellsPayload segments[k] actor.payload := by
  refine ⟨⟨?_, ?_⟩, ?_⟩
  · intro h
    obtain ⟨id, hread⟩ := h
    obtain ⟨first, segments, hsplit, hroot, hpath⟩ := (read_eq_ok_iff input id).1 hread
    have hbound : id.root.toNat ≤ 2 ^ 64 - 1 := Nat.le_pred_of_lt id.root.toNat_lt
    refine ⟨first, segments, hsplit, ⟨id.root.toNat, hbound, hroot⟩, fun segment hmem => ?_⟩
    rw [← exists_actor_iff]
    exact (exists_path_iff segments).1 ⟨id.path, hpath⟩ segment hmem
  · intro h
    obtain ⟨first, segments, hsplit, ⟨root, hbound, hroot⟩, hsegments⟩ := h
    obtain ⟨path, hpath⟩ := (exists_path_iff segments).2 fun segment hmem =>
      (exists_actor_iff segment).2 (hsegments segment hmem)
    have htoNat : (UInt64.ofNat root).toNat = root :=
      UInt64.toNat_ofNat_of_lt' (Nat.lt_of_le_pred (by decide) hbound)
    refine ⟨⟨UInt64.ofNat root, path⟩, (read_eq_ok_iff input _).2 ⟨first, segments, hsplit, ?_, hpath⟩⟩
    rw [htoNat]
    exact hroot
  · intro id hread
    obtain ⟨first, segments, hsplit, hroot, hpath⟩ := (read_eq_ok_iff input id).1 hread
    have hlength := hpath.length_eq
    refine ⟨first, segments, hsplit, hroot, hlength.symm, fun k hk => ?_⟩
    have hk' : k < id.path.length := hlength ▸ hk
    have hactor : SpellsActor segments[k] id.path[k] := hpath.get hk hk'
    exact ⟨id.path[k], List.getElem?_eq_getElem hk', hactor.1, hactor.2⟩

end SubnetRouter.SubnetId
