import SubnetRouter.Proofs.SubnetId.Grammar

/-!
# Texts that are no ids

A text that spells no id is refused for its first fault from left to right.  Here the first fault is
said without the reader: the first piece comes before the further ones, the leftmost of these that is
no payload decides, and within a piece some faults come before others.

* `readActor_eq_error_iff`, `readPath_eq_error_iff`: the fault of one piece, and of the leftmost one.
* `read_eq_error_iff`: a text is refused for exactly its first fault.
* `read_firstFault`: what is refused, for which fault, and how the fault is told.
-/

namespace SubnetRouter

theorem ActorAddress.ofBytes_eq_error_iff (ns : UInt64) (payload : List UInt8) (fault : Fault) :
    ofBytes ns payload = .error fault ↔ 54 < payload.length ∧ .tooLong payload.length = fault := by
  unfold ofBytes
  by_cases hle : payload.length ≤ 54
  · rw [dif_pos hle]
    simp [hle]
  · rw [dif_neg hle]
    simp [Nat.not_le.1 hle]

namespace SubnetId

open Text

/-- Why a first piece has no root: it does not begin with `r`, or what follows is no number. -/
inductive RootFlaw (piece : List Char) : Flaw → Prop where
  | missingMark : ¬ ['r'] <+: piece → RootFlaw piece .missingMark
  | badRoot {number : List Char} {fault : Natural64.Fault} : piece = 'r' :: number →
    Natural64.FirstFault number fault → RootFlaw piece (.badRoot fault)

/-- Why a further piece denotes no actor: it is empty; or else, without one leading `0x`, its bytes
are no pairs of hex digits; or else it has a payload that is too long. -/
inductive SegmentFault (input : String) (segment : List Char) : Fault → Prop where
  | empty : segment = [] → SegmentFault input segment (.malformed input .emptySegment)
  | badHex {fault : Hex.Fault} : segment ≠ [] →
    Hex.FirstFault (utf8Bytes (unmarked segment)) fault →
    SegmentFault input segment (.malformed input (.badHex fault))
  | tooLong {payload : List UInt8} : SpellsPayload segment payload → 54 < payload.length →
    SegmentFault input segment (.payloadTooLong payload.length)

/-- The first fault of a text, from left to right. -/
inductive FirstFault (input : String) : Fault → Prop where
  | root {first : List Char} {segments : List (List Char)} {flaw : Flaw} :
    input.toList.splitOn '/' = first :: segments → RootFlaw first flaw →
    FirstFault input (.malformed input flaw)
  | segment {first segment : List Char} {before after : List (List Char)} {root : UInt64}
    {fault : Fault} : input.toList.splitOn '/' = first :: (before ++ segment :: after) →
    SpellsRoot first root.toNat → (∀ s ∈ before, ∃ actor, SpellsActor s actor) →
    SegmentFault input segment fault → FirstFault input fault

/-! ## Pieces -/

theorem readRoot_eq_error_iff (piece : List Char) (flaw : Flaw) :
    readRoot piece = .error flaw ↔ RootFlaw piece flaw := by
  constructor
  · intro h
    unfold readRoot at h
    split at h
    · obtain ⟨fault, hfault, rfl⟩ := (mapError_eq_error_iff _ _ _).1 h
      exact .badRoot rfl ((Natural64.read_eq_error_iff _ fault).1 hfault)
    · rename_i hne
      cases h
      refine .missingMark ?_
      rintro ⟨number, rfl⟩
      exact hne number rfl
  · intro h
    cases h with
    | missingMark hmark =>
        unfold readRoot
        split
        · rename_i number
          exact absurd ⟨number, rfl⟩ hmark
        · rfl
    | badRoot hpiece hfault =>
        rw [hpiece]
        exact (mapError_eq_error_iff _ _ _).2 ⟨_, (Natural64.read_eq_error_iff _ _).2 hfault, rfl⟩

theorem readSegment_eq_error_iff (segment : List Char) (flaw : Flaw) :
    readSegment segment = .error flaw ↔ (segment = [] ∧ .emptySegment = flaw) ∨
      (segment ≠ [] ∧ ∃ fault, Hex.FirstFault (utf8Bytes (unmarked segment)) fault ∧
        .badHex fault = flaw) := by
  unfold readSegment
  by_cases hnil : segment = []
  · simp [hnil]
  · rw [if_neg (by simpa using hnil), mapError_eq_error_iff, dropMark_eq_unmarked]
    simp only [Hex.decodeText, Hex.decode_eq_error_iff, hnil, false_and, ne_eq, not_false_eq_true,
      true_and, false_or]

theorem readActor_eq_error_iff (input : String) (segment : List Char) (fault : Fault) :
    readActor input segment = .error fault ↔ SegmentFault input segment fault := by
  unfold readActor
  constructor
  · intro h
    split at h
    · rename_i flaw hflaw
      cases h
      rcases (readSegment_eq_error_iff segment flaw).1 hflaw with ⟨hnil, rfl⟩ | ⟨hne, hex, hfault, rfl⟩
      · exact .empty hnil
      · exact .badHex hne hfault
    · rename_i bytes hbytes
      obtain ⟨hne, hspells⟩ := (readSegment_eq_ok_iff segment bytes).1 hbytes
      rw [dropPadding_eq_trimmed] at h
      obtain ⟨long, hlong, rfl⟩ := (mapError_eq_error_iff _ _ _).1 h
      obtain ⟨hlt, rfl⟩ := (ActorAddress.ofBytes_eq_error_iff _ _ _).1 hlong
      exact .tooLong ⟨hne, bytes, hspells, rfl⟩ hlt
  · intro h
    cases h with
    | empty hnil =>
        rw [(readSegment_eq_error_iff segment .emptySegment).2 (Or.inl ⟨hnil, rfl⟩)]
    | badHex hne hfault =>
        rw [(readSegment_eq_error_iff segment _).2 (Or.inr ⟨hne, _, hfault, rfl⟩)]
    | tooLong hpayload hlt =>
        obtain ⟨hne, bytes, hspells, rfl⟩ := hpayload
        rw [(readSegment_eq_ok_iff segment bytes).2 ⟨hne, hspells⟩]
        exact (mapError_eq_error_iff _ _ _).2
          ⟨_, (ActorAddress.ofBytes_eq_error_iff _ _ _).2 ⟨hlt, rfl⟩, rfl⟩

/-- The leftmost piece that denotes no actor decides. -/
theorem readPath_eq_error_iff (input : String) (segments : List (List Char)) (fault : Fault) :
    readPath input segments = .error fault ↔
      ∃ before rest, segments = before ++ rest ∧ (∀ s ∈ before, ∃ actor, SpellsActor s actor) ∧
        ∃ segment after, rest = segment :: after ∧ SegmentFault input segment fault := by
  induction segments with
  | nil =>
      rw [readPath]
      simp
  | cons segment rest ih =>
      rw [readPath, exists_split_cons_iff, ← ih]
      simp only [bind_eq_error_iff, readActor_eq_error_iff, readActor_eq_ok_iff, pure, Except.pure]
      simp

/-! ## Texts -/

/-- A text is refused for exactly its first fault. -/
theorem read_eq_error_iff (input : String) (fault : Fault) :
    read input = .error fault ↔ FirstFault input fault := by
  obtain ⟨first, segments, hsplit⟩ := List.exists_cons_of_ne_nil
    (List.splitOn_ne_nil '/' input.toList)
  unfold read
  simp only [(cut_eq_iff input.toList first segments).2 hsplit]
  constructor
  · intro h
    split at h
    · rename_i flaw hflaw
      cases h
      exact .root hsplit ((readRoot_eq_error_iff first flaw).1 hflaw)
    · rename_i root hroot
      rw [map_eq_error_iff, readPath_eq_error_iff] at h
      obtain ⟨before, rest, rfl, hbefore, segment, after, rfl, hfault⟩ := h
      exact .segment hsplit ((readRoot_eq_ok_iff first root).1 hroot) hbefore hfault
  · intro h
    cases h with
    | root hsplit' hflaw =>
        rw [hsplit, List.cons.injEq] at hsplit'
        obtain ⟨rfl, rfl⟩ := hsplit'
        rw [(readRoot_eq_error_iff first _).2 hflaw]
    | segment hsplit' hroot hbefore hfault =>
        rw [hsplit, List.cons.injEq] at hsplit'
        obtain ⟨rfl, rfl⟩ := hsplit'
        rw [(readRoot_eq_ok_iff first _).2 hroot]
        exact (map_eq_error_iff _ _ _).2 ((readPath_eq_error_iff input _ _).2
          ⟨_, _, rfl, hbefore, _, _, rfl, hfault⟩)

theorem forms_of_segmentFault {input : String} {segment : List Char} {fault : Fault}
    (h : SegmentFault input segment fault) :
    (∃ flaw, fault = .malformed input flaw) ∨
      ∃ length, 54 < length ∧ fault = .payloadTooLong length := by
  cases h with
  | empty => exact Or.inl ⟨_, rfl⟩
  | badHex => exact Or.inl ⟨_, rfl⟩
  | tooLong _ hlt => exact Or.inr ⟨_, hlt, rfl⟩

/-- A first fault names the text as it was given, or a length beyond the width of addresses. -/
theorem forms_of_firstFault {input : String} {fault : Fault} (h : FirstFault input fault) :
    (∃ flaw, fault = .malformed input flaw) ∨
      ∃ length, 54 < length ∧ fault = .payloadTooLong length := by
  cases h with
  | root => exact Or.inl ⟨_, rfl⟩
  | segment _ _ _ hfault => exact forms_of_segmentFault hfault

/-- Exactly the texts that spell no id have a first fault, and only one. -/
theorem exists_firstFault_iff (input : String) :
    (∃! fault, FirstFault input fault) ↔ ¬ ∃ id, Spells input.toList id := by
  simp only [← read_eq_error_iff, ← read_eq_ok_iff]
  cases read input with
  | ok id => simp [ExistsUnique]
  | error fault => simp

/-- The reader refuses a text exactly for its first fault from left to right, and a text has one,
and only one, exactly when it spells no id.  The fault is a flaw of the text, which is named as it was
given, or the length of a payload beyond 54 bytes; bad digits and a missing actor are no faults
of texts.  The reasons are those of the flaws. -/
theorem read_firstFault (input : String) :
    (∀ fault, read input = .error fault ↔ FirstFault input fault) ∧
    ((∃! fault, FirstFault input fault) ↔ ¬ ∃ id, Spells input.toList id) ∧
    (∀ fault, read input = .error fault →
      (∃ flaw, fault = .malformed input flaw) ∨
        ∃ length, 54 < length ∧ fault = .payloadTooLong length) ∧
    read input ≠ .error .noActor ∧
    (∀ hex, read input ≠ .error (.badHex hex)) ∧
    (∀ flaw, (Fault.malformed input flaw).message =
      "Invalid subnet id " ++ quoted input ++ ": " ++ flaw.message) ∧
    Flaw.missingMark.message = "missing 'r' root prefix" ∧
    (Flaw.badRoot .empty).message = "cannot parse integer from empty string" ∧
    (Flaw.badRoot .badDigit).message = "invalid digit found in string" ∧
    (Flaw.badRoot .tooLarge).message = "number too large to fit in target type" ∧
    Flaw.emptySegment.message = "empty path segment" ∧
    (Flaw.badHex .oddLength).message = "Odd number of digits" ∧
    (∀ byte index, (Flaw.badHex (.badByte byte index)).message =
      "Invalid character " ++ quotedByte byte ++ " at position " ++ toString index) ∧
    ∀ length, (Fault.payloadTooLong length).message = "InvalidPayloadLength: " ++ toString length := by
  have hforms : ∀ fault, read input = .error fault →
      (∃ flaw, fault = .malformed input flaw) ∨
        ∃ length, 54 < length ∧ fault = .payloadTooLong length :=
    fun fault h => forms_of_firstFault ((read_eq_error_iff input fault).1 h)
  refine ⟨read_eq_error_iff input, exists_firstFault_iff input, hforms, ?_, ?_, fun _ => rfl, rfl,
    rfl, rfl, rfl, rfl, rfl, fun _ _ => rfl, fun _ => rfl⟩
  · intro h
    simpa using hforms _ h
  · intro hex h
    simpa using hforms _ h

/-- A number that is already too large comes before a bad digit in it, an odd number of digits before
a bad one, and a bad piece before one further right. -/
example :
    read "r99999999999999999999x/" =
      .error (.malformed "r99999999999999999999x/" (.badRoot .tooLarge)) ∧
    read "r1/0xzz1/" = .error (.malformed "r1/0xzz1/" (.badHex .oddLength)) ∧
    read "r1/0xé//" = .error (.malformed "r1/0xé//" (.badHex (.badByte 0xC3 0))) := by
  decide +kernel

end SubnetId

end SubnetRouter
