import SubnetRouter.Proofs.ActorAddress.Encoding

/-!
# The two readers of hex payloads

A payload in hex digits is read as an address by itself, or as the one actor in the text of an id
directly below a root.  By itself every byte counts; in an id the zero bytes at the end are dropped
first, and nothing at all is no actor.

* `read_textBelow`: reading such an id is reading its actor.
* `spellsActor_canonical`, `ofHex_of_spellsActor`: from one reader to the other.
* `read_textBelow_iff_ofHex`: where they agree, and the texts on which they do not.
-/

namespace SubnetRouter.SubnetId

open Text

/-- The text of an id directly below a root, with the payload of its actor as it is given. -/
def textBelow (root : UInt64) (payload : String) : String :=
  "r" ++ String.ofList (Natural64.write root) ++ "/" ++ payload

/-- The text, without one leading `0x`, spells more bytes than addresses have, and all that are too
many are zero. -/
def ZerosBeyondWidth (text : List Char) (bytes : List UInt8) : Prop :=
  Hex.Spells (unmarked text) bytes ∧ 54 < bytes.length ∧ ∀ byte ∈ bytes.drop 54, byte = 0

/-! ## Padding beyond the width -/

/-- At most `n` bytes are left without the zeros at the end exactly when all beyond `n` are zero. -/
theorem length_trimmed_le_iff (bytes : List UInt8) (n : Nat) :
    (trimmed bytes).length ≤ n ↔ ∀ byte ∈ bytes.drop n, byte = 0 := by
  have hused := isUsedLength_trimmed bytes
  constructor
  · intro hle byte hmem
    obtain ⟨i, hi, rfl⟩ := List.getElem_of_mem hmem
    rw [List.length_drop] at hi
    have hbyte : bytes[n + i]? = some (bytes.drop n)[i] := by
      rw [List.getElem_drop, List.getElem?_eq_getElem (by omega)]
    exact hused.eq_zero_of_le (n + i) _ (by omega) hbyte
  · intro hzero
    -- The last byte that is kept is not zero, so it does not stand beyond `n`.
    by_contra hlt
    obtain ⟨byte, hbyte, hne⟩ := hused.ne_zero_before ((trimmed bytes).length - 1) (by omega)
    refine hne (hzero byte (List.mem_of_getElem? (i := (trimmed bytes).length - 1 - n) ?_))
    rw [List.getElem?_drop, show n + ((trimmed bytes).length - 1 - n) = (trimmed bytes).length - 1 by omega]
    exact hbyte

/-! ## Reading an id below a root -/

theorem splitOn_textBelow (root : UInt64) {payload : String} (h : '/' ∉ payload.toList) :
    (textBelow root payload).toList.splitOn '/' =
      ['r' :: Natural64.write root, payload.toList] := by
  have htext : (textBelow root payload).toList =
      ('r' :: Natural64.write root) ++ [payload.toList].flatMap ('/' :: ·) := by
    unfold textBelow
    simp only [String.toList_append, String.toList_ofList]
    simp
  rw [htext]
  exact splitOn_append_flatMap '/' _ _ (slash_not_mem_root root) (by simpa using h)

/-- The root is never at fault, so the actor alone decides. -/
theorem read_textBelow (root : UInt64) {payload : String} (h : '/' ∉ payload.toList) :
    read (textBelow root payload) =
      (readActor (textBelow root payload) payload.toList).map fun actor => ⟨root, [actor]⟩ := by
  have hroot : readRoot ('r' :: Natural64.write root) = .ok root :=
    (readRoot_eq_ok_iff _ root).2 ⟨_, rfl, Natural64.spells_write root⟩
  unfold read
  rw [(cut_eq_iff _ _ _).2 (splitOn_textBelow root h)]
  dsimp only
  rw [hroot]
  dsimp only
  rw [readPath]
  cases readActor (textBelow root payload) payload.toList with
  | error fault => rfl
  | ok actor => rfl

theorem read_textBelow_eq_ok_iff (root : UInt64) {payload : String} (h : '/' ∉ payload.toList)
    (id : SubnetId) :
    read (textBelow root payload) = .ok id ↔
      ∃ actor, SpellsActor payload.toList actor ∧ ⟨root, [actor]⟩ = id := by
  rw [read_textBelow root h, map_eq_ok_iff]
  simp only [readActor_eq_ok_iff]

/-! ## From one reader to the other -/

variable {payload : String}

/-- What is read by itself is in an id the canonical address of the same wire form. -/
theorem spellsActor_canonical {a : ActorAddress} (hne : payload ≠ "")
    (h : ActorAddress.ofHex 10 payload = .ok a) :
    SpellsActor payload.toList a.canonical ∧ (a.canonical == a) = true := by
  obtain ⟨hns, hspells⟩ := (ActorAddress.ofHex_eq_ok_iff 10 payload a).1 h
  constructor
  · exact ⟨rfl, by simpa using hne, a.payload, hspells, a.trimmed_buffer.symm⟩
  · exact (ActorAddress.beq_iff_ns_buffer _ a).2 ⟨hns.symm, a.buffer_canonical⟩

/-- What is read in an id is read by itself too, unless there are zeros beyond the width. -/
theorem ofHex_of_spellsActor {actor : ActorAddress} (h : SpellsActor payload.toList actor) :
    (∃ a, ActorAddress.ofHex 10 payload = .ok a ∧ (a == actor) = true) ∨
      ∃ bytes, ZerosBeyondWidth payload.toList bytes := by
  obtain ⟨hns, -, bytes, hspells, hpayload⟩ := h
  by_cases hle : bytes.length ≤ 54
  · let a : ActorAddress := ⟨10, bytes, hle⟩
    refine Or.inl ⟨a, (ActorAddress.ofHex_eq_ok_iff 10 payload a).2 ⟨rfl, hspells⟩, ?_⟩
    -- The payload in the id is trimmed already.
    refine (ActorAddress.beq_iff_trimmed_eq a actor).2 ⟨hns.symm, ?_⟩
    rw [← hpayload]
    exact (List.rdropWhile_idempotent _ _).symm
  · have hwidth : (trimmed bytes).length ≤ 54 := by
      rw [hpayload]
      exact actor.length_le
    exact Or.inr ⟨bytes, hspells, by omega, (length_trimmed_le_iff bytes 54).1 hwidth⟩

theorem spellsActor_of_zerosBeyondWidth {text : List Char} {bytes : List UInt8}
    (h : ZerosBeyondWidth text bytes) : ∃ actor, SpellsActor text actor := by
  obtain ⟨hspells, hlt, hzero⟩ := h
  have hne : text ≠ [] := by
    rintro rfl
    have hnil : bytes = [] := by simpa [unmarked] using Hex.length_of_spells hspells
    rw [hnil] at hlt
    exact absurd hlt (by decide)
  exact ⟨⟨10, trimmed bytes, (length_trimmed_le_iff bytes 54).2 hzero⟩, rfl, hne, bytes, hspells, rfl⟩

theorem ofHex_of_zerosBeyondWidth {bytes : List UInt8}
    (h : ZerosBeyondWidth payload.toList bytes) :
    ActorAddress.ofHex 10 payload = .error (.tooLong bytes.length) :=
  (ActorAddress.ofHex_eq_error_iff 10 payload _).2 (Or.inr ⟨bytes, h.1, h.2.1, rfl⟩)

/-- A fault in the digits is the same for both readers. -/
theorem segmentFault_of_ofHex (input : String) {fault : Hex.Fault}
    (h : ActorAddress.ofHex 10 payload = .error (.badHex fault)) :
    SegmentFault input payload.toList (.malformed input (.badHex fault)) := by
  rcases (ActorAddress.ofHex_eq_error_iff 10 payload _).1 h with ⟨hex, hfault, heq⟩ | ⟨_, _, _, heq⟩
  · cases heq
    refine .badHex ?_ hfault
    intro hnil
    -- No digits at all are no fault.
    rw [hnil, ← Hex.decode_eq_error_iff] at hfault
    cases hfault
  · cases heq

/-! ## Where the readers agree -/

/-- Let a payload have no slash in it.  If it is not empty and is read as an address by itself, it is
read in an id below any root, as an equal actor.  What is read in an id is read by itself, as an equal
address, exactly when it has no zeros beyond the width; a payload with zeros beyond the width is
always read in an id, and refused by itself for the number of its bytes.  The empty payload is
the only one that is read by itself and not in an id.  A fault in the digits is told in the same
words by both. -/
theorem read_textBelow_iff_ofHex (root : UInt64) (payload : String) (h : '/' ∉ payload.toList) :
    (∀ a, payload ≠ "" → ActorAddress.ofHex 10 payload = .ok a →
      ∃ id actor, read (textBelow root payload) = .ok id ∧ id.depth = 1 ∧ id.actor = .ok actor ∧
        (actor == a) = true) ∧
    (∀ id, read (textBelow root payload) = .ok id →
      ((∃ a actor, ActorAddress.ofHex 10 payload = .ok a ∧ id.actor = .ok actor ∧
        (a == actor) = true) ↔ ¬ ∃ bytes, ZerosBeyondWidth payload.toList bytes)) ∧
    (∀ bytes, ZerosBeyondWidth payload.toList bytes →
      (∃ id, read (textBelow root payload) = .ok id) ∧
        ActorAddress.ofHex 10 payload = .error (.tooLong bytes.length)) ∧
    (((∃ a, ActorAddress.ofHex 10 payload = .ok a) ∧
      ¬ ∃ id, read (textBelow root payload) = .ok id) ↔ payload = "") ∧
    ∀ fault, ActorAddress.ofHex 10 payload = .error (.badHex fault) →
      read (textBelow root payload) =
        .error (.malformed (textBelow root payload) (.badHex fault)) ∧
      (Fault.malformed (textBelow root payload) (.badHex fault)).message =
        "Invalid subnet id " ++ quoted (textBelow root payload) ++ ": " ++ fault.message ∧
      (Fault.ofAddress (.badHex fault)).message = "Invalid hex payload: " ++ fault.message := by
  have hreads : ∀ {actor}, SpellsActor payload.toList actor →
      read (textBelow root payload) = .ok ⟨root, [actor]⟩ := fun hactor =>
    (read_textBelow_eq_ok_iff root h _).2 ⟨_, hactor, rfl⟩
  refine ⟨?_, ?_, ?_, ?_, ?_⟩
  · intro a hne ha
    obtain ⟨hactor, hbeq⟩ := spellsActor_canonical hne ha
    exact ⟨_, a.canonical, hreads hactor, rfl, rfl, hbeq⟩
  · intro id hid
    obtain ⟨actor, hactor, rfl⟩ := (read_textBelow_eq_ok_iff root h id).1 hid
    constructor
    · rintro ⟨a, -, ha, -⟩ ⟨bytes, hzeros⟩
      rw [ofHex_of_zerosBeyondWidth hzeros] at ha
      cases ha
    · intro hzeros
      obtain ⟨a, ha, hbeq⟩ := (ofHex_of_spellsActor hactor).resolve_right hzeros
      exact ⟨a, actor, ha, rfl, hbeq⟩
  · intro bytes hzeros
    obtain ⟨actor, hactor⟩ := spellsActor_of_zerosBeyondWidth hzeros
    exact ⟨⟨_, hreads hactor⟩, ofHex_of_zerosBeyondWidth hzeros⟩
  · constructor
    · rintro ⟨⟨a, ha⟩, hnone⟩
      by_contra hne
      exact hnone ⟨_, hreads (spellsActor_canonical hne ha).1⟩
    · rintro rfl
      refine ⟨⟨⟨10, [], by decide⟩, rfl⟩, ?_⟩
      rintro ⟨id, hid⟩
      obtain ⟨actor, hactor, -⟩ := (read_textBelow_eq_ok_iff root h id).1 hid
      exact hactor.2.1 rfl
  · intro fault hfault
    refine ⟨?_, rfl, rfl⟩
    rw [read_textBelow root h]
    exact (map_eq_error_iff _ _ _).2 ((readActor_eq_error_iff _ _ _).2 (segmentFault_of_ofHex _ hfault))

/-- One zero byte too many: the id is read, the address by itself is not. -/
theorem read_textBelow_iff_ofHex_zeros :
    let payload := String.ofList (List.replicate 110 '0')
    '/' ∉ payload.toList ∧ (∃ id, read (textBelow 1 payload) = .ok id) ∧
      ActorAddress.ofHex 10 payload = .error (.tooLong 55) := by
  intro payload
  have hslash : '/' ∉ payload.toList := by decide +kernel
  have hread : Hex.decodeText (unmarked payload.toList) = .ok (List.replicate 55 0) := by
    decide +kernel
  have hzeros : ZerosBeyondWidth payload.toList (List.replicate 55 0) :=
    ⟨(Hex.decodeText_eq_ok_iff _ _).1 hread, by decide,
      fun byte hmem => List.eq_of_mem_replicate (List.mem_of_mem_drop hmem)⟩
  exact ⟨hslash, (read_textBelow_iff_ofHex 1 payload hslash).2.2.1 _ hzeros⟩

end SubnetRouter.SubnetId
