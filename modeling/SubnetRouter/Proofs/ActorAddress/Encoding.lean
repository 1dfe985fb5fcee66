import SubnetRouter.Proofs.ActorAddress.HexText
import SubnetRouter.Proofs.SubnetId.CanonicalForm

/-!
# Three views of an address

An address has a payload, a wire form and a text.  The wire form pads the payload with zero bytes and
the text shows the wire form, so of a payload they keep everything but the zero bytes at its end.

* `buffer_eq_iff`, `beq_iff_trimmed_eq`: which addresses have one wire form, and which are equal.
* `ofHex_ethereumText`, `ofHex_encode`: the text and the payload in hex digits, read back.
* `ofBytes_encoding`: the three views together.
-/

namespace SubnetRouter.ActorAddress

open Text

/-! ## Wire forms -/

theorem take_buffer (a : ActorAddress) : a.buffer.take a.length = a.payload := by
  unfold buffer length
  exact List.take_left

theorem eq_zero_of_mem_drop_buffer (a : ActorAddress) {byte : UInt8}
    (h : byte ∈ a.buffer.drop a.length) : byte = 0 := by
  unfold buffer length at h
  rw [List.drop_left] at h
  exact List.eq_of_mem_replicate h

theorem trimmed_buffer (a : ActorAddress) : trimmed a.buffer = trimmed a.payload :=
  trimmed_append_replicate a.payload _

/-- A wire form keeps of a payload what is left without the zero bytes at its end. -/
theorem buffer_eq_iff (a b : ActorAddress) :
    a.buffer = b.buffer ↔ trimmed a.payload = trimmed b.payload := by
  rw [← trimmed_buffer, ← trimmed_buffer]
  constructor
  · intro h
    rw [h]
  · intro h
    have hlength : a.buffer.length = b.buffer.length := by rw [length_buffer, length_buffer]
    calc a.buffer
        = trimmed a.buffer ++ List.replicate (a.buffer.length - (trimmed a.buffer).length) 0 :=
          (trimmed_append_zeros a.buffer).symm
      _ = trimmed b.buffer ++ List.replicate (b.buffer.length - (trimmed b.buffer).length) 0 := by
          rw [h, hlength]
      _ = b.buffer := trimmed_append_zeros b.buffer

theorem beq_iff_ns_buffer (a b : ActorAddress) :
    (a == b) = true ↔ a.ns = b.ns ∧ a.buffer = b.buffer := by
  rw [beq_iff_identity_eq, identity, identity, Prod.mk.injEq]

theorem beq_iff_trimmed_eq (a b : ActorAddress) :
    (a == b) = true ↔ a.ns = b.ns ∧ trimmed a.payload = trimmed b.payload := by
  rw [beq_iff_ns_buffer, buffer_eq_iff]

/-! ## Texts -/

theorem toList_ethereumText (a : ActorAddress) :
    a.ethereumText.toList = '0' :: 'x' :: Hex.encode a.buffer := by
  rw [ethereumText, String.toList_ofList, ethereumChars]

theorem ethereumText_eq_iff (a b : ActorAddress) :
    a.ethereumText = b.ethereumText ↔ a.buffer = b.buffer := by
  constructor
  · intro h
    have hchars := congrArg String.toList h
    rw [toList_ethereumText, toList_ethereumText, List.cons.injEq, List.cons.injEq] at hchars
    exact Hex.encode_injective hchars.2.2
  · intro h
    rw [ethereumText, ethereumText, ethereumChars, ethereumChars, h]

/-- The text of an address is read as an address whose payload is the whole wire form. -/
theorem ofHex_ethereumText (ns : UInt64) (a : ActorAddress) :
    ∃ back, ofHex ns a.ethereumText = .ok back ∧ back.ns = ns ∧ back.payload = a.buffer ∧
      back.length = 54 ∧ back.buffer = a.buffer := by
  have hlength : a.buffer.length = 54 := length_buffer a
  let back : ActorAddress := ⟨ns, a.buffer, Nat.le_of_eq hlength⟩
  refine ⟨back, (ofHex_eq_ok_iff ns _ back).2 ⟨rfl, ?_⟩, rfl, rfl, hlength, ?_⟩
  · rw [toList_ethereumText, SubnetId.unmarked_mark]
    exact Hex.spells_encode a.buffer
  · -- The payload has the full width, so there is nothing to pad.
    change a.buffer ++ List.replicate (maxLength - a.buffer.length) 0 = a.buffer
    rw [hlength]
    exact List.append_nil a.buffer

theorem ofHex_encode (a : ActorAddress) :
    ofHex a.ns (String.ofList (Hex.encode a.payload)) = .ok a ∧
      ofHex a.ns ("0x" ++ String.ofList (Hex.encode a.payload)) = .ok a :=
  ofHex_of_spells a (Hex.spells_encode a.payload)

/-! ## The views together -/

/-- Bytes are refused as a payload exactly when there are more than 54, with their number.  The wire
form of any others is the bytes, then zeros up to 54.  Addresses are equal when they have one namespace
and their payloads agree up to zeros at the end; under one namespace, exactly when they have one
text.  That text is `0x` and 108 lowercase digits, and it is read as an equal address of the full
length.  The payload in hex digits, with or without `0x`, is read as the very same address. -/
theorem ofBytes_encoding (n m : UInt64) (s t : List UInt8) :
    (ofBytes n s = .error (.tooLong s.length) ↔ 54 < s.length) ∧
    (s.length ≤ 54 ↔ ∃ a, ofBytes n s = .ok a) ∧
    (∀ a, ofBytes n s = .ok a →
      a.ns = n ∧ a.payload = s ∧ a.length = s.length ∧
      a.buffer.length = 54 ∧ a.buffer.take s.length = s ∧ ∀ byte ∈ a.buffer.drop s.length, byte = 0) ∧
    (∀ a b, ofBytes n s = .ok a → ofBytes m t = .ok b →
      ((a == b) = true ↔ n = m ∧ trimmed s = trimmed t)) ∧
    ∀ a : ActorAddress,
      SubnetId.IsWireText a.ethereumText.toList ∧
      (∀ b : ActorAddress, a.ns = b.ns → ((a == b) = true ↔ a.ethereumText = b.ethereumText)) ∧
      (∃ back, ofHex a.ns a.ethereumText = .ok back ∧ (back == a) = true ∧ back.length = 54) ∧
      ofHex a.ns (String.ofList (Hex.encode a.payload)) = .ok a ∧
      ofHex a.ns ("0x" ++ String.ofList (Hex.encode a.payload)) = .ok a := by
  refine ⟨?_, ?_, ?_, ?_, fun a => ⟨?_, ?_, ?_, ofHex_encode a⟩⟩
  · rw [ofBytes_eq_error_iff]
    exact and_iff_left rfl
  · constructor
    · intro hle
      exact ⟨⟨n, s, hle⟩, (ofBytes_eq_ok_iff n s _).2 ⟨rfl, rfl⟩⟩
    · rintro ⟨a, ha⟩
      obtain ⟨-, rfl⟩ := (ofBytes_eq_ok_iff n s a).1 ha
      exact a.length_le
  · intro a ha
    obtain ⟨hns, rfl⟩ := (ofBytes_eq_ok_iff n s a).1 ha
    exact ⟨hns, rfl, rfl, length_buffer a, take_buffer a,
      fun byte hbyte => eq_zero_of_mem_drop_buffer a hbyte⟩
  · intro a b ha hb
    obtain ⟨rfl, rfl⟩ := (ofBytes_eq_ok_iff n s a).1 ha
    obtain ⟨rfl, rfl⟩ := (ofBytes_eq_ok_iff m t b).1 hb
    exact beq_iff_trimmed_eq a b
  · rw [ethereumText, String.toList_ofList]
    exact SubnetId.isWireText_ethereumChars a
  · intro b hns
    rw [beq_iff_ns_buffer, ethereumText_eq_iff]
    exact and_iff_right hns
  · obtain ⟨back, hread, hns, -, hlength, hbuffer⟩ := ofHex_ethereumText a.ns a
    exact ⟨back, hread, (beq_iff_ns_buffer back a).2 ⟨hns, hbuffer⟩, hlength⟩

/-- A zero byte at the end of a payload makes another address, which is equal and has the same text. -/
theorem ofBytes_encoding_padded :
    ∃ a b, ofBytes 10 [1, 2] = .ok a ∧ ofBytes 10 [1, 2, 0] = .ok b ∧ a ≠ b ∧
      a.length = 2 ∧ b.length = 3 ∧ (a == b) = true ∧ a.ethereumText = b.ethereumText := by
  let a : ActorAddress := ⟨10, [1, 2], by decide⟩
  let b : ActorAddress := ⟨10, [1, 2, 0], by decide⟩
  have ha : ofBytes 10 [1, 2] = .ok a := rfl
  have hb : ofBytes 10 [1, 2, 0] = .ok b := rfl
  obtain ⟨-, -, hfields, hbeq, hviews⟩ := ofBytes_encoding 10 10 [1, 2] [1, 2, 0]
  have heq : (a == b) = true := (hbeq a b ha hb).2 ⟨rfl, by decide⟩
  exact ⟨a, b, ha, hb, by decide, (hfields a ha).2.2.1, rfl, heq, ((hviews a).2.1 b rfl).1 heq⟩

end SubnetRouter.ActorAddress
