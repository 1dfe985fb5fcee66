import SubnetRouter.Proofs.SubnetId.Rejection

/-!
# Addresses in hex digits

Which texts are read as an address by themselves, and why others are not.  One leading `0x` does not
count, and the digits spell the payload as it is: zero bytes at its end belong to it.

* `ofHex_eq_ok_iff`, `ofHex_eq_error_iff`: what is accepted, and the fault of every other text.
* `ofHex_of_spells`: digits of either case, with or without the mark.
-/

namespace SubnetRouter

open Text

/-! ## The mark before digits -/

theorem SubnetId.unmarked_mark (digits : List Char) : unmarked ('0' :: 'x' :: digits) = digits := by
  unfold unmarked
  rw [if_pos ⟨digits, rfl⟩]
  rfl

/-- Digits never begin with the mark, since `x` is no digit. -/
theorem SubnetId.unmarked_of_spells {text : List Char} {bytes : List UInt8}
    (h : Hex.Spells text bytes) : unmarked text = text := by
  unfold unmarked
  rw [if_neg]
  rintro ⟨rest, rfl⟩
  exact absurd (Hex.value?_of_spells h 'x' (by simp)) (by decide)

namespace ActorAddress

/-! ## Reading -/

theorem ofHex_eq_ok_iff (ns : UInt64) (text : String) (a : ActorAddress) :
    ofHex ns text = .ok a ↔ a.ns = ns ∧ Hex.Spells (SubnetId.unmarked text.toList) a.payload := by
  unfold ofHex
  rw [SubnetId.dropMark_eq_unmarked, ← Hex.decodeText_eq_ok_iff]
  cases Hex.decodeText (SubnetId.unmarked text.toList) with
  | error fault => simp
  | ok bytes =>
      change ofBytes ns bytes = .ok a ↔ _
      rw [ofBytes_eq_ok_iff, Except.ok.injEq, eq_comm (a := bytes)]

/-- A text is refused for its first fault in hex digits, or else for the number of its bytes. -/
theorem ofHex_eq_error_iff (ns : UInt64) (text : String) (fault : Fault) :
    ofHex ns text = .error fault ↔
      (∃ hex, Hex.FirstFault (utf8Bytes (SubnetId.unmarked text.toList)) hex ∧
        .badHex hex = fault) ∨
      ∃ bytes, Hex.Spells (SubnetId.unmarked text.toList) bytes ∧ 54 < bytes.length ∧
        .tooLong bytes.length = fault := by
  unfold ofHex
  simp only [SubnetId.dropMark_eq_unmarked, ← Hex.decodeText_eq_ok_iff, ← Hex.decode_eq_error_iff]
  change _ ↔ (∃ hex, Hex.decodeText _ = .error hex ∧ _) ∨ _
  cases Hex.decodeText (SubnetId.unmarked text.toList) with
  | error hex => simp
  | ok bytes => simp [ofBytes_eq_error_iff]

/-- Digits of either case that spell the payload are read as the address, with or without `0x`. -/
theorem ofHex_of_spells {text : List Char} (a : ActorAddress) (h : Hex.Spells text a.payload) :
    ofHex a.ns (String.ofList text) = .ok a ∧
      ofHex a.ns ("0x" ++ String.ofList text) = .ok a := by
  have hmarked : ("0x" ++ String.ofList text).toList = '0' :: 'x' :: text := by
    rw [String.toList_append, String.toList_ofList, String.toList_ofList]
    rfl
  constructor
  · rw [ofHex_eq_ok_iff, String.toList_ofList, SubnetId.unmarked_of_spells h]
    exact ⟨rfl, h⟩
  · rw [ofHex_eq_ok_iff, hmarked, SubnetId.unmarked_mark]
    exact ⟨rfl, h⟩

end ActorAddress

end SubnetRouter
