import SubnetRouter.Proofs.ActorAddress.HexText

/-!
# What becomes of a payload in hex digits

Every text is read as one address or refused for one fault.  An odd number of bytes comes before a byte
that is no digit, and this before more bytes than addresses have.

* `ofHex_eq_iff`: the outcome of a text, said without the reader.
* `exists_ofHex_iff`, `ofHex_eq_of_map_toLower`: which texts are addresses; case does not matter.
* `ofHex_outcome`: all of it, with the words that faults are told in.
-/

namespace SubnetRouter.ActorAddress

open Text

/-- The bytes of a text without one leading `0x`. -/
def digitBytes (text : String) : List UInt8 :=
  utf8Bytes (SubnetId.unmarked text.toList)

/-- What becomes of a text under a namespace: the first fault of its digits; or else, where there are
more than two for each of the 54 bytes, the number of bytes that they stand for; or else the address
with the bytes that they spell. -/
inductive HexOutcome (ns : UInt64) (text : String) : Except Fault ActorAddress → Prop where
  | badHex {fault : Hex.Fault} (hfault : Hex.FirstFault (digitBytes text) fault) :
    HexOutcome ns text (.error (.badHex fault))
  | tooLong (hpairs : Hex.ArePairs (digitBytes text)) (hlong : 108 < (digitBytes text).length) :
    HexOutcome ns text (.error (.tooLong ((digitBytes text).length / 2)))
  | address {a : ActorAddress} (hns : a.ns = ns)
    (hspells : Hex.Spells (SubnetId.unmarked text.toList) a.payload) : HexOutcome ns text (.ok a)

variable {ns : UInt64} {text other : String} {bytes : List UInt8} {a : ActorAddress}

theorem length_digitBytes (h : Hex.Spells (SubnetId.unmarked text.toList) bytes) :
    (digitBytes text).length = 2 * bytes.length :=
  Hex.length_utf8Bytes_of_spells h

/-- Two digits stand for one byte. -/
theorem half_length_digitBytes (h : Hex.Spells (SubnetId.unmarked text.toList) bytes) :
    (digitBytes text).length / 2 = bytes.length := by
  have hlength := length_digitBytes h
  omega

/-- Digits stand for the bytes that they spell, whether or not an address can hold them. -/
theorem ofHex_eq_ofBytes (ns : UInt64) (h : Hex.Spells (SubnetId.unmarked text.toList) bytes) :
    ofHex ns text = ofBytes ns bytes := by
  unfold ofHex
  rw [SubnetId.dropMark_eq_unmarked, (Hex.decodeText_eq_ok_iff _ bytes).2 h]

/-- A text has one outcome. -/
theorem ofHex_eq_iff (ns : UInt64) (text : String) (result : Except Fault ActorAddress) :
    ofHex ns text = result ↔ HexOutcome ns text result := by
  constructor
  · intro h
    cases result with
    | ok a =>
        obtain ⟨hns, hspells⟩ := (ofHex_eq_ok_iff ns text a).1 h
        exact .address hns hspells
    | error fault =>
        rcases (ofHex_eq_error_iff ns text fault).1 h with
          ⟨hex, hfault, rfl⟩ | ⟨bytes, hspells, hlong, rfl⟩
        · exact .badHex hfault
        · have hlength := length_digitBytes hspells
          rw [← half_length_digitBytes hspells]
          exact .tooLong ((Hex.arePairs_iff _).2 ⟨bytes, hspells⟩) (by omega)
  · intro h
    cases h with
    | badHex hfault => exact (ofHex_eq_error_iff ns text _).2 (Or.inl ⟨_, hfault, rfl⟩)
    | tooLong hpairs hlong =>
        obtain ⟨bytes, hspells⟩ := (Hex.arePairs_iff _).1 hpairs
        have hlength := length_digitBytes hspells
        rw [ofHex_eq_ofBytes ns hspells, half_length_digitBytes hspells, ofBytes_eq_error_iff]
        exact ⟨by omega, rfl⟩
    | address hns hspells => exact (ofHex_eq_ok_iff ns text _).2 ⟨hns, hspells⟩

theorem exists_ofHex_iff (ns : UInt64) (text : String) :
    (∃ a, ofHex ns text = .ok a) ↔
      Hex.ArePairs (digitBytes text) ∧ (digitBytes text).length ≤ 108 := by
  constructor
  · intro h
    obtain ⟨a, ha⟩ := h
    obtain ⟨-, hspells⟩ := (ofHex_eq_ok_iff ns text a).1 ha
    have hlength := length_digitBytes hspells
    have hle := a.length_le
    exact ⟨(Hex.arePairs_iff _).2 ⟨a.payload, hspells⟩, by omega⟩
  · intro h
    obtain ⟨hpairs, hle⟩ := h
    obtain ⟨bytes, hspells⟩ := (Hex.arePairs_iff _).1 hpairs
    have hlength := length_digitBytes hspells
    have hfits : bytes.length ≤ 54 := by omega
    exact ⟨⟨ns, bytes, hfits⟩, (ofHex_eq_ok_iff ns text _).2 ⟨rfl, hspells⟩⟩

/-- What is read is written again in lowercase. -/
theorem encode_payload_of_ofHex (h : ofHex ns text = .ok a) :
    Hex.encode a.payload = (SubnetId.unmarked text.toList).map Char.toLower :=
  Hex.encode_of_spells ((ofHex_eq_ok_iff ns text a).1 h).2

/-- Digits in upper and in lower case have the same outcome. -/
theorem ofHex_eq_of_map_toLower (ns : UInt64) (hpairs : Hex.ArePairs (digitBytes text))
    (hcase : (SubnetId.unmarked other.toList).map Char.toLower =
      (SubnetId.unmarked text.toList).map Char.toLower) :
    ofHex ns other = ofHex ns text := by
  obtain ⟨bytes, hspells⟩ := (Hex.arePairs_iff _).1 hpairs
  calc ofHex ns other
      = ofBytes ns bytes := ofHex_eq_ofBytes ns (Hex.spells_of_map_toLower hspells hcase)
    _ = ofHex ns text := (ofHex_eq_ofBytes ns hspells).symm

theorem ofHex_nothing (ns : UInt64) :
    ofHex ns "" = .ok ⟨ns, [], Nat.zero_le 54⟩ ∧ ofHex ns "0x" = .ok ⟨ns, [], Nat.zero_le 54⟩ :=
  ofHex_of_spells ⟨ns, [], Nat.zero_le 54⟩ .nil

/-- Every text has the outcome that its digits, without one leading `0x`, have.  It is an address
exactly when they are pairs of digits and at most 108; the address has one byte for each pair, and its
bytes in hex are the digits in lowercase, so digits in either case are the same address.  No digits at
all are the empty address.  A fault is told by its kind, and a bad digit by its byte and the index of
that among the bytes. -/
theorem ofHex_outcome (ns : UInt64) (text : String) :
    (∀ result, ofHex ns text = result ↔ HexOutcome ns text result) ∧
    ((∃ a, ofHex ns text = .ok a) ↔
      Hex.ArePairs (digitBytes text) ∧ (digitBytes text).length ≤ 108) ∧
    (∀ a, ofHex ns text = .ok a →
      a.ns = ns ∧ a.length = (digitBytes text).length / 2 ∧
      Hex.encode a.payload = (SubnetId.unmarked text.toList).map Char.toLower) ∧
    (∀ other, Hex.ArePairs (digitBytes text) →
      (SubnetId.unmarked other.toList).map Char.toLower =
        (SubnetId.unmarked text.toList).map Char.toLower →
      ofHex ns other = ofHex ns text) ∧
    (∃ a, a.ns = ns ∧ a.payload = [] ∧ ofHex ns "" = .ok a ∧ ofHex ns "0x" = .ok a) ∧
    (SubnetId.Fault.ofAddress (.badHex .oddLength)).message =
      "Invalid hex payload: Odd number of digits" ∧
    (∀ byte index, (SubnetId.Fault.ofAddress (.badHex (.badByte byte index))).message =
      "Invalid hex payload: " ++ ("Invalid character " ++ quotedByte byte ++ " at position " ++
        toString index)) ∧
    ∀ length, (SubnetId.Fault.ofAddress (.tooLong length)).message =
      "InvalidPayloadLength: " ++ toString length := by
  refine ⟨ofHex_eq_iff ns text, exists_ofHex_iff ns text, ?_, ?_, ?_, rfl, fun _ _ => rfl,
    fun _ => rfl⟩
  · intro a ha
    obtain ⟨hns, hspells⟩ := (ofHex_eq_ok_iff ns text a).1 ha
    exact ⟨hns, (half_length_digitBytes hspells).symm, encode_payload_of_ofHex ha⟩
  · intro other hpairs hcase
    exact ofHex_eq_of_map_toLower ns hpairs hcase
  · exact ⟨_, rfl, rfl, ofHex_nothing ns⟩

/-- Digits in mixed case behind a mark; a second mark is none, and an odd number hides bad digits. -/
theorem ofHex_outcome_mixedCase :
    (∃ a, ofHex 10 "0xAbcD" = .ok a ∧ a.length = 2 ∧ Hex.encode a.payload = ['a', 'b', 'c', 'd']) ∧
    ofHex 10 "aBCd" = ofHex 10 "0xAbcD" ∧
    ofHex 10 "0x0xé" = .error (.badHex (.badByte 120 1)) ∧
    ofHex 10 "0xé!" = .error (.badHex .oddLength) := by
  obtain ⟨-, hexists, hfields, hcase, -⟩ := ofHex_outcome 10 "0xAbcD"
  have hpairs : Hex.ArePairs (digitBytes "0xAbcD") := by decide +kernel
  obtain ⟨a, ha⟩ := hexists.2 ⟨hpairs, by decide⟩
  obtain ⟨-, hlength, hencode⟩ := hfields a ha
  refine ⟨⟨a, ha, hlength, hencode⟩, hcase "aBCd" hpairs (by decide), ?_, ?_⟩
  · obtain ⟨houtcome, -⟩ := ofHex_outcome 10 "0x0xé"
    have hsplit : digitBytes "0x0xé" = [48] ++ 120 :: [0xC3, 0xA9] := by decide
    have hbefore : ∀ byte ∈ [48], Hex.IsDigit byte := by decide +kernel
    exact (houtcome _).2 (.badHex (.badByte (by decide) hsplit hbefore (by decide)))
  · obtain ⟨houtcome, -⟩ := ofHex_outcome 10 "0xé!"
    exact (houtcome _).2 (.badHex (.oddLength (by decide)))

end SubnetRouter.ActorAddress
