import SubnetRouter.Config.Reader
import SubnetRouter.Document.Decode
import SubnetRouter.Proofs.Text.Hexadecimal

/-!
# The bytes of contract addresses

Nobody looks whether the bytes of a contract address could be decoded.  They always can, since only
texts with forty hex digits become addresses; so the bytes are those that the text spells.

* `isWellFormed_iff`: the texts that are accepted.
* `decode_digits`: decoding the digits of an address never fails.
* `read_iff_and_bytes`: texts and bytes together.
-/

namespace SubnetRouter.ContractAddress

open Text

/-- `0x` and forty hex digits of either case. -/
def IsAddressText (text : List Char) : Prop :=
  ∃ digits, text = '0' :: 'x' :: digits ∧ digits.length = 40 ∧ ∀ c ∈ digits, c.toLower ∈ Hex.digits

/-! ## Accepted texts -/

theorem decode_eq_true_iff (digits : List Char) (bytes : List UInt8) :
    decode digits = (bytes, true) ↔ Hex.Spells digits bytes ∧ bytes.length = 20 := by
  rw [decode, Hex.decodeInto_eq_true_iff, List.length_replicate]

theorem isComplete_iff (digits : List Char) :
    (decode digits).2 = true ↔ ∃ bytes, Hex.Spells digits bytes ∧ bytes.length = 20 := by
  simp only [← decode_eq_true_iff]
  constructor
  · intro h
    exact ⟨(decode digits).1, Prod.ext rfl h⟩
  · rintro ⟨bytes, h⟩
    rw [h]

/-- Forty digits spell twenty bytes, and nothing else does. -/
theorem exists_spells_iff (digits : List Char) :
    (∃ bytes, Hex.Spells digits bytes ∧ bytes.length = 20) ↔
      digits.length = 40 ∧ ∀ c ∈ digits, c.toLower ∈ Hex.digits := by
  simp only [← Hex.isSome_value?_iff]
  constructor
  · rintro ⟨bytes, hspells, hlength⟩
    refine ⟨?_, Hex.value?_of_spells hspells⟩
    rw [Hex.length_of_spells hspells, hlength]
  · rintro ⟨hlength, hdigits⟩
    obtain ⟨bytes, hspells⟩ := Hex.exists_spells digits (by omega) hdigits
    have hbytes := Hex.length_of_spells hspells
    exact ⟨bytes, hspells, by omega⟩

theorem isWellFormed_iff (text : List Char) : isWellFormed text = true ↔ IsAddressText text := by
  unfold isWellFormed
  constructor
  · intro h
    split at h
    · rename_i digits
      exact ⟨digits, rfl, (exists_spells_iff digits).1 ((isComplete_iff digits).1 h)⟩
    · cases h
  · rintro ⟨digits, rfl, hdigits⟩
    exact (isComplete_iff digits).2 ((exists_spells_iff digits).2 hdigits)

theorem read?_eq_some_iff (text : String) (a : ContractAddress) :
    read? text = some a ↔ a.text = text := by
  unfold read?
  constructor
  · intro h
    split at h
    · cases h
      rfl
    · cases h
  · rintro rfl
    rw [dif_pos a.wellFormed]

theorem read_eq_ok_iff (text : String) (a : ContractAddress) : read text = .ok a ↔ a.text = text := by
  rw [← read?_eq_some_iff, read]
  cases read? text with
  | none => simp
  | some b => simp

theorem exists_read_iff (text : String) : (∃ a, read text = .ok a) ↔ IsAddressText text.toList := by
  simp only [read_eq_ok_iff]
  rw [← isWellFormed_iff]
  constructor
  · rintro ⟨a, rfl⟩
    exact a.wellFormed
  · intro h
    exact ⟨⟨text, h⟩, rfl⟩

/-! ## Documents -/

variable {α : Type} [Document α] {value : α} {text : String}

theorem readAddress_of_shape (h : Document.shape value = .string text) :
    Document.readAddress value =
      match read? text with
      | some a => .ok a
      | none => .error (.badAddress text) := by
  unfold Document.readAddress Document.readText
  rw [h]
  rfl

/-- In a document a text is read as the same address, or refused in the same words. -/
theorem message_readAddress_of_shape (h : Document.shape value = .string text) :
    (Document.readAddress value).mapError DocumentFault.message =
      (read text).mapError ConfigFault.message := by
  rw [readAddress_of_shape h, read]
  cases read? text with
  | none => rfl
  | some a => rfl

/-! ## Bytes -/

theorem toList_text (a : ContractAddress) : a.text.toList = '0' :: 'x' :: a.digits := by
  obtain ⟨rest, htext, -⟩ := (isWellFormed_iff _).1 a.wellFormed
  rw [digits, htext]
  rfl

/-- The digits begin after two bytes of the text, between two characters. -/
theorem isValid_two (a : ContractAddress) : String.Pos.Raw.IsValid a.text ⟨2⟩ := by
  refine String.Pos.Raw.isValid_iff_exists_append.2 ⟨"0x", String.ofList a.digits, ?_, rfl⟩
  rw [← String.toList_inj, toList_text, String.toList_append, String.toList_ofList,
    String.toList_ofList]
  rfl

theorem decode_digits (a : ContractAddress) : decode a.digits = (a.bytes, true) := by
  have hcomplete := a.wellFormed
  rw [toList_text] at hcomplete
  exact Prod.ext rfl hcomplete

theorem spells_digits (a : ContractAddress) :
    Hex.Spells a.digits a.bytes ∧ a.bytes.length = 20 :=
  (decode_eq_true_iff a.digits a.bytes).1 a.decode_digits

theorem encode_bytes (a : ContractAddress) :
    "0x" ++ String.ofList (Hex.encode a.bytes) = a.text.toLower := by
  change _ = a.text.map Char.toLower
  rw [← String.toList_inj, String.toList_map, toList_text, List.map_cons, List.map_cons,
    ← Hex.encode_of_spells a.spells_digits.1, String.toList_append, String.toList_ofList,
    String.toList_ofList]
  rfl

theorem bytes_eq_iff (a b : ContractAddress) : a.bytes = b.bytes ↔ a.text.toLower = b.text.toLower := by
  rw [← encode_bytes, ← encode_bytes, String.append_right_inj, String.ofList_inj,
    Hex.encode_injective.eq_iff]

/-! ## Texts and bytes -/

/-- The texts of addresses are `0x` and forty hex digits of either case.  An address keeps the text that
it was read from, and in a document the same texts are read, or refused in the same words.  Of every
address, however it was obtained, the digits begin between two characters, and decoding them
does not fail.  The bytes are twenty, and in lowercase digits they are the text in lowercase; so addresses
have the same bytes exactly when their texts differ at most in the case of letters. -/
theorem read_iff_and_bytes :
    (∀ text, (∃ a, read text = .ok a) ↔ IsAddressText text.toList) ∧
    (∀ text a, read text = .ok a ↔ a.text = text) ∧
    (∀ text,
      (Document.readAddress (Json.string text)).mapError DocumentFault.message =
        (read text).mapError ConfigFault.message ∧
      (Document.readAddress (Toml.string text)).mapError DocumentFault.message =
        (read text).mapError ConfigFault.message) ∧
    ∀ a : ContractAddress,
      String.Pos.Raw.IsValid a.text ⟨2⟩ ∧
      (decode a.digits).2 = true ∧ a.bytes.length = 20 ∧
      "0x" ++ String.ofList (Hex.encode a.bytes) = a.text.toLower ∧
      ∀ b : ContractAddress, a.bytes = b.bytes ↔ a.text.toLower = b.text.toLower := by
  refine ⟨exists_read_iff, read_eq_ok_iff, fun text => ?_, fun a => ?_⟩
  · exact ⟨message_readAddress_of_shape rfl, message_readAddress_of_shape rfl⟩
  · exact ⟨a.isValid_two, congrArg Prod.snd a.decode_digits, a.spells_digits.2, a.encode_bytes,
      bytes_eq_iff a⟩

end SubnetRouter.ContractAddress
