import SubnetRouter.Proofs.Outcome
import SubnetRouter.Text.Hex

/-!
# Hexadecimal text, character by character

The reader works on the bytes of a text.  Here is what it accepts in terms of characters: pairs
of hex digits of either case, each pair for one byte.  Every other text is refused for its first
fault, in terms of bytes.  Digits spell the same bytes in either case.  Written bytes read back; they
are pairs of lowercase digits.
-/

namespace SubnetRouter.Text.Hex

def digits : List Char :=
  ['0', '1', '2', '3', '4', '5', '6', '7', '8', '9', 'a', 'b', 'c', 'd', 'e', 'f']

def value? (c : Char) : Option Nat :=
  digits.idxOf? c.toLower

/-- Pairs of digits for the bytes, the high half of each byte first. -/
inductive Spells : List Char → List UInt8 → Prop where
  | nil : Spells [] []
  | pair {high low : Char} {h l : Nat} {text : List Char} {bytes : List UInt8} :
    value? high = some h → value? low = some l → Spells text bytes →
    Spells (high :: low :: text) (UInt8.ofNat (16 * h + l) :: bytes)

/-! ## Digits -/

theorem value?_lt {c : Char} {v : Nat} (h : value? c = some v) : v < 16 := by
  obtain ⟨hlt, -⟩ := List.idxOf?_eq_some_iff.1 h
  exact hlt

theorem isSome_value?_iff (c : Char) : (value? c).isSome ↔ c.toLower ∈ digits :=
  List.isSome_idxOf?

theorem toLower_of_mem_digits {c : Char} (h : c ∈ digits) : c.toLower = c := by
  have hall : (digits.all fun d => d.toLower == d) = true := by decide
  exact eq_of_beq (List.all_eq_true.1 hall c h)

theorem toLower_of_not_ascii {c : Char} (h : 128 ≤ c.toNat) : c.toLower = c := by
  unfold Char.toLower
  split
  · rename_i hupper
    have hle : c.toNat ≤ 90 := hupper.2
    omega
  · rfl

theorem value?_of_not_ascii {c : Char} (h : 128 ≤ c.toNat) : value? c = none := by
  rw [value?, toLower_of_not_ascii h, List.idxOf?_eq_none_iff]
  intro hmem
  have hall : (digits.all fun d => d.toNat < 128) = true := by decide
  have hlt := List.all_eq_true.1 hall c hmem
  rw [decide_eq_true_eq] at hlt
  omega

theorem ascii_of_value? {c : Char} {v : Nat} (h : value? c = some v) : c.toNat < 128 := by
  rcases Nat.lt_or_ge c.toNat 128 with hlt | hge
  · exact hlt
  · rw [value?_of_not_ascii hge] at h
    cases h

set_option maxRecDepth 4096 in
theorem digitValue?_ofNat_toNat {c : Char} (h : c.toNat < 128) :
    (digitValue? (UInt8.ofNat c.toNat)).map UInt8.toNat = value? c := by
  have hall : ∀ n < 128, (digitValue? (UInt8.ofNat n)).map UInt8.toNat = value? (Char.ofNat n) := by
    decide
  have hc := hall c.toNat h
  rwa [Char.ofNat_toNat] at hc

theorem digitValue?_of_not_ascii {byte : UInt8} (h : 128 ≤ byte.toNat) :
    digitValue? byte = none := by
  unfold digitValue?
  simp only [UInt8.le_iff_toNat_le, UInt8.reduceToNat]
  rw [if_neg (by omega), if_neg (by omega), if_neg (by omega)]

theorem digitValue?_eq_some {c : Char} {v : Nat} (h : value? c = some v) :
    digitValue? (UInt8.ofNat c.toNat) = some (UInt8.ofNat v) := by
  have hmap := digitValue?_ofNat_toNat (ascii_of_value? h)
  rw [h] at hmap
  obtain ⟨byte, hbyte, rfl⟩ := Option.map_eq_some_iff.1 hmap
  rw [hbyte, UInt8.ofNat_toNat]

theorem value?_eq_some {c : Char} {v : UInt8} (h : c.toNat < 128)
    (hv : digitValue? (UInt8.ofNat c.toNat) = some v) : value? c = some v.toNat := by
  rw [← digitValue?_ofNat_toNat h, hv]
  rfl

theorem value?_digit {v : UInt8} (h : v.toNat < 16) : value? (digit v) = some v.toNat := by
  have hall : ∀ n < 16, value? (digit (UInt8.ofNat n)) = some n := by decide
  have hv := hall v.toNat h
  rwa [UInt8.ofNat_toNat] at hv

/-! ## Bytes of a text -/

theorem utf8EncodeChar_of_ascii {c : Char} (h : c.toNat < 128) :
    String.utf8EncodeChar c = [UInt8.ofNat c.toNat] := by
  have hle : c.val.toNat ≤ 127 := by
    change c.toNat ≤ 127
    omega
  unfold String.utf8EncodeChar
  rw [if_pos hle]
  rfl

theorem utf8Bytes_of_ascii {text : List Char} (h : ∀ c ∈ text, c.toNat < 128) :
    utf8Bytes text = text.map fun c => UInt8.ofNat c.toNat := by
  induction text with
  | nil => rfl
  | cons c rest ih =>
      rw [List.forall_mem_cons] at h
      have hrest := ih h.2
      rw [utf8Bytes] at hrest ⊢
      rw [List.flatMap_cons, utf8EncodeChar_of_ascii h.1, hrest]
      rfl

/-- A character beyond ASCII takes several bytes, none of which is a digit. -/
theorem exists_high_byte {c : Char} (h : 128 ≤ c.toNat) :
    ∃ byte ∈ String.utf8EncodeChar c, 128 ≤ byte.toNat := by
  have hgt : ¬ c.val.toNat ≤ 127 := by
    change ¬ c.toNat ≤ 127
    omega
  unfold String.utf8EncodeChar
  rw [if_neg hgt]
  split
  · exact ⟨_, List.mem_cons_self, by rw [UInt8.toNat_ofNat']; omega⟩
  · split
    · exact ⟨_, List.mem_cons_self, by rw [UInt8.toNat_ofNat']; omega⟩
    · exact ⟨_, List.mem_cons_self, by rw [UInt8.toNat_ofNat']; omega⟩

theorem readDigit_eq_ok_iff (index : Nat) (byte value : UInt8) :
    readDigit index byte = .ok value ↔ digitValue? byte = some value := by
  unfold readDigit
  cases digitValue? byte with
  | none => simp
  | some v => simp

theorem decodePairs_cons_cons (index : Nat) (high low : UInt8) (rest bytes : List UInt8) :
    decodePairs index (high :: low :: rest) = .ok bytes ↔
      ∃ h, digitValue? high = some h ∧ ∃ l, digitValue? low = some l ∧
        ∃ tail, decodePairs (index + 2) rest = .ok tail ∧ (h * 16 + l) :: tail = bytes := by
  rw [decodePairs]
  simp only [bind_eq_ok_iff, readDigit_eq_ok_iff, pure_eq_ok_iff]

/-- Bytes that are read are digits. -/
theorem digitValue?_of_decodePairs {index : Nat} {text bytes : List UInt8}
    (h : decodePairs index text = .ok bytes) : ∀ byte ∈ text, (digitValue? byte).isSome := by
  fun_induction decodePairs index text generalizing bytes with
  | case1 index high low rest ih =>
      rw [← decodePairs, decodePairs_cons_cons] at h
      obtain ⟨v, hv, w, hw, tail, htail, -⟩ := h
      simp only [List.forall_mem_cons, hv, hw, Option.isSome_some, true_and]
      exact ih htail
  | case2 => cases h
  | case3 => simp

theorem ascii_of_decodePairs {index : Nat} {text : List Char} {bytes : List UInt8}
    (h : decodePairs index (utf8Bytes text) = .ok bytes) : ∀ c ∈ text, c.toNat < 128 := by
  intro c hc
  rcases Nat.lt_or_ge c.toNat 128 with hlt | hge
  · exact hlt
  · obtain ⟨byte, hmem, hbyte⟩ := exists_high_byte hge
    have hdigit := digitValue?_of_decodePairs h byte (List.mem_flatMap.2 ⟨c, hc, hmem⟩)
    rw [digitValue?_of_not_ascii hbyte] at hdigit
    cases hdigit

/-! ## Reading -/

theorem ofNat_halves (h l : UInt8) : UInt8.ofNat (16 * h.toNat + l.toNat) = h * 16 + l := by
  rw [← UInt8.toNat_inj, UInt8.toNat_ofNat', UInt8.toNat_add, UInt8.toNat_mul]
  simp only [UInt8.reduceToNat]
  omega

theorem spells_of_decodePairs (index : Nat) : ∀ (text : List Char) (bytes : List UInt8),
    (∀ c ∈ text, c.toNat < 128) →
    decodePairs index (text.map fun c => UInt8.ofNat c.toNat) = .ok bytes → Spells text bytes
  | [], bytes, _, h => by
      cases h
      exact .nil
  | [_], _, _, h => by cases h
  | high :: low :: rest, bytes, hascii, h => by
      simp only [List.forall_mem_cons] at hascii
      obtain ⟨v, hv, w, hw, tail, htail, rfl⟩ := (decodePairs_cons_cons _ _ _ _ _).1 h
      rw [← ofNat_halves]
      exact .pair (value?_eq_some hascii.1 hv) (value?_eq_some hascii.2.1 hw)
        (spells_of_decodePairs (index + 2) rest tail hascii.2.2 htail)

theorem ascii_of_spells {text : List Char} {bytes : List UInt8} (h : Spells text bytes) :
    ∀ c ∈ text, c.toNat < 128 := by
  induction h with
  | nil => simp
  | pair hhigh hlow _ ih =>
      simp only [List.forall_mem_cons]
      exact ⟨ascii_of_value? hhigh, ascii_of_value? hlow, ih⟩

theorem length_of_spells {text : List Char} {bytes : List UInt8} (h : Spells text bytes) :
    text.length = 2 * bytes.length := by
  induction h with
  | nil => rfl
  | pair _ _ _ ih =>
      simp only [List.length_cons, ih]
      omega

theorem decodePairs_of_spells {text : List Char} {bytes : List UInt8} (h : Spells text bytes)
    (index : Nat) :
    decodePairs index (text.map fun c => UInt8.ofNat c.toNat) = .ok bytes := by
  induction h generalizing index with
  | nil => rfl
  | pair hhigh hlow _ ih =>
      rw [List.map_cons, List.map_cons, decodePairs_cons_cons]
      refine ⟨_, digitValue?_eq_some hhigh, _, digitValue?_eq_some hlow, _, ih (index + 2), ?_⟩
      rw [← ofNat_halves, UInt8.toNat_ofNat_of_lt', UInt8.toNat_ofNat_of_lt']
      · exact Nat.lt_trans (value?_lt hlow) (by decide)
      · exact Nat.lt_trans (value?_lt hhigh) (by decide)

/-- A text is read as bytes exactly when it spells them. -/
theorem decodeText_eq_ok_iff (text : List Char) (bytes : List UInt8) :
    decodeText text = .ok bytes ↔ Spells text bytes := by
  unfold decodeText decode
  constructor
  · intro h
    split at h
    · cases h
    · have hascii := ascii_of_decodePairs h
      rw [utf8Bytes_of_ascii hascii] at h
      exact spells_of_decodePairs 0 text bytes hascii h
  · intro h
    rw [utf8Bytes_of_ascii (ascii_of_spells h), List.length_map, length_of_spells h,
      if_neg (by omega)]
    exact decodePairs_of_spells h 0

/-! ## Faults -/

/-- The byte is the ASCII code of a digit of either case. -/
def IsDigit (byte : UInt8) : Prop :=
  ∃ c, (value? c).isSome ∧ c.toNat = byte.toNat

/-- Why bytes are no pairs of digits: their number is odd, whatever they are, or else the first one
that is no digit. -/
inductive FirstFault (text : List UInt8) : Fault → Prop where
  | oddLength : text.length % 2 = 1 → FirstFault text .oddLength
  | badByte {before after : List UInt8} {byte : UInt8} : text.length % 2 = 0 →
    text = before ++ byte :: after → (∀ b ∈ before, IsDigit b) → ¬ IsDigit byte →
    FirstFault text (.badByte byte before.length)

/-- The fault of the first byte that is no digit, where the bytes begin at the index. -/
def FirstBadByte (index : Nat) (text : List UInt8) (fault : Fault) : Prop :=
  ∃ before rest, text = before ++ rest ∧ (∀ b ∈ before, IsDigit b) ∧
    ∃ byte after, rest = byte :: after ∧ ¬ IsDigit byte ∧ .badByte byte (index + before.length) = fault

theorem isDigit_iff (byte : UInt8) : IsDigit byte ↔ (digitValue? byte).isSome := by
  constructor
  · rintro ⟨c, hsome, hc⟩
    obtain ⟨v, hv⟩ := Option.isSome_iff_exists.1 hsome
    have hbyte := digitValue?_eq_some hv
    rw [hc, UInt8.ofNat_toNat] at hbyte
    rw [hbyte]
    rfl
  · intro h
    rcases Nat.lt_or_ge byte.toNat 128 with hlt | hge
    · have hvalid : byte.toNat.isValidChar := Or.inl (by omega)
      have hc : (Char.ofNat byte.toNat).toNat = byte.toNat := by
        rw [Char.ofNat, dif_pos hvalid]
        exact UInt32.toNat_ofNatLT
      refine ⟨Char.ofNat byte.toNat, ?_, hc⟩
      rw [← digitValue?_ofNat_toNat (by rwa [hc]), hc, UInt8.ofNat_toNat, Option.isSome_map]
      exact h
    · rw [digitValue?_of_not_ascii hge] at h
      cases h

instance (byte : UInt8) : Decidable (IsDigit byte) :=
  decidable_of_iff _ (isDigit_iff byte).symm

theorem not_firstBadByte_nil (index : Nat) (fault : Fault) : ¬ FirstBadByte index [] fault := by
  rintro ⟨before, rest, hsplit, -, byte, after, rfl, -⟩
  simp at hsplit

theorem firstBadByte_cons_iff (index : Nat) (byte : UInt8) (rest : List UInt8) (fault : Fault) :
    FirstBadByte index (byte :: rest) fault ↔
      (¬ IsDigit byte ∧ .badByte byte index = fault) ∨
        (IsDigit byte ∧ FirstBadByte (index + 1) rest fault) := by
  unfold FirstBadByte
  rw [exists_split_cons_iff]
  simp [Nat.add_assoc, Nat.add_comm 1]

theorem readDigit_eq_error_iff (index : Nat) (byte : UInt8) (fault : Fault) :
    readDigit index byte = .error fault ↔ ¬ IsDigit byte ∧ .badByte byte index = fault := by
  rw [isDigit_iff, readDigit]
  cases digitValue? byte with
  | none => simp
  | some v => simp

theorem exists_readDigit_iff (index : Nat) (byte : UInt8) :
    (∃ value, readDigit index byte = .ok value) ↔ IsDigit byte := by
  simp only [readDigit_eq_ok_iff, isDigit_iff, Option.isSome_iff_exists]

theorem decodePairs_cons_cons_eq_error_iff (index : Nat) (high low : UInt8) (rest : List UInt8)
    (fault : Fault) :
    decodePairs index (high :: low :: rest) = .error fault ↔
      readDigit index high = .error fault ∨ ((∃ h, readDigit index high = .ok h) ∧
        (readDigit (index + 1) low = .error fault ∨ ((∃ l, readDigit (index + 1) low = .ok l) ∧
          decodePairs (index + 2) rest = .error fault))) := by
  rw [decodePairs]
  simp only [bind_eq_error_iff, pure, Except.pure, reduceCtorEq, and_false, exists_false, or_false,
    exists_and_right]

theorem decodePairs_eq_error_iff (index : Nat) (text : List UInt8) (fault : Fault)
    (h : text.length % 2 = 0) :
    decodePairs index text = .error fault ↔ FirstBadByte index text fault := by
  fun_induction decodePairs index text with
  | case1 index high low rest ih =>
      have hrest : rest.length % 2 = 0 := by
        simp only [List.length_cons] at h
        omega
      rw [← decodePairs, decodePairs_cons_cons_eq_error_iff, readDigit_eq_error_iff,
        exists_readDigit_iff, readDigit_eq_error_iff, exists_readDigit_iff, ih hrest,
        firstBadByte_cons_iff, firstBadByte_cons_iff]
  | case2 => simp at h
  | case3 index => exact ⟨nofun, fun hbad => absurd hbad (not_firstBadByte_nil index fault)⟩

/-- Bytes are refused for exactly their first fault. -/
theorem decode_eq_error_iff (text : List UInt8) (fault : Fault) :
    decode text = .error fault ↔ FirstFault text fault := by
  unfold decode
  split
  · rename_i hodd
    rw [Except.error.injEq]
    constructor
    · rintro rfl
      exact .oddLength hodd
    · intro h
      cases h with
      | oddLength => rfl
      | badByte heven => omega
  · rename_i hodd
    have heven : text.length % 2 = 0 := by omega
    rw [decodePairs_eq_error_iff 0 text fault heven]
    constructor
    · rintro ⟨before, rest, hsplit, hdigits, byte, after, rfl, hbad, rfl⟩
      rw [Nat.zero_add]
      exact .badByte heven hsplit hdigits hbad
    · intro h
      cases h with
      | oddLength h => exact absurd h hodd
      | badByte _ hsplit hdigits hbad =>
          refine ⟨_, _, hsplit, hdigits, _, _, rfl, hbad, ?_⟩
          rw [Nat.zero_add]

/-! ## Into places -/

theorem fill_cons_cons (place high low : UInt8) (places rest bytes : List UInt8) :
    fill (place :: places) (high :: low :: rest) = (bytes, true) ↔
      ∃ h, digitValue? high = some h ∧ ∃ l, digitValue? low = some l ∧
        ∃ tail, fill places rest = (tail, true) ∧ (h * 16 + l) :: tail = bytes := by
  rw [fill]
  cases digitValue? high with
  | none => simp
  | some h =>
      cases digitValue? low with
      | none => simp
      | some l =>
          obtain ⟨filled, complete⟩ := fill places rest
          simp only [Option.some.injEq, exists_eq_left', Prod.mk.injEq]
          constructor
          · rintro ⟨hbytes, hcomplete⟩
            exact ⟨filled, ⟨rfl, hcomplete⟩, hbytes⟩
          · rintro ⟨tail, ⟨rfl, hcomplete⟩, hbytes⟩
            exact ⟨hbytes, hcomplete⟩

/-- Where there are two digits for each place, all of them are filled exactly when the digits can be
read. -/
theorem fill_eq_true_iff (index : Nat) (places text bytes : List UInt8)
    (h : text.length = 2 * places.length) :
    fill places text = (bytes, true) ↔ decodePairs index text = .ok bytes := by
  induction places generalizing index text bytes with
  | nil =>
      obtain rfl := List.eq_nil_of_length_eq_zero h
      rw [fill, decodePairs, Prod.mk.injEq, Except.ok.injEq]
      · exact and_iff_left rfl
      · nofun
  | cons place places ih =>
      match text, h with
      | high :: low :: rest, h =>
          have hrest : rest.length = 2 * places.length := by
            simp only [List.length_cons] at h
            omega
          rw [fill_cons_cons, decodePairs_cons_cons]
          simp only [ih (index + 2) rest _ hrest]

theorem length_utf8Bytes_of_spells {text : List Char} {bytes : List UInt8} (h : Spells text bytes) :
    (utf8Bytes text).length = 2 * bytes.length := by
  rw [utf8Bytes_of_ascii (ascii_of_spells h), List.length_map, length_of_spells h]

/-- All places are filled exactly when the text spells as many bytes. -/
theorem decodeInto_eq_true_iff (places bytes : List UInt8) (text : List Char) :
    decodeInto places text = (bytes, true) ↔
      Spells text bytes ∧ bytes.length = places.length := by
  unfold decodeInto
  dsimp only
  split
  · rename_i hlength
    have heven : ¬ (utf8Bytes text).length % 2 = 1 := by omega
    rw [fill_eq_true_iff 0 places _ bytes hlength, ← decodeText_eq_ok_iff, decodeText, decode,
      if_neg heven]
    constructor
    · intro h
      have hbytes := length_utf8Bytes_of_spells ((decodeText_eq_ok_iff text bytes).1
        (by rw [decodeText, decode, if_neg heven, h]))
      exact ⟨h, by omega⟩
    · exact And.left
  · rename_i hlength
    constructor
    · intro h
      cases h
    · rintro ⟨hspells, hbytes⟩
      rw [length_utf8Bytes_of_spells hspells, hbytes] at hlength
      exact absurd rfl hlength

/-! ## Pairs of digits -/

/-- The bytes are digits only, and an even number of them. -/
def ArePairs (text : List UInt8) : Prop :=
  text.length % 2 = 0 ∧ ∀ byte ∈ text, IsDigit byte

instance (text : List UInt8) : Decidable (ArePairs text) :=
  inferInstanceAs (Decidable (_ ∧ _))

theorem isDigit_of_spells {text : List Char} {bytes : List UInt8} (h : Spells text bytes) :
    ∀ byte ∈ utf8Bytes text, IsDigit byte := by
  have hread := (decodeText_eq_ok_iff text bytes).2 h
  unfold decodeText decode at hread
  split at hread
  · cases hread
  · intro byte hbyte
    exact (isDigit_iff byte).2 (digitValue?_of_decodePairs hread byte hbyte)

/-- Pairs of digits have no first fault, so the bytes that they spell can be read. -/
theorem arePairs_iff (text : List Char) :
    ArePairs (utf8Bytes text) ↔ ∃ bytes, Spells text bytes := by
  constructor
  · intro h
    cases hread : decodeText text with
    | ok bytes => exact ⟨bytes, (decodeText_eq_ok_iff text bytes).1 hread⟩
    | error fault =>
        cases (decode_eq_error_iff _ fault).1 hread with
        | oddLength hodd =>
            have heven := h.1
            omega
        | badByte _ hsplit _ hbad =>
            have hmem := hsplit ▸ List.mem_append_right _ List.mem_cons_self
            exact absurd (h.2 _ hmem) hbad
  · intro h
    obtain ⟨bytes, hspells⟩ := h
    have hlength := length_utf8Bytes_of_spells hspells
    exact ⟨by omega, isDigit_of_spells hspells⟩

theorem value?_of_toLower_eq {c d : Char} (h : c.toLower = d.toLower) : value? c = value? d := by
  rw [value?, value?, h]

/-- Digits spell the same bytes in upper and in lower case. -/
theorem spells_of_map_toLower {text other : List Char} {bytes : List UInt8}
    (h : Spells text bytes) (hcase : other.map Char.toLower = text.map Char.toLower) :
    Spells other bytes := by
  induction h generalizing other with
  | nil =>
      rw [List.map_eq_nil_iff.1 hcase]
      exact .nil
  | pair hhigh hlow _ ih =>
      rw [List.map_cons, List.map_cons] at hcase
      obtain ⟨high, rest, rfl, hcase_high, hcase⟩ := List.map_eq_cons_iff.1 hcase
      obtain ⟨low, rest, rfl, hcase_low, hcase⟩ := List.map_eq_cons_iff.1 hcase
      rw [← value?_of_toLower_eq hcase_high] at hhigh
      rw [← value?_of_toLower_eq hcase_low] at hlow
      exact .pair hhigh hlow (ih hcase)

/-! ## Writing -/

theorem spells_encode (bytes : List UInt8) : Spells (encode bytes) bytes := by
  induction bytes with
  | nil => exact .nil
  | cons byte rest ih =>
      have hhigh : (byte / 16).toNat = byte.toNat / 16 := UInt8.toNat_div byte 16
      have hlow : (byte % 16).toNat = byte.toNat % 16 := UInt8.toNat_mod byte 16
      have hlt := byte.toNat_lt_size
      simp only [UInt8.size] at hlt
      have hpair := Spells.pair (value?_digit (v := byte / 16) (by omega))
        (value?_digit (v := byte % 16) (by omega)) ih
      rw [hhigh, hlow, Nat.div_add_mod, UInt8.ofNat_toNat] at hpair
      exact hpair

theorem encode_injective : Function.Injective encode := by
  intro bytes bytes' h
  have hread : decodeText (encode bytes) = .ok bytes :=
    (decodeText_eq_ok_iff _ bytes).2 (spells_encode bytes)
  rw [h, (decodeText_eq_ok_iff _ bytes').2 (spells_encode bytes'), Except.ok.injEq] at hread
  exact hread.symm

theorem digit_of_value? {c : Char} {v : Nat} (h : value? c = some v) :
    digit (UInt8.ofNat v) = c.toLower := by
  obtain ⟨hlt, hc, -⟩ := List.idxOf?_eq_some_iff.1 h
  have hall : ∀ v, (h : v < digits.length) → digit (UInt8.ofNat v) = digits[v] := by decide
  rw [hall v hlt]
  exact hc

theorem encodeByte_of_value? {high low : Char} {h l : Nat} (hhigh : value? high = some h)
    (hlow : value? low = some l) :
    encodeByte (UInt8.ofNat (16 * h + l)) = [high.toLower, low.toLower] := by
  have hh := value?_lt hhigh
  have hl := value?_lt hlow
  have hdiv : UInt8.ofNat (16 * h + l) / 16 = UInt8.ofNat h := by
    rw [← UInt8.toNat_inj, UInt8.toNat_div, UInt8.toNat_ofNat', UInt8.toNat_ofNat']
    simp only [UInt8.reduceToNat]
    omega
  have hmod : UInt8.ofNat (16 * h + l) % 16 = UInt8.ofNat l := by
    rw [← UInt8.toNat_inj, UInt8.toNat_mod, UInt8.toNat_ofNat', UInt8.toNat_ofNat']
    simp only [UInt8.reduceToNat]
    omega
  rw [encodeByte, hdiv, hmod, digit_of_value? hhigh, digit_of_value? hlow]

/-- Bytes that were read are written in lowercase. -/
theorem encode_of_spells {text : List Char} {bytes : List UInt8} (h : Spells text bytes) :
    encode bytes = text.map Char.toLower := by
  induction h with
  | nil => rfl
  | pair hhigh hlow _ ih =>
      rw [encode] at ih ⊢
      rw [List.flatMap_cons, encodeByte_of_value? hhigh hlow, ih]
      rfl

theorem value?_of_spells {text : List Char} {bytes : List UInt8} (h : Spells text bytes) :
    ∀ c ∈ text, (value? c).isSome := by
  induction h with
  | nil => simp
  | pair hhigh hlow _ ih =>
      simp only [List.forall_mem_cons, hhigh, hlow, Option.isSome_some, true_and]
      exact ih

theorem exists_spells : ∀ text : List Char, text.length % 2 = 0 →
    (∀ c ∈ text, (value? c).isSome) → ∃ bytes, Spells text bytes
  | [], _, _ => ⟨[], .nil⟩
  | [_], hlength, _ => by simp at hlength
  | high :: low :: rest, hlength, hdigits => by
      simp only [List.forall_mem_cons] at hdigits
      obtain ⟨h, hhigh⟩ := Option.isSome_iff_exists.1 hdigits.1
      obtain ⟨l, hlow⟩ := Option.isSome_iff_exists.1 hdigits.2.1
      have hrest : rest.length % 2 = 0 := by
        simp only [List.length_cons] at hlength
        omega
      obtain ⟨bytes, hbytes⟩ := exists_spells rest hrest hdigits.2.2
      exact ⟨_, .pair hhigh hlow hbytes⟩

/-- Written bytes are digits only, in lowercase. -/
theorem mem_digits_of_mem_encode {bytes : List UInt8} {c : Char} (h : c ∈ encode bytes) :
    c ∈ digits := by
  have hspells := spells_encode bytes
  rw [encode_of_spells hspells] at h
  obtain ⟨d, hd, rfl⟩ := List.mem_map.1 h
  exact (isSome_value?_iff d).1 (value?_of_spells hspells d hd)

/-- The written texts are the pairs of lowercase digits. -/
theorem exists_encode_iff (text : List Char) :
    (∃ bytes, encode bytes = text) ↔ text.length % 2 = 0 ∧ ∀ c ∈ text, c ∈ digits := by
  constructor
  · rintro ⟨bytes, rfl⟩
    refine ⟨?_, fun c hc => mem_digits_of_mem_encode hc⟩
    rw [length_encode]
    omega
  · rintro ⟨hlength, hdigits⟩
    have hlower : ∀ c ∈ text, c.toLower = c := fun c hc => toLower_of_mem_digits (hdigits c hc)
    have hvalue : ∀ c ∈ text, (value? c).isSome := by
      intro c hc
      rw [isSome_value?_iff, hlower c hc]
      exact hdigits c hc
    obtain ⟨bytes, hspells⟩ := exists_spells text hlength hvalue
    refine ⟨bytes, ?_⟩
    rw [encode_of_spells hspells, List.map_congr_left hlower, List.map_id']

end SubnetRouter.Text.Hex
