import SubnetRouter.Json.Printer
import SubnetRouter.Json.Reader
import SubnetRouter.Proofs.Text.Decimal

/-!
# Written integers and strings read back

An integer ends where its digits end, so what follows must not go on like a numeral; a string ends at
its closing quote, whatever follows.

* `readNumber_chars`: integers.
* `readChars_charText`, `readString_stringChars`: characters, with or without an escape, and strings.
-/

namespace SubnetRouter.Json

open Text

/-! ## Integers -/

/-- The text does not go on like a numeral. -/
def EndsNumeral (rest : List Char) : Prop :=
  ∀ c ∈ rest.head?, c.isDigit = false ∧ c ≠ '.' ∧ c ≠ 'e' ∧ c ≠ 'E'

variable {digits rest : List Char}

theorem spanDigits_append (hdigits : ∀ c ∈ digits, c.isDigit) (hrest : EndsNumeral rest) :
    spanDigits (digits ++ rest) = (digits.map (·.toNat - 48), rest) := by
  unfold spanDigits
  rw [List.takeWhile_append_of_pos hdigits, List.dropWhile_append_of_pos hdigits]
  cases rest with
  | nil => rw [List.takeWhile_nil, List.dropWhile_nil, List.append_nil]
  | cons c rest =>
      have hc : ¬ c.isDigit = true := by
        rw [(hrest c rfl).1]
        exact Bool.false_ne_true
      rw [List.takeWhile_cons_of_neg hc, List.dropWhile_cons_of_neg hc, List.append_nil]

/-- The values of the digits of a number. -/
def digitsOf (n : Nat) : List Nat :=
  (Nat.toDigits 10 n).map (·.toNat - 48)

theorem ofDigits_digitsOf (n : Nat) : ofDigits (digitsOf n) = n := by
  calc ofDigits (digitsOf n)
      = Nat.ofDigitChars 10 (Nat.toDigits 10 n) 0 := by
        unfold ofDigits digitsOf Nat.ofDigitChars
        rw [List.foldl_map]
        congr 1
        funext value c
        rw [Nat.mul_comm]
        rfl
    _ = n := Nat.ofDigitChars_ten_toDigits

theorem isDigit_of_mem_toDigits {n : Nat} {c : Char} (h : c ∈ Nat.toDigits 10 n) : c.isDigit :=
  Nat.isDigit_of_mem_toDigits (by omega) (by omega) h

theorem readWhole_toDigits (n : Nat) (h : EndsNumeral rest) :
    readWhole (Nat.toDigits 10 n ++ rest) = some (digitsOf n, rest) := by
  have hspan : spanDigits (Nat.toDigits 10 n ++ rest) = (digitsOf n, rest) :=
    spanDigits_append (fun c hc => isDigit_of_mem_toDigits hc) h
  obtain ⟨c, digits, hdigits⟩ := List.exists_cons_of_ne_nil (Nat.toDigits_ne_nil (n := n) (b := 10))
  by_cases hzero : c = '0'
  · -- Only the number zero begins with a zero, which stands alone.
    obtain rfl : n = 0 :=
      Natural64.eq_zero_of_head?_toDigits n (by rw [hdigits, hzero, List.head?_cons])
    change (if rest.head?.any Char.isDigit then none else some ([0], rest)) = some ([0], rest)
    rw [if_neg]
    cases rest with
    | nil => exact Bool.false_ne_true
    | cons c rest =>
        rw [List.head?_cons, Option.any_some, (h c rfl).1]
        exact Bool.false_ne_true
  · have hempty : (digitsOf n).isEmpty = false := by rw [digitsOf, hdigits, List.map_cons, List.isEmpty_cons]
    rw [hdigits, List.cons_append] at hspan ⊢
    rw [readWhole]
    · rw [hspan]
      dsimp only
      rw [hempty]
      rfl
    · intro rest' heq
      exact hzero (List.cons.inj heq).1

theorem readUnsigned_toDigits (negative : Bool) (n : Nat) (h : EndsNumeral rest) :
    readUnsigned negative (Nat.toDigits 10 n ++ rest) =
      some (⟨negative, digitsOf n, [], none⟩, rest) := by
  have hfraction : readFraction rest = some ([], rest) := by
    rw [readFraction]
    rintro rest' rfl
    exact (h _ rfl).2.1 rfl
  have hexponent : readExponent rest = some (none, rest) := by
    rw [readExponent]
    · rintro rest' rfl
      exact (h _ rfl).2.2.1 rfl
    · rintro rest' rfl
      exact (h _ rfl).2.2.2 rfl
  unfold readUnsigned
  rw [readWhole_toDigits n h]
  change (readFraction rest >>= _) = _
  rw [hfraction]
  change (readExponent rest >>= _) = _
  rw [hexponent]
  rfl

/-- A minus stands before the digits of negative integers only. -/
theorem readNumeral_chars (value : Int) (fits : FitsInteger value) (h : EndsNumeral rest) :
    readNumeral ((Number.int value fits).chars ++ rest) =
      some (⟨decide (value < 0), digitsOf value.natAbs, [], none⟩, rest) := by
  by_cases hneg : value < 0
  · rw [Number.chars, if_pos hneg, decide_eq_true hneg]
    exact readUnsigned_toDigits true _ h
  · rw [Number.chars, if_neg hneg, decide_eq_false hneg]
    rw [readNumeral]
    · exact readUnsigned_toDigits false _ h
    · intro rest' heq
      have hminus : '-' ∈ Nat.toDigits 10 value.natAbs := by
        obtain ⟨c, digits, hdigits⟩ :=
          List.exists_cons_of_ne_nil (Nat.toDigits_ne_nil (n := value.natAbs) (b := 10))
        rw [hdigits, List.cons_append, List.cons.injEq] at heq
        rw [hdigits, heq.1]
        exact List.mem_cons_self
      exact absurd (isDigit_of_mem_toDigits hminus) (by decide)

theorem readNumber_chars (value : Int) (fits : FitsInteger value) (h : EndsNumeral rest) :
    readNumber ((Number.int value fits).chars ++ rest) =
      some (.number (.int value fits), rest) := by
  have hnumber : Numeral.number? ⟨decide (value < 0), digitsOf value.natAbs, [], none⟩ =
      some (.int value fits) := by
    have hvalue : (if decide (value < 0) = true then -(ofDigits (digitsOf value.natAbs) : Int)
        else ofDigits (digitsOf value.natAbs)) = value := by
      rw [ofDigits_digitsOf]
      simp only [decide_eq_true_eq]
      omega
    unfold Numeral.number?
    simp only [hvalue]
    rw [dif_pos]
    refine ⟨fits, ?_⟩
    by_cases hneg : value < 0
    · have hne : value ≠ 0 := by omega
      simp [hneg, hne]
    · simp [hneg]
  unfold readNumber
  rw [readNumeral_chars value fits h]
  dsimp only
  rw [hnumber]
  rfl

/-! ## Strings -/

theorem hexValue?_digit : ∀ d < 16, hexValue? (Hex.digit (UInt8.ofNat d)) = some d := by
  decide

theorem codeUnit?_control (n : Nat) (h : n < 32) :
    codeUnit? '0' '0' (Hex.digit (UInt8.ofNat (n / 16))) (Hex.digit (UInt8.ofNat (n % 16))) = some n := by
  have hzero : hexValue? '0' = some 0 := by decide
  unfold codeUnit?
  rw [hzero, hexValue?_digit (n / 16) (by omega), hexValue?_digit (n % 16) (by omega)]
  simp only [Option.pure_def, Option.bind_eq_bind, Option.bind_some, Option.some.injEq]
  omega

theorem readChars_control {c : Char} (h : c.toNat < 32) :
    readChars (['\\', 'u', '0', '0', Hex.digit (UInt8.ofNat (c.toNat / 16)),
      Hex.digit (UInt8.ofNat (c.toNat % 16))] ++ rest) = consChar c (readChars rest) := by
  have hhigh : isHighSurrogate c.toNat = false := by
    rw [isHighSurrogate, Bool.and_eq_false_iff]
    exact Or.inl (decide_eq_false (by omega))
  have hlow : isLowSurrogate c.toNat = false := by
    rw [isLowSurrogate, Bool.and_eq_false_iff]
    exact Or.inl (decide_eq_false (by omega))
  simp only [List.cons_append, List.nil_append]
  rw [readChars, codeUnit?_control c.toNat h]
  dsimp only
  rw [hhigh, hlow, Char.ofNat_toNat]
  rfl

theorem readChars_escape {mark c : Char} (h : shortEscape? mark = some c) :
    readChars ('\\' :: mark :: rest) = consChar c (readChars rest) := by
  rw [readChars]
  · rw [h]
  · rintro a b c d rest' rfl
    cases h

theorem readChars_plain {c : Char} (hmark : ¬ (c = '"' ∨ c = '\\')) (h : ¬ c.toNat < 0x20) :
    readChars (c :: rest) = consChar c (readChars rest) := by
  rw [not_or] at hmark
  rw [readChars]
  · rw [if_neg]
    exact not_or.2 ⟨hmark.2, h⟩
  · exact hmark.1
  · rintro a b c d rest' rfl
    exact absurd rfl hmark.2
  · rintro d rest' rfl
    exact absurd rfl hmark.2

/-- A written character is read as itself, and what follows is read on. -/
theorem readChars_charText (c : Char) :
    readChars (charText c ++ rest) = consChar c (readChars rest) := by
  unfold charText
  split
  · rename_i hmark
    rcases hmark with rfl | rfl
    · exact readChars_escape rfl
    · exact readChars_escape rfl
  · rename_i hmark
    split_ifs with hn hr ht hb hf hcontrol
    · exact readChars_escape (hn ▸ rfl)
    · exact readChars_escape (hr ▸ rfl)
    · exact readChars_escape (ht ▸ rfl)
    · exact readChars_escape (hb ▸ rfl)
    · exact readChars_escape (hf ▸ rfl)
    · exact readChars_control hcontrol
    · exact readChars_plain hmark hcontrol

theorem readChars_flatMap (chars : List Char) :
    readChars (chars.flatMap charText ++ '"' :: rest) = some (chars, rest) := by
  induction chars with
  | nil => rw [List.flatMap_nil, List.nil_append, readChars]
  | cons c chars ih =>
      rw [List.flatMap_cons, List.append_assoc, readChars_charText, ih]
      rfl

/-- The text of a string after its opening quote. -/
theorem readString_flatMap (s : String) :
    readString (s.toList.flatMap charText ++ '"' :: rest) = some (s, rest) := by
  rw [readString, readChars_flatMap]
  simp only [Option.map_some, String.ofList_toList]

end SubnetRouter.Json
