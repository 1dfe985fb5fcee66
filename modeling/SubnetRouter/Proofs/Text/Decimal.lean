import SubnetRouter.Proofs.Outcome
import SubnetRouter.Text.Natural64
import Mathlib.Algebra.Order.Ring.Nat
import Mathlib.Data.List.Basic

/-!
# Decimal numbers

What the reader of unsigned 64-bit numbers accepts, and the value it gives: an optional `+` and
one or more decimal digits whose value fits.  Every other text is refused for its first fault.
Written numbers read back; they have no sign and no zeros before them.
-/

namespace SubnetRouter.Text.Natural64

/-- An optional `+`, then decimal digits with the value. -/
def Spells (text : List Char) (value : Nat) : Prop :=
  ∃ digits, (text = digits ∨ text = '+' :: digits) ∧ digits ≠ [] ∧
    (∀ c ∈ digits, c.isDigit) ∧ Nat.ofDigitChars 10 digits 0 = value

/-- Digits of a number of 64 bits, without a sign and without zeros before them. -/
structure IsPlain (text : List Char) : Prop where
  ne_nil : text ≠ []
  isDigit : ∀ c ∈ text, c.isDigit
  no_leading_zero : text.head? = some '0' → text = ['0']
  value_le : Nat.ofDigitChars 10 text 0 ≤ 2 ^ 64 - 1

/-! ## Digits -/

theorem isDigit_iff (c : Char) : c.isDigit = true ↔ '0' ≤ c ∧ c ≤ '9' := by
  rw [Char.isDigit, Bool.and_eq_true, decide_eq_true_eq, decide_eq_true_eq]
  rfl

theorem digitValue?_eq_some_iff (c : Char) (d : Nat) :
    digitValue? c = some d ↔ c.isDigit ∧ d = c.toNat - 48 := by
  rw [digitValue?, isDigit_iff]
  split
  · rename_i h
    rw [Option.some.injEq]
    exact ⟨fun hd => ⟨h, hd.symm⟩, fun hd => hd.2.symm⟩
  · rename_i h
    exact ⟨fun hd => absurd hd (by simp), fun hd => absurd hd.1 h⟩

theorem digitValue?_of_isDigit {c : Char} (h : c.isDigit) :
    digitValue? c = some (c.toNat - 48) :=
  (digitValue?_eq_some_iff c _).2 ⟨h, rfl⟩

theorem digitValue?_of_not_isDigit {c : Char} (h : ¬ c.isDigit) : digitValue? c = none := by
  rw [Option.eq_none_iff_forall_ne_some]
  intro d hd
  exact h ((digitValue?_eq_some_iff c d).1 hd).1

theorem digit_bounds {c : Char} (h : c.isDigit) : 48 ≤ c.toNat ∧ c.toNat ≤ 57 := by
  rw [isDigit_iff] at h
  exact h

theorem digitChar_of_isDigit {c : Char} (h : c.isDigit) : (c.toNat - 48).digitChar = c := by
  obtain ⟨hge, hle⟩ := digit_bounds h
  rw [← Char.toNat_inj, Nat.toNat_digitChar_of_lt_ten (by omega)]
  omega

/-- Further digits never lower a value. -/
theorem le_ofDigitChars (digits : List Char) (value : Nat) :
    value ≤ Nat.ofDigitChars 10 digits value := by
  induction digits generalizing value with
  | nil => exact Nat.le_refl value
  | cons c rest ih =>
      rw [Nat.ofDigitChars_cons]
      have h := ih (10 * value + (c.toNat - '0'.toNat))
      omega

/-! ## Reading -/

theorem readDigits_eq_ok_iff (digits : List Char) (value n : UInt64) :
    readDigits value digits = .ok n ↔
      (∀ c ∈ digits, c.isDigit) ∧ Nat.ofDigitChars 10 digits value.toNat = n.toNat := by
  induction digits generalizing value with
  | nil =>
      simp only [readDigits, Except.ok.injEq, Nat.ofDigitChars_nil, List.not_mem_nil,
        false_implies, implies_true, true_and]
      exact UInt64.toNat_inj.symm
  | cons c rest ih =>
      rw [readDigits, Nat.ofDigitChars_cons]
      by_cases hc : c.isDigit
      · rw [digitValue?_of_isDigit hc]
        simp only [List.forall_mem_cons, hc, true_and, Char.reduceToNat]
        rw [Nat.mul_comm value.toNat 10]
        split
        · rename_i hlt
          rw [ih, UInt64.toNat_ofNat_of_lt' hlt]
        · rename_i hge
          -- A value that is too large stays so, and no 64-bit number equals it.
          have hle := le_ofDigitChars rest (10 * value.toNat + (c.toNat - 48))
          have hn := n.toNat_lt_size
          constructor
          · intro h
            cases h
          · intro h
            omega
      · rw [digitValue?_of_not_isDigit hc]
        simp [hc]

theorem read_eq_ok_iff (text : List Char) (n : UInt64) :
    read text = .ok n ↔ Spells text n.toNat := by
  constructor
  · intro h
    unfold read at h
    split at h
    · cases h
    · cases h
    · rename_i digits hne
      obtain ⟨hdigits, hvalue⟩ := (readDigits_eq_ok_iff digits 0 n).1 h
      exact ⟨digits, .inr rfl, by simpa using hne, hdigits, hvalue⟩
    · rename_i hne _ _
      obtain ⟨hdigits, hvalue⟩ := (readDigits_eq_ok_iff text 0 n).1 h
      exact ⟨text, .inl rfl, by simpa using hne, hdigits, hvalue⟩
  · intro h
    obtain ⟨digits, htext, hne, hdigits, hvalue⟩ := h
    have hread := (readDigits_eq_ok_iff digits 0 n).2 ⟨hdigits, hvalue⟩
    obtain ⟨c, rest, rfl⟩ := List.exists_cons_of_ne_nil hne
    rcases htext with rfl | rfl
    · -- Digits without a sign are read as they stand, since no digit is a sign.
      have hc : c ≠ '+' := by
        rintro rfl
        exact absurd (hdigits '+' List.mem_cons_self) (by decide)
      rw [read]
      · exact hread
      all_goals simp [hc]
    · exact hread

/-! ## Faults -/

/-- Reading stops before the rest of a text, after digits with the value: they are too large, or
they still fit and the next character is no digit. -/
inductive Stops (value : Nat) : List Char → Fault → Prop where
  | tooLarge {rest : List Char} : 2 ^ 64 - 1 < value → Stops value rest .tooLarge
  | badDigit {c : Char} {rest : List Char} : value ≤ 2 ^ 64 - 1 → ¬ c.isDigit →
    Stops value (c :: rest) .badDigit

/-- Reading the digits onto a value stops at some place with the fault. -/
def DigitFault (value : Nat) (digits : List Char) (fault : Fault) : Prop :=
  ∃ before rest, digits = before ++ rest ∧ (∀ c ∈ before, c.isDigit) ∧
    Stops (Nat.ofDigitChars 10 before value) rest fault

/-- Why a text is no number: it is empty or a sign alone, or reading its digits stops. -/
inductive FirstFault : List Char → Fault → Prop where
  | empty : FirstFault [] .empty
  | loneSign : FirstFault ['+'] .badDigit
  | signed {digits : List Char} {fault : Fault} : DigitFault 0 digits fault →
    FirstFault ('+' :: digits) fault
  | unsigned {c : Char} {rest : List Char} {fault : Fault} : c ≠ '+' →
    DigitFault 0 (c :: rest) fault → FirstFault (c :: rest) fault

section Faults

variable {value : Nat} {c : Char} {rest : List Char} {fault : Fault}

theorem stops_iff_tooLarge (h : 2 ^ 64 - 1 < value) : Stops value rest fault ↔ fault = .tooLarge := by
  constructor
  · intro hstop
    cases hstop with
    | tooLarge => rfl
    | badDigit hle => omega
  · rintro rfl
    exact .tooLarge h

theorem stops_cons_iff (h : value ≤ 2 ^ 64 - 1) :
    Stops value (c :: rest) fault ↔ ¬ c.isDigit ∧ fault = .badDigit := by
  constructor
  · intro hstop
    cases hstop with
    | tooLarge hlt => omega
    | badDigit _ hc => exact ⟨hc, rfl⟩
  · rintro ⟨hc, rfl⟩
    exact .badDigit h hc

theorem not_digitFault_nil (h : value ≤ 2 ^ 64 - 1) : ¬ DigitFault value [] fault := by
  rintro ⟨before, rest, hsplit, -, hstop⟩
  obtain ⟨rfl, rfl⟩ := List.append_eq_nil_iff.1 hsplit.symm
  rw [Nat.ofDigitChars_nil] at hstop
  cases hstop with
  | tooLarge hlt => omega

theorem digitFault_of_lt (h : 2 ^ 64 - 1 < value) (digits : List Char) :
    DigitFault value digits fault ↔ fault = .tooLarge := by
  constructor
  · rintro ⟨before, rest, -, -, hstop⟩
    have hle := le_ofDigitChars before value
    exact (stops_iff_tooLarge (by omega)).1 hstop
  · rintro rfl
    exact ⟨[], digits, rfl, by simp, .tooLarge h⟩

/-- A character that is no digit is the fault; a digit is read onto the value of those before it. -/
theorem digitFault_cons_iff (h : value ≤ 2 ^ 64 - 1) :
    DigitFault value (c :: rest) fault ↔ (¬ c.isDigit ∧ fault = .badDigit) ∨
      (c.isDigit ∧ DigitFault (10 * value + (c.toNat - 48)) rest fault) := by
  unfold DigitFault
  rw [exists_split_cons_iff, Nat.ofDigitChars_nil, stops_cons_iff h]
  simp only [Nat.ofDigitChars_cons, Char.reduceToNat]

theorem readDigits_eq_error_iff (digits : List Char) (value : UInt64) (fault : Fault) :
    readDigits value digits = .error fault ↔ DigitFault value.toNat digits fault := by
  induction digits generalizing value with
  | nil =>
      have hvalue : value.toNat ≤ 2 ^ 64 - 1 := Nat.le_pred_of_lt value.toNat_lt
      rw [readDigits]
      exact ⟨nofun, fun h => absurd h (not_digitFault_nil hvalue)⟩
  | cons c rest ih =>
      have hvalue : value.toNat ≤ 2 ^ 64 - 1 := Nat.le_pred_of_lt value.toNat_lt
      rw [readDigits, digitFault_cons_iff hvalue]
      by_cases hc : c.isDigit
      · rw [digitValue?_of_isDigit hc]
        simp only [hc, not_true_eq_false, false_and, true_and, false_or]
        rw [Nat.mul_comm value.toNat 10]
        split
        · rename_i hlt
          rw [ih, UInt64.toNat_ofNat_of_lt' hlt]
        · rename_i hge
          rw [digitFault_of_lt (Nat.lt_of_lt_of_le (by decide) (Nat.le_of_not_lt hge)),
            Except.error.injEq, eq_comm]
      · rw [digitValue?_of_not_isDigit hc]
        simp [hc, eq_comm]

/-- A text is refused for exactly its first fault. -/
theorem read_eq_error_iff (text : List Char) (fault : Fault) :
    read text = .error fault ↔ FirstFault text fault := by
  constructor
  · intro h
    unfold read at h
    split at h
    · cases h
      exact .empty
    · cases h
      exact .loneSign
    · exact .signed ((readDigits_eq_error_iff _ 0 fault).1 h)
    · rename_i hne _ hsign
      obtain ⟨c, rest, rfl⟩ := List.exists_cons_of_ne_nil hne
      refine .unsigned ?_ ((readDigits_eq_error_iff _ 0 fault).1 h)
      rintro rfl
      exact hsign rest rfl
  · intro h
    cases h with
    | empty => rfl
    | loneSign => rfl
    | @signed digits fault h =>
        cases digits with
        | nil => exact absurd h (not_digitFault_nil (by decide))
        | cons c rest => exact (readDigits_eq_error_iff (c :: rest) 0 fault).2 h
    | @unsigned c rest fault hc h =>
        rw [read]
        · exact (readDigits_eq_error_iff (c :: rest) 0 fault).2 h
        all_goals simp [hc]

end Faults

/-! ## Writing -/

theorem isDigit_of_mem_write {n : UInt64} {c : Char} (h : c ∈ write n) : c.isDigit :=
  Nat.isDigit_of_mem_toDigits (by omega) (by omega) h

theorem spells_write (n : UInt64) : Spells (write n) n.toNat :=
  ⟨write n, .inl rfl, Nat.toDigits_ne_nil, fun _ h => isDigit_of_mem_write h,
    Nat.ofDigitChars_ten_toDigits⟩

theorem write_injective : Function.Injective write := by
  intro m n h
  have hread : read (write m) = .ok m := (read_eq_ok_iff _ m).2 (spells_write m)
  rw [h, (read_eq_ok_iff _ n).2 (spells_write n), Except.ok.injEq] at hread
  exact hread.symm

/-- Digits that are read onto a value are written after its digits. -/
theorem toDigits_ofDigitChars (digits : List Char) (value : Nat) (hvalue : 0 < value)
    (hdigits : ∀ c ∈ digits, c.isDigit) :
    Nat.toDigits 10 (Nat.ofDigitChars 10 digits value) = Nat.toDigits 10 value ++ digits := by
  induction digits generalizing value with
  | nil => rw [Nat.ofDigitChars_nil, List.append_nil]
  | cons c rest ih =>
      obtain ⟨hc, hrest⟩ := List.forall_mem_cons.1 hdigits
      have hbounds := digit_bounds hc
      have hlt : c.toNat - 48 < 10 := by omega
      have h48 : '0'.toNat = 48 := rfl
      rw [Nat.ofDigitChars_cons, h48, ih _ (by omega) hrest,
        ← Nat.toDigits_append_toDigits (by omega) hvalue hlt, Nat.toDigits_of_lt_base hlt,
        digitChar_of_isDigit hc, List.append_assoc, List.singleton_append]

theorem toDigits_of_isPlain {text : List Char} (h : IsPlain text) :
    Nat.toDigits 10 (Nat.ofDigitChars 10 text 0) = text := by
  obtain ⟨c, rest, rfl⟩ := List.exists_cons_of_ne_nil h.ne_nil
  by_cases hzero : c = '0'
  · rw [h.no_leading_zero (by rw [hzero, List.head?_cons])]
    decide
  · obtain ⟨hc, hrest⟩ := List.forall_mem_cons.1 h.isDigit
    have hbounds := digit_bounds hc
    have h48 : '0'.toNat = 48 := rfl
    have hne : c.toNat ≠ '0'.toNat := fun heq => hzero (Char.toNat_inj.1 heq)
    have hpos : 0 < c.toNat - 48 := by omega
    rw [Nat.ofDigitChars_cons, h48, Nat.mul_zero, Nat.zero_add,
      toDigits_ofDigitChars rest _ hpos hrest,
      Nat.toDigits_of_lt_base (by omega), digitChar_of_isDigit hc, List.singleton_append]

theorem eq_zero_of_head?_toDigits (n : Nat) (h : (Nat.toDigits 10 n).head? = some '0') : n = 0 := by
  induction n using Nat.base_induction 10 (by omega) with
  | single m hm =>
      rw [Nat.toDigits_of_lt_base hm, List.head?_cons, Option.some.injEq] at h
      exact Nat.digitChar_eq_zero.1 h
  | digit m k hk hm ih =>
      rw [← Nat.toDigits_append_toDigits (by omega) hm hk,
        List.head?_append_of_ne_nil _ Nat.toDigits_ne_nil] at h
      have hzero := ih h
      omega

theorem isPlain_write (n : UInt64) : IsPlain (write n) where
  ne_nil := Nat.toDigits_ne_nil
  isDigit _ h := isDigit_of_mem_write h
  no_leading_zero h := by
    rw [write, eq_zero_of_head?_toDigits n.toNat h]
    exact Nat.toDigits_zero 10
  value_le := by
    rw [write, Nat.ofDigitChars_ten_toDigits]
    exact Nat.le_pred_of_lt n.toNat_lt

/-- The plain texts are the written ones. -/
theorem isPlain_iff_exists_write (text : List Char) : IsPlain text ↔ ∃ n, write n = text := by
  constructor
  · intro h
    have hlt : Nat.ofDigitChars 10 text 0 < UInt64.size := Nat.lt_of_le_pred (by decide) h.value_le
    refine ⟨UInt64.ofNat (Nat.ofDigitChars 10 text 0), ?_⟩
    rw [write, UInt64.toNat_ofNat_of_lt' hlt, toDigits_of_isPlain h]
  · rintro ⟨n, rfl⟩
    exact isPlain_write n

end SubnetRouter.Text.Natural64
