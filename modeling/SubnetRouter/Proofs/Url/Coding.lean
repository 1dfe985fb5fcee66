import SubnetRouter.Proofs.Text.Hexadecimal
import SubnetRouter.Url.PercentCoding

/-!
# Characters in URLs

The parts of a URL are written one after the other, with marks between them.  What is kept of a part is
coded on the way in, so that no control is left in it and no mark that would end it.

* `Avoids`: a text without characters of a set.
* `avoids_encode`: percent coding.
-/

namespace SubnetRouter.Url

open Text

/-- No character of the text is in the set. -/
def Avoids (set : Char → Bool) (text : List Char) : Prop :=
  ∀ c ∈ text, set c = false

instance (set : Char → Bool) (text : List Char) : Decidable (Avoids set text) :=
  List.decidableBAll (fun c => set c = false) text

/-! ## Characters -/

/-- Controls, and the characters that end a scheme or a part of an authority. -/
def endsName (c : Char) : Bool :=
  isControl c || ['#', '/', ':', '?', '@', '['].contains c

/-- Controls, and the characters that end the user of an authority. -/
def endsUser (c : Char) : Bool :=
  isControl c || ['#', '/', '?', '@'].contains c

/-- Controls, and the characters that end a segment or an authority. -/
def endsSegment (c : Char) : Bool :=
  isControl c || ['#', '/', '?'].contains c

/-- Controls, and the characters that end a path. -/
def endsPath (c : Char) : Bool :=
  isControl c || ['#', '?'].contains c

/-- Controls, and the character that ends a query. -/
def endsQuery (c : Char) : Bool :=
  isControl c || c = '#'

theorem endsName_of_endsUser (c : Char) (h : endsUser c = true) : endsName c = true := by
  simp only [endsUser, endsName, Bool.or_eq_true, List.contains_iff_mem, List.mem_cons] at h ⊢
  grind

theorem endsUser_of_endsSegment (c : Char) (h : endsSegment c = true) : endsUser c = true := by
  simp only [endsSegment, endsUser, Bool.or_eq_true, List.contains_iff_mem, List.mem_cons] at h ⊢
  grind

theorem endsSegment_of_endsPath (c : Char) (h : endsPath c = true) : endsSegment c = true := by
  simp only [endsPath, endsSegment, Bool.or_eq_true, List.contains_iff_mem, List.mem_cons] at h ⊢
  grind

theorem eq_true_of_contains {p : Char → Bool} {marks : List Char} (hall : marks.all p = true)
    {c : Char} (h : marks.contains c = true) : p c = true :=
  List.all_eq_true.1 hall c (List.contains_iff_mem.1 h)

theorem eq_false_of_imp {p q : Char → Bool} (h : ∀ c, p c = true → q c = true) {c : Char}
    (hq : q c = false) : p c = false := by
  rw [← Bool.not_eq_true] at hq ⊢
  exact fun hp => hq (h c hp)

/-! ## Texts -/

theorem avoids_nil (set : Char → Bool) : Avoids set [] := nofun

@[simp] theorem avoids_cons {set : Char → Bool} {c : Char} {text : List Char} :
    Avoids set (c :: text) ↔ set c = false ∧ Avoids set text :=
  List.forall_mem_cons

@[simp] theorem avoids_append {set : Char → Bool} {front back : List Char} :
    Avoids set (front ++ back) ↔ Avoids set front ∧ Avoids set back :=
  List.forall_mem_append

theorem Avoids.mono {set set' : Char → Bool} {text : List Char} (h : Avoids set' text)
    (himp : ∀ c, set c = true → set' c = true) : Avoids set text :=
  fun c hc => eq_false_of_imp himp (h c hc)

theorem Avoids.not_mem {set : Char → Bool} {text : List Char} (h : Avoids set text) {c : Char}
    (hc : set c = true) : c ∉ text := by
  intro hmem
  rw [h c hmem] at hc
  cases hc

theorem avoids_flatMap {α : Type} {set : Char → Bool} {l : List α} {f : α → List Char}
    (h : ∀ a ∈ l, Avoids set (f a)) : Avoids set (l.flatMap f) := by
  intro c hc
  obtain ⟨a, ha, hc⟩ := List.mem_flatMap.1 hc
  exact h a ha c hc

theorem avoids_getD_map {α : Type} {set : Char → Bool} {o : Option α} {f : α → List Char}
    (h : ∀ a, o = some a → Avoids set (f a)) : Avoids set ((o.map f).getD []) := by
  cases o with
  | none => exact avoids_nil set
  | some a => exact h a rfl

theorem avoids_toDigits {set : Char → Bool} {base : Nat} (hlower : 1 < base) (hupper : base ≤ 16)
    (hdigits : ∀ m < 16, set m.digitChar = false) (n : Nat) : Avoids set (Nat.toDigits base n) := by
  induction n using Nat.strongRecOn with
  | ind n ih =>
      rw [Nat.toDigits_eq_if hlower]
      by_cases hlast : n < base
      · rw [if_pos hlast, avoids_cons]
        exact ⟨hdigits n (by omega), avoids_nil set⟩
      · rw [if_neg hlast, avoids_append, avoids_cons]
        have hrest : n / base < n := Nat.div_lt_self (by omega) hlower
        have hdigit : n % base < base := Nat.mod_lt n (by omega)
        exact ⟨ih _ hrest, hdigits _ (by omega), avoids_nil set⟩

/-! ## Percent coding -/

/-- The characters of percent codes. -/
def codeChars : List Char :=
  '%' :: Hex.digits.map Char.toUpper

theorem mem_codeChars_of_mem_codedByte {byte : UInt8} {c : Char} (h : c ∈ codedByte byte) :
    c ∈ codeChars := by
  rcases List.mem_cons.1 h with rfl | h
  · exact List.mem_cons_self
  · obtain ⟨digit, hdigit, rfl⟩ := List.mem_map.1 h
    have hwritten : digit ∈ Hex.encode [byte] := by
      rw [Hex.encode, List.flatMap_singleton]
      exact hdigit
    exact List.mem_cons_of_mem _ (List.mem_map_of_mem (Hex.mem_digits_of_mem_encode hwritten))

/-- A coded text avoids a set that has no character of percent codes, if the characters that are
left as they are avoid it. -/
theorem avoids_encode {coded set : Char → Bool} {text : List Char}
    (hcodes : Avoids set codeChars) (h : ∀ c ∈ text, coded c = false → set c = false) :
    Avoids set (encode coded text) := by
  apply avoids_flatMap
  intro c hc
  by_cases hcoded : coded c = true
  · rw [if_pos hcoded]
    exact avoids_flatMap fun byte _ digit hdigit => hcodes digit (mem_codeChars_of_mem_codedByte hdigit)
  · rw [if_neg hcoded, avoids_cons]
    exact ⟨h c hc (Bool.not_eq_true _ ▸ hcoded), avoids_nil set⟩

/-- A coded text avoids what is coded. -/
theorem avoids_encode_of_imp {coded set : Char → Bool} (hcodes : Avoids set codeChars)
    (himp : ∀ c, set c = true → coded c = true) (text : List Char) :
    Avoids set (encode coded text) :=
  avoids_encode hcodes fun _ _ hc => eq_false_of_imp himp hc

theorem codedInFragment_of_isControl (c : Char) (h : isControl c = true) :
    codedInFragment c = true := by
  rw [codedInFragment, h, Bool.true_or]

theorem codedInPath_of_endsPath (c : Char) (h : endsPath c = true) : codedInPath c = true := by
  rw [endsPath, Bool.or_eq_true] at h
  rcases h with h | h
  · rw [codedInPath, codedInFragment_of_isControl c h, Bool.true_or]
  · exact eq_true_of_contains (by decide) h

theorem codedInUser_of_endsName (c : Char) (h : endsName c = true) : codedInUser c = true := by
  rw [endsName, Bool.or_eq_true] at h
  rcases h with h | h
  · rw [codedInUser, codedInPath, codedInFragment_of_isControl c h, Bool.true_or, Bool.true_or]
  · exact eq_true_of_contains (by decide) h

theorem codedInQuery_of_endsQuery (c : Char) (h : endsQuery c = true) : codedInQuery c = true := by
  rw [endsQuery, Bool.or_eq_true, decide_eq_true_eq] at h
  rcases h with h | rfl
  · rw [codedInQuery, h, Bool.true_or]
  · decide

theorem codedInSpecialQuery_of_endsQuery (c : Char) (h : endsQuery c = true) :
    codedInSpecialQuery c = true := by
  rw [codedInSpecialQuery, codedInQuery_of_endsQuery c h, Bool.true_or]

end SubnetRouter.Url
