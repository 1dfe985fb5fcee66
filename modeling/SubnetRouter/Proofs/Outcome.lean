/-!
# Outcomes

When a computation that is made of others succeeds, and when it fails.
-/

namespace SubnetRouter

variable {ε ε' α β : Type}

theorem bind_eq_ok_iff (x : Except ε α) (f : α → Except ε β) (b : β) :
    x >>= f = .ok b ↔ ∃ a, x = .ok a ∧ f a = .ok b := by
  cases x with
  | error e => simp [bind, Except.bind]
  | ok a => simp [bind, Except.bind]

theorem map_eq_ok_iff (x : Except ε α) (f : α → β) (b : β) :
    x.map f = .ok b ↔ ∃ a, x = .ok a ∧ f a = b := by
  cases x with
  | error e => simp [Except.map]
  | ok a => simp [Except.map]

theorem mapError_eq_ok_iff (x : Except ε α) (f : ε → ε') (a : α) :
    x.mapError f = .ok a ↔ x = .ok a := by
  cases x with
  | error e => exact ⟨nofun, nofun⟩
  | ok value =>
      constructor
      · intro h
        cases h
        rfl
      · intro h
        cases h
        rfl

theorem bind_eq_error_iff (x : Except ε α) (f : α → Except ε β) (e : ε) :
    x >>= f = .error e ↔ x = .error e ∨ ∃ a, x = .ok a ∧ f a = .error e := by
  cases x with
  | error e' => simp [bind, Except.bind]
  | ok a => simp [bind, Except.bind]

theorem map_eq_error_iff (x : Except ε α) (f : α → β) (e : ε) :
    x.map f = .error e ↔ x = .error e := by
  cases x with
  | error e' => simp [Except.map]
  | ok a => simp [Except.map]

theorem mapError_eq_error_iff (x : Except ε α) (f : ε → ε') (e' : ε') :
    x.mapError f = .error e' ↔ ∃ e, x = .error e ∧ f e = e' := by
  cases x with
  | error fault =>
      constructor
      · intro h
        cases h
        exact ⟨fault, rfl, rfl⟩
      · rintro ⟨e, h, rfl⟩
        cases h
        rfl
  | ok a =>
      constructor
      · intro h
        cases h
      · rintro ⟨e, h, -⟩
        cases h

theorem toOption_eq_some_iff (x : Except ε α) (a : α) : x.toOption = some a ↔ x = .ok a := by
  cases x with
  | error e => simp [Except.toOption]
  | ok a => simp [Except.toOption]

theorem pure_eq_ok_iff (a b : α) : (pure a : Except ε α) = .ok b ↔ a = b := by
  simp [pure, Except.pure]

/-- A check that throws is passed where the whole succeeds. -/
theorem eq_ok_of_check {p : Prop} [Decidable p] {e : ε} {next : Unit → Except ε α} {a : α}
    (h : (if p then throw e >>= next else next ()) = .ok a) : next () = .ok a := by
  by_cases hp : p
  · rw [if_pos hp] at h
    cases h
  · rwa [if_neg hp] at h

/-- What every step keeps holds at the end of a run that succeeds. -/
theorem foldlM_invariant {step : α → β → Except ε α} {P : α → Prop}
    (hstep : ∀ a b a', P a → step a b = .ok a' → P a') {bs : List β} {a a' : α} (ha : P a)
    (h : bs.foldlM step a = .ok a') : P a' := by
  induction bs generalizing a with
  | nil =>
      cases h
      exact ha
  | cons b bs ih =>
      rw [List.foldlM_cons, bind_eq_ok_iff] at h
      obtain ⟨next, hnext, hrest⟩ := h
      exact ih (hstep a b next ha hnext) hrest

/-! ## The first failure in a list -/

/-- Elements with `P` stand before the place of the failure, which is the head of the list or lies
beyond it. -/
theorem exists_split_cons_iff {P : α → Prop} {Q : List α → List α → Prop} (a : α) (l : List α) :
    (∃ before rest, a :: l = before ++ rest ∧ (∀ x ∈ before, P x) ∧ Q before rest) ↔
      Q [] (a :: l) ∨
        P a ∧ ∃ before rest, l = before ++ rest ∧ (∀ x ∈ before, P x) ∧ Q (a :: before) rest := by
  constructor
  · rintro ⟨before, rest, hsplit, hbefore, hrest⟩
    cases before with
    | nil =>
        rw [List.nil_append] at hsplit
        subst hsplit
        exact Or.inl hrest
    | cons b before =>
        obtain ⟨rfl, htail⟩ := List.cons.inj hsplit
        obtain ⟨ha, hbefore⟩ := List.forall_mem_cons.1 hbefore
        exact Or.inr ⟨ha, before, rest, htail, hbefore, hrest⟩
  · rintro (hhead | ⟨ha, before, rest, rfl, hbefore, hrest⟩)
    · exact ⟨[], a :: l, rfl, by simp, hhead⟩
    · exact ⟨a :: before, rest, rfl, List.forall_mem_cons.2 ⟨ha, hbefore⟩, hrest⟩

end SubnetRouter
