import SubnetRouter.CommandLine.Reader
import Mathlib.Data.List.TakeWhile

/-!
# The words of a command line

The forms of words in terms of their texts: which words give an option, alone or with a value
after an equals sign, and which ones do not begin like an option.

* `eq_longText_of_ofText`, `ofText_longText`: the words that give an option.
* `ofText_eq_plain_iff`: the words that can be a value in the place of their own.
-/

namespace SubnetRouter.CommandLine

/-- The word that gives an option, perhaps with a value. -/
def longText (option : String) : Option String → String
  | none => "--" ++ option
  | some value => "--" ++ option ++ "=" ++ value

/-- The word does not begin with a dash, or is nothing but one. -/
def IsPlain (word : String) : Prop :=
  word = "-" ∨ word.toList.head? ≠ some '-'

theorem toList_longText_none (option : String) :
    (longText option none).toList = '-' :: '-' :: option.toList := by
  simp [longText]

theorem toList_longText_some (option value : String) :
    (longText option (some value)).toList = '-' :: '-' :: (option.toList ++ '=' :: value.toList) := by
  simp [longText]

/-! ## The name before an equals sign -/

theorem takeWhile_append_drop {α : Type} (p : α → Bool) (l : List α) :
    l.takeWhile p ++ l.drop (l.takeWhile p).length = l :=
  List.prefix_iff_eq_append.1 (List.takeWhile_prefix p)

theorem head_drop_takeWhile {α : Type} {p : α → Bool} {l rest : List α} {a : α}
    (h : l.drop (l.takeWhile p).length = a :: rest) : p a = false := by
  induction l with
  | nil => cases h
  | cons b l ih =>
      by_cases hb : p b
      · rw [List.takeWhile_cons_of_pos hb, List.length_cons, List.drop_succ_cons] at h
        exact ih h
      · rw [List.takeWhile_cons_of_neg hb, List.length_nil, List.drop_zero, List.cons.injEq] at h
        rw [← h.1]
        simpa using hb

/-! ## Forms -/

theorem ofText_eq_dashes_iff (word : String) : Word.ofText word = .dashes ↔ word = "--" := by
  rw [← String.toList_inj]
  unfold Word.ofText
  constructor
  · intro h
    split at h
    · assumption
    · dsimp only at h
      split at h <;> cases h
    · cases h
    · cases h
  · intro h
    rw [h]
    rfl

theorem ofText_eq_plain_iff (word : String) : Word.ofText word = .plain ↔ IsPlain word := by
  unfold IsPlain
  rw [← String.toList_inj]
  unfold Word.ofText
  constructor
  · intro h
    split at h
    · cases h
    · dsimp only at h
      split at h <;> cases h
    · cases h
    · rename_i hshort
      cases htext : word.toList with
      | nil => simp
      | cons c rest =>
          by_cases hc : c = '-'
          · subst c
            cases rest with
            | nil => exact Or.inl rfl
            | cons d rest => exact absurd htext (hshort d rest)
          · exact Or.inr (by simpa using hc)
  · intro h
    rcases h with h | h
    · rw [h]
      rfl
    · split
      all_goals simp_all

theorem eq_longText_of_ofText {word option : String} {value : Option String}
    (h : Word.ofText word = .long option value) : word = longText option value := by
  unfold Word.ofText at h
  split at h
  · cases h
  · rename_i rest _ htext
    have hsplit := takeWhile_append_drop (· ≠ '=') rest
    rw [← String.toList_inj, htext]
    dsimp only at h
    split at h
    · rename_i hdrop
      cases h
      rw [hdrop, List.append_nil] at hsplit
      rw [toList_longText_none, String.toList_ofList, hsplit]
    · rename_i mark value hdrop
      cases h
      have hmark : mark = '=' := by simpa using head_drop_takeWhile hdrop
      rw [hdrop, hmark] at hsplit
      rw [toList_longText_some, String.toList_ofList, String.toList_ofList, hsplit]
  · cases h
  · cases h

theorem ofText_longText {option : String} (value : Option String) (hmark : '=' ∉ option.toList)
    (hne : option ≠ "") : Word.ofText (longText option value) = .long option value := by
  have hname : ∀ c ∈ option.toList, decide (c ≠ '=') = true := by
    intro c hc
    rw [decide_eq_true_eq]
    rintro rfl
    exact hmark hc
  obtain ⟨c, rest, hcons⟩ := List.exists_cons_of_ne_nil fun hnil => hne (String.toList_inj.1 hnil)
  unfold Word.ofText
  cases value with
  | none =>
      have htake : option.toList.takeWhile (· ≠ '=') = option.toList :=
        List.takeWhile_eq_self_iff.2 hname
      rw [toList_longText_none]
      rw [hcons] at htake ⊢
      simp only [htake, List.drop_length]
      rw [← hcons, String.ofList_toList]
  | some value =>
      have htake : (option.toList ++ '=' :: value.toList).takeWhile (· ≠ '=') = option.toList := by
        rw [List.takeWhile_append_of_pos hname, List.takeWhile_cons_of_neg (by simp),
          List.append_nil]
      rw [toList_longText_some]
      rw [hcons, List.cons_append] at htake ⊢
      simp only [htake]
      rw [← List.cons_append, List.drop_left, ← hcons]
      simp only [String.ofList_toList]

end SubnetRouter.CommandLine
