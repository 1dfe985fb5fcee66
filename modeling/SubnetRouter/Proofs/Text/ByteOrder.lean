import SubnetRouter.Text.Hex
import SubnetRouter.Text.Sorted
import Mathlib.Data.List.Basic
import Mathlib.Tactic.SplitIfs

/-!
# The order of texts

Texts that are in the order of their characters are in the order of their UTF-8 bytes: where the
bytes of two characters first differ, the smaller character has the smaller byte.

* `pairwise_sorted`, `sorted_eq_of_perm`: texts that are sorted.
* `utf8Bytes_lt_of_lt`: the order of the bytes.
-/

namespace SubnetRouter.Text

/-! ## Sorted texts -/

theorem sorted_perm (texts : List String) : (sorted texts).Perm texts :=
  List.mergeSort_perm _ _

theorem pairwise_sorted_le (texts : List String) : (sorted texts).Pairwise (· ≤ ·) := by
  have htrans : ∀ a b c : String, decide (a ≤ b) = true → decide (b ≤ c) = true →
      decide (a ≤ c) = true := by
    simp only [decide_eq_true_eq]
    exact fun _ _ _ => String.le_trans
  have htotal : ∀ a b : String, (decide (a ≤ b) || decide (b ≤ a)) = true := by
    simpa using String.le_total
  unfold sorted
  simpa only [decide_eq_true_eq] using List.pairwise_mergeSort htrans htotal texts

/-- Different texts are in strictly ascending order once they are sorted. -/
theorem pairwise_sorted {texts : List String} (h : texts.Nodup) :
    (sorted texts).Pairwise (· < ·) := by
  have hdistinct : (sorted texts).Nodup := (sorted_perm texts).nodup_iff.2 h
  apply ((pairwise_sorted_le texts).and hdistinct).imp
  rintro a b ⟨hle, hne⟩
  by_contra hlt
  exact hne (String.le_antisymm hle (String.not_lt.1 hlt))

/-- The order in which texts are listed is lost when they are sorted. -/
theorem sorted_eq_of_perm {texts texts' : List String} (h : texts.Perm texts') :
    sorted texts = sorted texts' := by
  have hperm : (sorted texts).Perm (sorted texts') :=
    (sorted_perm texts).trans (h.trans (sorted_perm texts').symm)
  refine hperm.eq_of_pairwise ?_ (pairwise_sorted_le texts) (pairwise_sorted_le texts')
  intro a b _ _
  exact String.le_antisymm

/-! ## Bytes -/

theorem ofNat_lt_ofNat_iff {m n : Nat} (hm : m < 256) (hn : n < 256) :
    UInt8.ofNat m < UInt8.ofNat n ↔ m < n := by
  rw [UInt8.lt_iff_toNat_lt, UInt8.toNat_ofNat_of_lt' hm, UInt8.toNat_ofNat_of_lt' hn]

theorem ofNat_eq_ofNat_iff {m n : Nat} (hm : m < 256) (hn : n < 256) :
    UInt8.ofNat m = UInt8.ofNat n ↔ m = n := by
  rw [← UInt8.toNat_inj, UInt8.toNat_ofNat_of_lt' hm, UInt8.toNat_ofNat_of_lt' hn]

theorem toNat_lt_of_valid (c : Char) : c.val.toNat < 0x110000 := by
  have hvalid := c.valid
  simp only [UInt32.isValidChar, Nat.isValidChar] at hvalid
  omega

theorem utf8EncodeChar_append_lt {c d : Char} (h : c < d) (x y : List UInt8) :
    String.utf8EncodeChar c ++ x < String.utf8EncodeChar d ++ y := by
  have hlt : c.val.toNat < d.val.toNat := h
  have hbound : d.val.toNat < 0x110000 := toNat_lt_of_valid d
  unfold String.utf8EncodeChar
  generalize c.val.toNat = m at hlt
  generalize d.val.toNat = n at hlt hbound
  -- A byte after the first one has six bits, so the bytes are digits to the base 64.
  have hm : m / 64 / 64 = m / 4096 ∧ m / 4096 / 64 = m / 262144 :=
    ⟨Nat.div_div_eq_div_mul m 64 64, Nat.div_div_eq_div_mul m 4096 64⟩
  have hn : n / 64 / 64 = n / 4096 ∧ n / 4096 / 64 = n / 262144 :=
    ⟨Nat.div_div_eq_div_mul n 64 64, Nat.div_div_eq_div_mul n 4096 64⟩
  have htop : m / 262144 % 8 = m / 262144 ∧ n / 262144 % 8 = n / 262144 :=
    ⟨Nat.mod_eq_of_lt (by omega), Nat.mod_eq_of_lt (by omega)⟩
  dsimp only
  rw [htop.1, htop.2]
  -- One case for each pair of lengths.
  split_ifs <;>
    simp only [List.cons_append, List.nil_append, List.cons_lt_cons_iff] <;>
    (repeat rw [ofNat_lt_ofNat_iff (by omega) (by omega)]) <;>
    (repeat rw [ofNat_eq_ofNat_iff (by omega) (by omega)]) <;> omega

theorem utf8Bytes_cons (c : Char) (text : List Char) :
    utf8Bytes (c :: text) = String.utf8EncodeChar c ++ utf8Bytes text :=
  List.flatMap_cons

theorem nil_lt_utf8Bytes_cons (c : Char) (text : List Char) : [] < utf8Bytes (c :: text) := by
  obtain ⟨byte, rest, hbytes⟩ :=
    List.exists_cons_of_ne_nil (String.utf8EncodeChar_ne_nil (c := c))
  rw [utf8Bytes_cons, hbytes, List.cons_append]
  exact List.nil_lt_cons _ _

theorem utf8Bytes_lt_of_lt {a b : List Char} (h : a < b) : utf8Bytes a < utf8Bytes b := by
  induction a generalizing b with
  | nil =>
      cases b with
      | nil => cases h
      | cons d b => exact nil_lt_utf8Bytes_cons d b
  | cons c a ih =>
      cases b with
      | nil => cases h
      | cons d b =>
          rw [utf8Bytes_cons, utf8Bytes_cons]
          rcases List.cons_lt_cons_iff.1 h with hlt | ⟨rfl, hlt⟩
          · exact utf8EncodeChar_append_lt hlt _ _
          · exact List.append_left_lt (ih hlt)

end SubnetRouter.Text
