import SubnetRouter.Proofs.SubnetId.Spellings
import Mathlib.Data.Set.List

/-!
# The form of canonical texts

Of all texts that spell an id one is its own: the canonical one.  Here its form is said without the
writer and the reader of ids.

* `isWireText_iff`, `hasCanonicalForm_iff`: the form of an actor's text, and of an id's.
* `isCanonical_iff`: a text has the form exactly when it is canonical.
* `text_eq_iff_hasCanonicalForm`: what is read is written in that form, and nothing is lost by it.
-/

namespace SubnetRouter.SubnetId

open Text

/-- `0x` and the 108 lowercase hex digits of a wire form. -/
def IsWireText (segment : List Char) : Prop :=
  ∃ digits, segment = '0' :: 'x' :: digits ∧ digits.length = 108 ∧ ∀ c ∈ digits, c ∈ Hex.digits

/-- `r` and a number as it is written, then any number of wire forms, each after a slash. -/
def HasCanonicalForm (text : List Char) : Prop :=
  ∃ (number : List Char) (segments : List (List Char)),
    text = 'r' :: number ++ segments.flatMap ('/' :: ·) ∧
    Natural64.IsPlain number ∧ ∀ segment ∈ segments, IsWireText segment

theorem isWireText_ethereumChars (actor : ActorAddress) : IsWireText actor.ethereumChars := by
  refine ⟨Hex.encode actor.buffer, rfl, ?_, fun c hc => Hex.mem_digits_of_mem_encode hc⟩
  rw [Hex.length_encode, ActorAddress.length_buffer]
  rfl

theorem isWireText_iff (segment : List Char) :
    IsWireText segment ↔ ∃ actor : ActorAddress, actor.ethereumChars = segment := by
  constructor
  · rintro ⟨digits, rfl, hlength, hdigits⟩
    obtain ⟨bytes, rfl⟩ := (Hex.exists_encode_iff digits).2 ⟨by omega, hdigits⟩
    rw [Hex.length_encode] at hlength
    -- A payload of the full width is its own wire form.
    have hfull : bytes.length = 54 := by omega
    refine ⟨⟨ActorAddress.ethereumNamespace, bytes, by omega⟩, ?_⟩
    unfold ActorAddress.ethereumChars ActorAddress.buffer
    simp only [hfull, ActorAddress.maxLength, Nat.sub_self, List.replicate_zero, List.append_nil]
  · rintro ⟨actor, rfl⟩
    exact isWireText_ethereumChars actor

/-- The texts of the form are those of ids. -/
theorem hasCanonicalForm_iff (text : List Char) :
    HasCanonicalForm text ↔ ∃ id : SubnetId, id.chars = text := by
  constructor
  · rintro ⟨number, segments, rfl, hnumber, hsegments⟩
    obtain ⟨root, rfl⟩ := (Natural64.isPlain_iff_exists_write number).1 hnumber
    have hactors : segments ∈ Set.range (List.map ActorAddress.ethereumChars) := by
      rw [Set.range_list_map]
      exact fun segment hmem => (isWireText_iff segment).1 (hsegments segment hmem)
    obtain ⟨path, rfl⟩ := hactors
    refine ⟨⟨root, path⟩, ?_⟩
    rw [chars, List.flatMap_map]
  · rintro ⟨id, rfl⟩
    refine ⟨Natural64.write id.root, id.path.map ActorAddress.ethereumChars, ?_,
      Natural64.isPlain_write id.root, ?_⟩
    · rw [chars, List.flatMap_map]
    · intro segment hmem
      obtain ⟨actor, -, rfl⟩ := List.mem_map.1 hmem
      exact isWireText_ethereumChars actor

/-- The canonical texts are those of the form. -/
theorem isCanonical_iff (s : String) : IsCanonical s ↔ HasCanonicalForm s.toList := by
  rw [hasCanonicalForm_iff]
  constructor
  · rintro ⟨id, -, rfl⟩
    refine ⟨id, ?_⟩
    rw [text, String.toList_ofList]
  · rintro ⟨id, hchars⟩
    have htext : id.text = s := by rw [text, hchars, String.ofList_toList]
    rw [← htext]
    exact isCanonical_text id

/-- A text that is read as an id is the text of that id exactly when it has the canonical form; all
texts of the form are read so.  The text of an id that was read gives it back in every field, and
ids that were read are equal only when they are so in every field, or have one text. -/
theorem text_eq_iff_hasCanonicalForm {s : String} {id : SubnetId} (h : read s = .ok id) :
    (id.text = s ↔ HasCanonicalForm s.toList) ∧
    (∀ t : String, HasCanonicalForm t.toList ↔ ∃ other, read t = .ok other ∧ other.text = t) ∧
    read id.text = .ok id ∧
    ∀ t other, read t = .ok other →
      ((id == other) = true ↔ id = other) ∧ (id = other ↔ id.text = other.text) := by
  refine ⟨?_, fun t => (isCanonical_iff t).symm, ?_, fun t other hother => ?_⟩
  · rw [← isCanonical_iff]
    constructor
    · exact fun htext => ⟨id, h, htext⟩
    · rintro ⟨other, hother, htext⟩
      rw [h, Except.ok.injEq] at hother
      rw [hother]
      exact htext
  · rw [read_text, canonical_of_read h]
  · exact ⟨beq_iff_of_read h hother, (text_eq_iff_of_read h hother).symm⟩

/-- Two spellings of one id, neither of them in the form; the text of the id is in it. -/
theorem text_eq_iff_hasCanonicalForm_spellings :
    ∃ id other, read "r01/0xAB00" = .ok id ∧ read "r+1/ab" = .ok other ∧
      ¬ HasCanonicalForm "r01/0xAB00".toList ∧ HasCanonicalForm id.text.toList ∧ id = other := by
  let id : SubnetId := ⟨1, [⟨10, [0xAB], by decide⟩]⟩
  have hread : read "r01/0xAB00" = .ok id := by decide +kernel
  have hother : read "r+1/ab" = .ok id := by decide +kernel
  obtain ⟨hform, hforms, hback, hsame⟩ := text_eq_iff_hasCanonicalForm hread
  have hne : id.text ≠ "r01/0xAB00" := by decide +kernel
  exact ⟨id, id, hread, hother, fun hcanonical => hne (hform.2 hcanonical),
    (hforms id.text).2 ⟨id, hback, rfl⟩, (hsame _ _ hother).2.2 rfl⟩

end SubnetRouter.SubnetId
