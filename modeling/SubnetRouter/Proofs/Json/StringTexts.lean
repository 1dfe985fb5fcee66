import SubnetRouter.Proofs.Json.RoundTrip

/-!
# Texts of strings

The text of a string stands in quotes, and each character takes up one character of the text at
least.  So no text is read as the string of its own characters.

* `length_of_readChars`, `length_of_readString`: what is left of a text after a string.
* `readString_of_readShape`: a string is read from quotes only.
* `length_of_read?`: whole texts.
-/

namespace SubnetRouter.Json

variable {text rest : List Char}

theorem length_of_consChar {c : Char} {chars : List Char}
    (hread : ∀ {chars rest : List Char}, readChars text = some (chars, rest) →
      chars.length + rest.length < text.length)
    (h : consChar c (readChars text) = some (chars, rest)) :
    chars.length + rest.length < text.length + 1 := by
  obtain ⟨⟨tail, after⟩, htail, heq⟩ := Option.map_eq_some_iff.1 h
  have hlt := hread htail
  cases heq
  rw [List.length_cons]
  omega

theorem length_of_readChars {chars : List Char} (h : readChars text = some (chars, rest)) :
    chars.length + rest.length < text.length := by
  fun_induction readChars text generalizing chars rest with
  | case2 after =>
      cases h
      rw [List.length_nil, List.length_cons]
      omega
  | case5 | case9 | case11 | case13 =>
      -- A character is found in front of the others: as a pair of surrogates, as a code, after a
      -- backslash, or as itself.
      rename_i ih
      have hlt := length_of_consChar ih h
      simp only [List.length_cons]
      omega
  | _ => cases h

theorem length_of_readString {s : String} (h : readString text = some (s, rest)) :
    s.length < text.length := by
  obtain ⟨⟨chars, after⟩, hchars, heq⟩ := Option.map_eq_some_iff.1 h
  have hlt := length_of_readChars hchars
  cases heq
  rw [String.length_ofList]
  omega

theorem length_skipSpace_le (text : List Char) : (skipSpace text).length ≤ text.length :=
  (List.dropWhile_sublist isSpace).length_le

theorem readString_of_readShape {nested : Option (Reader Json)} {s : String}
    (h : readShape nested text = some (.string s, rest)) :
    ∃ inner, text = '"' :: inner ∧ readString inner = some (s, rest) := by
  unfold readShape at h
  split at h
  · rename_i inner
    obtain ⟨⟨value, after⟩, hvalue, heq⟩ := Option.map_eq_some_iff.1 h
    cases heq
    exact ⟨inner, rfl, hvalue⟩
  -- Arrays, objects, words and numbers are no strings.
  · obtain ⟨read, -, hread⟩ := Option.bind_eq_some_iff.1 h
    obtain ⟨found, -, heq⟩ := Option.map_eq_some_iff.1 hread
    cases heq
  · obtain ⟨read, -, hread⟩ := Option.bind_eq_some_iff.1 h
    obtain ⟨found, -, heq⟩ := Option.map_eq_some_iff.1 hread
    cases heq
  · cases h
  · cases h
  · cases h
  · unfold readNumber at h
    split at h
    · cases h
    · obtain ⟨number, -, heq⟩ := Option.map_eq_some_iff.1 h
      cases heq

theorem length_of_read? {text s : String} (h : read? text = some (.string s)) :
    s.length < text.length := by
  unfold read? at h
  split at h
  · rename_i value rest hread
    split at h
    · cases h
      obtain ⟨nested, hshape⟩ := readValue_eq maxDepth
      rw [hshape] at hread
      obtain ⟨inner, htext, hinner⟩ := readString_of_readShape hread
      have hlt := length_of_readString hinner
      have hle := length_skipSpace_le text.toList
      rw [htext, List.length_cons, String.length_toList] at hle
      omega
    · cases h
  · cases h

end SubnetRouter.Json
