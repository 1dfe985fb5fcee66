import SubnetRouter.SubnetId.Reader
import Mathlib.Data.List.DropRight

/-!
# Wire forms of addresses

A wire form is a payload with zero bytes after it.  Zero bytes at the end of the payload are lost
in it, so it determines a payload only up to them: the *trimmed* payload.
-/

namespace SubnetRouter

def trimmed (bytes : List UInt8) : List UInt8 :=
  bytes.rdropWhile (· == 0)

/-- `n` is the position after the last byte that is not zero. -/
structure IsUsedLength (bytes : List UInt8) (n : Nat) : Prop where
  eq_zero_of_le : ∀ i byte, n ≤ i → bytes[i]? = some byte → byte = 0
  ne_zero_before : ∀ i, n = i + 1 → ∃ byte, bytes[i]? = some byte ∧ byte ≠ 0

/-! ## Trimming -/

theorem dropPadding_eq_trimmed (bytes : List UInt8) :
    SubnetId.dropPadding bytes = trimmed bytes := rfl

/-- What is trimmed off is a run of zeros. -/
theorem trimmed_append_zeros (bytes : List UInt8) :
    trimmed bytes ++ List.replicate (bytes.length - (trimmed bytes).length) 0 = bytes := by
  have hsplit : trimmed bytes ++ bytes.rtakeWhile (· == 0) = bytes :=
    List.rdropWhile_append_rtakeWhile
  have hzeros : bytes.rtakeWhile (· == 0) =
      List.replicate (bytes.rtakeWhile (· == 0)).length 0 := by
    rw [List.eq_replicate_iff]
    exact ⟨rfl, fun byte hbyte => by simpa using List.mem_rtakeWhile_imp hbyte⟩
  have hlength := congrArg List.length hsplit
  rw [List.length_append] at hlength
  rw [← hlength, Nat.add_sub_cancel_left, ← hzeros, hsplit]

theorem length_trimmed_le (bytes : List UInt8) : (trimmed bytes).length ≤ bytes.length :=
  List.IsPrefix.length_le (List.rdropWhile_prefix (· == 0) bytes)

theorem isUsedLength_trimmed (bytes : List UInt8) :
    IsUsedLength bytes (trimmed bytes).length where
  eq_zero_of_le i byte hle hbyte := by
    rw [← trimmed_append_zeros bytes, List.getElem?_append_right hle,
      List.getElem?_replicate] at hbyte
    split at hbyte
    · exact (Option.some.inj hbyte).symm
    · cases hbyte
  ne_zero_before i hi := by
    have hne : trimmed bytes ≠ [] := by
      intro hnil
      rw [hnil] at hi
      cases hi
    have hlast : (trimmed bytes)[i]? = some ((trimmed bytes).getLast hne) := by
      rw [← List.getLast?_eq_some_getLast, List.getLast?_eq_getElem?, hi, Nat.add_sub_cancel]
    have hzero := List.rdropWhile_last_not (· == 0) bytes hne
    refine ⟨(trimmed bytes).getLast hne, ?_, ?_⟩
    · have happend : bytes[i]? = (trimmed bytes)[i]? := by
        conv_lhs => rw [← trimmed_append_zeros bytes]
        exact List.getElem?_append_left (by omega)
      rw [happend, hlast]
    · intro hlastzero
      exact hzero (beq_iff_eq.2 hlastzero)

namespace ActorAddress

/-! ## Wire forms -/

theorem ofBytes_eq_ok_iff (ns : UInt64) (payload : List UInt8) (a : ActorAddress) :
    ofBytes ns payload = .ok a ↔ a.ns = ns ∧ a.payload = payload := by
  unfold ofBytes
  constructor
  · intro h
    split at h
    · cases h
      exact ⟨rfl, rfl⟩
    · cases h
  · intro h
    obtain ⟨rfl, rfl⟩ := h
    rw [dif_pos a.length_le]

/-- The address that a wire form is read as: its namespace is that of addresses in ids, and its
payload has no zeros at its end. -/
def canonical (a : ActorAddress) : ActorAddress where
  ns := ethereumNamespace
  payload := trimmed a.buffer
  length_le := by
    have hle := length_trimmed_le a.buffer
    rw [length_buffer] at hle
    exact hle

theorem buffer_canonical (a : ActorAddress) : a.canonical.buffer = a.buffer := by
  have hzeros := trimmed_append_zeros a.buffer
  rw [length_buffer] at hzeros
  exact hzeros

theorem isUsedLength_canonical (a : ActorAddress) :
    IsUsedLength a.canonical.buffer a.canonical.length := by
  rw [buffer_canonical]
  exact isUsedLength_trimmed a.buffer

end ActorAddress

end SubnetRouter
