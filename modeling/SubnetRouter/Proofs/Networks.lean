import SubnetRouter.Proofs.Outcome
import SubnetRouter.Registry

/-!
# The table of networks

Every network of the table can be had, with whatever forms of international names: its endpoint has a
name in ASCII.

* `ofRow_of_mem`: each row is read without a fault.
* `find_calibration`, `Registry.ofNetwork_default`: the one network that there is.
-/

namespace SubnetRouter

namespace Network

/-- The network that is there by default. -/
def calibration : Network where
  name := "calibration"
  id := SubnetId.ofRoot 314159
  config :=
    { kind := .fevm
      endpoint :=
        { url :=
            { scheme := "https".toList
              authority := some ⟨[], [], .domain "api.calibration.node.glif.io".toList, none⟩
              path := .segments ["rpc".toList, "v1".toList]
              query := none
              fragment := none }
          authToken := none
          registry := some ⟨"0x0341fA160C66aBB112195192aE359a6D61df45cd", by decide⟩
          gateway := some ⟨"0xc7068Cea947035560128a6a6F4c8913523A5A44C", by decide⟩ } }

theorem find_calibration (idna : Url.Idna) : find idna defaultName = .ok calibration := by
  rfl

theorem ofRow_of_mem (idna : Url.Idna) {row : Row} (h : row ∈ table) :
    ofRow idna row = .ok calibration := by
  obtain rfl := List.mem_singleton.1 h
  exact find_calibration idna

theorem exists_row_of_find {idna : Url.Idna} {name : String} {network : Network}
    (h : find idna name = .ok network) : ∃ row ∈ table, ofRow idna row = .ok network := by
  unfold find at h
  split at h
  · rename_i row hrow
    exact ⟨row, List.mem_of_find?_eq_some hrow, h⟩
  · cases h

end Network

theorem Registry.ofNetwork_default (idna : Url.Idna) : ofNetwork idna Network.defaultName =
    .ok (empty.insert Network.calibration.id Network.calibration.config) := by
  unfold ofNetwork
  rw [Network.find_calibration]
  rfl

end SubnetRouter
