import MachineActuator.Resource.ObjectMeta

/-! # Addresses

An address of a machine or node, with its kind. -/

namespace MachineActuator

/-- An address of a machine or node, with its kind. -/
structure NodeAddress where
  type : String
  address : String
deriving DecidableEq

/-- Reads an address; a part that is null or missing is empty. -/
def NodeAddress.ofJson? (v : Json) : Option NodeAddress := do
  let fields ← v.object?
  let address ← Json.textOrEmpty fields "address"
  let type ← Json.textOrEmpty fields "type"
  pure { type, address }

def NodeAddress.toJson (a : NodeAddress) : Json :=
  .ofFields [("address", some (.str a.address)), ("type", some (.str a.type))]

end MachineActuator
