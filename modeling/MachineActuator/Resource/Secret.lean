import MachineActuator.Resource.ObjectMeta
import MachineActuator.Text.Base64

/-! # Secrets and config maps

Named collections of small documents.  The values of a secret are bytes, written in base64.  When
an object of the core API names its version and kind, they have to be the right ones. -/

namespace MachineActuator

/-- The fields of an object of the core API of this kind. -/
def Json.coreObject? (kind : String) (v : Json) : Option (List (String × Json)) := do
  let fields ← v.object?
  let version ← Json.orElse fields "apiVersion" Json.str? "v1"
  let named ← Json.orElse fields "kind" Json.str? kind
  if version = "v1" ∧ named = kind then some fields else none

/-- Bytes in base64; a null stands for none. -/
def Json.bytes? : Json → Option ByteArray
  | .null => some .empty
  | v => v.str? >>= Base64.decode?

/-- Bytes in base64 as JSON. -/
def Json.ofBytes (bytes : ByteArray) : Json := .str (Base64.encode bytes)

structure Secret where
  metadata : ObjectMeta := {}
  data : Option (StringMap ByteArray) := none
  stringData : Option (StringMap String) := none
  type : Option String := none
  immutable : Option Bool := none
deriving DecidableEq

structure ConfigMap where
  metadata : ObjectMeta := {}
  data : Option (StringMap String) := none
  binaryData : Option (StringMap ByteArray) := none
  immutable : Option Bool := none
deriving DecidableEq

def Secret.ofJson? (v : Json) : Option Secret := do
  let fields ← v.coreObject? "Secret"
  let metadata ← Json.optional fields "metadata" ObjectMeta.ofJson?
  let data ← Json.optional fields "data" (Json.map? Json.bytes?)
  let stringData ← Json.optional fields "stringData" (Json.map? Json.str?)
  let type ← Json.optional fields "type" Json.str?
  let immutable ← Json.optional fields "immutable" Json.bool?
  pure { metadata := metadata.getD {}, data, stringData, type, immutable }

def Secret.toJson (s : Secret) : Json :=
  .ofFields
    [("apiVersion", some (.str "v1")),
     ("data", s.data.map (.ofMap .ofBytes)),
     ("immutable", s.immutable.map .bool),
     ("kind", some (.str "Secret")),
     ("metadata", some s.metadata.toJson),
     ("stringData", s.stringData.map .ofStrings),
     ("type", s.type.map .str)]

/-- The bytes under a key. -/
def Secret.get? (s : Secret) (key : String) : Option ByteArray := s.data >>= (·.get? key)

def ConfigMap.ofJson? (v : Json) : Option ConfigMap := do
  let fields ← v.coreObject? "ConfigMap"
  let metadata ← Json.optional fields "metadata" ObjectMeta.ofJson?
  let data ← Json.optional fields "data" (Json.map? Json.str?)
  let binaryData ← Json.optional fields "binaryData" (Json.map? Json.bytes?)
  let immutable ← Json.optional fields "immutable" Json.bool?
  pure { metadata := metadata.getD {}, data, binaryData, immutable }

/-- The text under a key. -/
def ConfigMap.get? (m : ConfigMap) (key : String) : Option String := m.data >>= (·.get? key)

end MachineActuator
