import MachineActuator.Resource.VolumeClaim

/-! # Data volumes

The volume a virtual machine boots from is described by a template inside the machine: the claim it
is cloned from, and the claim to be made for the copy. -/

namespace MachineActuator

/-- The claim a volume is cloned from. -/
structure SourceClaim where
  name : String
  ns : String
deriving DecidableEq

/-- Where the content of a data volume comes from. -/
structure DataVolumeSource where
  pvc : Option SourceClaim := none
deriving DecidableEq

/-- Content and claim of a data volume. -/
structure DataVolumeSpec where
  source : DataVolumeSource
  pvc : Option VolumeClaim := none
deriving DecidableEq

/-- A data volume that is made together with a virtual machine. -/
structure DataVolumeTemplate where
  apiVersion : Option String := none
  metadata : ObjectMeta := {}
  spec : DataVolumeSpec
deriving DecidableEq

/-- Equality with metadata compared by `ObjectMeta.same`. -/
def DataVolumeTemplate.same (a b : DataVolumeTemplate) : Bool :=
  decide ({ a with metadata := {} } = { b with metadata := {} }) && a.metadata.same b.metadata

/-! ### Reading and writing -/

def SourceClaim.ofJson? (v : Json) : Option SourceClaim := do
  let fields ← v.record? ["name", "namespace"] 2
  let name ← Json.required fields "name" Json.str?
  let ns ← Json.required fields "namespace" Json.str?
  pure { name, ns }

def SourceClaim.toJson (c : SourceClaim) : Json :=
  .ofFields [("name", some (.str c.name)), ("namespace", some (.str c.ns))]

def DataVolumeSource.ofJson? (v : Json) : Option DataVolumeSource := do
  let fields ← v.record? ["pvc"] 0
  let pvc ← Json.optional fields "pvc" SourceClaim.ofJson?
  pure { pvc }

def DataVolumeSource.toJson (s : DataVolumeSource) : Json :=
  .ofFields [("pvc", s.pvc.map SourceClaim.toJson)]

def DataVolumeSpec.ofJson? (v : Json) : Option DataVolumeSpec := do
  let fields ← v.record? ["source", "pvc"] 1
  let source ← Json.required fields "source" DataVolumeSource.ofJson?
  let pvc ← Json.optional fields "pvc" VolumeClaim.ofJson?
  pure { source, pvc }

def DataVolumeSpec.toJson (s : DataVolumeSpec) : Json :=
  .ofFields [("pvc", s.pvc.map VolumeClaim.toJson), ("source", some s.source.toJson)]

def DataVolumeTemplate.ofJson? (v : Json) : Option DataVolumeTemplate := do
  let fields ← v.record? ["apiVersion", "metadata", "spec"] 3
  let apiVersion ← Json.optional fields "apiVersion" Json.str?
  let metadata ← Json.orElse fields "metadata" ObjectMeta.ofJson? {}
  let spec ← Json.required fields "spec" DataVolumeSpec.ofJson?
  pure { apiVersion, metadata, spec }

def DataVolumeTemplate.toJson (t : DataVolumeTemplate) : Json :=
  .ofFields
    [("apiVersion", t.apiVersion.map .str),
     ("metadata", some t.metadata.toJson),
     ("spec", some t.spec.toJson)]

end MachineActuator
