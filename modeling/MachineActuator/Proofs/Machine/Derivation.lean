import Mathlib
import MachineActuator.Machine.Lifecycle
import MachineActuator.Proofs.Resource.VirtualMachine
import MachineActuator.Proofs.Text.Base64
import MachineActuator.Resource.Secret

/-! # Derived objects come through

The secret, the virtual machine and its replacement that a machine asks for are such as a client
sets, so an API server reads out of a request exactly what was derived. -/

namespace MachineActuator

open Json (ComesThrough unchanged_some unchanged_map unchanged_str unchanged_strings
  unchanged_bool)

/-! ### Secrets -/

theorem Json.ComesThrough.bytes (b : ByteArray) : ComesThrough bytes? ofBytes b where
  sent := rfl
  read := by
    unfold ofBytes bytes?
    exact Base64.decode?_encode b
  ne_null := by simp [ofBytes]

/-- An object of the core API that names its version and kind has its fields read. -/
theorem Json.coreObject?_present {kind : String} {fields : List (String × Option Json)}
    (hversion : Entries.find? "apiVersion" (present fields) = some (.str "v1"))
    (hkind : Entries.find? "kind" (present fields) = some (.str kind)) :
    (obj (present fields)).coreObject? kind = some (present fields) := by
  unfold coreObject?
  refine (bind_of_eq_some rfl).trans ?_
  refine (bind_of_eq_some ((ComesThrough.str "v1").orElse hversion)).trans ?_
  refine (bind_of_eq_some ((ComesThrough.str kind).orElse hkind)).trans ?_
  exact if_pos ⟨rfl, rfl⟩

theorem Secret.comesThrough {s : Secret} (hmetadata : s.metadata.SetByClient) :
    ComesThrough ofJson? toJson s := by
  refine .of_fields rfl ?_ ?_
  · simp only [List.forall_mem_cons]
    refine ⟨?_, ?_, ?_, ?_, ?_, ?_, ?_, by simp⟩
    · exact unchanged_some rfl
    · exact unchanged_map fun data _ => (ComesThrough.map .bytes data).sent
    · exact unchanged_bool _
    · exact unchanged_some rfl
    · exact unchanged_some hmetadata.comesThrough.sent
    · exact unchanged_strings _
    · exact unchanged_str _
  · unfold ofJson?
    refine (bind_of_eq_some (Json.coreObject?_present (by simp) (by simp))).trans ?_
    refine (bind_of_eq_some (ComesThrough.optional (x := some s.metadata)
      (fun m hm => Option.some.inj hm ▸ hmetadata.comesThrough) (by simp))).trans ?_
    refine (bind_of_eq_some (ComesThrough.optional (x := s.data)
      (fun data _ => .map .bytes data) (by simp))).trans ?_
    refine (bind_of_eq_some (Json.optional_strings (x := s.stringData) (by simp))).trans ?_
    refine (bind_of_eq_some (Json.optional_str (x := s.type) (by simp))).trans ?_
    refine (bind_of_eq_some (Json.optional_bool (x := s.immutable) (by simp))).trans ?_
    rfl

/-! ### What a machine asks for -/

namespace Scope

variable (s : Scope)

/-- The grace period of guests is a number of 64 bits. -/
def Fits : Prop :=
  Json.int64? (.ofInt s.settings.defaults.terminationGracePeriodSeconds) =
    some s.settings.defaults.terminationGracePeriodSeconds

theorem setByClient_ignitionSecret (payload : ByteArray) :
    (s.ignitionSecret payload).metadata.SetByClient := ⟨rfl, rfl, rfl, rfl, rfl⟩

variable {s}

/-- The virtual machine that the machine asks for is such as a client sets. -/
theorem Fits.setByClient (h : s.Fits) (mode : String) :
    (s.virtualMachineWith mode).SetByClient where
  metadata := ⟨rfl, rfl, rfl, rfl, rfl⟩
  spec := by
    constructor
    · exact List.forall_mem_singleton.mpr ⟨rfl, rfl, rfl, rfl, rfl⟩
    · intro t ht
      obtain rfl : s.instanceTemplate = t := Option.some.inj ht
      constructor
      · intro m hm
        obtain rfl := Option.some.inj hm
        exact ⟨rfl, rfl, rfl, rfl, rfl⟩
      · intro n hn
        obtain rfl := Option.some.inj hn
        exact h

end Scope

/-- So is the virtual machine that replaces an observed one. -/
theorem VirtualMachine.SetByClient.replacement {desired : VirtualMachine} (h : desired.SetByClient)
    (existing : VirtualMachine) : (Lifecycle.replacement desired existing).SetByClient where
  metadata := ⟨h.metadata.generation, h.metadata.creation, h.metadata.deletion, h.metadata.grace,
    h.metadata.managers⟩
  spec := h.spec

end MachineActuator
