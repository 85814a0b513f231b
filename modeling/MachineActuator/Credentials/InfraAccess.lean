import MachineActuator.Credentials.Connection
import MachineActuator.Program

/-! # Access to the infrastructure cluster

The infrastructure cluster is reached through a kubeconfig that lies in a secret of the tenant
cluster. -/

namespace MachineActuator.InfraAccess

def kubeconfigKey : String := "kubeconfig"

/-- Reads a kubeconfig and follows it to a connection that can be opened. -/
def connect (text : String) (now : Instant) : Except ClientError Connection := do
  let connection ←
    match Kubeconfig.ofText? text with
    | none => throw (.kubeconfig KubeconfigError.malformed.message)
    | some k => k.connection.mapError fun e => .kubeconfig e.message
  (connection.check now).mapError fun e => .kubernetes (.noConnection e)
  pure connection

/-- The connection that the kubeconfig in a secret leads to. -/
def load (ns name : String) : Program (Except ClientError Connection) := do
  let secretPath := "Infra-cluster credentials secret " ++ ns ++ "/" ++ name
  match ← Program.tenant (.getSecret ns name) with
  | .error e =>
    if e.isNotFound then pure (.error (.invalidConfig (secretPath ++ " not found")))
    else pure (.error e)
  | .ok secret =>
    match secret.get? kubeconfigKey with
    | none =>
      pure (.error (.invalidConfig (secretPath ++ " did not contain key " ++ kubeconfigKey)))
    | some bytes =>
      match String.fromUTF8? bytes with
      | none =>
        pure (.error (.invalidConfig (secretPath ++
          ": kubeconfig is not valid UTF-8: the bytes are malformed")))
      | some text =>
        Program.log .info ("Loaded infra-cluster kubeconfig from secret " ++ ns ++ "/" ++ name)
        pure (connect text (← Program.now))

end MachineActuator.InfraAccess
