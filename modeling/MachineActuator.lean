import MachineActuator.StringMap
import MachineActuator.Binary64
import MachineActuator.Json.Number
import MachineActuator.Json.Basic
import MachineActuator.Json.Render
import MachineActuator.Json.Parse
import MachineActuator.Json.MergePatch
import MachineActuator.Json.Decode
import MachineActuator.Json.Sent
import MachineActuator.Text.Base64
import MachineActuator.Text.Visible
import MachineActuator.Text.Quoted
import MachineActuator.Time.Instant
import MachineActuator.Time.Calendar
import MachineActuator.Time.Rfc3339
import MachineActuator.Resource.ObjectMeta
import MachineActuator.Resource.VolumeClaim
import MachineActuator.Resource.DataVolume
import MachineActuator.Resource.Instance
import MachineActuator.Resource.VirtualMachine
import MachineActuator.Resource.NodeAddress
import MachineActuator.Resource.Machine
import MachineActuator.Resource.Provider
import MachineActuator.Resource.Secret
import MachineActuator.Resource.NodeStatus
import MachineActuator.Resource.Node
import MachineActuator.Text.Decimal
import MachineActuator.Client.Error
import MachineActuator.Client.Call
import MachineActuator.Error
import MachineActuator.Cluster.Store
import MachineActuator.Cluster.Infra
import MachineActuator.Cluster.Tenant
import MachineActuator.Host.Ipv4
import MachineActuator.Host.Uri
import MachineActuator.Program
import MachineActuator.Machine.Settings
import MachineActuator.Machine.Scope
import MachineActuator.Machine.Derivation
import MachineActuator.Machine.Sync
import MachineActuator.Machine.Payload
import MachineActuator.Machine.Patch
import MachineActuator.Machine.Lifecycle
import MachineActuator.Machine.Operation
import MachineActuator.Node.Upkeep
import MachineActuator.Api.Message
import MachineActuator.Api.Call
import MachineActuator.Environment
import MachineActuator.Control.Backoff
import MachineActuator.Control.Finalizer
import MachineActuator.Control.Reconcile
import MachineActuator.Control.Schedule
import MachineActuator.Api.Events
import MachineActuator.Yaml.Glyph
import MachineActuator.Yaml.Scalar
import MachineActuator.Yaml.Token
import MachineActuator.Yaml.Layout
import MachineActuator.Yaml.Node
import MachineActuator.Yaml.Value
import MachineActuator.Yaml.Plain
import MachineActuator.Yaml.Document
import MachineActuator.Yaml.Decode
import MachineActuator.Host.ServerName
import MachineActuator.Credentials.Pem
import MachineActuator.Credentials.Der
import MachineActuator.Credentials.Kubeconfig
import MachineActuator.Credentials.Connection
import MachineActuator.Credentials.InfraAccess
import MachineActuator.Proofs.Recovery
import MachineActuator.Proofs.UpdateLoop
import MachineActuator.Proofs.Machine.Delete
import MachineActuator.Proofs.Events
import MachineActuator.Proofs.FinalizerGuard
import MachineActuator.Proofs.UpdateRace
import MachineActuator.Proofs.Independence
import MachineActuator.Proofs.Machine.Likeness
import MachineActuator.Proofs.Namesakes
import MachineActuator.Proofs.Machine.Secret
import MachineActuator.Proofs.Outage
import MachineActuator.Proofs.Binary64
import MachineActuator.Proofs.Json.Number
import MachineActuator.Proofs.Json.RoundTrip
import MachineActuator.Proofs.Machine.Payload
import MachineActuator.Proofs.Machine.Hostname
import MachineActuator.Proofs.OwnSecret
import MachineActuator.Proofs.Control.Backoff
import MachineActuator.Proofs.Control.ErrorPolicy
import MachineActuator.Proofs.DeleteRace
import MachineActuator.Proofs.Machine.Misconfigured
import MachineActuator.Proofs.Machine.Missing
import MachineActuator.Proofs.Machine.Failure
import MachineActuator.Proofs.Machine.Accounts
import MachineActuator.Proofs.Machine.Provision
import MachineActuator.Proofs.Machine.Renewal
import MachineActuator.Proofs.NodeUpkeep
import MachineActuator.Proofs.ProviderId
import MachineActuator.Proofs.ClientAgreement
import MachineActuator.Proofs.Machine.References
import MachineActuator.Proofs.Machine.TakingOver
import MachineActuator.Proofs.Resource.NormalForm
import MachineActuator.Proofs.Machine.Settings
import MachineActuator.Proofs.Json.MergeRules
import MachineActuator.Proofs.Control.Delays
import MachineActuator.Proofs.Machine.Confinement
import MachineActuator.Proofs.Cluster.History
