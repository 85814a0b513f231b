import MachineActuator.Error
import MachineActuator.Json.Parse
import MachineActuator.Json.Render

/-! # Payloads

The payload that a virtual machine boots with does not know which machine it boots.  It gets one
more file that holds the host name; the rest of the document stays as it is. -/

namespace MachineActuator.Payload

/-- The file with the host name, readable by all (mode 0644). -/
def hostnameFile (hostname : String) : Json :=
  .ofFields
    [("contents", some (.field "source" (.str ("data:," ++ hostname)))),
     ("filesystem", some (.str "root")),
     ("mode", some (.num (.int 420))),
     ("path", some (.str "/etc/hostname"))]

/-- A mistake in the payload. -/
def malformed (hostname text : String) : ControllerError :=
  .invalidConfig (hostname ++ ": ignition " ++ text)

/-- The fields of the storage section with one more file at the end. -/
def withFile (hostname : String) (storage : List (String × Json)) :
    Except ControllerError (List (String × Json)) :=
  match (Entries.find? "files" storage).getD (.arr []) with
  | .arr files => .ok (Entries.insert "files" (.arr (files ++ [hostnameFile hostname])) storage)
  | _ => .error (malformed hostname "storage.files is not a list")

/-- The document with the host name in it. -/
def withHostname (hostname : String) : Json → Except ControllerError Json
  | .obj root =>
    match (Entries.find? "storage" root).getD (.obj []) with
    | .obj storage =>
      match withFile hostname storage with
      | .ok storage => .ok (.obj (Entries.insert "storage" (.obj storage) root))
      | .error e => .error e
    | _ => .error (malformed hostname "storage is not an object")
  | _ => .error (malformed hostname "payload is not a JSON object")

/-- The payload with the host name in it. -/
def addHostname (payload : ByteArray) (hostname : String) : Except ControllerError ByteArray :=
  match Json.ofBytes? payload with
  | none => .error (malformed hostname "payload is not valid JSON: the document is malformed")
  | some doc =>
    match withHostname hostname doc with
    | .error e => .error e
    | .ok doc => .ok (Json.utf8 doc.render)

end MachineActuator.Payload
