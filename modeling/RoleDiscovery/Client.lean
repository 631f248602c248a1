import RoleDiscovery.Action
import RoleDiscovery.Client.Connection
import RoleDiscovery.ResourceType

/-!
# The API client

Reads and applies resources over a connection. Applying takes ownership of every field that is given
and creates the object if there is none.

Results:

* `Connection.get`, `Connection.apply`: the two operations.
* `Connection.store`: the API server as a store.
-/

namespace RoleDiscovery

/-! ## Requests -/

namespace Request

/-- The request for an object. An object has a name. -/
def get? {α : Type} (type : ResourceType α) (ns name : String) : Option Request :=
  if name.isEmpty then none
  else (Uri.target? (type.path ns name)).map fun uri => ⟨.get, uri, none⟩

/-- The number of bytes that the name that changes are made under may have. -/
def maxManagerSize : Nat :=
  128

/-- The request that applies an object, and takes over fields that others have set. -/
def patch? {α : Type} (type : ResourceType α) (manager ns name : String) (object : α) :
    Option Request :=
  if name.isEmpty || maxManagerSize < manager.utf8ByteSize then none
  else
    let query := "?&force=true&fieldManager=" ++ Uri.formEncoded manager
    (Uri.target? (type.path ns name ++ query)).map fun uri =>
      ⟨.patch, uri, some (type.codec.encode object)⟩

end Request

/-! ## Operations -/

namespace Connection

variable {α : Type}

/-- Sends a request, if one could be made, and reads the object in its answer. -/
def request (type : ResourceType α) (request? : Option Request) (connection : Connection) :
    Except ApiFailure α × Connection :=
  match request? with
  | none => (.error .buildRequest, connection)
  | some request => connection.send type.codec request

/-- Whether a failure says that there is no such object. -/
def isNotFound : ApiFailure → Bool
  | .api _ reason _ => reason = "NotFound"
  | _ => false

/-- Reads an object. That there is none is no failure. -/
def get (type : ResourceType α) (ns name : String) (connection : Connection) :
    Except ClientError (Option α) × Connection :=
  match connection.request type (Request.get? type ns name) with
  | (.ok object, connection) => (.ok (some object), connection)
  | (.error failure, connection) =>
    if isNotFound failure then (.ok none, connection)
    else (.error (.getResource type.kind name failure), connection)

/-- Applies an object, which has to have a name and a namespace, and gives the object that the API
server holds then. -/
def apply (type : ResourceType α) (object : α) (connection : Connection) :
    Except ClientError α × Connection :=
  match (type.metadata object).name, (type.metadata object).ns with
  | none, _ => (.error (.missingObjectKey "metadata.name"), connection)
  | some _, none => (.error (.missingObjectKey "metadata.namespace"), connection)
  | some name, some ns =>
    match connection.request type
        (Request.patch? type connection.fieldManager ns name object) with
    | (.ok object, connection) => (.ok object, connection)
    | (.error failure, connection) =>
      (.error (.applyPatch type.kind name failure), connection)

/-- The API server as a store. -/
def store : Store Connection where
  getConfigMap ns name connection := connection.get .configMap ns name
  applyConfigMap configMap connection :=
    let (result, connection) := connection.apply .configMap configMap
    (result.map fun _ => (), connection)
  getProfile name connection := connection.get .profile "" name

end Connection

end RoleDiscovery
