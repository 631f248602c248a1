import RoleDiscovery.Client.Status
import RoleDiscovery.Client.Uri
import RoleDiscovery.Json.Document

/-!
# A connection to an API server

Sends requests and reads the answers. The connection knows the answers to come, so that what is sent
and what becomes of it can be told in advance.

Results:

* `Request`, `Reply`: what goes over a connection.
* `Connection.send`: sends a request and reads the object in its answer.
-/

namespace RoleDiscovery

/-- What a request does: it reads an object, or applies one. -/
inductive Method where
  | get
  | patch
  deriving DecidableEq

namespace Method

/-- The name of a method. -/
def name : Method → String
  | get => "GET"
  | patch => "PATCH"

/-- The form in which an answer is asked for. -/
def accept? : Method → Option String
  | get => none
  | patch => some "application/json"

/-- The form of the body. -/
def contentType? : Method → Option String
  | get => none
  | patch => some "application/apply-patch+yaml"

end Method

/-- A request. -/
structure Request where
  method : Method
  uri : String
  body : Option Json

/-- What comes back: an answer with its status code, or a failure of the transport. -/
inductive Reply where
  | answer (status : Nat) (body : String)
  | transportError (message : String)

/-- A connection: the name that changes are made under, the answers to come, and the requests that
have been sent. -/
structure Connection where
  fieldManager : String
  replies : List Reply
  sent : List Request := []

/-- The name that changes are made under if none is given. -/
def defaultFieldManager : String :=
  "rolebasedgroup-controller"

/-- The object in an answer. A status code from 400 on means failure. -/
def Reply.object {α : Type} (codec : Codec α) : Reply → Except ApiFailure α
  | .transportError message => .error (.service message)
  | .answer status body =>
    if 400 ≤ status ∧ status < 600 then
      match ApiStatus.codec.ofJson? body with
      | some stated => .error stated.failure
      | none => .error (.api status "Failed to parse error data" body)
    else
      match codec.ofJson? body with
      | some object => .ok object
      | none => .error .undecodable

namespace Connection

/-- Sends a request and reads the object in its answer. Without an answer to come the transport
fails. -/
def send {α : Type} (codec : Codec α) (connection : Connection) (request : Request) :
    Except ApiFailure α × Connection :=
  let connection := { connection with sent := connection.sent ++ [request] }
  match connection.replies with
  | [] => (.error (.service "no response left"), connection)
  | reply :: rest => (reply.object codec, { connection with replies := rest })

end Connection

end RoleDiscovery
