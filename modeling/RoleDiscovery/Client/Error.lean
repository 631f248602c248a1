import RoleDiscovery.Text.Quoted

/-!
# Failures of the API client

Results:

* `ApiFailure`: what goes wrong with a request.
* `ClientError`: what the client reports, with its message.
-/

namespace RoleDiscovery

/-- What goes wrong with a request: the API server refuses it, the transport fails, the request
cannot be made, or the answer cannot be read. -/
inductive ApiFailure where
  | api (code : Nat) (reason message : String)
  | service (message : String)
  | buildRequest
  | undecodable
  deriving DecidableEq

/-- A failure of the client. -/
inductive ClientError where
  | getResource (kind name : String) (cause : ApiFailure)
  | applyPatch (kind name : String) (cause : ApiFailure)
  | missingObjectKey (key : String)
  deriving DecidableEq

namespace ClientError

/-- The message of a failure. -/
def message : ClientError → String
  | getResource kind name _ => "failed to get " ++ kind ++ " " ++ Text.quoted name
  | applyPatch kind name _ => "failed to apply patch to " ++ kind ++ " " ++ Text.quoted name
  | missingObjectKey key => "object is missing key " ++ Text.quoted key

/-- The failed request behind a failure. -/
def request? : ClientError → Option ApiFailure
  | getResource _ _ cause => some cause
  | applyPatch _ _ cause => some cause
  | missingObjectKey _ => none

end ClientError

end RoleDiscovery
