import RoleDiscovery.Client.Error
import RoleDiscovery.Codec

/-!
# What the API server says about a failure

Results:

* `ApiStatus`: the body of an answer to a request that failed, with its codec.
-/

namespace RoleDiscovery

open Codec Codec.Entry

/-- Whether a request succeeded, in one word. -/
inductive StatusSummary where
  | success
  | failure
  deriving DecidableEq

/-- The codec of that word. -/
def StatusSummary.codec : Codec StatusSummary where
  shape := .choice
  encode
    | success => .text "Success"
    | failure => .text "Failure"
  decode
    | .text "Success" | .object [("Success", .null)] => some success
    | .text "Failure" | .object [("Failure", .null)] => some failure
    | _ => none

/-- A whole number below a bound. -/
def Codec.natBelow (bound : Nat) : Codec Nat where
  shape := .int
  encode n := .int n
  decode
    | .int n => if 0 ≤ n ∧ n < bound then some n.toNat else none
    | _ => none

/-- The metadata of a list of resources. -/
structure ListMeta where
  continueToken : Option String
  remainingItemCount : Option Int64
  resourceVersion : Option String
  selfLink : Option String

/-- The codec of the metadata of lists. -/
def ListMeta.codec : Codec ListMeta :=
  lenient <| ListMeta.mk
    <$> optional "continue" text ListMeta.continueToken
    <*> optional "remainingItemCount" int64 ListMeta.remainingItemCount
    <*> optional "resourceVersion" text ListMeta.resourceVersion
    <*> optional "selfLink" text ListMeta.selfLink

/-- One of the causes of a failure. -/
structure StatusCause where
  reason : String
  message : String
  field : String

/-- The codec of causes. -/
def StatusCause.codec : Codec StatusCause :=
  strict <| StatusCause.mk
    <$> defaulted "reason" text "" StatusCause.reason
    <*> defaulted "message" text "" StatusCause.message
    <*> defaulted "field" text "" StatusCause.field

/-- The details of a failure. -/
structure StatusDetails where
  name : String
  group : String
  kind : String
  uid : String
  causes : List StatusCause
  retryAfterSeconds : Nat

/-- The codec of details. -/
def StatusDetails.codec : Codec StatusDetails :=
  strict <| StatusDetails.mk
    <$> defaulted "name" text "" StatusDetails.name
    <*> defaulted "group" text "" StatusDetails.group
    <*> defaulted "kind" text "" StatusDetails.kind
    <*> defaulted "uid" text "" StatusDetails.uid
    <*> defaulted "causes" (list StatusCause.codec) [] StatusDetails.causes
    <*> defaulted "retryAfterSeconds" (natBelow UInt32.size) 0 StatusDetails.retryAfterSeconds

/-- The body of an answer to a request that failed. -/
structure ApiStatus where
  status : Option StatusSummary
  code : Nat
  message : String
  metadata : Option ListMeta
  reason : String
  details : Option StatusDetails

namespace ApiStatus

/-- The codec of such bodies. -/
def codec : Codec ApiStatus :=
  strict <| ApiStatus.mk
    <$> optional "status" StatusSummary.codec status
    <*> defaulted "code" (natBelow UInt16.size) 0 code
    <*> defaulted "message" text "" message
    <*> optional "metadata" ListMeta.codec metadata
    <*> defaulted "reason" text "" reason
    <*> optional "details" StatusDetails.codec details

/-- The failure that a body states. -/
def failure (status : ApiStatus) : ApiFailure :=
  .api status.code status.reason status.message

end ApiStatus

end RoleDiscovery
