import ModelDepot.Duration

/-!
# What goes wrong with a call

A call fails on its way, or its reply cannot be decoded, or the reply itself reports an error. Only
the last is the backend's final word.
-/

namespace ModelDepot

/-- A call that brought no reply to decode. -/
inductive RequestError where
  | network (message : String)
  | http (status : UInt16) (body : String)
  | binding (message : String)
  | noReply (entryPoint : String)
  | timeout (after : Duration)
  deriving DecidableEq, Repr

namespace RequestError

def message : RequestError → String
  | network m => "network error: " ++ m
  | http status body => "HTTP " ++ decimalText status.toNat ++ ": " ++ body
  | binding m => "native binding error: " ++ m
  | noReply entryPoint => "no reply from " ++ entryPoint
  | timeout after => "request timed out after " ++ after.text

def toJson : RequestError → Json
  | network m => .object [("Network", .string m)]
  | http status body =>
    .object [("Http", .object [("status", .nat status.toNat), ("body", .string body)])]
  | binding m => .object [("Binding", .string m)]
  | noReply entryPoint => .object [("NoReply", .string entryPoint)]
  | timeout after => .object [("Timeout", after.toJson)]

open Json Json.Reader Json.Field in
def read : Json.Reader RequestError :=
  variants
    [("Network", .holding fun v => (string v).map network),
      ("Http", .ofFields [UInt16, String]
        (required "status" u16, required "body" string, ())
        fun (status, body, ()) => http status body),
      ("Binding", .holding fun v => (string v).map binding),
      ("NoReply", .holding fun v => (string v).map noReply),
      ("Timeout", .holding fun v => (Duration.read v).map timeout)]

end RequestError

/-- A reply that does not have the expected form. -/
structure DecodeError where
  /-- What the reply was expected to be. -/
  entity : String
  message : String
  deriving DecidableEq, Repr

inductive ClientError where
  | request (e : RequestError)
  | decode (e : DecodeError)
  /-- The reply reports an error. -/
  | remote (message : String)
  deriving DecidableEq, Repr

namespace ClientError

def message : ClientError → String
  | request e => e.message
  | decode e => "could not decode " ++ e.entity ++ ": " ++ e.message
  | remote m => "backend reported an error: " ++ m

/-- A glitch that polling may ride out. -/
def isTransient : ClientError → Bool
  | remote _ => false
  | _ => true

end ClientError

/-- A native library that was passed over, and why. -/
structure RejectedCandidate where
  candidate : String
  reason : String
  deriving DecidableEq, Repr

namespace RejectedCandidate

def toJson (r : RejectedCandidate) : Json :=
  .object [("candidate", .string r.candidate), ("reason", .string r.reason)]

open Json Json.Reader Json.Field in
def read : Json.Reader RejectedCandidate :=
  record [String, String] "struct RejectedCandidate"
    (required "candidate" string, required "reason" string, ())
    fun (candidate, reason, ()) => { candidate, reason }

end RejectedCandidate

structure TransportUnavailable where
  attempts : List RejectedCandidate
  endpoint : String
  endpointReason : String
  deriving DecidableEq, Repr

def TransportUnavailable.message (u : TransportUnavailable) : String :=
  "no usable transport: " ++ decimalText u.attempts.length ++
    " native candidate(s) rejected, endpoint " ++ u.endpoint ++ " unusable (" ++
    u.endpointReason ++ ")"

inductive BatchError where
  | empty
  | listing (e : ClientError)
  deriving DecidableEq, Repr

def BatchError.message : BatchError → String
  | empty => "no models selected for download"
  | listing e => "could not list models for the batch: " ++ e.message

end ModelDepot
