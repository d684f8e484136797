import ModelDepot.Endpoint.Basic
import ModelDepot.Transport.Basic

/-!
# HTTP services

Every call is one request for a path below the endpoint. An answer counts by its status; a service
that stays silent is given up after the request timeout.
-/

namespace ModelDepot

inductive Exchange where
  | answered (status : UInt16) (body : List UInt8)
  /-- The connection was refused or broke. -/
  | broken (reason : String)
  /-- No answer comes. -/
  | silent
  deriving DecidableEq, Repr

/-- What a service makes of a request for a target, given the requests before it. -/
abbrev Service := List String → String → Exchange

/-- What is requested for a call: path and query. -/
def Endpoint.target (e : Endpoint) (c : Call) : String :=
  e.path ++ c.capability.route ++
    c.model?.elim "" fun model => "?name=" ++ Endpoint.formEncode model

/-- The statuses that are registered, from and to. -/
def registeredStatuses : List (UInt16 × UInt16) :=
  [(100, 101), (103, 103), (200, 207), (226, 226), (300, 304), (307, 308), (400, 418), (421, 426),
    (428, 429), (431, 431), (451, 451), (500, 508), (510, 511)]

def isRegistered (status : UInt16) : Bool :=
  registeredStatuses.any fun (first, last) => first ≤ status && status ≤ last

/-- The reply that an answer makes. Its status must be registered and its body text; the status
says whether it is a success. -/
def Reply.ofAnswer (status : UInt16) (body : List UInt8) : Reply :=
  if !isRegistered status then .error (.network "the status is not registered")
  else
    match String.fromUTF8? ⟨body.toArray⟩ with
    | none => .error (.network "the body is not UTF-8")
    | some text => if 200 ≤ status ∧ status < 300 then .ok text else .error (.http status text)

/-- The reply that an exchange makes, and how long it takes when the service stays silent. -/
def Exchange.response (timeout : Duration) : Exchange → Response
  | answered status body => ⟨Reply.ofAnswer status body, 0⟩
  | broken reason => ⟨.error (.network reason), 0⟩
  | silent => ⟨.error (.timeout timeout), timeout.nanos⟩

structure Http where
  endpoint : Endpoint
  timeout : Duration
  service : Service
  /-- The targets requested so far. -/
  requests : List String

namespace Http

/-- Makes a call. Without any time for it there is no request. -/
def call (h : Http) (c : Call) : Response × Http :=
  if h.timeout.nanos = 0 then (⟨.error (.timeout h.timeout), 0⟩, h)
  else
    let target := h.endpoint.target c
    ((h.service h.requests target).response h.timeout,
      { h with requests := h.requests ++ [target] })

instance : Transport Http where
  kind _ := .http
  location h := h.endpoint.text
  call := call

end Http

/-- What a reply to a probe says: any answer over HTTP will do. -/
def probeResult : Reply → Except RequestError Unit
  | .ok _ | .error (.http _ _) => .ok ()
  | .error e => .error e

/-- Finds out whether anything answers. -/
def probe : Dialogue (Except RequestError Unit) :=
  .call .healthCheck fun reply => .done (probeResult reply)

end ModelDepot
