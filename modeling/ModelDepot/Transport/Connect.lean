import ModelDepot.Config.Basic
import ModelDepot.Path
import ModelDepot.Transport.Http
import ModelDepot.Transport.InMemory
import ModelDepot.Transport.Native

/-!
# The choice of a backend

The first native library that can be used is the backend, whatever the endpoint is. Libraries are
looked for at the configured paths first, then in the usual places; a path that is the same as an
earlier one is left out. Only without a library is the endpoint looked at, and probed if the
settings say so.
-/

namespace ModelDepot

def libraryFile : String := "libkcriff.so"

/-- The usual places of the library, from the current directory and the program's own. -/
def usualPlaces (currentDirectory programDirectory : String) : List String :=
  [currentDirectory, Path.join currentDirectory "build", "/usr/lib", "/usr/local/lib",
    Path.join programDirectory "lib"].map (Path.join · libraryFile)

/-- The libraries to try, in order. -/
def TransportConfig.candidates (c : TransportConfig) (usual : List String) : List String :=
  Path.distinct (c.libraryPaths ++ if c.searchDefaultPaths then usual else [])

inductive Backend where
  | native (n : Native)
  | http (h : Http)
  | inMemory (b : InMemory)

namespace Backend

def call : Backend → Call → Response × Backend
  | native n, c => (Transport.call n c).map id native
  | http h, c => (Transport.call h c).map id http
  | inMemory b, c => (Transport.call b c).map id inMemory

instance : Transport Backend where
  kind
    | native n => Transport.kind n
    | http h => Transport.kind h
    | inMemory b => Transport.kind b
  location
    | native n => Transport.location n
    | http h => Transport.location h
    | inMemory b => Transport.location b
  call := call

def requests : Backend → List String
  | http h => h.requests
  | _ => []

end Backend

/-- What there is to be found: libraries behind paths, services behind endpoints. -/
structure Surroundings where
  /-- Opens a library, or says why it cannot be opened. -/
  load : String → Except String Library
  service : Endpoint → Service

/-- Opens the library at a path and binds it. -/
def Surroundings.native (w : Surroundings) (path : String) : Except LibraryError Native :=
  match w.load path with
  | .ok library => Native.bind path library
  | .error reason => .error (.unloadable reason)

/-- The libraries that were passed over, and the first one that can be used. -/
structure Attempts where
  /-- The paths at which a library was opened or could not be opened. -/
  opened : List String
  rejected : List RejectedCandidate
  found : Option Native

/-- Tries libraries in order until one can be used. -/
def Surroundings.tryAll (w : Surroundings) : List String → Attempts
  | [] => ⟨[], [], none⟩
  | path :: rest =>
    match w.native path with
    | .ok n => ⟨[path], [], some n⟩
    | .error e =>
      let later := w.tryAll rest
      { later with
        opened := path :: later.opened
        rejected := ⟨path, e.message⟩ :: later.rejected }

/-- Why there is no backend, given why the endpoint is of no use. -/
def TransportConfig.unavailable (c : TransportConfig) (rejected : List RejectedCandidate)
    (reason : String) : TransportUnavailable :=
  ⟨rejected, c.endpoint, reason⟩

structure Connection where
  backend : Except TransportUnavailable Backend
  /-- The libraries opened on the way. -/
  opened : List String
  /-- The targets requested on the way. -/
  requests : List String

/-- The service at an endpoint, used as the settings say. -/
def Surroundings.http (w : Surroundings) (c : TransportConfig) (endpoint : Endpoint) : Http :=
  ⟨endpoint, c.requestTimeout, w.service endpoint, []⟩

/-- What a search ends with after a probe of the service. -/
def TransportConfig.judge (c : TransportConfig) (attempts : Attempts)
    (probed : Except RequestError Unit × Clocked Http) : Connection :=
  ⟨match probed.1 with
    | .ok () => .ok (.http probed.2.transport)
    | .error e => .error (c.unavailable attempts.rejected e.message),
    attempts.opened, probed.2.transport.requests⟩

/-- Goes to the service at the endpoint, after a probe if the settings say so. -/
def Surroundings.connectHttp (w : Surroundings) (c : TransportConfig) (attempts : Attempts) :
    Connection :=
  match Endpoint.read c.endpoint with
  | .error fault =>
    ⟨.error (c.unavailable attempts.rejected (Endpoint.invalidMessage c.endpoint fault)),
      attempts.opened, []⟩
  | .ok endpoint =>
    let http := w.http c endpoint
    if c.probeEndpoint then c.judge attempts (probe.over ⟨http, 0⟩)
    else ⟨.ok (.http http), attempts.opened, []⟩

def Surroundings.connect (w : Surroundings) (c : TransportConfig) (usual : List String) :
    Connection :=
  let attempts := w.tryAll (c.candidates usual)
  match attempts.found with
  | some n => ⟨.ok (.native n), attempts.opened, []⟩
  | none => w.connectHttp c attempts

end ModelDepot
