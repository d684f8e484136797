import ModelDepot.Download.Poller
import ModelDepot.Json.Shape

/-!
# Configuration

The settings of the program: how a backend is reached and how downloads are watched. Whatever a
file leaves out has a default.
-/

namespace ModelDepot

/-- How a backend is reached. -/
structure TransportConfig where
  /-- Native libraries that are tried before the ones in their usual places. -/
  libraryPaths : List String
  searchDefaultPaths : Bool
  endpoint : String
  /-- The endpoint is asked for its health before it is taken. -/
  probeEndpoint : Bool
  requestTimeoutSecs : UInt64
  deriving DecidableEq, Repr

/-- How downloads are watched. -/
structure DownloadConfig where
  pollIntervalMillis : UInt64
  timeoutSecs : UInt64
  deriving DecidableEq, Repr

structure Config where
  transport : TransportConfig
  downloads : DownloadConfig
  deriving DecidableEq, Repr

/-- Why a file that is there has no text. -/
inductive ReadFault where
  | isDirectory
  | notText
  /-- What the system says. -/
  | system (message : String)
  deriving DecidableEq, Repr

def ReadFault.message : ReadFault → String
  | isDirectory => "Is a directory (os error 21)"
  | notText => "stream did not contain valid UTF-8"
  | system message => message

inductive ConfigError where
  /-- The file cannot be read. -/
  | unreadable (path : String) (fault : ReadFault)
  /-- The file is not TOML, or does not hold settings. -/
  | malformed (reason : String)
  | invalidValue (key value : String)
  deriving DecidableEq, Repr

def ConfigError.message : ConfigError → String
  | unreadable path fault => "failed to read " ++ path ++ ": " ++ fault.message
  | malformed reason => "invalid configuration file: " ++ reason
  | invalidValue key value => "invalid value " ++ Text.quote value ++ " for " ++ key

namespace TransportConfig

def defaults : TransportConfig :=
  { libraryPaths := [], searchDefaultPaths := true, endpoint := "http://localhost:5000",
    probeEndpoint := true, requestTimeoutSecs := 10 }

def requestTimeout (c : TransportConfig) : Duration :=
  .ofSeconds c.requestTimeoutSecs

def toJson (c : TransportConfig) : Json :=
  .object
    [("library_paths", .array (c.libraryPaths.map .string)),
      ("search_default_paths", .bool c.searchDefaultPaths), ("endpoint", .string c.endpoint),
      ("probe_endpoint", .bool c.probeEndpoint),
      ("request_timeout_secs", .nat c.requestTimeoutSecs.toNat)]

open Json Json.Reader Json.Field in
def read (surplus : Surplus) : Json.Reader TransportConfig :=
  recordWith [List String, Bool, String, Bool, UInt64] surplus "struct TransportConfig"
    (default "library_paths" (list path) defaults.libraryPaths,
      default "search_default_paths" bool defaults.searchDefaultPaths,
      default "endpoint" string defaults.endpoint,
      default "probe_endpoint" bool defaults.probeEndpoint,
      default "request_timeout_secs" u64 defaults.requestTimeoutSecs, ())
    fun (libraryPaths, searchDefaultPaths, endpoint, probeEndpoint, requestTimeoutSecs, ()) =>
      { libraryPaths, searchDefaultPaths, endpoint, probeEndpoint, requestTimeoutSecs }

end TransportConfig

namespace DownloadConfig

def defaults : DownloadConfig :=
  { pollIntervalMillis := 500, timeoutSecs := 300 }

def poller (c : DownloadConfig) : PollerConfig :=
  { interval := .ofMillis c.pollIntervalMillis, timeout := .ofSeconds c.timeoutSecs }

def toJson (c : DownloadConfig) : Json :=
  .object
    [("poll_interval_ms", .nat c.pollIntervalMillis.toNat),
      ("timeout_secs", .nat c.timeoutSecs.toNat)]

open Json Json.Reader Json.Field in
def read (surplus : Surplus) : Json.Reader DownloadConfig :=
  recordWith [UInt64, UInt64] surplus "struct DownloadConfig"
    (default "poll_interval_ms" u64 defaults.pollIntervalMillis,
      default "timeout_secs" u64 defaults.timeoutSecs, ())
    fun (pollIntervalMillis, timeoutSecs, ()) => { pollIntervalMillis, timeoutSecs }

end DownloadConfig

namespace Config

def defaults : Config := ⟨.defaults, .defaults⟩

def toJson (c : Config) : Json :=
  .object [("transport", c.transport.toJson), ("downloads", c.downloads.toJson)]

open Json Json.Reader Json.Field in
/-- Reads all settings; `surplus` says what becomes of items behind the last one where settings
are given as an array. -/
def read (surplus : Surplus) : Json.Reader Config :=
  recordWith [TransportConfig, DownloadConfig] surplus "struct RiffConfig"
    (default "transport" (TransportConfig.read surplus) .defaults,
      default "downloads" (DownloadConfig.read surplus) .defaults, ())
    fun (transport, downloads, ()) => { transport, downloads }

/-- A configuration must poll at intervals and have an endpoint; the first that fails is told. -/
def problem? (c : Config) : Option ConfigError :=
  if c.downloads.pollIntervalMillis = 0 then
    some (.invalidValue "downloads.poll_interval_ms" "0")
  else if Text.isBlankText c.transport.endpoint then
    some (.invalidValue "transport.endpoint" c.transport.endpoint)
  else none

def validate (c : Config) : Except ConfigError Config :=
  c.problem?.elim (.ok c) .error

end Config

end ModelDepot
