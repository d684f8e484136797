import ModelDepot.Console.Program
import ModelDepot.Download.Round
import ModelDepot.Transport.Message
import Std.Async.DNS
import Std.Async.Select
import Std.Async.Signal
import Std.Async.TCP
import Std.Async.Timer

/-!
# The program at a real terminal

All that touches the world: the environment, files, connections, the clock and the user's signal.
What is done with them is decided by the modules below. Libraries are not opened here, so that every
candidate is passed over.
-/

namespace ModelDepot.Console.Main

open Std Std.Async

/-! ## Connections -/

/-- A place on the network where requests go, and how long they may take. -/
structure Link where
  endpoint : Endpoint
  timeout : Duration

def Link.addresses (l : Link) : Async (List Net.SocketAddress) := do
  let port := l.endpoint.port.getD 80
  let host := match l.endpoint.host with
    | .ipv6 _ => String.ofList (l.endpoint.host.text.toList.filter fun c => c != '[' && c != ']')
    | host => host.text
  let found ← DNS.getAddrInfo host (toString port)
  return found.toList.map fun
    | .v4 addr => .v4 ⟨addr, port.toUInt16⟩
    | .v6 addr => .v6 ⟨addr, port.toUInt16⟩

/-- All bytes that come over a connection until an instant; none if that is not the end of it. -/
partial def receiveAll (socket : TCP.Socket.Client) (until? : Option Nat) (bytes : ByteArray) :
    Async (Option ByteArray) := do
  let now ← IO.monoNanosNow
  let rest := (until?.map fun instant => (instant - now) / 1000000).getD 1000000000000
  let part : Option (Option ByteArray) ← Selectable.one #[
    .case (socket.recvSelector 65536) fun part => return some part,
    .case (← Selector.sleep (.ofNat rest)) fun _ => return none]
  match part with
  | none => return none
  | some none => return some bytes
  | some (some part) => receiveAll socket until? (bytes ++ part)

/-- Connects to the first address that lets it. -/
def connectAny (error : IO.Error) : List Net.SocketAddress → Async TCP.Socket.Client
  | [] => throw error
  | address :: rest => do
    try
      let socket ← TCP.Socket.Client.mk
      socket.connect address
      return socket
    catch e => connectAny e rest

def Link.exchange (l : Link) (target : String) : Async Exchange := do
  if l.endpoint.secure then return .broken "encrypted connections are not supported"
  try
    let start ← IO.monoNanosNow
    let socket ← connectAny (IO.userError "no address") (← l.addresses)
    socket.send ⟨(Message.request l.endpoint target).toArray⟩
    let instant := start + l.timeout.nanos
    let bytes ← receiveAll socket (if instant < endOfTime then some instant else none) .empty
    return (bytes.map fun b => Message.exchange b.toList).getD .silent
  catch e => return .broken (toString e)

def Link.ask (l : Link) (c : Call) : IO Reply := do
  if l.timeout.nanos = 0 then return .error (.timeout l.timeout)
  let exchange ← (l.exchange (l.endpoint.target c)).block
  return (exchange.response l.timeout).reply

def connect (c : TransportConfig) (usual : List String) :
    IO (Except TransportUnavailable Link) := do
  let none : Surroundings :=
    ⟨fun _ => .error "libraries are not supported", fun _ _ _ => .silent⟩
  let rejected := (none.tryAll (c.candidates usual)).rejected
  match Endpoint.read c.endpoint with
  | .error fault =>
    return .error (c.unavailable rejected (Endpoint.invalidMessage c.endpoint fault))
  | .ok endpoint =>
    let link : Link := ⟨endpoint, c.requestTimeout⟩
    if c.probeEndpoint then
      match ← probe.perform link.ask with
      | .ok () => return .ok link
      | .error e => return .error (c.unavailable rejected e.message)
    else return .ok link

/-! ## Downloads -/

/-- What a program at a terminal works with. -/
structure Desk where
  link : Link
  poller : PollerConfig
  coloured : Bool
  client : IO.Ref Client

abbrev Pending := Task (Except IO.Error Reply)

/-- The calls under way, each of the member at its place. -/
abbrev Calls := List (Option Pending)

def lineOf : Option Pending → IO Batch.Line
  | none => return .free
  | some task => do
    if ← IO.hasFinished task then
      match task.get with
      | .ok reply => return .answered reply
      | .error e => return .answered (.error (.network (toString e)))
    else return .underWay

def makeCalls (d : Desk) (calls : Calls) : List (Nat × Call) → IO Calls
  | [] => return calls
  | (i, c) :: rest => do
    let task ← IO.asTask (d.link.ask c)
    makeCalls d (calls.set i (some task)) rest

/-- Goes round after round until all members rest; the user's signal stops them. -/
partial def attend (d : Desk) (signal : Option (Task (Except IO.Error Int))) (b : Batch)
    (calls : Calls) (tell : BatchEvent → IO Unit) : IO Batch := do
  let lines ← calls.mapM lineOf
  let r := b.round (← IO.monoNanosNow) (← d.client.get).active lines
  d.client.modify ({ · with active := r.active })
  r.told.forM tell
  if !r.isWorking then return r.batch
  let left := (calls.zip lines).map fun (call, line) => call.filter fun _ => line.isUnderWay
  let calls ← makeCalls d left r.calls
  let isAsked ← match signal with
    | some task => IO.hasFinished task
    | none => pure false
  if isAsked then
    (stopping d.coloured).forM fun line => IO.eprintln line
    attend d none r.batch.stop calls tell
  else
    IO.sleep 2
    attend d signal r.batch calls tell

/-- Starts members one after the other, then lets all of them go on to the end. -/
def runBatch (d : Desk) (members : List String) (tell : BatchEvent → IO Unit) : IO Batch := do
  let mut started := []
  for model in members do
    let p := (Poller.new model d.poller).requestStart
    let b ← attend d none ⟨[p], .start 1⟩ [none] fun _ => pure ()
    started := started ++ b.pollers.map Poller.requestRun
  let waiter ← Signal.Waiter.mk .sigint false
  let signal ← waiter.wait
  let calls := started.map fun _ => none
  let b ← attend d (some signal) ⟨started, .start started.length⟩ calls tell
  waiter.stop
  return b

/-- What a member of a batch has told. -/
def ofMember? : BatchEvent → Option DownloadEvent
  | .progress model value _ => some (.progress model value)
  | .memberFinished model outcome => some (.finished model outcome)
  | .finished _ => none

/-- A program at work. -/
abbrev Seat := ReaderT Desk IO

instance : Terminal Seat where
  print line := (IO.println line : IO Unit)
  complain line := (IO.eprintln line : IO Unit)
  talk dialogue := fun d => do
    let client ← d.client.get
    let (a, client) ← (dialogue client).perform d.link.ask
    d.client.set client
    return a
  download model := fun d => do
    let told ← IO.mkRef []
    let _ ← runBatch d [model] fun event => told.modify (· ++ (ofMember? event).toList)
    told.get
  downloadAll members lines := fun d => do
    let told ← IO.mkRef []
    let b ← runBatch d members fun event => do
      told.modify (· ++ [event])
      (lines event).forM fun line => IO.println line
    return ⟨← told.get, b.report⟩

/-! ## The surroundings -/

def variableNames : List String :=
  ["KCRIFF_HOME", "KCRIFF_ENDPOINT", "KCRIFF_LIBRARY", "KCRIFF_POLL_INTERVAL_MS",
    "KCRIFF_DOWNLOAD_TIMEOUT_SECS", "XDG_CONFIG_HOME", "HOME"]

def environment : IO Environment :=
  variableNames.filterMapM fun name => do
    return (← IO.getEnv name).map fun value => (name, value.toUTF8.toList)

def contentOf (path : String) : IO FileContent := do
  try return .bytes (← IO.FS.readBinFile path).toList
  catch
    | .noFileOrDirectory .. => return .missing
    | .inappropriateType .. => return .fault .isDirectory
    | e => return .fault (.system (toString e))

def configFile (env : Environment) : IO FileContent :=
  match Config.directory? env with
  | some dir => contentOf (Path.join dir Config.fileName)
  | none => return .missing

def finish (e : Ending) : IO UInt32 := do
  e.output.forM fun line => IO.println line
  e.errors.forM fun line => IO.eprintln line
  return e.exitCode.toUInt32

/-- Colours are for terminals, unless they are not wanted. -/
def isColoured : IO Bool := do
  return (← (← IO.getStdout).isTty) && (← IO.getEnv "NO_COLOR").isNone

def run (words : List String) : IO UInt32 := do
  let env ← environment
  let file ← configFile env
  let coloured ← isColoured
  match prepare env (fun _ => file) words with
  | .error e => finish e
  | .ok (command, c) =>
    let usual := usualPlaces (← IO.currentDir).toString (← IO.appDir).toString
    match ← connect c.transport usual with
    | .error u => finish (.ofUnavailable coloured u)
    | .ok link =>
      let desk : Desk := ⟨link, c.downloads.poller, coloured, ← IO.mkRef .fresh⟩
      let result ← (command.run coloured : Program Seat Bool).run desk
      finish (.ofResult result)

end ModelDepot.Console.Main

def main (words : List String) : IO UInt32 :=
  ModelDepot.Console.Main.run words
