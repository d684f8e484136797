import ModelDepot.Client
import ModelDepot.Download.Gate
import ModelDepot.Download.Report

/-!
# The download poller

A poller brings one model's download to an end: it claims the name, asks the backend to start, and
then asks for the status until a reply decides, time runs out or someone stops it.

It is given as its atomic steps. Between two of them anyone who holds a handle may look at the
poller or stop it, and other pollers may claim and release names. A poller does not make its calls
and does not sleep itself; it says what it is about to do and is told what came of it.
-/

namespace ModelDepot

/-- Where a poller stands, as its handles see it. -/
inductive PollerState where
  | idle
  | requested
  | polling
  | completed
  | failed
  | timedOut
  | cancelled
  deriving DecidableEq, Repr

namespace PollerState

/-- Nothing follows this state. -/
def isTerminal : PollerState → Bool
  | completed | failed | timedOut | cancelled => true
  | idle | requested | polling => false

def ofOutcome : DownloadOutcome → PollerState
  | .completed _ => completed
  | .failed _ => failed
  | .timedOut _ _ => timedOut
  | .cancelled => cancelled

def text : PollerState → String
  | idle => "idle"
  | requested => "requested"
  | polling => "polling"
  | completed => "completed"
  | failed => "failed"
  | timedOut => "timed out"
  | cancelled => "cancelled"

end PollerState

/-- How often a poller asks, and how long it goes on after its start. -/
structure PollerConfig where
  interval : Duration
  timeout : Duration
  deriving DecidableEq, Repr

/-- The two activities of a poller. Either may bring it to its end. -/
inductive Activity where
  /-- Requesting the download. -/
  | starting
  /-- Asking for its status. -/
  | running
  deriving DecidableEq, Repr

inductive Stage where
  /-- Nothing has been asked of the poller. -/
  | idle
  /-- The start notes the time and looks at the gate. -/
  | entering
  /-- The name is claimed. -/
  | claiming
  /-- The name is held; handles are told. -/
  | claimed
  /-- The backend is asked to start the download. -/
  | requesting
  /-- The backend has answered the start. -/
  | answered (reply : Except ClientError Acknowledgement)
  /-- The start is over; the run takes over from here. -/
  | started
  /-- A round begins with a look at the gate. -/
  | looking
  /-- Then the deadline is checked. -/
  | timing
  /-- Then the gate is asked to begin a call. -/
  | beginning
  /-- The backend is asked for the status. -/
  | calling
  /-- The backend has answered; the gate says whether the reply counts. -/
  | received (reply : Except ClientError DownloadStatus)
  /-- The reply counts. -/
  | accepted (reply : Except ClientError DownloadStatus)
  /-- The reply decided nothing; the length of the nap is worked out. -/
  | tiring
  /-- A nap until the given instant, or until someone stops the poller. -/
  | napping (wake : Nat)
  /-- The outcome is known; handles are told. -/
  | concluding (activity : Activity) (outcome : DownloadOutcome)
  /-- The name is given back. -/
  | releasing (activity : Activity) (outcome : DownloadOutcome)
  /-- The outcome is noted. -/
  | recording (activity : Activity) (outcome : DownloadOutcome)
  /-- The last event is told. -/
  | reporting (outcome : DownloadOutcome)
  /-- The run is over. -/
  | ended
  deriving Repr

structure Poller where
  model : String
  config : PollerConfig
  gate : PollGate
  progress : ProgressCell
  state : PollerState
  stage : Stage
  /-- The run has been asked for. -/
  isRunning : Bool
  /-- The instant of the start. -/
  startedAt : Option Nat
  /-- The poller holds its name. -/
  holdsName : Bool
  outcome : Option DownloadOutcome
  /-- The progress values told so far, the last one first. -/
  told : List Binary64
  deriving Repr

/-- Instants are counted in nanoseconds; none is later than this. -/
def endOfTime : Nat := 0x8000000000000000 * nanosPerSecond

namespace Poller

def new (model : String) (config : PollerConfig) : Poller :=
  { model, config, gate := .idle, progress := .start, state := .idle, stage := .idle,
    isRunning := false, startedAt := none, holdsName := false, outcome := none, told := [] }

/-! ## Handles -/

def halt (p : Poller) : Poller :=
  { p with gate := p.gate.stop.2 }

/-- A stop: closes the gate unless the poller has come to its end. -/
def stop (p : Poller) : Poller :=
  if p.state.isTerminal then p else p.halt

/-- Moves to a state, unless the poller has come to its end. -/
def setState (p : Poller) (state : PollerState) : Poller :=
  if p.state.isTerminal then p else { p with state }

def isRequesting (p : Poller) : Bool :=
  p.stage matches .requesting

def isCalling (p : Poller) : Bool :=
  p.stage matches .calling

/-! ## Starting and running -/

/-- Asks for the start. Only an idle poller heeds it. -/
def requestStart (p : Poller) : Poller :=
  match p.stage with
  | .idle => { p with stage := .entering }
  | _ => p

/-- What the start comes to: the reason if the poller has failed. -/
def startResult (p : Poller) : Except FailureReason Unit :=
  match p.outcome with
  | some (.failed reason) => .error reason
  | _ => .ok ()

/-- Asks for the run, and for the start before it if there was none. -/
def requestRun (p : Poller) : Poller :=
  { p.requestStart with isRunning := true }

/-- The instant the poller gives up. A timeout that reaches past the end of time never expires. -/
def deadline (p : Poller) (now : Nat) : Option Nat :=
  let instant := p.startedAt.getD now + p.config.timeout.nanos
  if instant < endOfTime then some instant else none

/-- Why a start was rejected: the backend's own words, or what went wrong with the call. -/
def rejection : ClientError → String
  | .remote message => message
  | e => e.message

/-- What an accepted status reply leads to: an outcome, a reading of the progress, or another
try. -/
inductive Verdict where
  | decided (outcome : DownloadOutcome)
  | progress (value : Binary64)
  | retry
  deriving DecidableEq, Repr

/-- A status that says completed decides, whether by its flag or by its state; so do one that says
failed or timed out and an error of the backend. Any other error is ridden out. -/
def verdict : Except ClientError DownloadStatus → Verdict
  | .ok status =>
    if status.completed || status.state == .completed then .decided (.completed status)
    else if status.state == .failed || status.state == .timeout then
      .decided (.failed (.remote ("backend reported status " ++ status.state.word)))
    else .progress status.progress
  | .error (.remote message) => .decided (.failed (.remote message))
  | .error _ => .retry

inductive Next where
  /-- A step that takes no time: the poller and the held names after it, and what it tells. -/
  | step (p : Poller) (active : ActiveDownloads) (told : Option DownloadEvent)
  /-- A call; its reply is taken by `receive`. -/
  | call (c : Call)
  /-- Nothing before this instant. -/
  | sleep (wake : Nat)
  /-- Nothing before it is asked to. -/
  | rest

/-- What the poller is about to do at an instant, given the names that are held. -/
def next (p : Poller) (now : Nat) (active : ActiveDownloads) : Next :=
  let goTo (stage : Stage) : Next := .step { p with stage } active none
  match p.stage with
  | .idle => .rest
  | .entering =>
    let stage := if p.gate.isStopped then .concluding .starting .cancelled else .claiming
    .step { p with startedAt := some now, stage } active none
  | .claiming =>
    match active.claim p.model with
    | some active => .step { p with holdsName := true, stage := .claimed } active none
    | none => goTo (.concluding .starting (.failed .alreadyActive))
  | .claimed => .step { p.setState .requested with stage := .requesting } active none
  | .requesting => .call (.startDownload p.model)
  | .answered (.ok _) => .step { p.setState .polling with stage := .started } active none
  | .answered (.error e) => goTo (.concluding .starting (.failed (.rejected (rejection e))))
  | .started =>
    if !p.isRunning then .rest
    else
      match p.outcome with
      | some outcome =>
        .step { p with outcome := none, stage := .concluding .running outcome } active none
      | none => goTo .looking
  | .looking =>
    goTo (if p.gate.isStopped then .concluding .running .cancelled else .timing)
  | .timing =>
    goTo <|
      if (p.deadline now).any (· ≤ now) then
        .concluding .running (.timedOut p.config.timeout p.told.head?)
      else .beginning
  | .beginning =>
    match p.gate.begin with
    | (true, gate) => .step { p with gate, stage := .calling } active none
    | (false, _) => goTo (.concluding .running .cancelled)
  | .calling => .call (.downloadStatus p.model)
  | .received reply =>
    match p.gate.finish with
    | (true, gate) => .step { p with gate, stage := .accepted reply } active none
    | (false, _) => goTo (.concluding .running .cancelled)
  | .accepted reply =>
    match verdict reply with
    | .decided outcome =>
      let progress :=
        match outcome with
        | .completed status => p.progress.set status.progress
        | _ => p.progress
      .step { p with progress, stage := .concluding .running outcome } active none
    | .progress value =>
      if p.told.contains value then goTo .tiring
      else
        .step
          { p with told := value :: p.told, progress := p.progress.set value, stage := .tiring }
          active (some (.progress p.model value))
    | .retry => goTo .tiring
  | .tiring =>
    match p.deadline now with
    | none => goTo (.napping (now + p.config.interval.nanos))
    | some deadline =>
      goTo <|
        if deadline ≤ now then .looking
        else .napping (now + min p.config.interval.nanos (deadline - now))
  | .napping wake => if p.gate.isStopped || wake ≤ now then goTo .looking else .sleep wake
  | .concluding activity outcome =>
    .step { p.setState (.ofOutcome outcome) with stage := .releasing activity outcome } active none
  | .releasing activity outcome =>
    .step { p with holdsName := false, stage := .recording activity outcome }
      (if p.holdsName then active.release p.model else active) none
  | .recording activity outcome =>
    .step
      { p with
        outcome := some (p.outcome.getD outcome)
        stage := match activity with
          | .starting => .started
          | .running => .reporting outcome }
      active none
  | .reporting outcome =>
    .step { p with stage := .ended } active (some (.finished p.model outcome))
  | .ended => .rest

def receive (p : Poller) (reply : Reply) : Poller :=
  match p.stage with
  | .requesting => { p with stage := .answered (Client.accept Client.decodeStart reply) }
  | .calling =>
    { p with stage := .received (Client.accept (Payload.downloadStatus p.model) reply) }
  | _ => p

def drop (p : Poller) (active : ActiveDownloads) : ActiveDownloads :=
  if p.holdsName then active.release p.model else active

end Poller

end ModelDepot
