import ModelDepot.Download.Poller

/-!
# Runs

A poller run over a transport. Calls take the time that the transport says, and naps pass at once:
the clock is moved to their end. A run goes step by step, so that it can be held at any stage.
-/

namespace ModelDepot

/-- A client over a transport, and the time in nanoseconds. -/
structure Scene (τ : Type) where
  transport : τ
  client : Client
  now : Nat

namespace Scene

variable {τ : Type} [Transport τ]

def fresh (transport : τ) : Scene τ :=
  ⟨transport, .fresh, 0⟩

def wait (s : Scene τ) (nanos : Nat) : Scene τ :=
  { s with now := s.now + nanos }

/-- Makes one call; the time it takes passes. -/
def call (s : Scene τ) (c : Call) : Reply × Scene τ :=
  let (response, transport) := Transport.call s.transport c
  (response.reply, { s with transport, now := s.now + response.elapsed })

def hold {α : Type} (s : Scene τ) (d : Dialogue α) : α × Scene τ :=
  let (a, clocked) := d.over ⟨s.transport, s.now⟩
  (a, { s with transport := clocked.transport, now := clocked.now })

def holdClient {α : Type} (s : Scene τ) (d : Dialogue (α × Client)) : α × Scene τ :=
  let ((a, client), s) := s.hold d
  (a, { s with client })

def withActive (s : Scene τ) (active : ActiveDownloads) : Scene τ :=
  { s with client := { s.client with active } }

structure Advance (τ : Type) where
  scene : Scene τ
  poller : Poller
  told : List DownloadEvent

def advance (s : Scene τ) (p : Poller) : Option (Advance τ) :=
  match p.next s.now s.client.active with
  | .step p active told => some ⟨s.withActive active, p, told.toList⟩
  | .call c =>
    let (reply, s) := s.call c
    some ⟨s, p.receive reply, []⟩
  | .sleep wake => some ⟨{ s with now := max s.now wake }, p, []⟩
  | .rest => none

/-- Steps until the poller is held or rests, for as long as there is fuel. -/
def advanceUntil (held : Poller → Bool) : Nat → Scene τ → Poller → Advance τ
  | 0, s, p => ⟨s, p, []⟩
  | fuel + 1, s, p =>
    if held p then ⟨s, p, []⟩
    else
      match s.advance p with
      | none => ⟨s, p, []⟩
      | some a =>
        let rest := advanceUntil held fuel a.scene a.poller
        { rest with told := a.told ++ rest.told }

/-- The fuel of a run: so many steps are made at most, calls and naps included. -/
def fuel : Nat := 1000000000

/-- When a run is stopped from outside. -/
inductive StopPoint where
  | never
  /-- While the `n + 1`-th status call is under way. -/
  | inCall (n : Nat)
  /-- Right after the `n + 1`-th progress was told. -/
  | afterProgress (n : Nat)
  deriving DecidableEq, Repr

/-- The poller right before a step, and the stop that is still to come. -/
def StopPoint.before (stop : StopPoint) (p : Poller) : Poller × StopPoint :=
  match stop, p.stage with
  | .inCall 0, .calling => (p.stop, .never)
  | .inCall (n + 1), .calling => (p, .inCall n)
  | _, _ => (p, stop)

/-- The poller after a step that told something. -/
def StopPoint.after (stop : StopPoint) (told : List DownloadEvent) (p : Poller) :
    Poller × StopPoint :=
  match stop, told with
  | .afterProgress 0, [.progress _ _] => (p.stop, .never)
  | .afterProgress (n + 1), [.progress _ _] => (p, .afterProgress n)
  | _, _ => (p, stop)

/-- Steps until the poller rests, with a stop on the way. -/
def runStopping : StopPoint → Nat → Scene τ → Poller → Advance τ
  | _, 0, s, p => ⟨s, p, []⟩
  | stop, fuel + 1, s, p =>
    let (p, stop) := stop.before p
    match s.advance p with
    | none => ⟨s, p, []⟩
    | some a =>
      let (p, stop) := stop.after a.told a.poller
      let rest := runStopping stop fuel a.scene p
      { rest with told := a.told ++ rest.told }

def start (s : Scene τ) (p : Poller) : Advance τ :=
  s.advanceUntil (fun _ => false) fuel p.requestStart

def run (s : Scene τ) (p : Poller) (stop : StopPoint) : Advance τ :=
  s.runStopping stop fuel p.requestRun

end Scene

end ModelDepot
