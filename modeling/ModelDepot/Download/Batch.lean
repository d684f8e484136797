import ModelDepot.Download.Run

/-!
# Batches

A batch downloads several models side by side: every member is started in turn, then all of them
poll. The tally hears what the members tell, in whatever order they come to speak, and makes of it
the events of the batch and its report.
-/

namespace ModelDepot

namespace Batch

/-- Which models a batch is for. -/
inductive Selection where
  | names (names : List String)
  /-- The recommended models of a listing made for the batch. -/
  | recommended
  deriving DecidableEq, Repr

/-- Adds a name, trimmed, unless it is blank or there already. -/
def addMember (members : List String) (name : String) : List String :=
  let name := Text.trim name
  if name.isEmpty || members.contains name then members else members ++ [name]

/-- The members that names make: trimmed, none blank, each at its first place. -/
def membersOf (names : List String) : List String :=
  names.foldl addMember []

/-- The members of a batch; there must be one. -/
def settle (names : List String) : Except BatchError (List String) :=
  let members := membersOf names
  if members.isEmpty then .error .empty else .ok members

/-- The members that a listing made for a batch gives it: its recommended models. -/
def choose : Except ClientError (List Model) → Except BatchError (List String)
  | .ok models => settle ((models.filter (·.recommended)).map (·.name))
  | .error e => .error (.listing e)

/-- Plans a batch. Names given are taken as they are; recommended ones need a listing. -/
def plan (client : Client) : Selection → Dialogue (Except BatchError (List String) × Client)
  | .names names => .done (settle names, client)
  | .recommended => do
    let (listing, client) ← client.listModels
    return (choose listing, client)

/-- The mean of percentages, summed from the left; zero when there are none. -/
def mean (values : List Binary64) : Binary64 :=
  if values.isEmpty then .zero
  else (values.foldl Binary64.add .zero).div (.ofNat values.length)

/-- What a member tells, as it comes to the batch: the place of the member, the progress that its
handle shows at that time, and the event. -/
structure Arrival where
  member : Nat
  reading : Binary64
  event : DownloadEvent

/-- What a batch has heard of its members. -/
structure Tally where
  /-- The progress last told for each member. -/
  latest : List Binary64
  outcomes : List (Option DownloadOutcome)
  /-- The members whose outcome is still to come. -/
  remaining : Nat
  deriving DecidableEq, Repr

namespace Tally

def start (n : Nat) : Tally :=
  ⟨List.replicate n .zero, List.replicate n none, n⟩

/-- Notes a progress and tells it with the new mean. -/
def note (t : Tally) (i : Nat) (model : String) (value : Binary64) : Tally × BatchEvent :=
  let latest := t.latest.set i value
  ({ t with latest }, .progress model value (mean latest))

/-- Hears what member `i` tells; `reading` is the progress its handle shows. A member that ends
with a progress it never told has it told now. -/
def hear (t : Tally) (i : Nat) (reading : Binary64) : DownloadEvent → Tally × List BatchEvent
  | .progress model value =>
    let (t, event) := t.note i model value
    (t, [event])
  | .finished model outcome =>
    let (t, caughtUp) :=
      if reading.eqNumber ((t.latest[i]?).getD .zero) then (t, [])
      else
        let (t, event) := t.note i model reading
        (t, [event])
    let remaining :=
      if ((t.outcomes[i]?).getD none).isNone then t.remaining - 1 else t.remaining
    ({ t with outcomes := t.outcomes.set i (some outcome), remaining },
      caughtUp ++ [.memberFinished model outcome])

/-- Hears what arrives, for as long as a member is still to end. -/
def attend (t : Tally) : List Arrival → Tally × List BatchEvent
  | [] => (t, [])
  | a :: rest =>
    if t.remaining = 0 then (t, [])
    else
      let (t, told) := t.hear a.member a.reading a.event
      let (t, later) := t.attend rest
      (t, told ++ later)

/-- The outcome of a member that was never heard to end. -/
def unheard : DownloadOutcome :=
  .failed (.remote "download task ended without a result")

def report (t : Tally) (members : List String) : BatchReport :=
  ⟨(members.zip t.outcomes).map fun (model, outcome) => ⟨model, outcome.getD unheard⟩⟩

end Tally

/-- Follows the members to their end: what the batch makes of all that arrives, and the report. -/
def drive (members : List String) (arrivals : List Arrival) : BatchReport × List BatchEvent :=
  let (t, told) := (Tally.start members.length).attend arrivals
  (t.report members, told ++ [.finished (t.report members)])

end Batch

structure Batch where
  pollers : List Poller
  tally : Batch.Tally

namespace Batch

variable {τ : Type} [Transport τ]

def members (b : Batch) : List String :=
  b.pollers.map (·.model)

def overallProgress (b : Batch) : Binary64 :=
  mean (b.pollers.map (·.progress.get))

/-- The report, as far as members have ended. -/
def report (b : Batch) : BatchReport :=
  b.tally.report b.members

def stop (b : Batch) : Batch :=
  { b with pollers := b.pollers.map Poller.stop }

structure Advance (τ : Type) where
  scene : Scene τ
  batch : Batch
  told : List BatchEvent

def startAll (s : Scene τ) : List Poller → Scene τ × List Poller
  | [] => (s, [])
  | p :: rest =>
    let a := s.start p
    let (s, rest) := startAll a.scene rest
    (s, a.poller.requestRun :: rest)

def start (s : Scene τ) (members : List String) (config : PollerConfig) : Scene τ × Batch :=
  let (s, pollers) := startAll s (members.map fun model => .new model config)
  (s, ⟨pollers, .start pollers.length⟩)

/-- Hears what member `i` has told. The last word on the last member is followed by the report. -/
def hearAll (b : Batch) (i : Nat) (events : List DownloadEvent) : Batch × List BatchEvent :=
  let reading := ((b.pollers[i]?).map (·.progress.get)).getD .zero
  let (tally, told) := b.tally.attend (events.map fun event => ⟨i, reading, event⟩)
  let isLast := b.tally.remaining ≠ 0 ∧ tally.remaining = 0
  ({ b with tally }, told ++ if isLast then [.finished (tally.report b.members)] else [])

/-- Lets member `i` go on until it is held or rests. -/
def advanceMember (held : Poller → Bool) (a : Advance τ) (i : Nat) : Advance τ :=
  match a.batch.pollers[i]? with
  | none => a
  | some p =>
    let moved := a.scene.advanceUntil held Scene.fuel p
    let (b, told) :=
      hearAll { a.batch with pollers := a.batch.pollers.set i moved.poller } i moved.told
    ⟨moved.scene, b, a.told ++ told⟩

/-- Lets every member go on in turn, each from the same instant: members pass their time side by
side. -/
def advanceAll (held : Poller → Bool) (s : Scene τ) (b : Batch) : Advance τ :=
  (List.range b.pollers.length).foldl
    (fun a i =>
      let moved := advanceMember held { a with scene := { a.scene with now := s.now } } i
      { moved with scene := { moved.scene with now := max a.scene.now moved.scene.now } })
    ⟨s, b, []⟩

def run (s : Scene τ) (b : Batch) : Advance τ :=
  advanceAll (fun _ => false) s b

end Batch

end ModelDepot
