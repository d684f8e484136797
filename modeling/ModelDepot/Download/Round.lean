import ModelDepot.Download.Batch

/-!
# Batches in real time

A program in real time turns to all members of a batch again and again. In such a round each of
them takes the reply that has come for it and goes on for as long as it takes no time. What is left
to the program is to make the calls that the members ask for, and to come back.
-/

namespace ModelDepot

namespace Poller

/-- What a poller does at one instant, and the names that are held after it. -/
structure Stride where
  poller : Poller
  active : ActiveDownloads
  told : List DownloadEvent

/-- More steps than this never follow each other at one instant. -/
def longestStride : Nat := 13

/-- Steps at one instant until the poller makes a call, naps or rests, for as long as there is
fuel. -/
def stride (now : Nat) : Nat → ActiveDownloads → Poller → Stride
  | 0, active, p => ⟨p, active, []⟩
  | fuel + 1, active, p =>
    match p.next now active with
    | .step p active told =>
      let rest := stride now fuel active p
      { rest with told := told.toList ++ rest.told }
    | _ => ⟨p, active, []⟩

end Poller

namespace Batch

/-- How it stands with the call of a member. -/
inductive Line where
  /-- No call is under way. -/
  | free
  | underWay
  | answered (reply : Reply)

def Line.isUnderWay (l : Line) : Bool :=
  l matches .underWay

/-- A batch in a round, after some of its members have had their turn. -/
structure Round where
  batch : Batch
  /-- The names that are held. -/
  active : ActiveDownloads
  told : List BatchEvent
  /-- The calls that are to be made, each with the place of its member. -/
  calls : List (Nat × Call)
  /-- Some member has more to do. -/
  isWorking : Bool

namespace Round

def start (b : Batch) (active : ActiveDownloads) : Round :=
  ⟨b, active, [], [], false⟩

/-- Lets the poller in place `i`, now `p`, go on, and hears what it tells. -/
def letGoOn (now : Nat) (r : Round) (i : Nat) (p : Poller) : Round :=
  let moved := p.stride now Poller.longestStride r.active
  let (batch, told) :=
    hearAll { r.batch with pollers := r.batch.pollers.set i moved.poller } i moved.told
  let next := moved.poller.next now moved.active
  { batch
    active := moved.active
    told := r.told ++ told
    calls := match next with
      | .call c => r.calls ++ [(i, c)]
      | _ => r.calls
    isWorking := r.isWorking || !(next matches .rest) }

/-- Turns to the member in place `i`. One whose call is under way has to wait. -/
def turnTo (now : Nat) (r : Round) (turn : Line × Nat) : Round :=
  let (line, i) := turn
  match r.batch.pollers[i]?, line with
  | none, _ => r
  | some _, .underWay => { r with isWorking := true }
  | some p, .free => r.letGoOn now i p
  | some p, .answered reply => r.letGoOn now i (p.receive reply)

end Round

/-- One round of a batch at an instant, given the names that are held and how it stands with the
call of each member. -/
def round (b : Batch) (now : Nat) (active : ActiveDownloads) (lines : List Line) : Round :=
  lines.zipIdx.foldl (Round.turnTo now) (.start b active)

end Batch

end ModelDepot
