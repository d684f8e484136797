import ModelDepot.Proofs.Poller.Settling
import ModelDepot.Proofs.Poller.Stopping

/-! # Behind the start

Once its start is over a poller makes status calls only, and whether its start has failed is settled
for good.
-/

namespace ModelDepot

def Stage.isLaunched : Stage → Bool
  | .started => true
  | s => !s.isEarly

def DownloadOutcome.failsStart : DownloadOutcome → Bool
  | .failed .alreadyActive | .failed (.rejected _) => true
  | _ => false

theorem StatusResult.Decides.failsStart_eq {r : StatusResult} {outcome : DownloadOutcome}
    (h : r.Decides outcome) : outcome.failsStart = false := by
  cases h <;> rfl

namespace Poller

variable {p p' : Poller} {outcome : DownloadOutcome}

def StartFailed (p : Poller) : Prop :=
  p.known.any DownloadOutcome.failsStart = true

theorem startFailed_iff :
    p.StartFailed ↔ ∃ outcome, p.known = some outcome ∧ outcome.failsStart = true := by
  rw [StartFailed, Option.any_eq_true]

theorem launched_changes (hc : p.Changes p') (launched : p.stage.isLaunched = true) :
    p'.stage.isLaunched = true := by
  cases hc with
  | none | run | halt => exact launched
  | start hs | startRun hs | startAnswered _ hs =>
      simp [hs, Stage.isLaunched, Stage.isEarly] at launched
  | statusAnswered _ hs => rfl
  | move hm =>
      cases hm with
      | @conclude activity _ hs | @release activity _ hs =>
          cases activity <;> simp_all [Stage.isLaunched, Stage.isEarly]
      | _ => simp_all [Stage.isLaunched, Stage.isEarly]

/-- Behind the start no outcome of a failed start comes up, and none goes away. -/
theorem known_iff_of_launched (sound : p.Sound) (launched : p.stage.isLaunched = true)
    (hc : p.Changes p') (fails : outcome.failsStart = true) :
    p'.known = some outcome ↔ p.known = some outcome := by
  constructor
  · intro hk
    cases before : p.known with
    | some other => rw [← known_changes sound hc before, hk]
    | none =>
        cases settles_of_known sound hc before hk with
        | cancelled | timedOut => simp [DownloadOutcome.failsStart] at fails
        | decided _ hd => simp [hd.failsStart_eq] at fails
        | alreadyActive hs | rejected hs => simp [hs, Stage.isLaunched, Stage.isEarly] at launched
  · exact known_changes sound hc

theorem startFailed_changes (sound : p.Sound) (launched : p.stage.isLaunched = true)
    (hc : p.Changes p') : p'.StartFailed ↔ p.StartFailed := by
  rw [startFailed_iff, startFailed_iff]
  refine exists_congr fun outcome => and_congr_left fun fails => ?_
  exact known_iff_of_launched sound launched hc fails

theorem known_of_call (sound : p.Sound) {c : Call} (hc : p.call? = some c) : p.known = none := by
  have ho := sound.outcome
  cases hs : p.stage <;> simp_all [call?, OutcomeFits, known, Stage.pending?]

theorem call_of_launched (launched : p.stage.isLaunched = true) {c : Call}
    (hc : p.call? = some c) : c = .downloadStatus p.model := by
  cases hs : p.stage <;> simp_all [call?, Stage.isLaunched, Stage.isEarly]

/-- A poller whose start the backend has not taken, or is about to refuse. -/
def Rejects (p : Poller) (e : ClientError) : Prop :=
  p.stage = .answered (.error e) ∨ p.known = some (.failed (.rejected (rejection e)))

theorem Rejects.changes {e : ClientError} (h : p.Rejects e) (sound : p.Sound)
    (hc : p.Changes p') : p'.Rejects e := by
  rcases h with answered | hk
  · cases hc with
    | none | run | halt => exact .inl answered
    | start hs | startRun hs | startAnswered _ hs | statusAnswered _ hs => simp [answered] at hs
    | move hm => cases hm <;> simp_all [Rejects, known, Stage.pending?]
  · exact .inr (known_changes sound hc hk)

def Accepted (p : Poller) : Prop :=
  (∃ ack, p.stage = .answered (.ok ack)) ∨ p.stage.isLaunched = true ∧ ¬ p.StartFailed

theorem Accepted.changes (h : p.Accepted) (sound : p.Sound) (hc : p.Changes p') : p'.Accepted := by
  rcases h with ⟨ack, answered⟩ | ⟨launched, taken⟩
  · have ho := sound.outcome
    cases hc with
    | none | run | halt => exact .inl ⟨ack, answered⟩
    | start hs | startRun hs | startAnswered _ hs | statusAnswered _ hs => simp [answered] at hs
    | move hm =>
        cases hm with
        | acknowledged hs =>
            refine .inr ⟨rfl, ?_⟩
            simp_all [StartFailed, known, Stage.pending?, OutcomeFits]
        | _ => simp_all
  · exact .inr ⟨launched_changes hc launched, mt (startFailed_changes sound launched hc).1 taken⟩

theorem stage_receive_start (hc : p.call? = some (.startDownload p.model)) (reply : Reply) :
    (p.receive reply).stage = .answered (Client.accept Client.decodeStart reply) := by
  cases hs : p.stage <;> simp_all [call?, receive]

end Poller

/-! ## Asking for the status -/

namespace Stage

/-- The poller has asked for the status in this round. -/
def hasAsked : Stage → Bool
  | .calling | .received _ | .accepted _ | .tiring | .napping _ => true
  | _ => false

/-- The steps to the status call of a round that has not come to it. -/
def toPoll : Stage → Nat
  | .started => 4
  | .looking => 3
  | .timing => 2
  | .beginning => 1
  | _ => 0

theorem toPoll_le (s : Stage) : s.toPoll ≤ 4 := by
  cases s <;> simp [toPoll]

end Stage

/-- The outcome is the answer to a status call. -/
def DownloadOutcome.isAnswer : DownloadOutcome → Bool
  | .completed _ | .failed (.remote _) => true
  | _ => false

namespace Poller

variable {p p' : Poller} {now : Nat} {active : ActiveDownloads}

/-- What the poller does or knows comes of a status call. -/
def HasAsked (p : Poller) : Prop :=
  p.stage.hasAsked = true ∨ p.known.any DownloadOutcome.isAnswer = true

theorem hasAsked_of_changes (sound : p.Sound) (hc : p.Changes p') (h : p'.HasAsked) :
    p.HasAsked ∨ p.stage = .beginning ∧ p'.stage = .calling := by
  rcases h with asked | answer
  · cases hc with
    | none | run | halt => exact .inl (.inl asked)
    | start hs | startRun hs | startAnswered _ hs => simp [Stage.hasAsked] at asked
    | statusAnswered _ hs => exact .inl (.inl (by rw [hs]; rfl))
    | move hm => cases hm <;> simp_all [HasAsked, Stage.hasAsked]
  · obtain ⟨outcome, hk, isAnswer⟩ := Option.any_eq_true _ _ |>.1 answer
    cases before : p.known with
    | some other =>
        obtain rfl := Option.some.inj ((known_changes sound hc before).symm.trans hk)
        exact .inl (.inr (by simp [before, isAnswer]))
    | none =>
        cases settles_of_known sound hc before hk with
        | decided hs _ => exact .inl (.inl (by rw [hs]; rfl))
        | cancelled | timedOut | alreadyActive _ _ | rejected _ _ =>
            simp [DownloadOutcome.isAnswer] at isAnswer

theorem call?_of_toPoll (ahead : 0 < p.stage.toPoll) : p.call? = none := by
  cases hs : p.stage <;> simp_all [call?, Stage.toPoll]

theorem not_hasAsked_of_toPoll (ahead : 0 < p.stage.toPoll) (unknown : p.known = none) :
    ¬ p.HasAsked := by
  rintro (asked | answer)
  · cases hs : p.stage <;> simp_all [Stage.hasAsked, Stage.toPoll]
  · simp [unknown] at answer

theorem toPoll_go (runs : p.isRunning = true) (unknown : p.known = none)
    (ahead : 0 < p.stage.toPoll) (now : Nat) (active : ActiveDownloads) :
    (p.go now active).known.isSome = true ∨ (p.go now active).stage = .calling ∨
      (0 < (p.go now active).stage.toPoll ∧
        (p.go now active).stage.toPoll < p.stage.toPoll) := by
  rcases next_cases p now active with ⟨p', active', told, hm⟩ | ⟨c, hc, -⟩ | ⟨wake, hs, -⟩ | ⟨hr, -⟩
  · rw [go_of_moves hm]
    cases hm <;> simp_all [Stage.toPoll, known, Stage.pending?]
  · cases hs : p.stage <;> simp_all [call?, Stage.toPoll]
  · simp [hs, Stage.toPoll] at ahead
  · rcases hr with hs | hs | ⟨-, waits⟩
    · simp [hs, Stage.toPoll] at ahead
    · simp [hs, Stage.toPoll] at ahead
    · rw [runs] at waits
      cases waits

/-- Behind the start a poller knows its outcome, comes to a status call or comes of one. -/
theorem cases_of_launched (sound : p.Sound) (launched : p.stage.isLaunched = true) :
    p.known.isSome = true ∨ 0 < p.stage.toPoll ∨ p.HasAsked := by
  have ho := sound.outcome
  cases hs : p.stage <;>
    simp_all [known, Stage.pending?, OutcomeFits, Stage.toPoll, HasAsked, Stage.hasAsked,
      Stage.isLaunched, Stage.isEarly]

/-! ## To the end -/

theorem toEnd_le_of_launched (sound : p.Sound) (launched : p.stage.isLaunched = true)
    (hk : p.known.isSome = true) : p.stage.toEnd ≤ 6 := by
  have ho := sound.outcome
  cases hs : p.stage with
  | concluding activity _ | releasing activity _ | recording activity _ =>
      cases activity <;> simp_all [Stage.toEnd, Stage.isLaunched, Stage.isEarly]
  | _ =>
      simp_all [Stage.toEnd, known, Stage.pending?, OutcomeFits, Stage.isLaunched, Stage.isEarly]

theorem toEnd_go (sound : p.Sound) (underway : p.Underway) (hk : p.known.isSome = true)
    (now : Nat) (active : ActiveDownloads) :
    (p.go now active).stage.toEnd < p.stage.toEnd ∨ p.stage = .ended := by
  have ho := sound.outcome
  rcases next_cases p now active with ⟨p', active', told, hm⟩ | ⟨c, hc, -⟩ | ⟨wake, hs, -⟩ | ⟨hr, -⟩
  · rw [go_of_moves hm]
    exact .inl (toEnd_moves sound (.inr hk) hm)
  · simp [known_of_call sound hc] at hk
  · simp_all [known, Stage.pending?, OutcomeFits]
  · rcases hr with hs | hs | ⟨-, waits⟩
    · exact absurd hs underway.2
    · exact .inr hs
    · rw [underway.1] at waits
      cases waits

end Poller

end ModelDepot
