import ModelDepot.Proofs.Poller.Reading

/-! # The progress cell

What the handles of a poller see is the value it has told last, until it completes; then they see
what the completed status says. A poller that has ended leaves the cell alone.
-/

namespace ModelDepot

namespace Poller

variable {p p' : Poller} {now : Nat} {active active' : ActiveDownloads}
  {told : Option DownloadEvent}

def lastTold (p : Poller) : Binary64 :=
  p.told.head?.getD .zero

/-- What handles see of a poller that has told `last` last, once its outcome may be known. -/
def seenAt (last : Binary64) : Option DownloadOutcome → Binary64
  | some (.completed status) => status.progress
  | _ => last

def CellFits (p : Poller) : Prop :=
  p.progress.get = seenAt p.lastTold p.known

theorem cellFits_new (model : String) (config : PollerConfig) : (new model config).CellFits := rfl

theorem CellFits.changes (sound : p.Sound) (h : p.CellFits) (hc : p.Changes p') :
    p'.CellFits := by
  have ho := sound.outcome
  cases hc with
  | none | run | halt => exact h
  | start hs | startRun hs | startAnswered _ hs | statusAnswered _ hs =>
      simp_all [CellFits, lastTold, known, Stage.pending?]
  | move hm =>
      cases hm with
      | @decide _ outcome hs =>
          have unknown : p.known = none := by simp_all [OutcomeFits, known, Stage.pending?]
          rw [CellFits, unknown] at h
          cases outcome <;> simp_all [CellFits, lastTold, known, Stage.pending?, seenAt, progressAt]
      | _ => simp_all [CellFits, lastTold, known, Stage.pending?, OutcomeFits, seenAt]

theorem changes_of_ended (hc : p.Changes p') (ended : p.stage = .ended) :
    p'.stage = .ended ∧ p'.outcome = p.outcome ∧ p'.progress = p.progress ∧ p'.told = p.told := by
  cases hc with
  | none | run | halt => exact ⟨ended, rfl, rfl, rfl⟩
  | start hs | startRun hs | startAnswered _ hs | statusAnswered _ hs => simp [ended] at hs
  | move hm => cases hm <;> simp_all

theorem known_of_ended (ended : p.stage = .ended) : p.known = p.outcome := by
  simp [known, ended, Stage.pending?]

end Poller

end ModelDepot
