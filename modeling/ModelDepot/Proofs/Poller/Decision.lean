import ModelDepot.Download.Poller

/-! # Which results end a download

The result of a status call either decides the outcome, or carries a reading of the progress, or is
a glitch that is ridden out. `Decides` says which results decide and what; `Poller.verdict` agrees
with it.
-/

namespace ModelDepot

abbrev StatusResult := Except ClientError DownloadStatus

namespace StatusResult

/-- What the reply to a status call for a model comes to. -/
def ofReply (model : String) (reply : Reply) : StatusResult :=
  Client.accept (Payload.downloadStatus model) reply

/-- The result ends the download with an outcome. A status that says completed does so whatever
else it says. -/
inductive Decides : StatusResult → DownloadOutcome → Prop where
  | completed {status : DownloadStatus} :
      status.completed = true ∨ status.state = .completed →
      Decides (.ok status) (.completed status)
  | failed {status : DownloadStatus} : status.completed = false → status.state = .failed →
      Decides (.ok status) (.failed (.remote "backend reported status failed"))
  | timeout {status : DownloadStatus} : status.completed = false → status.state = .timeout →
      Decides (.ok status) (.failed (.remote "backend reported status timeout"))
  | remote {message : String} : Decides (.error (.remote message)) (.failed (.remote message))

def IsOpen (r : StatusResult) : Prop :=
  ∀ outcome, ¬ Decides r outcome

def reading? : StatusResult → Option Binary64
  | .ok status => some status.progress
  | .error _ => none

def isGlitch : StatusResult → Bool
  | .ok _ => false
  | .error e => e.isTransient

variable {r : StatusResult} {outcome : DownloadOutcome}

theorem verdict_of_decides (h : Decides r outcome) : Poller.verdict r = .decided outcome := by
  cases h with
  | @completed status h =>
      have said : (status.completed || status.state == .completed) = true := by simpa using h
      simp only [Poller.verdict, said, if_true]
  | failed hc hs => simp [Poller.verdict, hc, hs, DownloadState.word]
  | timeout hc hs => simp [Poller.verdict, hc, hs, DownloadState.word]
  | remote => rfl

theorem decides_or_open (r : StatusResult) :
    (∃ outcome, Decides r outcome) ∨
    (∃ value, r.reading? = some value ∧ Poller.verdict r = .progress value) ∨
    (r.isGlitch = true ∧ Poller.verdict r = .retry) := by
  cases r with
  | error e =>
      cases e with
      | remote message => exact .inl ⟨_, .remote⟩
      | request e | decode e => exact .inr (.inr ⟨rfl, rfl⟩)
  | ok status =>
      cases hc : status.completed
      · cases hs : status.state with
        | completed => exact .inl ⟨_, .completed (.inr hs)⟩
        | failed => exact .inl ⟨_, .failed hc hs⟩
        | timeout => exact .inl ⟨_, .timeout hc hs⟩
        | pending | downloading =>
            refine .inr (.inl ⟨status.progress, rfl, ?_⟩)
            simp [Poller.verdict, hc, hs]
      · exact .inl ⟨_, .completed (.inl hc)⟩

theorem verdict_eq_decided_iff : Poller.verdict r = .decided outcome ↔ Decides r outcome := by
  constructor
  · intro h
    rcases decides_or_open r with ⟨other, hd⟩ | ⟨_, _, hv⟩ | ⟨_, hv⟩
    · rw [verdict_of_decides hd] at h
      cases h
      exact hd
    all_goals
      rw [hv] at h
      cases h
  · exact verdict_of_decides

theorem reading?_of_verdict {value : Binary64} (h : Poller.verdict r = .progress value) :
    r.reading? = some value := by
  rcases decides_or_open r with ⟨_, hd⟩ | ⟨_, hr, hv⟩ | ⟨_, hv⟩
  · rw [verdict_of_decides hd] at h
    cases h
  · rw [hv] at h
    cases h
    exact hr
  · rw [hv] at h
    cases h

theorem isGlitch_of_verdict (h : Poller.verdict r = .retry) : r.isGlitch = true := by
  rcases decides_or_open r with ⟨_, hd⟩ | ⟨_, _, hv⟩ | ⟨hg, _⟩
  · rw [verdict_of_decides hd] at h
    cases h
  · rw [hv] at h
    cases h
  · exact hg

theorem Decides.unique {other : DownloadOutcome} (h : Decides r outcome) (h' : Decides r other) :
    outcome = other := by
  have same := (verdict_of_decides h).symm.trans (verdict_of_decides h')
  cases same
  rfl

theorem not_isGlitch_of_decides (h : Decides r outcome) : r.isGlitch = false := by
  cases h <;> rfl

end StatusResult

end ModelDepot
