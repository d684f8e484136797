import ModelDepot.Proofs.Poller.Decision
import ModelDepot.Proofs.Poller.Standing

/-! # How an outcome becomes known

There are five ways: a closed gate is noticed, the deadline is found to have come, a reply that
counts decides, or the start fails, for the name is held or the backend refuses. What a poller has
come to at some time it was brought to by one of the acts before.
-/

namespace ModelDepot

namespace Poller

/-- The ways in which an act makes an outcome known. -/
inductive Settles (p p' : Poller) : DownloadOutcome → Prop where
  | cancelled : p.gate = .stopped → Settles p p' .cancelled
  | timedOut {last} : p.stage = .timing →
      p'.stage = .concluding .running (.timedOut p.config.timeout last) →
      Settles p p' (.timedOut p.config.timeout last)
  | decided {r outcome} : p.stage = .accepted r → StatusResult.Decides r outcome →
      Settles p p' outcome
  | alreadyActive : p.stage = .claiming →
      p'.stage = .concluding .starting (.failed .alreadyActive) →
      Settles p p' (.failed .alreadyActive)
  | rejected {e} : p.stage = .answered (.error e) →
      p'.stage = .concluding .starting (.failed (.rejected (rejection e))) →
      Settles p p' (.failed (.rejected (rejection e)))

variable {p p' : Poller} {outcome : DownloadOutcome}

theorem settles_of_known (sound : p.Sound) (hc : p.Changes p') (unknown : p.known = none)
    (hk : p'.known = some outcome) : p.Settles p' outcome := by
  have hg := sound.gate
  cases hc with
  | none | run | halt =>
      have same : p.known = some outcome := hk
      rw [unknown] at same
      cases same
  | start hs | startRun hs | startAnswered _ hs | statusAnswered _ hs =>
      simp_all [known, Stage.pending?]
  | move hm =>
      cases hm with
      | enterStopped hs hstop | lookStopped hs hstop =>
          obtain rfl : .cancelled = outcome := by simpa [known, Stage.pending?] using hk
          exact .cancelled (PollGate.isStopped_iff.1 hstop)
      | beginRefused hs hne =>
          obtain rfl : .cancelled = outcome := by simpa [known, Stage.pending?] using hk
          refine .cancelled ?_
          cases hp : p.gate <;> simp_all [GateFits]
      | discard hs hne =>
          obtain rfl : .cancelled = outcome := by simpa [known, Stage.pending?] using hk
          refine .cancelled ?_
          cases hp : p.gate <;> simp_all [GateFits]
      | refused hs =>
          obtain rfl : .failed .alreadyActive = outcome := by simpa [known, Stage.pending?] using hk
          exact .alreadyActive hs rfl
      | rejected hs =>
          obtain rfl : .failed (.rejected (rejection _)) = outcome := by
            simpa [known, Stage.pending?] using hk
          exact .rejected hs rfl
      | expire hs =>
          obtain rfl : .timedOut p.config.timeout p.told.head? = outcome := by
            simpa [known, Stage.pending?] using hk
          exact .timedOut hs rfl
      | @decide r o hs hv =>
          obtain rfl : o = outcome := by simpa [known, Stage.pending?] using hk
          exact .decided hs (StatusResult.verdict_eq_decided_iff.1 hv)
      | _ => simp_all [known, Stage.pending?]

end Poller

/-- A reply counts: the gate says that no stop has come in between. -/
def Passage.Accepts (t : Passage) (r : StatusResult) : Prop :=
  t.was.stage = .received r ∧ t.was.gate = .inFlight ∧ t.now.stage = .accepted r

def Passage.Expires (t : Passage) (outcome : DownloadOutcome) : Prop :=
  t.was.stage = .timing ∧ (∃ last, outcome = .timedOut t.was.config.timeout last) ∧
    t.now.stage = .concluding .running outcome

/-- The start fails: the name is held, or the backend does not take the request. -/
def Passage.FailsToStart (t : Passage) (outcome : DownloadOutcome) : Prop :=
  (t.was.stage = .claiming ∧ outcome = .failed .alreadyActive ∨
    ∃ e, t.was.stage = .answered (.error e) ∧
      outcome = .failed (.rejected (Poller.rejection e))) ∧
  t.now.stage = .concluding .starting outcome

namespace Life

variable {l : Life} {acts : List Act} {t : Passage} {outcome : DownloadOutcome}

theorem changes_of_mem (h : t ∈ l.passages acts) : t.was.Changes t.now := by
  obtain ⟨before, a, later, -, rfl⟩ := mem_passages_iff.1 h
  exact changes_after _ a

theorem was_of_changes {P : Poller → Prop}
    (kept : ∀ {p p'}, Poller.Changes p p' → P p → P p') (h : P l.poller)
    (ht : t ∈ l.passages acts) : P t.was := by
  obtain ⟨before, a, later, -, rfl⟩ := mem_passages_iff.1 ht
  exact afterAll_of_changes kept h before

theorem sound_was (sound : l.poller.Sound) (ht : t ∈ l.passages acts) : t.was.Sound :=
  was_of_changes (fun hc hs => hs.changes hc) sound ht

theorem exists_entry {P : Poller → Prop} (absent : ¬ P l.poller)
    (present : P (l.afterAll acts).poller) :
    ∃ t ∈ l.passages acts, ¬ P t.was ∧ P t.now := by
  induction acts generalizing l with
  | nil => exact absurd present absent
  | cons a acts ih =>
      by_cases now : P (l.after a).poller
      · exact ⟨l.passage a, List.mem_cons_self, absent, now⟩
      · obtain ⟨t, ht, entry⟩ := ih now present
        exact ⟨t, List.mem_cons_of_mem _ ht, entry⟩

theorem exists_settles (sound : l.poller.Sound) (unknown : l.poller.known = none)
    (hk : (l.afterAll acts).poller.known = some outcome) :
    ∃ t ∈ l.passages acts, t.was.Settles t.now outcome := by
  obtain ⟨t, ht, absent, present⟩ := exists_entry (P := fun p => p.known = some outcome)
    (by simp [unknown]) hk
  have hc := changes_of_mem ht
  have wasSound := sound_was sound ht
  refine ⟨t, ht, Poller.settles_of_known wasSound hc ?_ present⟩
  cases hw : t.was.known with
  | none => rfl
  | some other =>
      have final := Poller.known_changes wasSound hc hw
      rw [present] at final
      cases final
      exact absurd hw absent

theorem exists_accepts {r : StatusResult} (h : ∀ r, l.poller.stage ≠ .accepted r)
    (hs : (l.afterAll acts).poller.stage = .accepted r) :
    ∃ t ∈ l.passages acts, t.Accepts r := by
  obtain ⟨t, ht, absent, present⟩ := exists_entry (P := fun p => p.stage = .accepted r) (h r) hs
  refine ⟨t, ht, ?_⟩
  generalize hw : t.now = now at present
  have hc := changes_of_mem ht
  rw [hw] at hc
  cases hc with
  | none | run | halt => exact absurd present absent
  | start hs | startRun hs | startAnswered _ hs | statusAnswered _ hs => cases present
  | move hm =>
      cases hm with
      | finish hs hg =>
          cases present
          exact ⟨hs, hg, by rw [hw]⟩
      | _ => simp_all

end Life

end ModelDepot
