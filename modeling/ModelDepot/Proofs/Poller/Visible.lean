import ModelDepot.Proofs.Poller.Standing

/-! # The state that handles see

The state of a poller agrees with the stage it is in, whatever has happened to it. So it goes
forward only: from idle over requested and polling to a terminal state, or there at once when the
start comes to nothing.
-/

namespace ModelDepot

/-- One state may come right after another. -/
inductive PollerState.Precedes : PollerState → PollerState → Prop where
  | requested : Precedes .idle .requested
  | polling : Precedes .requested .polling
  | settle (outcome) : Precedes .polling (.ofOutcome outcome)
  /-- The backend does not take the request. -/
  | rejected : Precedes .requested .failed
  /-- The name is held by someone else. -/
  | refused : Precedes .idle .failed
  /-- The poller was stopped before its start. -/
  | cancelled : Precedes .idle .cancelled

theorem PollerState.isTerminal_ofOutcome (outcome : DownloadOutcome) :
    (ofOutcome outcome).isTerminal = true := by
  cases outcome <;> rfl

theorem PollerState.Precedes.isTerminal_eq_false {s s' : PollerState} (h : Precedes s s') :
    s.isTerminal = false := by
  cases h <;> rfl

namespace Poller

variable {p p' : Poller}

@[simp] theorem setState_state (p : Poller) (state : PollerState) :
    (p.setState state).state = if p.state.isTerminal then p.state else state := by
  unfold setState
  split <;> rfl

/-- The state at the end of a start that has come to an outcome at once. -/
def IsCutShort (state : PollerState) (outcome : DownloadOutcome) : Prop :=
  state = .idle ∧ (outcome = .cancelled ∨ outcome = .failed .alreadyActive) ∨
  state = .requested ∧ ∃ message, outcome = .failed (.rejected message)

/-- The state is the one that belongs to the stage. -/
def StateFits (p : Poller) : Prop :=
  match p.stage with
  | .idle | .entering | .claiming | .claimed => p.state = .idle
  | .requesting | .answered _ => p.state = .requested
  | .looking | .timing | .beginning | .calling | .received _ | .accepted _ | .tiring | .napping _ =>
    p.state = .polling
  | .concluding .starting outcome => IsCutShort p.state outcome
  | .concluding .running outcome => p.state = .polling ∨ p.state = .ofOutcome outcome
  | .releasing _ outcome | .recording _ outcome | .reporting outcome =>
    p.state = .ofOutcome outcome
  | .started | .ended => p.state = p.outcome.elim .polling .ofOutcome

theorem stateFits_new (model : String) (config : PollerConfig) : (new model config).StateFits := rfl

theorem state_setState_of_isCutShort {outcome : DownloadOutcome}
    (h : IsCutShort p.state outcome) :
    (p.setState (.ofOutcome outcome)).state = .ofOutcome outcome := by
  rcases h with ⟨hs, -⟩ | ⟨hs, -⟩ <;> simp [hs, PollerState.isTerminal]

theorem state_setState_of_running {outcome : DownloadOutcome}
    (h : p.state = .polling ∨ p.state = .ofOutcome outcome) :
    (p.setState (.ofOutcome outcome)).state = .ofOutcome outcome := by
  rcases h with hs | hs
  · simp [hs, PollerState.isTerminal]
  · simp [hs, PollerState.isTerminal_ofOutcome]

theorem StateFits.changes (sound : p.Sound) (h : p.StateFits) (hc : p.Changes p') :
    p'.StateFits := by
  have ho := sound.outcome
  cases hc with
  | none | run | halt => exact h
  | start hs | startRun hs | startAnswered _ hs | statusAnswered _ hs => simp_all [StateFits]
  | move hm =>
      cases hm with
      | @conclude activity outcome hs =>
          cases activity with
          | starting =>
              simp only [StateFits, hs] at h
              exact state_setState_of_isCutShort h
          | running =>
              simp only [StateFits, hs] at h
              exact state_setState_of_running h
      | request hs | acknowledged hs => simp_all [StateFits, PollerState.isTerminal, OutcomeFits]
      | _ => simp_all [StateFits, IsCutShort, OutcomeFits]

theorem state_changes (h : p.StateFits) (hc : p.Changes p') :
    p'.state = p.state ∨ p.state.Precedes p'.state := by
  cases hc with
  | none | run | halt | start _ | startRun _ | startAnswered _ _ | statusAnswered _ _ =>
      exact .inl rfl
  | move hm =>
      cases hm with
      | request hs =>
          have idle : p.state = .idle := by simpa only [StateFits, hs] using h
          refine .inr ?_
          simp only [setState_state, idle]
          exact .requested
      | acknowledged hs =>
          have requested : p.state = .requested := by simpa only [StateFits, hs] using h
          refine .inr ?_
          simp only [setState_state, requested]
          exact .polling
      | @conclude activity outcome hs =>
          cases activity with
          | starting =>
              have short : IsCutShort p.state outcome := by simpa only [StateFits, hs] using h
              refine .inr ?_
              simp only [state_setState_of_isCutShort short]
              rcases short with ⟨state, rfl | rfl⟩ | ⟨state, _, rfl⟩ <;> rw [state]
              · exact .cancelled
              · exact .refused
              · exact .rejected
          | running =>
              have running : p.state = .polling ∨ p.state = .ofOutcome outcome := by
                simpa only [StateFits, hs] using h
              simp only [state_setState_of_running running]
              rcases running with polling | settled
              · rw [polling]
                exact .inr (.settle outcome)
              · exact .inl settled.symm
      | _ => exact .inl rfl

end Poller

end ModelDepot
