import ModelDepot.Proofs.Poller.Life

/-! # What is true of a poller at every moment

The gate, the noted outcome and the name a poller holds agree with the stage it is in, whatever has
happened to it. An outcome that is known once stays the outcome.
-/

namespace ModelDepot

namespace Stage

/-- A status call is in flight: the gate has let it in and has not been asked to end it. -/
def isInFlight : Stage → Bool
  | .calling | .received _ => true
  | _ => false

/-- The outcome on its way from its decision to the last event. -/
def pending? : Stage → Option DownloadOutcome
  | .concluding _ outcome | .releasing _ outcome | .recording _ outcome | .reporting outcome =>
    some outcome
  | _ => none

def isEarly : Stage → Bool
  | .idle | .entering | .claiming | .claimed | .requesting | .answered _ | .started => true
  | .concluding .starting _ | .releasing .starting _ | .recording .starting _ => true
  | _ => false

end Stage

namespace Poller

variable {p p' : Poller} {now : Nat} {active : ActiveDownloads} {outcome : DownloadOutcome}

section Setters

variable (p : Poller) (state : PollerState)

@[simp] theorem setState_model : (p.setState state).model = p.model := by
  unfold setState; split <;> rfl

@[simp] theorem setState_config : (p.setState state).config = p.config := by
  unfold setState; split <;> rfl

@[simp] theorem setState_gate : (p.setState state).gate = p.gate := by
  unfold setState; split <;> rfl

@[simp] theorem setState_progress : (p.setState state).progress = p.progress := by
  unfold setState; split <;> rfl

@[simp] theorem setState_isRunning : (p.setState state).isRunning = p.isRunning := by
  unfold setState; split <;> rfl

@[simp] theorem setState_startedAt : (p.setState state).startedAt = p.startedAt := by
  unfold setState; split <;> rfl

@[simp] theorem setState_holdsName : (p.setState state).holdsName = p.holdsName := by
  unfold setState; split <;> rfl

@[simp] theorem setState_outcome : (p.setState state).outcome = p.outcome := by
  unfold setState; split <;> rfl

@[simp] theorem setState_told : (p.setState state).told = p.told := by
  unfold setState; split <;> rfl

@[simp] theorem halt_gate : p.halt.gate = .stopped := rfl

end Setters

/-- The outcome, from the moment on at which it is decided. -/
def known (p : Poller) : Option DownloadOutcome :=
  p.stage.pending?.or p.outcome

/-- The gate is in flight for no stage but those of a call in flight, and idle for none of them. -/
def GateFits (p : Poller) : Prop :=
  match p.stage with
  | .calling | .received _ => p.gate ≠ .idle
  | _ => p.gate ≠ .inFlight

/-- An outcome is noted between start and run, if the start has brought one, and at the end. -/
def OutcomeFits (p : Poller) : Prop :=
  match p.stage with
  | .started => True
  | .reporting outcome => p.outcome = some outcome
  | .ended => p.outcome.isSome = true
  | _ => p.outcome = none

/-- The name is held from the claim on until the outcome, and by nobody who has noted one. -/
def NameFits (p : Poller) : Prop :=
  match p.stage with
  | .idle | .entering | .claiming | .recording _ _ | .reporting _ | .ended => p.holdsName = false
  | .started => p.holdsName = p.outcome.isNone
  | .concluding _ _ | .releasing _ _ => True
  | _ => p.holdsName = true

/-- What is true of a poller at every moment. -/
structure Sound (p : Poller) : Prop where
  gate : p.GateFits
  outcome : p.OutcomeFits
  name : p.NameFits

theorem sound_new (model : String) (config : PollerConfig) : (new model config).Sound := by
  constructor <;> simp [new, GateFits, OutcomeFits, NameFits]

theorem GateFits.changes (h : p.GateFits) (hc : p.Changes p') : p'.GateFits := by
  cases hc with
  | none | run => exact h
  | start hs | startRun hs | startAnswered _ hs | statusAnswered _ hs => simp_all [GateFits]
  | halt => cases hs : p.stage <;> simp [GateFits, halt, hs, PollGate.stop]
  | move hm => cases hm <;> simp_all [GateFits]

theorem OutcomeFits.changes (h : p.OutcomeFits) (hc : p.Changes p') : p'.OutcomeFits := by
  cases hc with
  | none | run | halt => exact h
  | start hs | startRun hs | startAnswered _ hs | statusAnswered _ hs => simp_all [OutcomeFits]
  | move hm => cases hm <;> simp_all [OutcomeFits]

theorem NameFits.changes (h : p.NameFits) (ho : p.OutcomeFits) (hc : p.Changes p') :
    p'.NameFits := by
  cases hc with
  | none | run | halt => exact h
  | start hs | startRun hs | startAnswered _ hs | statusAnswered _ hs => simp_all [NameFits]
  | move hm => cases hm <;> simp_all [NameFits, OutcomeFits]

theorem Sound.changes (h : p.Sound) (hc : p.Changes p') : p'.Sound :=
  ⟨h.gate.changes hc, h.outcome.changes hc, h.name.changes h.outcome hc⟩

@[simp] theorem receive_model (p : Poller) (reply : Reply) : (p.receive reply).model = p.model := by
  unfold receive
  split <;> rfl

theorem model_changes (hc : p.Changes p') : p'.model = p.model := by
  cases hc with
  | move hm => cases hm <;> simp
  | _ => rfl

theorem config_changes (hc : p.Changes p') : p'.config = p.config := by
  cases hc with
  | move hm => cases hm <;> simp
  | _ => rfl

theorem isStopped_moves {active' told} (hm : Moves now active p p' active' told) :
    p'.gate.isStopped = p.gate.isStopped := by
  cases hm with
  | begin hs hg | finish hs hg => rw [hg]; rfl
  | request hs | acknowledged hs | conclude hs => simp
  | _ => rfl

theorem stopped_changes (hc : p.Changes p') (h : p.gate = .stopped) : p'.gate = .stopped := by
  cases hc with
  | move hm =>
      rw [← PollGate.isStopped_iff, isStopped_moves hm]
      simp [h]
  | halt => rfl
  | _ => exact h

theorem early_moves {active' told} (hm : Moves now active p p' active' told)
    (early : p'.stage.isEarly = true) : p.stage.isEarly = true := by
  cases hm with
  | @conclude activity _ hs | @release activity _ hs =>
      rw [hs]
      cases activity with
      | starting => rfl
      | running => simp [Stage.isEarly] at early
  | _ => simp_all [Stage.isEarly]

theorem isEarly_changes (hc : p.Changes p') (early : p'.stage.isEarly = true) :
    p.stage.isEarly = true := by
  cases hc with
  | none | run | halt => exact early
  | start hs | startRun hs | startAnswered _ hs => rw [hs]; rfl
  | statusAnswered _ _ => simp [Stage.isEarly] at early
  | move hm => exact early_moves hm early

def Untold (p : Poller) : Prop :=
  p.stage.isEarly = true → p.told = []

theorem Untold.changes (h : p.Untold) (hc : p.Changes p') : p'.Untold := by
  cases hc with
  | none | run | halt => exact h
  | start hs | startRun hs | startAnswered _ hs | statusAnswered _ hs =>
      simp_all [Untold, Stage.isEarly]
  | move hm =>
      cases hm with
      | @conclude activity _ hs | @release activity _ hs =>
          cases activity <;> simp_all [Untold, Stage.isEarly]
      | _ => simp_all [Untold, Stage.isEarly]

theorem known_changes (h : p.Sound) (hc : p.Changes p') (hk : p.known = some outcome) :
    p'.known = some outcome := by
  have ho := h.outcome
  cases hc with
  | none | run | halt => exact hk
  | start hs | startRun hs | startAnswered _ hs | statusAnswered _ hs =>
      simp_all [known, OutcomeFits, Stage.pending?]
  | move hm => cases hm <;> simp_all [known, OutcomeFits, Stage.pending?]

end Poller

namespace Life

variable {l : Life}

theorem sound_afterAll (h : l.poller.Sound) (acts : List Act) : (l.afterAll acts).poller.Sound :=
  afterAll_of_changes (fun hc hp => hp.changes hc) h acts

theorem isStopped_after {a : Act} (h : a ≠ .close) :
    (l.after a).poller.gate.isStopped = l.poller.gate.isStopped := by
  cases a with
  | close => exact absurd rfl h
  | go now active =>
      rcases Poller.go_cases l.poller now active with ⟨_, _, hm, _⟩ | ⟨hp, _⟩
      · exact Poller.isStopped_moves hm
      · simp only [after, hp]
  | look =>
      simp only [after]
      split <;> rfl
  | start =>
      simp only [after, Poller.requestStart]
      split <;> rfl
  | run =>
      simp only [after, Poller.requestRun, Poller.requestStart]
      split <;> rfl
  | answer reply =>
      simp only [after, Poller.receive]
      split <;> rfl

@[simp] theorem model_afterAll (l : Life) (acts : List Act) :
    (l.afterAll acts).poller.model = l.poller.model :=
  afterAll_of_changes (P := fun p => p.model = l.poller.model)
    (fun hc hp => (Poller.model_changes hc).trans hp) rfl acts

theorem known_afterAll {outcome} (h : l.poller.Sound) (hk : l.poller.known = some outcome)
    (acts : List Act) : (l.afterAll acts).poller.known = some outcome := by
  have kept := afterAll_of_changes (P := fun p => p.Sound ∧ p.known = some outcome)
    (fun hc hp => ⟨hp.1.changes hc, Poller.known_changes hp.1 hc hp.2⟩) ⟨h, hk⟩ acts
  exact kept.2

theorem sound_fresh (model : String) (config : PollerConfig) (acts : List Act) :
    ((fresh model config).afterAll acts).poller.Sound :=
  sound_afterAll (Poller.sound_new model config) acts

end Life

end ModelDepot
