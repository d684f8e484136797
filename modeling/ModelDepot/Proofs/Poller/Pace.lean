import Mathlib.Algebra.Order.Floor.Div
import ModelDepot.Proofs.Poller.Deadline

/-! # The pace of the status calls

Between two status calls lies a nap of the poll interval, unless the deadline or a stop cuts the nap
short; then no call follows. So the calls made so far are behind the start by as many intervals, and
there are at most as many calls as intervals in the timeout, a last one begun counting in full.
-/

namespace ModelDepot

theorem Life.beginsCall_of_still {l : Life} {a : Act} (still : a.now? = none) :
    l.poller.beginsCall (l.after a).poller = false := by
  rcases stage_of_still (l := l) still with same | ⟨hs, _⟩ | ⟨hs, _⟩ | ⟨hs, _⟩
  · rw [Poller.beginsCall, same]
    cases l.poller.stage <;> rfl
  all_goals simp [Poller.beginsCall, hs, Stage.isBeginning]

namespace PollerConfig

/-- By this instant so many intervals have passed since the start at `s`, or the deadline has. -/
def IsDue (c : PollerConfig) (s calls instant : Nat) : Prop :=
  s + calls * c.interval.nanos ≤ instant ∨ s + c.timeout.nanos ≤ instant

theorem IsDue.mono {c : PollerConfig} {s calls clock now : Nat} (h : c.IsDue s calls clock)
    (later : clock ≤ now) : c.IsDue s calls now := by
  unfold IsDue at *
  omega

end PollerConfig

namespace Poller

/-- How the calls begun so far agree with the clock, stage by stage, after a start at `s`. -/
def PaceFits (p : Poller) (s calls clock : Nat) : Prop :=
  match p.stage with
  | .looking => p.gate = .stopped ∨ p.config.IsDue s calls clock
  | .timing => p.config.IsDue s calls clock
  | .beginning =>
    s + calls * p.config.interval.nanos ≤ clock ∧
      calls * p.config.interval.nanos < p.config.timeout.nanos
  | .calling | .received _ | .accepted _ | .tiring =>
    s + calls * p.config.interval.nanos ≤ clock + p.config.interval.nanos
  | .napping wake => p.config.IsDue s calls wake
  | _ => True

/-- What is true of a poller that has begun `calls` status calls when the clock shows `clock`. -/
structure Paced (p : Poller) (calls clock : Nat) : Prop where
  few : calls * p.config.interval.nanos < p.config.timeout.nanos + p.config.interval.nanos
  early : p.stage.isEarly = true → calls = 0
  noted : p.stage.hasEntered = true → p.startedAt.isSome = true
  fits : ∀ s, p.startedAt = some s → s ≤ clock ∧ p.PaceFits s calls clock

variable {p p' : Poller} {s calls clock now : Nat} {active active' : ActiveDownloads}
  {told : Option DownloadEvent}

theorem paced_new (model : String) {config : PollerConfig} (positive : 0 < config.interval.nanos) :
    (new model config).Paced 0 0 where
  few := by simp [new]; omega
  early _ := rfl
  noted h := by cases h
  fits s hs := by cases hs

theorem PaceFits.mono (h : p.PaceFits s calls clock) (later : clock ≤ now) :
    p.PaceFits s calls now := by
  cases hs : p.stage with
  | looking =>
      simp only [PaceFits, hs] at h ⊢
      exact h.imp_right (·.mono later)
  | timing =>
      simp only [PaceFits, hs] at h ⊢
      exact h.mono later
  | beginning | calling | received _ | accepted _ | tiring =>
      simp only [PaceFits, hs] at h ⊢
      omega
  | napping wake => simpa only [PaceFits, hs] using h
  | _ => simp only [PaceFits, hs]

theorem Paced.mono (h : p.Paced calls clock) (later : clock ≤ now) : p.Paced calls now where
  few := h.few
  early := h.early
  noted := h.noted
  fits s hs :=
    have ⟨started, fits⟩ := h.fits s hs
    ⟨Nat.le_trans started later, fits.mono later⟩

theorem noted_moves (hm : Moves now active p p' active' told)
    (h : p.stage.hasEntered = true → p.startedAt.isSome = true) :
    p'.stage.hasEntered = true → p'.startedAt.isSome = true := by
  intro _
  cases hm with
  | enter | enterStopped => rfl
  | _ => simp_all [Stage.hasEntered]

theorem lt_of_moves_napping {wake : Nat} (positive : 0 < p.config.interval.nanos)
    (hm : Moves now active p p' active' told) (nap : p'.stage = .napping wake) : now < wake := by
  cases hm with
  | napFreely | nap =>
      cases nap
      omega
  | _ => simp_all

/-- A call begins at the earliest when its turn has come. -/
theorem PaceFits.moves (h : p.PaceFits s calls now) (hs : p.startedAt = some s)
    (near : s + p.config.timeout.nanos < endOfTime) (first : p.stage.isEarly = true → calls = 0)
    (started : s ≤ now) (hm : Moves now active p p' active' told) :
    p'.PaceFits s (calls + (p.beginsCall p').toNat) now := by
  have deadline := deadline_of_startedAt hs near now
  have expired : p.isExpired now = true ↔ _ := isExpired_iff hs
  cases hm with
  | unsettled hst =>
      obtain rfl : calls = 0 := first (by rw [hst]; rfl)
      exact .inr (.inl (by simpa [beginsCall, hst, Stage.isBeginning] using started))
  | look hst hg =>
      simp only [PaceFits, hst] at h
      simpa [PaceFits, beginsCall, hst, Stage.isBeginning] using
        h.resolve_left (PollGate.isStopped_eq_false_iff.1 hg)
  | inTime hst he =>
      simp only [PaceFits, hst, PollerConfig.IsDue] at h
      rw [← Bool.not_eq_true, expired] at he
      simp only [PaceFits, beginsCall, hst, Stage.isBeginning, Stage.isCalling]
      simp
      omega
  | begin hst =>
      simp only [PaceFits, hst] at h
      simp [PaceFits, beginsCall, hst, Stage.isBeginning, Stage.isCalling, Nat.add_mul]
      omega
  | finish hst | tell hst | keepSilent hst | rideOut hst =>
      simp only [PaceFits, hst] at h
      simpa [PaceFits, beginsCall, hst, Stage.isBeginning] using h
  | napFreely hst hd =>
      rw [deadline] at hd
      cases hd
  | late hst hd late =>
      rw [deadline] at hd
      cases hd
      exact .inr (.inr late)
  | nap hst hd =>
      -- a nap that the deadline cuts short is over when the deadline has come
      rw [deadline] at hd
      cases hd
      simp only [PaceFits, hst] at h
      simp [PaceFits, PollerConfig.IsDue, beginsCall, hst, Stage.isBeginning]
      omega
  | @wake instant hst hw =>
      simp only [PaceFits, hst] at h
      have woken : p.gate = .stopped ∨ instant ≤ now := by simpa using hw
      simpa [PaceFits, beginsCall, hst, Stage.isBeginning] using woken.imp_right h.mono
  | _ => simp [PaceFits]

theorem Paced.moves (h : p.Paced calls now)
    (near : p.stage.hasEntered = true → ∀ s, p.startedAt = some s →
      s + p.config.timeout.nanos < endOfTime)
    (hm : Moves now active p p' active' told) :
    p'.Paced (calls + (p.beginsCall p').toNat) now := by
  have config := config_changes (.move hm)
  refine ⟨?_, ?_, noted_moves hm h.noted, ?_⟩
  · rw [config]
    cases begins : p.beginsCall p' with
    | false => exact h.few
    | true =>
        have beginning : p.stage = .beginning := by
          cases hs : p.stage <;> simp_all [beginsCall, Stage.isBeginning]
        obtain ⟨s, hs⟩ := Option.isSome_iff_exists.1 (h.noted (by rw [beginning]; rfl))
        have fits := (h.fits s hs).2
        simp only [PaceFits, beginning] at fits
        simp only [Bool.toNat_true, Nat.add_mul, Nat.one_mul]
        omega
  · intro early
    have begins : p.beginsCall p' = false := by
      cases hs : p'.stage <;> simp_all [beginsCall, Stage.isCalling, Stage.isEarly]
    simpa [begins] using h.early (early_moves hm early)
  · intro s hs
    cases entered : p.stage.hasEntered with
    | true =>
        rw [(entered_changes (.move hm) ⟨entered, rfl⟩).2] at hs
        obtain ⟨started, fits⟩ := h.fits s hs
        exact ⟨started, fits.moves hs (near entered s hs) h.early started hm⟩
    | false =>
        cases hm with
        | enter | enterStopped =>
            cases hs
            exact ⟨Nat.le_refl _, trivial⟩
        | _ => simp_all [Stage.hasEntered]

end Poller

namespace Life

variable {l : Life} {c : Chronicle} {calls clock : Nat}

theorem paced_of_still {a : Act} (still : a.now? = none) (h : l.poller.Paced calls clock) :
    (l.after a).poller.Paced calls clock := by
  have hc := changes_after l a
  have config := Poller.config_changes hc
  have noted := startedAt_of_still (l := l) still
  have moved := stage_of_still (l := l) still
  refine ⟨by rw [config]; exact h.few, fun early => h.early ?_, fun entered => ?_, fun s hs => ?_⟩
  · rcases moved with same | ⟨hst, _⟩ | ⟨hst, _⟩ | ⟨_, _, hst⟩
    · rwa [same] at early
    · rw [hst]; rfl
    · rw [hst]; rfl
    · simp [hst, Stage.isEarly] at early
  · rw [noted]
    rcases moved with same | ⟨_, hst⟩ | ⟨hst, _⟩ | ⟨hst, _⟩
    · exact h.noted (same ▸ entered)
    · simp [hst, Stage.hasEntered] at entered
    · exact h.noted (by rw [hst]; rfl)
    · exact h.noted (by rw [hst]; rfl)
  · rw [noted] at hs
    obtain ⟨started, fits⟩ := h.fits s hs
    refine ⟨started, ?_⟩
    rcases moved with same | ⟨_, hst⟩ | ⟨_, _, hst⟩ | ⟨hst, _, hst'⟩
    · have stays := Poller.stopped_changes hc
      cases hst : l.poller.stage <;> simp_all [Poller.PaceFits]
      exact fits.imp_left stays
    · simp [Poller.PaceFits, hst]
    · simp [Poller.PaceFits, hst]
    · simpa [Poller.PaceFits, hst, hst', config] using fits

theorem paced_after {d : Dated} (h : l.poller.Paced calls clock) (later : clock ≤ d.instant)
    (near : l.poller.stage.hasEntered = true → ∀ s, l.poller.startedAt = some s →
      s + l.poller.config.timeout.nanos < endOfTime) :
    (l.after d.act).poller.Paced
      (calls + (l.poller.beginsCall (l.after d.act).poller).toNat) d.instant := by
  rcases dated_cases l d with ⟨_, _, _, _, hm⟩ | ⟨idle, same⟩ | still
  · exact (h.mono later).moves near hm
  · have quiet : l.poller.beginsCall l.poller = false := by
      cases hs : l.poller.stage <;> simp_all [Poller.beginsCall, Stage.isBeginning, Stage.isBusy]
    rw [same, quiet]
    exact h.mono later
  · rw [beginsCall_of_still still]
    exact (paced_of_still still h).mono later

theorem lt_of_napping {d : Dated} {wake : Nat} (positive : 0 < l.poller.config.interval.nanos)
    (awake : l.poller.stage ≠ .napping wake)
    (nap : (l.after d.act).poller.stage = .napping wake) : d.instant < wake := by
  rcases dated_cases l d with ⟨_, _, _, _, hm⟩ | ⟨_, same⟩ | still
  · exact Poller.lt_of_moves_napping positive hm nap
  · exact absurd (same ▸ nap) awake
  · rcases stage_of_still (l := l) still with same | ⟨_, hs⟩ | ⟨_, _, hs⟩ | ⟨_, _, hs⟩
    · exact absurd (same ▸ nap) awake
    all_goals
      rw [hs] at nap
      cases nap

/-- The calls that begin keep their pace as far as a chronicle goes, if the deadline can be told. -/
theorem paced_through (h : l.poller.Paced calls clock) (since : ∀ d ∈ c, clock ≤ d.instant)
    (onClock : c.OnClock) (near : ∀ s, (l.through c).poller.startedAt = some s →
      s + l.poller.config.timeout.nanos < endOfTime) :
    ∃ clock', (l.through c).poller.Paced (calls + l.begun c.acts) clock' := by
  induction c generalizing l calls clock with
  | nil => exact ⟨clock, h⟩
  | cons d c ih =>
      obtain ⟨ahead, onClock⟩ := List.pairwise_cons.1 onClock
      have nearNow (entered : l.poller.stage.hasEntered = true) (s : Nat)
          (hs : l.poller.startedAt = some s) :=
        near s ((entered_through entered (d :: c)).2.trans hs)
      have paced := paced_after h (since d List.mem_cons_self) nearNow
      have config := Poller.config_changes (changes_after l d.act)
      obtain ⟨clock', pacedThen⟩ := ih paced ahead onClock (by rw [config]; exact near)
      refine ⟨clock', ?_⟩
      rw [Chronicle.acts_cons, begun_cons, ← Nat.add_assoc]
      exact pacedThen

end Life

/-- A poller begins at most as many status calls as there are intervals in its timeout, a last one
begun counted in full. -/
theorem begun_le_ceilDiv {model : String} {config : PollerConfig} {c : Chronicle}
    (positive : 0 < config.interval.nanos) (clock : c.OnClock)
    (near : ∀ s, ((Life.fresh model config).through c).poller.startedAt = some s →
      s + config.timeout.nanos < endOfTime) :
    (Life.fresh model config).begun c.acts ≤ config.timeout.nanos ⌈/⌉ config.interval.nanos := by
  obtain ⟨_, paced⟩ := Life.paced_through (l := Life.fresh model config)
    (Poller.paced_new model positive) (fun _ _ => Nat.zero_le _) clock near
  have few := paced.few
  rw [Life.config_through, Nat.zero_add] at few
  rw [Nat.ceilDiv_eq_add_pred_div, Nat.le_div_iff_mul_le positive]
  have same : (Life.fresh model config).poller.config = config := rfl
  rw [same] at few
  omega

end ModelDepot
