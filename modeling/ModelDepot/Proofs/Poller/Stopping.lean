import ModelDepot.Proofs.Poller.Course

/-! # A closed gate

Once the gate is closed no status call begins, and what is under way is brought to its end in a few
steps. At most stages that end is a cancellation that leaves no trace.
-/

namespace ModelDepot

namespace Stage

/-- The next thing that can end the poller at this stage is its gate. -/
def isGuarded : Stage → Bool
  | .idle | .entering | .looking | .beginning | .calling | .received _ | .tiring | .napping _ =>
    true
  | _ => false

/-- The most steps that a running poller takes to its end when nothing but the end is left to it. -/
def toEnd : Stage → Nat
  | .idle => 14
  | .claiming => 13
  | .claimed => 12
  | .requesting => 11
  | .entering | .answered _ => 10
  | .concluding .starting _ => 9
  | .accepted _ | .releasing .starting _ => 8
  | .tiring | .recording .starting _ => 7
  | .started | .timing | .calling | .napping _ => 6
  | .looking | .beginning | .received _ => 5
  | .concluding .running _ => 4
  | .releasing .running _ => 3
  | .recording .running _ => 2
  | .reporting _ => 1
  | .ended => 0

theorem toEnd_le {s : Stage} (h : s ≠ .idle) : s.toEnd ≤ 13 := by
  cases s with
  | idle => exact absurd rfl h
  | concluding a _ | releasing a _ | recording a _ => cases a <;> simp [toEnd]
  | _ => simp [toEnd]

theorem toEnd_eq_zero {s : Stage} (h : s.toEnd = 0) : s = .ended := by
  cases s with
  | ended => rfl
  | concluding a _ | releasing a _ | recording a _ => cases a <;> simp [toEnd] at h
  | _ => simp [toEnd] at h

end Stage

namespace Poller

variable {p p' : Poller} {now : Nat} {active active' : ActiveDownloads}
  {told : Option DownloadEvent}

/-- A stopped poller that can only be cancelled, or has been. -/
structure Doomed (p : Poller) : Prop where
  sound : p.Sound
  stopped : p.gate = .stopped
  fate : p.stage.isGuarded = true ∧ p.outcome = none ∨ p.known = some .cancelled

theorem doomed_of_isGuarded (sound : p.Sound) (stopped : p.gate = .stopped)
    (hs : p.stage.isGuarded = true) : p.Doomed := by
  refine ⟨sound, stopped, .inl ⟨hs, ?_⟩⟩
  have ho := sound.outcome
  cases h : p.stage <;> simp_all [Stage.isGuarded, OutcomeFits]

theorem Doomed.changes (h : p.Doomed) (hc : p.Changes p') : p'.Doomed := by
  refine ⟨h.sound.changes hc, stopped_changes hc h.stopped, ?_⟩
  rcases h.fate with ⟨guarded, ho⟩ | hk
  · have hg := h.stopped
    cases hc with
    | none | run | halt => exact .inl ⟨guarded, ho⟩
    | start hs | startRun hs | statusAnswered _ hs => exact .inl ⟨rfl, ho⟩
    | startAnswered _ hs => simp [hs, Stage.isGuarded] at guarded
    | move hm => cases hm <;> simp_all [Stage.isGuarded, known, Stage.pending?]
  · exact .inr (known_changes h.sound hc hk)

theorem Doomed.progress_eq (h : p.Doomed) (hc : p.Changes p') : p'.progress = p.progress := by
  have ho := h.sound.outcome
  have hf := h.fate
  cases hc with
  | move hm => cases hm <;> simp_all [Stage.isGuarded, known, Stage.pending?, OutcomeFits]
  | _ => rfl

theorem Doomed.holdsName_eq (h : p.Doomed) (hc : p.Changes p') (hn : p.holdsName = false) :
    p'.holdsName = false := by
  have ho := h.sound.outcome
  have hf := h.fate
  cases hc with
  | move hm => cases hm <;> simp_all [Stage.isGuarded, known, Stage.pending?, OutcomeFits]
  | _ => exact hn

theorem Doomed.tells_eq (h : p.Doomed) {e : DownloadEvent} (he : e ∈ p.tells now active) :
    e = .finished p.model .cancelled := by
  have ho := h.sound.outcome
  have hf := h.fate
  rcases go_cases p now active with ⟨_, _, hm, ht⟩ | ⟨_, ht⟩
  · rw [ht] at he
    generalize p.go now active = next at hm
    cases hm <;> simp_all [Stage.isGuarded, known, Stage.pending?, OutcomeFits]
  · simp [ht] at he

theorem Doomed.known_eq (h : p.Doomed) {outcome} (hk : p.known = some outcome) :
    outcome = .cancelled := by
  rcases h.fate with ⟨guarded, ho⟩ | hk'
  · cases hs : p.stage <;> simp_all [Stage.isGuarded, known, Stage.pending?]
  · rw [hk] at hk'
    cases hk'
    rfl

theorem holdsName_of_call (sound : p.Sound) {call : Call} (hc : p.call? = some call) :
    p.holdsName = true := by
  have hn := sound.name
  cases hs : p.stage <;> simp_all [call?, NameFits]

theorem call?_eq_none (sound : p.Sound) (free : p.holdsName = false) : p.call? = none := by
  cases hc : p.call? with
  | none => rfl
  | some call =>
      have held := holdsName_of_call sound hc
      rw [free] at held
      cases held

theorem stage_changes_of_stopped (stopped : p.gate = .stopped) (hc : p.Changes p') :
    (p'.stage = .timing → p.stage = .timing) ∧ (p'.stage = .calling → p.stage = .calling) ∧
    (∀ r, p'.stage = .accepted r → p.stage = .accepted r) := by
  cases hc with
  | none | run | halt => exact ⟨id, id, fun _ => id⟩
  | start hs | startRun hs | startAnswered _ hs | statusAnswered _ hs => simp
  | move hm => cases hm <;> simp_all

/-- Nothing but the end is left to a poller: its gate is closed, or its outcome is known. -/
def Closing (p : Poller) : Prop :=
  p.gate = .stopped ∨ p.known.isSome = true

theorem Closing.changes (h : p.Closing) (sound : p.Sound) (hc : p.Changes p') : p'.Closing := by
  rcases h with stopped | hk
  · exact .inl (stopped_changes hc stopped)
  · obtain ⟨outcome, ho⟩ := Option.isSome_iff_exists.1 hk
    exact .inr (by rw [known_changes sound hc ho]; rfl)

theorem toEnd_moves (sound : p.Sound) (closing : p.Closing)
    (hm : Moves now active p p' active' told) : p'.stage.toEnd < p.stage.toEnd := by
  have ho := sound.outcome
  rcases closing with stopped | hk
  · cases hm with
    | @conclude activity _ hs | @release activity _ hs => cases activity <;> simp [hs, Stage.toEnd]
    | _ => simp_all [Stage.toEnd]
  · cases hm with
    | @conclude activity _ hs | @release activity _ hs => cases activity <;> simp [hs, Stage.toEnd]
    | _ => simp_all [Stage.toEnd, known, Stage.pending?, OutcomeFits]

def Underway (p : Poller) : Prop :=
  p.isRunning = true ∧ p.stage ≠ .idle

theorem underway_requestRun (p : Poller) : p.requestRun.Underway := by
  refine ⟨rfl, ?_⟩
  unfold requestRun requestStart
  split
  · simp
  · next hs => exact hs

theorem Underway.changes (h : p.Underway) (hc : p.Changes p') : p'.Underway := by
  obtain ⟨hr, hs⟩ := h
  cases hc with
  | none | halt => exact ⟨hr, hs⟩
  | run => exact ⟨rfl, hs⟩
  | start hi | startRun hi => exact absurd hi hs
  | startAnswered _ _ | statusAnswered _ _ => exact ⟨hr, by simp⟩
  | move hm => cases hm <;> simp_all [Underway]

end Poller

namespace Course

/-- Every turn of a running poller to which nothing but the end is left is a step towards it. -/
theorem toEnd_turn {c : Course} (answers : Nat → Reply) (m : Moment) (sound : c.poller.Sound)
    (closing : c.poller.Closing) (underway : c.poller.Underway) :
    (c.turn answers m).poller.stage.toEnd < c.poller.stage.toEnd ∨ c.poller.stage = .ended := by
  rcases turn_cases c answers m with ⟨p, _, _, hm, hp, _⟩ | ⟨call, hc, hp, _⟩ |
    ⟨_, hs, hopen, _⟩ | ⟨hr, _⟩
  · rw [hp]
    exact .inl (Poller.toEnd_moves sound closing hm)
  · rw [hp]
    refine .inl ?_
    cases hs : c.poller.stage <;> simp_all [Poller.call?, Poller.receive, Stage.toEnd]
  · have unnoted := sound.outcome
    rcases closing with stopped | hk
    · simp [stopped, PollGate.isStopped] at hopen
    · simp_all [Poller.OutcomeFits, Poller.known, Stage.pending?]
  · rcases hr with hs | hs | ⟨_, hr⟩
    · exact absurd hs underway.2
    · exact .inr hs
    · rw [underway.1] at hr
      cases hr

theorem ended_of_nearer {p : Poller} {answers : Nat → Reply} {around : Nat → Moment}
    (asked : p.stage ≠ .idle)
    (nearer : ∀ n, (p.course answers around (n + 1)).poller.stage.toEnd <
        (p.course answers around n).poller.stage.toEnd ∨
      (p.course answers around n).poller.stage = .ended) {n : Nat} (hn : 13 ≤ n) :
    (p.course answers around n).poller.stage = .ended := by
  have within : ∀ n, (p.course answers around n).poller.stage.toEnd ≤ 13 - n := by
    intro n
    induction n with
    | zero => exact Stage.toEnd_le asked
    | succ n ih =>
        rcases nearer n with less | ended
        · omega
        · rw [course_of_ended (Nat.le_succ n) ended, ended]
          exact Nat.zero_le _
  have reached := within n
  exact Stage.toEnd_eq_zero (by omega)

/-- A closing poller that is asked to run ends within thirteen turns. -/
theorem ended_of_closing {p : Poller} (sound : p.Sound) (closing : p.Closing)
    (underway : p.Underway) (answers : Nat → Reply) (around : Nat → Moment) {n : Nat}
    (hn : 13 ≤ n) : (p.course answers around n).poller.stage = .ended := by
  have steady : ∀ n, (p.course answers around n).poller.Sound ∧
      (p.course answers around n).poller.Closing ∧
      (p.course answers around n).poller.Underway := by
    intro n
    induction n with
    | zero => exact ⟨sound, closing, underway⟩
    | succ n ih =>
        have hc := changes_turn (p.course answers around n) answers (around n)
        exact ⟨ih.1.changes hc, ih.2.1.changes ih.1 hc, ih.2.2.changes hc⟩
  refine ended_of_nearer underway.2 (fun n => ?_) hn
  obtain ⟨soundNow, closingNow, underwayNow⟩ := steady n
  exact toEnd_turn answers (around n) soundNow closingNow underwayNow

end Course

end ModelDepot
