import ModelDepot.Download.Poller

/-! # What a poller does by itself

`Poller.next` read as rules, one for each thing that a poller can do without being told to and
without waiting. Every law on pollers goes through these rules and not through the text of `next`.
-/

namespace ModelDepot.Poller

def isExpired (p : Poller) (now : Nat) : Bool :=
  (p.deadline now).any (· ≤ now)

theorem isExpired_of_endless {p : Poller} (h : endOfTime ≤ p.config.timeout.nanos) (now : Nat) :
    p.isExpired now = false := by
  have late : ¬ p.startedAt.getD now + p.config.timeout.nanos < endOfTime := by omega
  simp [isExpired, deadline, late]

/-- The progress that handles see once an outcome is decided. -/
def progressAt (p : Poller) : DownloadOutcome → ProgressCell
  | .completed status => p.progress.set status.progress
  | _ => p.progress

/-- One step that takes no time: the poller and the held names after it, and what it tells. -/
inductive Moves (now : Nat) (active : ActiveDownloads) (p : Poller) :
    Poller → ActiveDownloads → Option DownloadEvent → Prop where
  | enter : p.stage = .entering → p.gate.isStopped = false →
      Moves now active p { p with startedAt := some now, stage := .claiming } active none
  | enterStopped : p.stage = .entering → p.gate.isStopped = true →
      Moves now active p
        { p with startedAt := some now, stage := .concluding .starting .cancelled } active none
  | claim {active'} : p.stage = .claiming → active.claim p.model = some active' →
      Moves now active p { p with holdsName := true, stage := .claimed } active' none
  | refused : p.stage = .claiming → active.claim p.model = none →
      Moves now active p
        { p with stage := .concluding .starting (.failed .alreadyActive) } active none
  | request : p.stage = .claimed →
      Moves now active p { p.setState .requested with stage := .requesting } active none
  | acknowledged {ack} : p.stage = .answered (.ok ack) →
      Moves now active p { p.setState .polling with stage := .started } active none
  | rejected {e} : p.stage = .answered (.error e) →
      Moves now active p
        { p with stage := .concluding .starting (.failed (.rejected (rejection e))) } active none
  | settled {outcome} : p.stage = .started → p.isRunning = true → p.outcome = some outcome →
      Moves now active p
        { p with outcome := none, stage := .concluding .running outcome } active none
  | unsettled : p.stage = .started → p.isRunning = true → p.outcome = none →
      Moves now active p { p with stage := .looking } active none
  | lookStopped : p.stage = .looking → p.gate.isStopped = true →
      Moves now active p { p with stage := .concluding .running .cancelled } active none
  | look : p.stage = .looking → p.gate.isStopped = false →
      Moves now active p { p with stage := .timing } active none
  | expire : p.stage = .timing → p.isExpired now = true →
      Moves now active p
        { p with stage := .concluding .running (.timedOut p.config.timeout p.told.head?) }
        active none
  | inTime : p.stage = .timing → p.isExpired now = false →
      Moves now active p { p with stage := .beginning } active none
  | begin : p.stage = .beginning → p.gate = .idle →
      Moves now active p { p with gate := .inFlight, stage := .calling } active none
  | beginRefused : p.stage = .beginning → p.gate ≠ .idle →
      Moves now active p { p with stage := .concluding .running .cancelled } active none
  | finish {reply} : p.stage = .received reply → p.gate = .inFlight →
      Moves now active p { p with gate := .idle, stage := .accepted reply } active none
  | discard {reply} : p.stage = .received reply → p.gate ≠ .inFlight →
      Moves now active p { p with stage := .concluding .running .cancelled } active none
  | decide {reply outcome} : p.stage = .accepted reply → verdict reply = .decided outcome →
      Moves now active p
        { p with progress := p.progressAt outcome, stage := .concluding .running outcome }
        active none
  | tell {reply value} : p.stage = .accepted reply → verdict reply = .progress value →
      value ∉ p.told →
      Moves now active p
        { p with told := value :: p.told, progress := p.progress.set value, stage := .tiring }
        active (some (.progress p.model value))
  | keepSilent {reply value} : p.stage = .accepted reply → verdict reply = .progress value →
      value ∈ p.told →
      Moves now active p { p with stage := .tiring } active none
  | rideOut {reply} : p.stage = .accepted reply → verdict reply = .retry →
      Moves now active p { p with stage := .tiring } active none
  | napFreely : p.stage = .tiring → p.deadline now = none →
      Moves now active p { p with stage := .napping (now + p.config.interval.nanos) } active none
  | late {deadline} : p.stage = .tiring → p.deadline now = some deadline → deadline ≤ now →
      Moves now active p { p with stage := .looking } active none
  | nap {deadline} : p.stage = .tiring → p.deadline now = some deadline → now < deadline →
      Moves now active p
        { p with stage := .napping (now + min p.config.interval.nanos (deadline - now)) }
        active none
  | wake {instant} : p.stage = .napping instant → (p.gate.isStopped || instant ≤ now) = true →
      Moves now active p { p with stage := .looking } active none
  | conclude {activity outcome} : p.stage = .concluding activity outcome →
      Moves now active p
        { p.setState (.ofOutcome outcome) with stage := .releasing activity outcome } active none
  | release {activity outcome} : p.stage = .releasing activity outcome →
      Moves now active p { p with holdsName := false, stage := .recording activity outcome }
        (if p.holdsName then active.release p.model else active) none
  | recordStart {outcome} : p.stage = .recording .starting outcome →
      Moves now active p
        { p with outcome := some (p.outcome.getD outcome), stage := .started } active none
  | recordRun {outcome} : p.stage = .recording .running outcome →
      Moves now active p
        { p with outcome := some (p.outcome.getD outcome), stage := .reporting outcome } active none
  | report {outcome} : p.stage = .reporting outcome →
      Moves now active p { p with stage := .ended } active (some (.finished p.model outcome))

variable {p p' : Poller} {now : Nat} {active active' : ActiveDownloads}
  {told : Option DownloadEvent}

theorem next_of_moves (h : Moves now active p p' active' told) :
    p.next now active = .step p' active' told := by
  cases h with
  | enter hs hg | enterStopped hs hg | lookStopped hs hg | look hs hg => simp [next, hs, hg]
  | claim hs hc | refused hs hc => simp [next, hs, hc]
  | request hs | acknowledged hs | rejected hs => simp [next, hs]
  | settled hs hr ho | unsettled hs hr ho => simp [next, hs, hr, ho]
  | expire hs he | inTime hs he => simp [next, hs, ← isExpired.eq_def p now, he]
  | begin hs hg => simp [next, hs, hg, PollGate.begin]
  | beginRefused hs hg => simp [next, hs, PollGate.begin_of_ne_idle hg]
  | finish hs hg => simp [next, hs, hg, PollGate.finish]
  | discard hs hg => simp [next, hs, PollGate.finish_of_ne_inFlight hg]
  | @decide _ outcome hs hv => cases outcome <;> simp [next, hs, hv, progressAt]
  | tell hs hv ht | keepSilent hs hv ht => simp [next, hs, hv, ht]
  | rideOut hs hv => simp [next, hs, hv]
  | napFreely hs hd => simp [next, hs, hd]
  | late hs hd hl => simp [next, hs, hd, hl]
  | nap hs hd hl => simp [next, hs, hd, Nat.not_le.2 hl]
  | wake hs hw => simp [next, hs, hw]
  | conclude hs | release hs | recordStart hs | recordRun hs | report hs => simp [next, hs]

def call? (p : Poller) : Option Call :=
  match p.stage with
  | .requesting => some (.startDownload p.model)
  | .calling => some (.downloadStatus p.model)
  | _ => none

/-- The poller has nothing to do until it is asked to. -/
def IsResting (p : Poller) : Prop :=
  p.stage = .idle ∨ p.stage = .ended ∨ p.stage = .started ∧ p.isRunning = false

theorem next_cases (p : Poller) (now : Nat) (active : ActiveDownloads) :
    (∃ p' active' told, Moves now active p p' active' told) ∨
    (∃ c, p.call? = some c ∧ p.next now active = .call c) ∨
    (∃ instant, p.stage = .napping instant ∧ p.gate.isStopped = false ∧ now < instant ∧
      p.next now active = .sleep instant) ∨
    (p.IsResting ∧ p.next now active = .rest) := by
  cases hs : p.stage with
  | idle => exact .inr (.inr (.inr ⟨.inl hs, by simp [next, hs]⟩))
  | ended => exact .inr (.inr (.inr ⟨.inr (.inl hs), by simp [next, hs]⟩))
  | requesting =>
      exact .inr (.inl ⟨.startDownload p.model, by simp [call?, hs], by simp [next, hs]⟩)
  | calling =>
      exact .inr (.inl ⟨.downloadStatus p.model, by simp [call?, hs], by simp [next, hs]⟩)
  | entering =>
      cases hg : p.gate.isStopped
      · exact .inl ⟨_, _, _, .enter hs hg⟩
      · exact .inl ⟨_, _, _, .enterStopped hs hg⟩
  | claiming =>
      cases hc : active.claim p.model
      · exact .inl ⟨_, _, _, .refused hs hc⟩
      · exact .inl ⟨_, _, _, .claim hs hc⟩
  | claimed => exact .inl ⟨_, _, _, .request hs⟩
  | answered reply =>
      cases reply
      · exact .inl ⟨_, _, _, .rejected hs⟩
      · exact .inl ⟨_, _, _, .acknowledged hs⟩
  | started =>
      cases hr : p.isRunning
      · exact .inr (.inr (.inr ⟨.inr (.inr ⟨hs, hr⟩), by simp [next, hs, hr]⟩))
      cases ho : p.outcome
      · exact .inl ⟨_, _, _, .unsettled hs hr ho⟩
      · exact .inl ⟨_, _, _, .settled hs hr ho⟩
  | looking =>
      cases hg : p.gate.isStopped
      · exact .inl ⟨_, _, _, .look hs hg⟩
      · exact .inl ⟨_, _, _, .lookStopped hs hg⟩
  | timing =>
      cases he : p.isExpired now
      · exact .inl ⟨_, _, _, .inTime hs he⟩
      · exact .inl ⟨_, _, _, .expire hs he⟩
  | beginning =>
      by_cases hg : p.gate = .idle
      · exact .inl ⟨_, _, _, .begin hs hg⟩
      · exact .inl ⟨_, _, _, .beginRefused hs hg⟩
  | received reply =>
      by_cases hg : p.gate = .inFlight
      · exact .inl ⟨_, _, _, .finish hs hg⟩
      · exact .inl ⟨_, _, _, .discard hs hg⟩
  | accepted reply =>
      cases hv : verdict reply with
      | decided outcome => exact .inl ⟨_, _, _, .decide hs hv⟩
      | retry => exact .inl ⟨_, _, _, .rideOut hs hv⟩
      | progress value =>
          by_cases ht : value ∈ p.told
          · exact .inl ⟨_, _, _, .keepSilent hs hv ht⟩
          · exact .inl ⟨_, _, _, .tell hs hv ht⟩
  | tiring =>
      cases hd : p.deadline now with
      | none => exact .inl ⟨_, _, _, .napFreely hs hd⟩
      | some deadline =>
          by_cases hl : deadline ≤ now
          · exact .inl ⟨_, _, _, .late hs hd hl⟩
          · exact .inl ⟨_, _, _, .nap hs hd (Nat.lt_of_not_le hl)⟩
  | napping instant =>
      by_cases hw : (p.gate.isStopped || instant ≤ now) = true
      · exact .inl ⟨_, _, _, .wake hs hw⟩
      · obtain ⟨hg, hn⟩ : ¬ p.gate = .stopped ∧ now < instant := by simpa using hw
        refine .inr (.inr (.inl ⟨instant, rfl, PollGate.isStopped_eq_false_iff.2 hg, hn, ?_⟩))
        simp [next, hs, hg, Nat.not_le.2 hn]
  | concluding activity outcome => exact .inl ⟨_, _, _, .conclude hs⟩
  | releasing activity outcome => exact .inl ⟨_, _, _, .release hs⟩
  | recording activity outcome =>
      cases activity
      · exact .inl ⟨_, _, _, .recordStart hs⟩
      · exact .inl ⟨_, _, _, .recordRun hs⟩
  | reporting outcome => exact .inl ⟨_, _, _, .report hs⟩

theorem next_eq_step_iff :
    p.next now active = .step p' active' told ↔ Moves now active p p' active' told := by
  constructor
  · intro h
    rcases next_cases p now active with ⟨_, _, _, hm⟩ | ⟨_, _, hn⟩ | ⟨_, _, _, _, hn⟩ | ⟨_, hn⟩
    · rw [next_of_moves hm] at h
      cases h
      exact hm
    all_goals
      rw [hn] at h
      cases h
  · exact next_of_moves

theorem next_eq_call_iff {c : Call} : p.next now active = .call c ↔ p.call? = some c := by
  rcases next_cases p now active with ⟨p', active', told, hm⟩ | ⟨c', hc, hn⟩ | ⟨_, hs, _, _, hn⟩ |
    ⟨hr, hn⟩
  · rw [next_of_moves hm]
    constructor
    · intro h
      cases h
    · intro h
      cases hm <;> simp_all [call?]
  · simp [hn, hc]
  · simp [hn, call?, hs]
  · rcases hr with hs | hs | ⟨hs, _⟩ <;> simp [hn, call?, hs]

end ModelDepot.Poller
