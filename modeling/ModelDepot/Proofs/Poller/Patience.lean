import ModelDepot.Proofs.Poller.Decision
import ModelDepot.Proofs.Poller.Runs
import ModelDepot.Proofs.Poller.Stopping
import ModelDepot.Transport.InMemory

/-! # Patience

Two runs in the same surroundings, of which one has a longer timeout. They stay in step until the
nap or the check at which the shorter one runs out of time. From there on the shorter one has
nothing more to tell: it is spent.
-/

namespace ModelDepot

def DownloadEvent.isProgress (e : DownloadEvent) : Bool :=
  e.progress?.isSome

/-- The outcome is neither the clock's nor a stop's. -/
def DownloadOutcome.IsDecided : DownloadOutcome → Prop
  | .completed _ | .failed _ => True
  | .timedOut _ _ | .cancelled => False

namespace Poller

variable {p p' : Poller} {now : Nat} {active active' : ActiveDownloads}
  {told : Option DownloadEvent} {timeout : Duration}

def withTimeout (p : Poller) (timeout : Duration) : Poller :=
  { p with config := { p.config with timeout } }

section

variable (p : Poller) (timeout : Duration)

@[simp] theorem withTimeout_stage : (p.withTimeout timeout).stage = p.stage := rfl
@[simp] theorem withTimeout_gate : (p.withTimeout timeout).gate = p.gate := rfl
@[simp] theorem withTimeout_outcome : (p.withTimeout timeout).outcome = p.outcome := rfl
@[simp] theorem withTimeout_call? : (p.withTimeout timeout).call? = p.call? := rfl

theorem withTimeout_setState (state : PollerState) (stage : Stage) :
    ({ p.setState state with stage } : Poller).withTimeout timeout =
      { (p.withTimeout timeout).setState state with stage } := by
  cases hs : p.state.isTerminal <;> simp [setState, withTimeout, hs]

theorem withTimeout_progressAt (outcome : DownloadOutcome) :
    (p.withTimeout timeout).progressAt outcome = p.progressAt outcome := by
  cases outcome <;> rfl

theorem withTimeout_receive (reply : Reply) :
    (p.withTimeout timeout).receive reply = (p.receive reply).withTimeout timeout := by
  simp only [receive, withTimeout_stage]
  split <;> rfl

end

/-! ## Spent pollers -/

/-- The poller has only its deadline ahead of it: it comes to the next check too late, or that check
is behind it. -/
inductive Spent (p : Poller) (now : Nat) : Prop where
  | round : p.stage = .looking ∨ p.stage = .timing → p.isExpired now = true → Spent p now
  | tiring : p.stage = .tiring → p.isExpired (now + p.config.interval.nanos) = true → Spent p now
  | napping {wake} : p.stage = .napping wake → p.isExpired (max now wake) = true → Spent p now
  | late {after last} : p.known = some (.timedOut after last) → Spent p now

/-- The poller is on its way, and nobody has stopped it. -/
structure Goes (p : Poller) : Prop where
  sound : p.Sound
  isOpen : p.gate.isStopped = false
  clock : p.stage.hasEntered = true → p.startedAt.isSome = true

theorem goes_new (model : String) (config : PollerConfig) : (new model config).requestRun.Goes where
  sound := (sound_new model config).changes (changes_requestRun _)
  isOpen := rfl
  clock := nofun

theorem startedAt_changes (hc : p.Changes p')
    (h : p.stage.hasEntered = true → p.startedAt.isSome = true)
    (entered : p'.stage.hasEntered = true) : p'.startedAt.isSome = true := by
  by_cases before : p.stage.hasEntered = true
  · rw [(entered_changes hc ⟨before, rfl⟩).2]
    exact h before
  · cases hc with
    | none | run | halt => exact absurd entered before
    | start hs | startRun hs => simp [Stage.hasEntered] at entered
    | startAnswered _ hs | statusAnswered _ hs => simp [hs, Stage.hasEntered] at before
    | move hm => cases hm <;> simp_all [Stage.hasEntered]

theorem isExpired_of_withTimeout (clock : p.startedAt.isSome = true)
    (h : p.config.timeout.nanos ≤ timeout.nanos)
    (expired : (p.withTimeout timeout).isExpired now = true) : p.isExpired now = true := by
  obtain ⟨start, hstart⟩ := Option.isSome_iff_exists.1 clock
  have hlong : (p.withTimeout timeout).startedAt = some start := hstart
  rw [isExpired_iff hlong] at expired
  rw [isExpired_iff hstart]
  simp only [withTimeout] at expired
  omega

theorem moves_nap (clock : p.startedAt.isSome = true) (hs : p.stage = .tiring)
    (inTime : p.isExpired (now + p.config.interval.nanos) = false) :
    Moves now active p { p with stage := .napping (now + p.config.interval.nanos) } active
      none := by
  obtain ⟨start, hstart⟩ := Option.isSome_iff_exists.1 clock
  by_cases near : start + p.config.timeout.nanos < endOfTime
  · have hd := deadline_of_startedAt hstart near now
    have later : now + p.config.interval.nanos < start + p.config.timeout.nanos := by
      rw [← Bool.not_eq_true, isExpired_iff hstart] at inTime
      omega
    rw [← Nat.min_eq_left (a := p.config.interval.nanos) (b := start + p.config.timeout.nanos - now)
      (by omega)]
    exact .nap hs hd (by omega)
  · refine .napFreely hs ?_
    simp [deadline, hstart, near]

/-- As long as the poller is not spent, more time makes no difference. -/
theorem moves_withTimeout (goes : p.Goes) (h : p.config.timeout.nanos ≤ timeout.nanos)
    (busy : ¬ p.Spent now) (hm : Moves now active p p' active' told) :
    Moves now active (p.withTimeout timeout) (p'.withTimeout timeout) active' told := by
  have inTime (t : Nat) (entered : p.stage.hasEntered = true) (hp : p.isExpired t = false) :
      (p.withTimeout timeout).isExpired t = false := by
    rw [← Bool.not_eq_true] at hp ⊢
    exact mt (isExpired_of_withTimeout (goes.clock entered) h) hp
  -- At the end of a round both take the full nap, whatever rule the shorter one goes by.
  by_cases tiring : p.stage = .tiring
  · have entered : p.stage.hasEntered = true := by simp [tiring, Stage.hasEntered]
    have hnap : p.isExpired (now + p.config.interval.nanos) = false := by
      rw [← Bool.not_eq_true]
      exact fun expired => busy (.tiring tiring expired)
    have full := (next_of_moves hm).symm.trans
      (next_of_moves (moves_nap (goes.clock entered) tiring hnap))
    rw [Next.step.injEq] at full
    obtain ⟨rfl, rfl, rfl⟩ := full
    exact moves_nap (p := p.withTimeout timeout) (goes.clock entered) tiring (inTime _ entered hnap)
  cases hm with
  | enter hs hg => exact .enter hs hg
  | enterStopped hs hg => exact .enterStopped hs hg
  | claim hs hc => exact .claim hs hc
  | refused hs hc => exact .refused hs hc
  | request hs =>
      rw [withTimeout_setState]
      exact .request hs
  | acknowledged hs =>
      rw [withTimeout_setState]
      exact .acknowledged hs
  | rejected hs => exact .rejected hs
  | settled hs hr ho => exact .settled hs hr ho
  | unsettled hs hr ho => exact .unsettled hs hr ho
  | lookStopped hs hg => exact .lookStopped hs hg
  | look hs hg => exact .look hs hg
  | expire hs he => exact absurd (.round (.inr hs) he) busy
  | inTime hs he => exact .inTime hs (inTime now (by simp [hs, Stage.hasEntered]) he)
  | begin hs hg => exact .begin hs hg
  | beginRefused hs hg => exact .beginRefused hs hg
  | finish hs hg => exact .finish hs hg
  | discard hs hg => exact .discard hs hg
  | decide hs hv =>
      rw [← withTimeout_progressAt p timeout]
      exact .decide hs hv
  | tell hs hv ht => exact .tell hs hv ht
  | keepSilent hs hv ht => exact .keepSilent hs hv ht
  | rideOut hs hv => exact .rideOut hs hv
  | napFreely hs | late hs | nap hs => exact absurd hs tiring
  | wake hs hw => exact .wake hs hw
  | conclude hs =>
      rw [withTimeout_setState]
      exact .conclude hs
  | release hs => exact .release hs
  | recordStart hs => exact .recordStart hs
  | recordRun hs => exact .recordRun hs
  | report hs => exact .report hs

theorem Spent.moves (spent : p.Spent now) (goes : p.Goes)
    (hm : Moves now active p p' active' told) :
    p'.Spent now ∧ told.toList.filter DownloadEvent.isProgress = [] := by
  cases spent with
  | round hs expired =>
      cases hm with
      | look _ _ => exact ⟨.round (.inr rfl) expired, rfl⟩
      | expire _ _ => exact ⟨.late rfl, rfl⟩
      | lookStopped _ hg => simp [goes.isOpen] at hg
      | inTime _ he => simp [expired] at he
      | _ => simp_all
  | tiring hs expired =>
      obtain ⟨start, hstart⟩ :=
        Option.isSome_iff_exists.1 (goes.clock (by simp [hs, Stage.hasEntered]))
      obtain ⟨near, due⟩ := (isExpired_iff hstart).1 expired
      have hd := deadline_of_startedAt hstart near now
      cases hm with
      | napFreely _ hfree => simp [hd] at hfree
      | late _ hd' hl =>
          obtain rfl := Option.some.inj (hd.symm.trans hd')
          exact ⟨.round (.inl rfl) ((isExpired_iff hstart).2 ⟨near, hl⟩), rfl⟩
      | nap _ hd' hl =>
          obtain rfl := Option.some.inj (hd.symm.trans hd')
          refine ⟨.napping rfl ((isExpired_iff hstart).2 ⟨near, ?_⟩), rfl⟩
          show _ + p.config.timeout.nanos ≤ _
          omega
      | _ => simp_all
  | napping hs expired =>
      cases hm with
      | wake hs' hw =>
          obtain rfl := Stage.napping.inj (hs.symm.trans hs')
          simp only [goes.isOpen, Bool.false_or, decide_eq_true_eq] at hw
          rw [Nat.max_eq_left hw] at expired
          exact ⟨.round (.inl rfl) expired, rfl⟩
      | _ => simp_all
  | late hk =>
      refine ⟨.late (known_changes goes.sound (.move hm) hk), ?_⟩
      have ho := goes.sound.outcome
      cases hm <;>
        simp_all [known, OutcomeFits, Stage.pending?, DownloadEvent.isProgress,
          DownloadEvent.progress?]

/-- The time limit a poller names is its own, and the progress it names is the last it told. -/
def NamesLast (p : Poller) : Prop :=
  ∀ after last, p.known = some (.timedOut after last) →
    after = p.config.timeout ∧ last = p.told.head?

theorem NamesLast.changes (h : p.NamesLast) (sound : p.Sound) (hc : p.Changes p') :
    p'.NamesLast := by
  have ho := sound.outcome
  intro after last hk
  cases hc with
  | none | run | halt => exact h after last hk
  | start hs | startRun hs | startAnswered _ hs | statusAnswered _ hs =>
      simp_all [known, OutcomeFits, Stage.pending?]
  | move hm =>
      cases hm with
      | expire hs he =>
          simp only [known, Stage.pending?, Option.some_or, Option.some.injEq,
            DownloadOutcome.timedOut.injEq] at hk
          exact ⟨hk.1.symm, hk.2.symm⟩
      | decide hs hv =>
          simp only [known, Stage.pending?, Option.some_or, Option.some.injEq] at hk
          cases StatusResult.verdict_eq_decided_iff.1 hv <;> cases hk
      | _ => simp_all [NamesLast, known, OutcomeFits, Stage.pending?]

end Poller

namespace Scene

variable {τ : Type} [Transport τ] {s : Scene τ} {p : Poller} {a : Advance τ} {timeout : Duration}

theorem goes_of_advance (h : s.advance p = some a) (goes : p.Goes) : a.poller.Goes where
  sound := goes.sound.changes (changes_of_advance h)
  isOpen := by rw [isStopped_of_advance h, goes.isOpen]
  clock := Poller.startedAt_changes (changes_of_advance h) goes.clock

/-- One step of a poller that is not spent is the same with a longer timeout. -/
theorem advance_withTimeout (goes : p.Goes) (h : p.config.timeout.nanos ≤ timeout.nanos)
    (busy : ¬ p.Spent s.now) :
    s.advance (p.withTimeout timeout) =
      (s.advance p).map fun a => { a with poller := a.poller.withTimeout timeout } := by
  rcases p.next_cases s.now s.client.active with ⟨p', active', told, hm⟩ | ⟨c, hc, hn⟩ |
    ⟨wake, hs, hg, hl, hn⟩ | ⟨hr, hn⟩
  · have hlong := Poller.moves_withTimeout goes h busy hm
    simp [advance, Poller.next_of_moves hm, Poller.next_of_moves hlong]
  · have hlong : (p.withTimeout timeout).next s.now s.client.active = .call c :=
      Poller.next_eq_call_iff.2 hc
    simp [advance, hn, hlong, Poller.withTimeout_receive]
  · have hlong : (p.withTimeout timeout).next s.now s.client.active = .sleep wake := by
      simp [Poller.next, hs, hg, Nat.not_le.2 hl]
    simp [advance, hn, hlong]
  · have hlong : (p.withTimeout timeout).next s.now s.client.active = .rest := by
      rcases hr with hs | hs | ⟨hs, hr⟩
      · simp [Poller.next, hs]
      · simp [Poller.next, hs]
      · simp [Poller.next, hs, Poller.withTimeout, hr]
    simp [advance, hn, hlong]

theorem spent_of_advance (h : s.advance p = some a) (goes : p.Goes) (spent : p.Spent s.now) :
    a.poller.Spent a.scene.now ∧ a.told.filter DownloadEvent.isProgress = [] := by
  rcases p.next_cases s.now s.client.active with ⟨p', active', told, hm⟩ | ⟨c, hc, hn⟩ |
    ⟨wake, hs, _, _, hn⟩ | ⟨_, hn⟩
  · simp only [advance, Poller.next_of_moves hm, Option.some.injEq] at h
    subst h
    exact spent.moves goes hm
  · have known (outcome : DownloadOutcome) (hk : p.known = some outcome) :
        a.poller.known = some outcome :=
      Poller.known_changes goes.sound (changes_of_advance h) hk
    simp only [advance, hn, Option.some.injEq] at h
    subst h
    cases spent with
    | late hk => exact ⟨.late (known _ hk), rfl⟩
    | round hs _ => rcases hs with hs | hs <;> simp [Poller.call?, hs] at hc
    | tiring hs _ | napping hs _ => simp [Poller.call?, hs] at hc
  · simp only [advance, hn, Option.some.injEq] at h
    subst h
    refine ⟨?_, rfl⟩
    cases spent with
    | late hk => exact .late hk
    | napping hs' expired =>
        obtain rfl := Stage.napping.inj (hs.symm.trans hs')
        exact .napping hs' (by simpa using expired)
    | round hs' _ => rcases hs' with hs' | hs' <;> simp [hs] at hs'
    | tiring hs' _ => simp [hs] at hs'
  · simp [advance, hn] at h

theorem spent_runStopping (goes : p.Goes) (spent : p.Spent s.now) (n : Nat) :
    (s.runStopping .never n p).poller.Spent (s.runStopping .never n p).scene.now ∧
      (s.runStopping .never n p).told.filter DownloadEvent.isProgress = [] := by
  induction n generalizing s p with
  | zero => exact ⟨spent, rfl⟩
  | succ n ih =>
      cases ha : s.advance p with
      | none =>
          rw [runStopping_of_rest (n + 1) ha]
          exact ⟨spent, rfl⟩
      | some a =>
          obtain ⟨later, silent⟩ := spent_of_advance ha goes spent
          obtain ⟨last, rest⟩ := ih (goes_of_advance ha goes) later
          rw [runStopping_succ n ha]
          exact ⟨last, by rw [List.filter_append, silent, rest, List.append_nil]⟩

theorem config_of_advance (h : s.advance p = some a) : a.poller.config = p.config :=
  Poller.config_changes (changes_of_advance h)

theorem runStopping_withTimeout (goes : p.Goes) (h : p.config.timeout.nanos ≤ timeout.nanos)
    (n : Nat)
    (busy : ¬ (s.runStopping .never n p).poller.Spent (s.runStopping .never n p).scene.now) :
    s.runStopping .never n (p.withTimeout timeout) =
      { s.runStopping .never n p with
        poller := (s.runStopping .never n p).poller.withTimeout timeout } ∧
    callsOf n s (p.withTimeout timeout) = callsOf n s p := by
  induction n generalizing s p with
  | zero => exact ⟨rfl, rfl⟩
  | succ n ih =>
      have same := advance_withTimeout goes h
        (mt (fun spent => (spent_runStopping goes spent (n + 1)).1) busy)
      cases ha : s.advance p with
      | none =>
          rw [ha, Option.map_none] at same
          rw [runStopping_of_rest _ ha, runStopping_of_rest _ same, callsOf_of_rest _ ha,
            callsOf_of_rest _ same]
          exact ⟨rfl, rfl⟩
      | some a =>
          rw [ha, Option.map_some] at same
          rw [runStopping_succ n ha] at busy ⊢
          rw [runStopping_succ n same, callsOf_succ n ha, callsOf_succ n same]
          obtain ⟨hrun, hcalls⟩ :=
            ih (goes_of_advance ha goes) (by rwa [config_of_advance ha]) busy
          exact ⟨by rw [hrun], by rw [hcalls, Poller.withTimeout_call?]⟩

/-- With a longer timeout a run tells whatever progress it told with the shorter one. -/
theorem progress_of_timeout_le (goes : p.Goes) (h : p.config.timeout.nanos ≤ timeout.nanos)
    (n : Nat) :
    (s.runStopping .never n p).told.filter DownloadEvent.isProgress <+:
      (s.runStopping .never n (p.withTimeout timeout)).told.filter DownloadEvent.isProgress := by
  induction n generalizing s p with
  | zero => exact List.nil_prefix
  | succ n ih =>
      by_cases spent : p.Spent s.now
      · rw [(spent_runStopping goes spent (n + 1)).2]
        exact List.nil_prefix
      have same := advance_withTimeout goes h spent
      cases ha : s.advance p with
      | none =>
          rw [runStopping_of_rest _ ha]
          exact List.nil_prefix
      | some a =>
          rw [ha, Option.map_some] at same
          rw [runStopping_succ n ha, runStopping_succ n same, List.filter_append,
            List.filter_append]
          exact (List.prefix_append_right_inj _).2
            (ih (goes_of_advance ha goes) (by rwa [config_of_advance ha]))

theorem namesLast_runStopping (sound : p.Sound) (names : p.NamesLast) (n : Nat) :
    (s.runStopping .never n p).poller.NamesLast :=
  (runStopping_of_kept (P := fun _ p => p.Sound ∧ p.NamesLast)
    (fun ha hp => ⟨hp.1.changes (changes_of_advance ha), hp.2.changes hp.1 (changes_of_advance ha)⟩)
    ⟨sound, names⟩ n).2

theorem config_runStopping (n : Nat) : (s.runStopping .never n p).poller.config = p.config :=
  runStopping_of_kept (P := fun _ q => q.config = p.config)
    (fun ha hq => (config_of_advance ha).trans hq) rfl n

/-- What `n` steps of one poller foretell of `m` steps of another one in the same place. -/
structure Foretells (s : Scene τ) (p q : Poller) (n m : Nat) : Prop where
  /-- Where the backend decides, the other poller comes to the same end in the same way. -/
  decided : ∀ outcome, (s.runStopping .never n p).poller.stage = .ended →
    (s.runStopping .never n p).poller.outcome = some outcome → outcome.IsDecided →
    (s.runStopping .never m q).poller.stage = .ended ∧
    (s.runStopping .never m q).poller.outcome = some outcome ∧
    (s.runStopping .never m q).told = (s.runStopping .never n p).told ∧
    callsOf m s q = callsOf n s p
  /-- Where time runs out, the other poller has told the same progress at first. The outcome names
  the last of it. -/
  timedOut : ∀ after last, (s.runStopping .never n p).poller.stage = .ended →
    (s.runStopping .never n p).poller.outcome = some (.timedOut after last) →
    (s.runStopping .never n p).told.filter DownloadEvent.isProgress <+:
      (s.runStopping .never m q).told.filter DownloadEvent.isProgress ∧
    after = p.config.timeout ∧
    last = ((s.runStopping .never n p).told.filterMap DownloadEvent.progress?).getLast?

theorem foretells_withTimeout (goes : p.Goes) (names : p.NamesLast) (untold : p.told = [])
    (h : p.config.timeout.nanos ≤ timeout.nanos) {n m : Nat} (hm : n ≤ m) :
    s.Foretells p (p.withTimeout timeout) n m where
  decided outcome ended noted decided := by
    have known : (s.runStopping .never n p).poller.known = some outcome := by
      simp [Poller.known, ended, noted, Stage.pending?]
    have busy : ¬ (s.runStopping .never n p).poller.Spent (s.runStopping .never n p).scene.now := by
      intro spent
      cases spent with
      | round hs | tiring hs | napping hs => simp [ended] at hs
      | late hk =>
          obtain rfl := Option.some.inj (known.symm.trans hk)
          exact decided
    obtain ⟨hrun, hcalls⟩ := runStopping_withTimeout goes h n busy
    have endedLong : (s.runStopping .never n (p.withTimeout timeout)).poller.stage = .ended := by
      rw [hrun]
      exact ended
    obtain ⟨stays, callsStay⟩ := stays_of_ended hm endedLong
    rw [stays, callsStay, hrun, hcalls]
    exact ⟨ended, noted, rfl, rfl⟩
  timedOut after last ended noted := by
    have known : (s.runStopping .never n p).poller.known = some (.timedOut after last) := by
      simp [Poller.known, ended, noted, Stage.pending?]
    obtain ⟨hafter, hlast⟩ := namesLast_runStopping goes.sound names n after last known
    rw [config_runStopping] at hafter
    rw [told_runStopping, untold, List.append_nil, List.head?_reverse] at hlast
    exact ⟨(progress_of_timeout_le goes h n).trans ((told_prefix_of_le hm).filter _), hafter, hlast⟩

/-- More patience changes nothing about a download that was decided without it, and keeps the
progress of one that was not. The run over a transport is the case of as many steps as it has
fuel. -/
theorem foretells_of_timeout_le (s : Scene τ) (model : String) (interval short long : Duration)
    (h : short.nanos ≤ long.nanos) {n m : Nat} (hm : n ≤ m) :
    s.Foretells (Poller.new model ⟨interval, short⟩).requestRun
      (Poller.new model ⟨interval, long⟩).requestRun n m :=
  foretells_withTimeout (Poller.goes_new model ⟨interval, short⟩) nofun rfl h hm

end Scene

/-- Calls take a second each. With two seconds the first reading is all there is time for; with
three the second status call still begins, and the download completes. -/
theorem third_second_completes :
    let s : Scene InMemory := .fresh
      { InMemory.empty with
        scripts := [("phi",
          ⟨[.ok "\x7b\"progress\":10\x7d", .ok "\x7b\"completed\":true\x7d"], none⟩)]
        latency := 1000000000 }
    let short := (Poller.new "phi" ⟨.ofMillis 500, .ofSeconds 2⟩).requestRun
    let long := (Poller.new "phi" ⟨.ofMillis 500, .ofSeconds 3⟩).requestRun
    (s.runStopping .never 23 short).poller.outcome =
      some (.timedOut (.ofSeconds 2) (some (.ofNat 10))) ∧
    (s.runStopping .never 23 short).told.filter DownloadEvent.isProgress <+:
      (s.runStopping .never 60 long).told.filter DownloadEvent.isProgress ∧
    (s.runStopping .never 60 long).poller.outcome =
      some (.completed ⟨"phi", .zero, true, .completed, none, none, none⟩) := by
  intro s short long
  have foretells : s.Foretells short long 23 60 :=
    Scene.foretells_of_timeout_le s "phi" (.ofMillis 500) (.ofSeconds 2) (.ofSeconds 3) (by decide)
      (by decide)
  have out : (s.runStopping .never 23 short).poller.outcome =
      some (.timedOut (.ofSeconds 2) (some (.ofNat 10))) := by
    decide +kernel
  have stage : (s.runStopping .never 23 short).poller.stage = .ended :=
    Stage.toEnd_eq_zero (by decide +kernel)
  exact ⟨out, (foretells.timedOut _ _ stage out).1, by decide +kernel⟩

end ModelDepot
