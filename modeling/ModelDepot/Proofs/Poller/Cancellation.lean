import ModelDepot.Proofs.Poller.Calls

/-! # A stop at any moment

Whatever a poller is about when a stop closes its gate, no status call begins any more and the
poller comes to its end. The end is a cancellation unless the outcome was on its way already.
-/

namespace ModelDepot

namespace Life

variable {l : Life} {acts : List Act} {t : Passage}

section Doomed

variable (h : l.poller.Doomed) (acts : List Act)

include h

theorem doomed_afterAll : (l.afterAll acts).poller.Doomed :=
  afterAll_of_changes (fun hc hd => hd.changes hc) h acts

theorem progress_afterAll_of_doomed : (l.afterAll acts).poller.progress = l.poller.progress := by
  have kept := afterAll_of_changes (P := fun p => p.Doomed ∧ p.progress = l.poller.progress)
    (fun hc hp => ⟨hp.1.changes hc, (hp.1.progress_eq hc).trans hp.2⟩) ⟨h, rfl⟩ acts
  exact kept.2

theorem told_of_doomed {e : DownloadEvent} (he : e ∈ l.told acts) :
    e = .finished l.poller.model .cancelled := by
  obtain ⟨t, ht, het⟩ := List.mem_flatMap.1 he
  obtain ⟨before, a, later, -, rfl⟩ := mem_passages_iff.1 ht
  cases a with
  | go now active =>
      rw [← model_afterAll l before]
      exact (doomed_afterAll h before).tells_eq het
  | _ => cases het

theorem holdsName_of_doomed (hn : l.poller.holdsName = false) (ht : t ∈ l.passages acts) :
    t.was.holdsName = false ∧ t.now.holdsName = false := by
  have free := was_of_changes (P := fun p => p.Doomed ∧ p.holdsName = false)
    (fun hc hp => ⟨hp.1.changes hc, hp.1.holdsName_eq hc hp.2⟩) ⟨h, hn⟩ ht
  exact ⟨free.2, free.1.holdsName_eq (changes_of_mem ht) free.2⟩

end Doomed

/-- Behind a closed gate nobody comes to a deadline check or to a reply that counts but who was
there when it closed. -/
theorem stage_of_stopped (stopped : l.poller.gate = .stopped) (ht : t ∈ l.passages acts) :
    (t.was.stage = .timing → l.poller.stage = .timing) ∧
    (∀ r, t.was.stage = .accepted r → l.poller.stage = .accepted r) := by
  have kept := was_of_changes
    (P := fun p => p.gate = .stopped ∧ (p.stage = .timing → l.poller.stage = .timing) ∧
      ∀ r, p.stage = .accepted r → l.poller.stage = .accepted r)
    (fun hc hp => by
      obtain ⟨timing, -, accepted⟩ := Poller.stage_changes_of_stopped hp.1 hc
      exact ⟨Poller.stopped_changes hc hp.1, fun h => hp.2.1 (timing h),
        fun r h => hp.2.2 r (accepted r h)⟩)
    ⟨stopped, id, fun _ => id⟩ ht
  exact kept.2

theorem idle_afterAll (h : l.poller.stage = .idle) (unasked : ∀ a ∈ acts, a ≠ .start ∧ a ≠ .run) :
    (l.afterAll acts).poller.stage = .idle := by
  refine afterAll_of_after (P := fun p => p.stage = .idle) (fun l a ha hi => ?_) h
  cases a with
  | start => exact absurd rfl (unasked _ ha).1
  | run => exact absurd rfl (unasked _ ha).2
  | go now active => simp [after, Poller.go, Poller.next, hi]
  | answer reply => simp [after, Poller.receive, hi]
  | look =>
      simp only [after]
      split <;> exact hi
  | close =>
      simp only [after]
      split <;> exact hi

end Life

/-- The poller makes no call and holds no name. -/
def Poller.IsQuiet (p : Poller) : Prop :=
  p.call? = none ∧ p.holdsName = false

/-- The outcomes that a stop does not turn into a cancellation, given the passages before its gate
was closed, those after it, and the poller in between. -/
inductive Excused (before later : List Passage) (between : Poller) : DownloadOutcome → Prop where
  /-- A decisive reply had been let through. -/
  | decided {t r outcome} : t ∈ before → t.Accepts r → StatusResult.Decides r outcome →
      Excused before later between outcome
  /-- The deadline had been found to have come. -/
  | expired {t outcome} : t ∈ before → t.Expires outcome → Excused before later between outcome
  /-- The gate had been looked at, and the deadline has come when it is checked next. -/
  | expires {t outcome} : between.stage = .timing → t ∈ later → t.Expires outcome →
      Excused before later between outcome
  /-- The start fails, be it before or after. -/
  | failsToStart {t outcome} : t ∈ before ++ later → t.FailsToStart outcome →
      Excused before later between outcome

/-- What follows when a stop closes the gate after the acts `before` and the acts `later` come after
it. -/
structure Halted (l : Life) (before later : List Act) (closed : Life) : Prop where
  /-- No status call begins, and only one that is in flight is answered. -/
  calls : closed.begun later = 0 ∧ l.finished before + closed.answered later ≤ l.begun before
  /-- A status call in flight leaves no trace. -/
  inFlight : l.begun before = l.finished before + 1 →
    (closed.afterAll later).poller.progress = (l.afterAll before).poller.progress ∧
    (∀ e ∈ closed.told later, e = .finished l.poller.model .cancelled) ∧
    ∀ outcome, (closed.afterAll later).poller.known = some outcome → outcome = .cancelled
  /-- A poller that was not asked to start makes no call and takes no name. -/
  unasked : (∀ a ∈ before, a ≠ .start ∧ a ≠ .run) →
    l.calls (before ++ .close :: later) = [] ∧
    (∀ t ∈ l.passages (before ++ .close :: later), t.was.IsQuiet ∧ t.now.IsQuiet) ∧
    ∀ outcome, (closed.afterAll later).poller.known = some outcome → outcome = .cancelled
  /-- The outcome is a cancellation, with the exceptions named. -/
  outcome : ∀ outcome, (closed.afterAll later).poller.known = some outcome →
    outcome = .cancelled ∨
    Excused (l.passages before) (closed.passages later) (l.afterAll before).poller outcome
  /-- A run ends in thirteen turns. -/
  ends : ∀ answers around n, 13 ≤ n → ∃ turns outcome,
    ((closed.afterAll later).poller.requestRun.course answers around n).poller =
      (closed.afterAll (later ++ .run :: turns)).poller ∧
    (closed.afterAll (later ++ .run :: turns)).poller.stage = .ended ∧
    (closed.afterAll (later ++ .run :: turns)).poller.outcome = some outcome

namespace Life

variable {before later : List Act}

section Closed

variable {l : Life} (sound : l.poller.Sound) (stopped : l.poller.gate = .stopped)

include sound stopped

theorem exists_ended_of_stopped (answers : Nat → Reply) (around : Nat → Moment) {n : Nat}
    (hn : 13 ≤ n) (later : List Act) : ∃ turns outcome,
    ((l.afterAll later).poller.requestRun.course answers around n).poller =
      (l.afterAll (later ++ .run :: turns)).poller ∧
    (l.afterAll (later ++ .run :: turns)).poller.stage = .ended ∧
    (l.afterAll (later ++ .run :: turns)).poller.outcome = some outcome := by
  obtain ⟨turns, hturns⟩ :=
    Course.exists_acts (l.afterAll later).poller.requestRun answers around n
  have same : (l.afterAll (later ++ .run :: turns)).poller =
      ((l.afterAll later).poller.requestRun.course answers around n).poller := by
    rw [afterAll_append, afterAll_cons]
    exact congrArg Life.poller (hturns (l.afterAll later).stopping).1
  have closed : (l.afterAll later).poller.requestRun.gate = .stopped :=
    Poller.stopped_changes (Poller.changes_requestRun _)
      (afterAll_of_changes Poller.stopped_changes stopped later)
  have ended : (l.afterAll (later ++ .run :: turns)).poller.stage = .ended := by
    rw [same]
    exact Course.ended_of_closing
      ((sound_afterAll sound later).changes (Poller.changes_requestRun _)) (.inl closed)
      (Poller.underway_requestRun _) answers around hn
  have noted := (sound_afterAll sound (later ++ .run :: turns)).outcome
  simp only [Poller.OutcomeFits, ended] at noted
  obtain ⟨outcome, ho⟩ := Option.isSome_iff_exists.1 noted
  exact ⟨turns, outcome, same.symm, ended, ho⟩

end Closed

section Stop

variable {l closed : Life} (hclosed : closed.poller = (l.afterAll before).poller.halt)

theorem after_close (going : 0 < l.stopping) : (l.after .close).poller = l.poller.halt := by
  obtain ⟨n, hn⟩ := Nat.exists_eq_succ_of_ne_zero (Nat.ne_of_gt going)
  simp [after, hn]

theorem exists_accepts_of_mem {r : StatusResult} (uncounted : ∀ r, l.poller.stage ≠ .accepted r)
    (ht : t ∈ l.passages acts) (hs : t.was.stage = .accepted r) :
    ∃ t ∈ l.passages acts, t.Accepts r := by
  obtain ⟨first, a, rest, rfl, rfl⟩ := mem_passages_iff.1 ht
  obtain ⟨t, ht, haccepts⟩ := exists_accepts uncounted hs
  exact ⟨t, by rw [passages_append]; exact List.mem_append_left _ ht, haccepts⟩

include hclosed

theorem excused_of_known (sound : l.poller.Sound) (unknown : l.poller.known = none)
    (uncounted : ∀ r, l.poller.stage ≠ .accepted r) {outcome : DownloadOutcome}
    (hk : (closed.afterAll later).poller.known = some outcome) :
    outcome = .cancelled ∨
    Excused (l.passages before) (closed.passages later) (l.afterAll before).poller outcome := by
  have between := sound_afterAll sound before
  have stopped : closed.poller.gate = .stopped := by rw [hclosed]; rfl
  have soundClosed : closed.poller.Sound := by rw [hclosed]; exact between.changes .halt
  have sameKnown : closed.poller.known = (l.afterAll before).poller.known := by rw [hclosed]; rfl
  have sameStage : closed.poller.stage = (l.afterAll before).poller.stage := by rw [hclosed]; rfl
  cases hb : (l.afterAll before).poller.known with
  | some other =>
      -- the outcome was known before, so the act that settled it came before
      have final := known_afterAll soundClosed (sameKnown.trans hb) later
      rw [hk] at final
      cases final
      obtain ⟨t, ht, settles⟩ := exists_settles sound unknown hb
      cases settles with
      | cancelled => exact .inl rfl
      | timedOut hs hs' => exact .inr (.expired ht ⟨hs, ⟨_, rfl⟩, hs'⟩)
      | decided hs hd =>
          obtain ⟨t', ht', accepts⟩ := exists_accepts_of_mem uncounted ht hs
          exact .inr (.decided ht' accepts hd)
      | alreadyActive hs hs' =>
          exact .inr (.failsToStart (List.mem_append_left _ ht) ⟨.inl ⟨hs, rfl⟩, hs'⟩)
      | rejected hs hs' =>
          exact .inr (.failsToStart (List.mem_append_left _ ht) ⟨.inr ⟨_, hs, rfl⟩, hs'⟩)
  | none =>
      -- settled later, but a deadline check or an accepted reply must have been there already
      obtain ⟨t, ht, settles⟩ := exists_settles soundClosed (sameKnown.trans hb) hk
      obtain ⟨timing, accepted⟩ := stage_of_stopped stopped ht
      cases settles with
      | cancelled => exact .inl rfl
      | timedOut hs hs' =>
          exact .inr (.expires (sameStage ▸ timing hs) ht ⟨hs, ⟨_, rfl⟩, hs'⟩)
      | decided hs hd =>
          obtain ⟨t', ht', accepts⟩ := exists_accepts uncounted (sameStage ▸ accepted _ hs)
          exact .inr (.decided ht' accepts hd)
      | alreadyActive hs hs' =>
          exact .inr (.failsToStart (List.mem_append_right _ ht) ⟨.inl ⟨hs, rfl⟩, hs'⟩)
      | rejected hs hs' =>
          exact .inr (.failsToStart (List.mem_append_right _ ht) ⟨.inr ⟨_, hs, rfl⟩, hs'⟩)

theorem doomed_of_closed (sound : l.poller.Sound)
    (guarded : (l.afterAll before).poller.stage.isGuarded = true) : closed.poller.Doomed := by
  rw [hclosed]
  exact Poller.doomed_of_isGuarded ((sound_afterAll sound before).changes .halt) rfl guarded

/-- The calls in flight when the gate closes are the only ones answered behind it. -/
theorem calls_of_closed (quiet : l.poller.inFlight = 0) :
    closed.begun later = 0 ∧ l.finished before + closed.answered later ≤ l.begun before := by
  have stopped : closed.poller.gate = .stopped := by rw [hclosed]; rfl
  refine ⟨begun_eq_zero stopped, ?_⟩
  have answers : closed.answered later ≤ closed.poller.stage.isCalling.toNat := answered_le stopped
  have balanced := balance l before
  have calling : closed.poller.stage.isCalling.toNat ≤ (l.afterAll before).poller.inFlight := by
    rw [hclosed]
    simp only [Poller.halt, Poller.inFlight]
    cases (l.afterAll before).poller.stage <;> simp [Stage.isCalling, Stage.isInFlight]
  omega

theorem holdsName_of_unasked (sound : l.poller.Sound) (idle : l.poller.stage = .idle)
    (hafter : (l.afterAll before).after .close = closed)
    (unasked : ∀ a ∈ before, a ≠ .start ∧ a ≠ .run)
    (ht : t ∈ l.passages (before ++ .close :: later)) :
    t.was.holdsName = false ∧ t.now.holdsName = false := by
  have free : ∀ first, (∀ a ∈ first, a ≠ .start ∧ a ≠ .run) →
      (l.afterAll first).poller.holdsName = false := by
    intro first hfirst
    have fits := (sound_afterAll sound first).name
    simpa only [Poller.NameFits, idle_afterAll idle hfirst] using fits
  have doomed : closed.poller.Doomed :=
    doomed_of_closed hclosed sound (by rw [idle_afterAll idle unasked]; rfl)
  have freeClosed : closed.poller.holdsName = false := by
    rw [hclosed]
    exact free before unasked
  rw [passages_append, passages, hafter] at ht
  rcases List.mem_append.1 ht with ht | ht
  · obtain ⟨first, a, rest, rfl, rfl⟩ := mem_passages_iff.1 ht
    have now := free (first ++ [a]) fun b hb => by
      rcases List.mem_append.1 hb with hb | hb
      · exact unasked b (List.mem_append_left _ hb)
      · obtain rfl := List.mem_singleton.1 hb
        exact unasked b (List.mem_append_right _ List.mem_cons_self)
    rw [afterAll_append] at now
    exact ⟨free first fun b hb => unasked b (List.mem_append_left _ hb), now⟩
  rcases List.mem_cons.1 ht with rfl | ht
  · exact ⟨free before unasked, by simpa only [passage, hafter] using freeClosed⟩
  · exact holdsName_of_doomed doomed later freeClosed ht

end Stop

section Fresh

variable (model : String) (config : PollerConfig)

theorem begun_le_finished (acts : List Act) :
    (fresh model config).finished acts ≤ (fresh model config).begun acts ∧
    (fresh model config).begun acts ≤ (fresh model config).finished acts + 1 := by
  have balanced := balance (fresh model config) acts
  have quiet : (fresh model config).poller.inFlight = 0 := rfl
  have one : ((fresh model config).afterAll acts).poller.inFlight ≤ 1 := Bool.toNat_le _
  omega

theorem halted_fresh (going : 0 < ((fresh model config).afterAll before).stopping) :
    Halted (fresh model config) before later
      (((fresh model config).afterAll before).after .close) := by
  have sound : (fresh model config).poller.Sound := Poller.sound_new model config
  have hclosed := after_close going
  have stopped : (((fresh model config).afterAll before).after .close).poller.gate = .stopped := by
    rw [hclosed]
    rfl
  have named : (((fresh model config).afterAll before).after .close).poller.model = model := by
    rw [hclosed]
    exact model_afterAll (fresh model config) before
  refine ⟨calls_of_closed hclosed rfl, ?_, ?_, ?_, ?_⟩
  · intro oneMore
    have balanced := balance (fresh model config) before
    have quiet : (fresh model config).poller.inFlight = 0 := rfl
    have doomed := doomed_of_closed hclosed sound (by
      have busy : ((fresh model config).afterAll before).poller.inFlight = 1 := by omega
      cases hs : ((fresh model config).afterAll before).poller.stage <;>
        simp_all [Poller.inFlight, Stage.isInFlight, Stage.isGuarded])
    refine ⟨?_, fun e he => ?_, fun outcome hk => (doomed_afterAll doomed later).known_eq hk⟩
    · rw [progress_afterAll_of_doomed doomed, hclosed]
      rfl
    · rw [told_of_doomed doomed later he, named]
      rfl
  · intro unasked
    have quiet : ∀ t ∈ (fresh model config).passages (before ++ .close :: later),
        t.was.IsQuiet ∧ t.now.IsQuiet := by
      intro t ht
      obtain ⟨wasFree, nowFree⟩ := holdsName_of_unasked hclosed sound rfl rfl unasked ht
      have soundWas := sound_was sound ht
      have soundNow := soundWas.changes (changes_of_mem ht)
      exact ⟨⟨Poller.call?_eq_none soundWas wasFree, wasFree⟩,
        ⟨Poller.call?_eq_none soundNow nowFree, nowFree⟩⟩
    have doomed := doomed_of_closed hclosed sound (by rw [idle_afterAll rfl unasked]; rfl)
    exact ⟨calls_eq_nil fun t ht => (quiet t ht).1.1, quiet,
      fun outcome hk => (doomed_afterAll doomed later).known_eq hk⟩
  · intro outcome hk
    exact excused_of_known hclosed sound rfl (fun _ h => by cases h) hk
  · intro answers around n hn
    have soundClosed := (sound_afterAll sound before).changes (changes_after _ .close)
    exact exists_ended_of_stopped soundClosed stopped answers around hn later

end Fresh

end Life

/-- At most one status call is in flight at any time; and a stop that found the poller going, at
whatever moment it closes the gate and whatever acts and other stops come before and after, has all
the consequences of `Halted`. -/
theorem stop_at_any_moment (model : String) (config : PollerConfig) (before later : List Act)
    (going : 0 < ((Life.fresh model config).afterAll before).stopping) :
    (∀ acts, (Life.fresh model config).finished acts ≤ (Life.fresh model config).begun acts ∧
      (Life.fresh model config).begun acts ≤ (Life.fresh model config).finished acts + 1) ∧
    Halted (Life.fresh model config) before later
      (((Life.fresh model config).afterAll before).after .close) :=
  ⟨Life.begun_le_finished model config, Life.halted_fresh model config going⟩

/-- A stop while the first status call is in flight: the reply that comes would have completed the
download, and is discarded. -/
theorem stop_at_any_moment_in_flight :
    let l := Life.fresh "phi" ⟨.ofSeconds 1, .ofSeconds 60⟩
    let before : List Act := [.start, .go 0 .none, .go 0 .none, .go 0 .none,
      .answer (.ok "\x7b\x7d"), .go 0 .none, .run, .go 0 .none, .go 0 .none, .go 0 .none,
      .go 0 .none, .look]
    let closed := (l.afterAll before).after .close
    let later : List Act := [.answer (.ok "\x7b\"status\":\"completed\"\x7d"), .go 1 .none]
    (closed.afterAll later).poller.progress = .start ∧
    (closed.afterAll later).poller.known = some .cancelled := by
  intro l before closed later
  have halted := (stop_at_any_moment "phi" ⟨.ofSeconds 1, .ofSeconds 60⟩ before later
    (by decide +kernel)).2
  obtain ⟨progress, -, cancelled⟩ := halted.inFlight (by decide +kernel)
  refine ⟨progress.trans rfl, ?_⟩
  cases hk : (closed.afterAll later).poller.known with
  | none =>
      have decided : (closed.afterAll later).poller.known.isSome = true := by decide +kernel
      rw [hk] at decided
      cases decided
  | some outcome => rw [cancelled outcome hk]

end ModelDepot
