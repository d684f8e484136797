import Mathlib.Data.List.Induction
import ModelDepot.Proofs.Poller.Clock
import ModelDepot.Proofs.Poller.Calls

/-! # The deadline

The deadline is checked before every status call and naps end at it at the latest. So no call begins
once it has come, and time is never found to be up before. A call that began in time may be answered
late: a decisive reply counts all the same, any other is the last.
-/

namespace ModelDepot

open StatusResult

/-! ## Out of time -/

namespace Poller

variable {p p' : Poller} {now : Nat} {active active' : ActiveDownloads}
  {told : Option DownloadEvent}

theorem isExpired_of_known (hm : Moves now active p p' active' told) (unknown : p.known = none)
    {after : Duration} {last : Option Binary64} (hk : p'.known = some (.timedOut after last)) :
    p.stage.hasEntered = true ∧ p.isExpired now = true ∧ after = p.config.timeout := by
  cases hm with
  | expire hs he =>
      obtain ⟨rfl, -⟩ : p.config.timeout = after ∧ p.told.head? = last := by
        simpa [known, Stage.pending?] using hk
      exact ⟨by rw [hs]; rfl, he, rfl⟩
  | decide hs hv =>
      simp only [known, Stage.pending?, Option.some_or, Option.some.injEq] at hk
      subst hk
      cases verdict_eq_decided_iff.1 hv
  | _ => simp_all [known, Stage.pending?]

/-- Only a deadline check that is passed leads to the gate. -/
theorem stage_of_moves_beginning (hm : Moves now active p p' active' told)
    (beginning : p'.stage = .beginning) : p.stage = .timing ∧ p.isExpired now = false := by
  cases hm with
  | inTime hs he => exact ⟨hs, he⟩
  | _ => simp_all

theorem stage_of_moves_napping {wake : Nat} (hm : Moves now active p p' active' told)
    (nap : p'.stage = .napping wake) : p.stage = .tiring := by
  cases hm with
  | napFreely hs | nap hs => exact hs
  | _ => simp_all

/-- A nap begins before the deadline and ends at it at the latest. -/
theorem nap_of_moves {s wake : Nat} (hs : p.startedAt = some s)
    (near : s + p.config.timeout.nanos < endOfTime) (hm : Moves now active p p' active' told)
    (nap : p'.stage = .napping wake) :
    now < s + p.config.timeout.nanos ∧ now ≤ wake ∧ wake ≤ s + p.config.timeout.nanos := by
  have deadline := deadline_of_startedAt hs near now
  cases hm with
  | napFreely _ hd =>
      rw [deadline] at hd
      cases hd
  | nap _ hd early =>
      rw [deadline] at hd
      cases hd
      cases nap
      omega
  | _ => simp_all

/-! ## A late answer -/

/-- The call of the round has been answered and the answer decides nothing. -/
def IsUndecided (p : Poller) : Prop :=
  match p.stage with
  | .received r | .accepted r => IsOpen r
  | .tiring | .looking | .timing => True
  | _ => False

/-- Time was up, or a stop has come. -/
def HasRunOut (p : Poller) : Prop :=
  (∃ last, p.known = some (.timedOut p.config.timeout last)) ∨
    p.known = some .cancelled ∧ p.gate = .stopped

/-- The steps from an answer that decides nothing to the deadline check. -/
def toCheck (p : Poller) : Nat :=
  match p.stage with
  | .received _ => 5
  | .accepted _ => 4
  | .tiring => 3
  | .looking => 2
  | .timing => 1
  | _ => 0

theorem IsUndecided.of_stage (h : p.IsUndecided) (same : p'.stage = p.stage) :
    p'.IsUndecided ∧ p'.toCheck = p.toCheck := by
  simpa only [IsUndecided, toCheck, same, and_true] using h

theorem IsUndecided.isBusy (h : p.IsUndecided) : p.stage.isBusy = true := by
  cases hs : p.stage <;> simp_all [IsUndecided, Stage.isBusy]

theorem IsUndecided.toCheck_pos (h : p.IsUndecided) : 0 < p.toCheck := by
  cases hs : p.stage <;> simp_all [IsUndecided, toCheck]

theorem IsUndecided.call?_eq_none (h : p.IsUndecided) : p.call? = none := by
  cases hs : p.stage <;> simp_all [IsUndecided, call?]

theorem IsUndecided.known_eq_none (sound : p.Sound) (h : p.IsUndecided) : p.known = none := by
  have ho := sound.outcome
  cases hs : p.stage <;> simp_all [IsUndecided, OutcomeFits, known, Stage.pending?]

theorem HasRunOut.call?_eq_none (sound : p.Sound) (h : p.HasRunOut) : p.call? = none := by
  have ho := sound.outcome
  cases hs : p.stage <;> simp_all [HasRunOut, OutcomeFits, known, Stage.pending?, call?]

theorem HasRunOut.changes (sound : p.Sound) (h : p.HasRunOut) (hc : p.Changes p') :
    p'.HasRunOut := by
  rcases h with ⟨last, hk⟩ | ⟨hk, stopped⟩
  · exact .inl ⟨last, by rw [config_changes hc]; exact known_changes sound hc hk⟩
  · exact .inr ⟨known_changes sound hc hk, stopped_changes hc stopped⟩

/-- Past the deadline each step of an undecided poller brings it nearer to the check, where it runs
out of time. -/
theorem IsUndecided.moves {s : Nat} (sound : p.Sound) (hs : p.startedAt = some s)
    (near : s + p.config.timeout.nanos < endOfTime) (late : s + p.config.timeout.nanos ≤ now)
    (h : p.IsUndecided) (hm : Moves now active p p' active' told) :
    p'.IsUndecided ∧ p'.toCheck < p.toCheck ∨ p'.HasRunOut := by
  have expired := (isExpired_iff hs).2 ⟨near, late⟩
  have hd := deadline_of_startedAt hs near now
  have hg := sound.gate
  cases hm with
  | finish hr | tell hr | keepSilent hr | rideOut hr | look hr | late hr =>
      simp_all [IsUndecided, toCheck]
  | expire hr => exact .inr (.inl ⟨_, rfl⟩)
  | inTime hr he => simp [expired] at he
  | lookStopped hr hstop => exact .inr (.inr ⟨rfl, PollGate.isStopped_iff.1 hstop⟩)
  | discard hr hne =>
      refine .inr (.inr ⟨rfl, ?_⟩)
      cases hp : p.gate <;> simp_all [GateFits]
  | decide hr hv =>
      simp only [IsUndecided, hr] at h
      exact absurd (verdict_eq_decided_iff.1 hv) (h _)
  | nap hr hd' early =>
      rw [hd] at hd'
      cases hd'
      omega
  | napFreely hr hd' =>
      rw [hd] at hd'
      cases hd'
  | _ => simp_all [IsUndecided]

theorem known_of_moves_received {r : StatusResult} (sound : p.Sound) (hs : p.stage = .received r)
    (hm : Moves now active p p' active' told) :
    p'.stage = .accepted r ∨ p.gate = .stopped ∧ p'.known = some .cancelled := by
  have hg := sound.gate
  cases hm with
  | finish hs' =>
      rw [hs] at hs'
      cases hs'
      exact .inl rfl
  | discard hs' hne =>
      refine .inr ⟨?_, rfl⟩
      cases hp : p.gate <;> simp_all [GateFits]
  | _ => simp_all

theorem known_of_moves_accepted {r : StatusResult} {outcome : DownloadOutcome}
    (hs : p.stage = .accepted r) (hd : r.Decides outcome)
    (hm : Moves now active p p' active' told) : p'.known = some outcome := by
  have hv := verdict_of_decides hd
  cases hm with
  | decide hs' hv' =>
      rw [hs] at hs'
      cases hs'
      rw [hv] at hv'
      cases hv'
      rfl
  | _ => simp_all

end Poller

namespace Life

variable {l : Life} {c before later : Chronicle} {d : Dated} {s : Nat}

theorem late_of_timedOut (starts : l.StartsAt c s) (split : c = before ++ d :: later)
    {after : Duration} {last : Option Binary64} (unknown : (l.through before).poller.known = none)
    (hk : (l.through (before ++ [d])).poller.known = some (.timedOut after last)) :
    s + l.poller.config.timeout.nanos < endOfTime ∧
    s + l.poller.config.timeout.nanos ≤ d.instant ∧ after = l.poller.config.timeout := by
  rw [through_concat] at hk
  rcases dated_cases (l.through before) d with ⟨_, _, _, _, hm⟩ | ⟨_, same⟩ | still
  · obtain ⟨entered, expired, hafter⟩ := Poller.isExpired_of_known hm unknown hk
    have noted := starts.startedAt split entered
    rw [config_through] at hafter
    rw [Poller.isExpired_iff noted, config_through] at expired
    exact ⟨expired.1, expired.2, hafter⟩
  · rw [same, unknown] at hk
    cases hk
  · rw [known_of_still still, unknown] at hk
    cases hk

/-- Whoever stands before the gate has passed the deadline check right before. -/
theorem exists_check (absent : l.poller.stage ≠ .beginning) (c : Chronicle)
    (hs : (l.through c).poller.stage = .beginning) :
    ∃ earlier check between, c = earlier ++ check :: between ∧ Chronicle.IsStill between ∧
      (l.through earlier).poller.stage = .timing ∧
      (l.through earlier).poller.isExpired check.instant = false := by
  induction c using List.reverseRecOn with
  | nil => exact absurd hs absent
  | append_singleton c d ih =>
      rw [through_concat] at hs
      have stays : (l.through c).poller.stage = .beginning → d.act.now? = none →
          ∃ earlier check between, c ++ [d] = earlier ++ check :: between ∧
            Chronicle.IsStill between ∧ (l.through earlier).poller.stage = .timing ∧
            (l.through earlier).poller.isExpired check.instant = false := by
        intro hs still
        obtain ⟨earlier, check, between, rfl, quiet, found⟩ := ih hs
        refine ⟨earlier, check, between ++ [d], by simp, ?_, found⟩
        intro e he
        rcases List.mem_append.1 he with he | he
        · exact quiet e he
        · obtain rfl := List.mem_singleton.1 he
          exact still
      -- the last act is the check itself, or one of others behind it
      rcases dated_cases (l.through c) d with ⟨_, _, _, _, hm⟩ | ⟨idle, same⟩ | still
      · obtain ⟨timing, inTime⟩ := Poller.stage_of_moves_beginning hm hs
        exact ⟨c, d, [], rfl, by simp [Chronicle.IsStill], timing, inTime⟩
      · rw [same] at hs
        simp [hs, Stage.isBusy] at idle
      · rcases stage_of_still (l := l.through c) still with same | ⟨_, hs'⟩ | ⟨_, _, hs'⟩ |
          ⟨_, _, hs'⟩
        · exact stays (same ▸ hs) still
        all_goals
          rw [hs'] at hs
          cases hs

/-- What has come about in a chronicle came about in one of its acts. -/
theorem exists_dated {P : Poller → Prop} (absent : ¬ P l.poller)
    (present : P (l.through c).poller) :
    ∃ before d later, c = before ++ d :: later ∧ ¬ P (l.through before).poller ∧
      P (l.through (before ++ [d])).poller := by
  induction c generalizing l with
  | nil => exact absurd present absent
  | cons d c ih =>
      by_cases now : P (l.after d.act).poller
      · exact ⟨[], d, c, rfl, absent, now⟩
      · obtain ⟨before, e, later, rfl, entry⟩ := ih now present
        exact ⟨d :: before, e, later, rfl, entry⟩

theorem not_timedOut_of_endless (sound : l.poller.Sound) (unknown : l.poller.known = none)
    (starts : l.StartsAt c s) (endless : endOfTime ≤ s + l.poller.config.timeout.nanos)
    (after : Duration) (last : Option Binary64) :
    (l.through c).poller.known ≠ some (.timedOut after last) := by
  intro hk
  obtain ⟨before, d, later, split, absent, present⟩ :=
    exists_dated (P := fun p => p.known = some (.timedOut after last)) (by simp [unknown]) hk
  have unknownThen : (l.through before).poller.known = none := by
    cases hw : (l.through before).poller.known with
    | none => rfl
    | some other =>
        rw [through_concat] at present
        have soundThen := sound_through sound before
        rw [Poller.known_changes soundThen (changes_after _ _) hw] at present
        cases present
        exact absurd hw absent
  have near := (late_of_timedOut starts split unknownThen present).1
  omega

/-- Past the deadline an undecided poller makes no call and runs out of time step by step. -/
theorem undecided_through (sound : l.poller.Sound) (hs : l.poller.startedAt = some s)
    (near : s + l.poller.config.timeout.nanos < endOfTime)
    (late : ∀ d ∈ c, s + l.poller.config.timeout.nanos ≤ d.instant)
    (h : l.poller.IsUndecided) :
    (l.through c).poller.IsUndecided ∧
      (l.through c).poller.toCheck + c.turns ≤ l.poller.toCheck ∨
    (l.through c).poller.HasRunOut := by
  induction c generalizing l with
  | nil => exact .inl ⟨h, Nat.le_refl _⟩
  | cons d c ih =>
      have hc := changes_after l d.act
      have sound' := sound.changes hc
      have entered : l.poller.stage.hasEntered = true := by
        cases hs : l.poller.stage <;> simp_all [Poller.IsUndecided, Stage.hasEntered]
      have noted := (Poller.entered_changes hc ⟨entered, hs⟩).2
      have same := Poller.config_changes hc
      have later := fun e he => late e (List.mem_cons_of_mem d he)
      rw [← same] at near later
      have goesOn := ih (l := l.after d.act) sound' noted near later
      rw [through_cons, Chronicle.turns_cons]
      rcases dated_cases l d with ⟨_, _, _, hd, hm⟩ | ⟨idle, _⟩ | still
      · have lateNow := late d List.mem_cons_self
        rw [same] at near
        rcases h.moves sound hs near lateNow hm with ⟨undecided, nearer⟩ | out
        · refine (goesOn undecided).imp_left (And.imp_right fun le => ?_)
          have turned : d.act.now?.isSome = true := by rw [hd]; rfl
          simp only [turned, if_true]
          omega
        · have stays := through_of_changes (P := fun p => p.Sound ∧ p.HasRunOut)
            (fun hc hp => ⟨hp.1.changes hc, hp.2.changes hp.1 hc⟩) ⟨sound', out⟩ c
          exact .inr stays.2
      · rw [h.isBusy] at idle
        cases idle
      · have stage := stage_of_still_of_isBusy (l := l) still h.isBusy
        obtain ⟨undecided, equal⟩ := h.of_stage stage
        refine (goesOn undecided).imp_left (And.imp_right fun le => ?_)
        simpa [still, ← equal] using le

/-- A decisive reply decides, unless a stop has come before the gate is asked about it. -/
theorem decided_through {r : StatusResult} {outcome : DownloadOutcome} (sound : l.poller.Sound)
    (hs : l.poller.stage = .received r) (hd : r.Decides outcome) (c : Chronicle) :
    (l.through c).poller.stage = .received r ∧ c.turns = 0 ∨
    (l.through c).poller.stage = .accepted r ∧ c.turns ≤ 1 ∨
    (l.through c).poller.known = some outcome ∨
    (l.through c).poller.known = some .cancelled ∧ ∃ first rest, c = first ++ rest ∧
      (l.through first).poller.stage = .received r ∧ (l.through first).poller.gate = .stopped := by
  induction c using List.reverseRecOn with
  | nil => exact .inl ⟨hs, rfl⟩
  | append_singleton c d ih =>
      have soundThen : (l.through c).poller.Sound := sound_through sound c
      have hc := changes_after (l.through c) d.act
      rw [through_concat, Chronicle.turns_append, Chronicle.turns_cons, Chronicle.turns_nil]
      rcases ih with ⟨received, none⟩ | ⟨accepted, few⟩ | hk | ⟨hk, first, rest, rfl, stopped⟩
      · rcases dated_cases (l.through c) d with ⟨_, _, _, hact, hm⟩ | ⟨idle, _⟩ | still
        · rcases Poller.known_of_moves_received soundThen received hm with counts | ⟨closed, hk⟩
          · refine .inr (.inl ⟨counts, ?_⟩)
            rw [none]
            split <;> omega
          · exact .inr (.inr (.inr ⟨hk, c, [d], rfl, received, closed⟩))
        · simp [received, Stage.isBusy] at idle
        · have stage := stage_of_still_of_isBusy (l := l.through c) still (by rw [received]; rfl)
          exact .inl ⟨stage.trans received, by simp [still, none]⟩
      · rcases dated_cases (l.through c) d with ⟨_, _, _, hact, hm⟩ | ⟨idle, _⟩ | still
        · exact .inr (.inr (.inl (Poller.known_of_moves_accepted accepted hd hm)))
        · simp [accepted, Stage.isBusy] at idle
        · have stage := stage_of_still_of_isBusy (l := l.through c) still (by rw [accepted]; rfl)
          refine .inr (.inl ⟨stage.trans accepted, ?_⟩)
          simpa [still] using few
      · exact .inr (.inr (.inl (Poller.known_changes soundThen hc hk)))
      · refine .inr (.inr (.inr ⟨Poller.known_changes soundThen hc hk, first, rest ++ [d], ?_,
          stopped⟩))
        rw [List.append_assoc]

theorem received_of_answer {reply : Reply} (answers : d.act = .answer reply)
    (calling : (l.through before).poller.stage = .calling) :
    ((l.through before).after d.act).poller.stage =
      .received (ofReply l.poller.model reply) := by
  have model : (l.through before).poller.model = l.poller.model := model_afterAll l _
  simp [answers, after, Poller.receive, calling, ofReply, model]

end Life

/-- What a deadline means to a life, act by act of its chronicle. -/
structure KeepsDeadline (l : Life) (c : Chronicle) (deadline : Nat) : Prop where
  /-- Time is found to be up at the deadline or later, and the outcome tells the timeout. -/
  timedOut : ∀ before d later after last, c = before ++ d :: later →
    (l.through before).poller.known = none →
    (l.through (before ++ [d])).poller.known = some (.timedOut after last) →
    deadline ≤ d.instant ∧ after = l.poller.config.timeout
  /-- A status call begins right behind a deadline check made before the deadline. Between the two
  the poller does nothing else, so they count as one instant. -/
  begins : ∀ before d later, c = before ++ d :: later →
    (l.through before).poller.beginsCall (l.through (before ++ [d])).poller = true →
    ∃ earlier check between, before = earlier ++ check :: between ∧ Chronicle.IsStill between ∧
      (l.through earlier).poller.stage = .timing ∧ check.instant < deadline
  /-- A nap takes at most the time that is left. -/
  naps : ∀ before d later wake, c = before ++ d :: later →
    (l.through before).poller.stage ≠ .napping wake →
    (l.through (before ++ [d])).poller.stage = .napping wake →
    d.instant < deadline ∧ d.instant ≤ wake ∧ wake - d.instant ≤ deadline - d.instant
  /-- A decisive reply decides whenever it comes, two steps later. Only a stop that has come before
  the gate is asked about it turns it into a cancellation. -/
  decides : ∀ before d later reply outcome, c = before ++ d :: later → d.act = .answer reply →
    (l.through before).poller.stage = .calling →
    Decides (ofReply l.poller.model reply) outcome →
    (∀ o, (l.through c).poller.known = some o → o = outcome ∨
      o = .cancelled ∧ ∃ first rest, later = first ++ rest ∧
        (l.through (before ++ d :: first)).poller.stage =
          .received (ofReply l.poller.model reply) ∧
        (l.through (before ++ d :: first)).poller.gate = .stopped) ∧
    (2 ≤ Chronicle.turns later → (l.through c).poller.known.isSome = true)
  /-- Any other reply that comes at the deadline or later is the last. No call is made any more, and
  five steps later time was up, or a stop has come. -/
  late : ∀ before d later reply, c = before ++ d :: later → d.act = .answer reply →
    (l.through before).poller.stage = .calling →
    IsOpen (ofReply l.poller.model reply) → deadline ≤ d.instant →
    (∀ first rest, later = first ++ rest →
      (l.through (before ++ d :: first)).poller.call? = none) ∧
    (∀ o, (l.through c).poller.known = some o →
      (∃ last, o = .timedOut l.poller.config.timeout last) ∨
      o = .cancelled ∧ (l.through c).poller.gate = .stopped) ∧
    (5 ≤ Chronicle.turns later → (l.through c).poller.known.isSome = true)

section Keeping

variable {l : Life} {c before later : Chronicle} {d : Dated} {s : Nat}

theorem begins_in_time (absent : l.poller.stage ≠ .beginning) (starts : l.StartsAt c s)
    (near : s + l.poller.config.timeout.nanos < endOfTime) (split : c = before ++ d :: later)
    (begins : (l.through before).poller.beginsCall (l.through (before ++ [d])).poller = true) :
    ∃ earlier check between, before = earlier ++ check :: between ∧ Chronicle.IsStill between ∧
      (l.through earlier).poller.stage = .timing ∧
      check.instant < s + l.poller.config.timeout.nanos := by
  have beginning : (l.through before).poller.stage = .beginning := by
    cases hs : (l.through before).poller.stage <;>
      simp_all [Poller.beginsCall, Stage.isBeginning]
  obtain ⟨earlier, check, between, rfl, still, timing, inTime⟩ :=
    Life.exists_check absent before beginning
  refine ⟨earlier, check, between, rfl, still, timing, ?_⟩
  rw [List.append_assoc] at split
  have noted := starts.startedAt split (by rw [timing]; rfl)
  rw [← Bool.not_eq_true, Poller.isExpired_iff noted, Life.config_through] at inTime
  omega

theorem nap_in_time {wake : Nat} (starts : l.StartsAt c s)
    (near : s + l.poller.config.timeout.nanos < endOfTime) (split : c = before ++ d :: later)
    (awake : (l.through before).poller.stage ≠ .napping wake)
    (nap : (l.through (before ++ [d])).poller.stage = .napping wake) :
    d.instant < s + l.poller.config.timeout.nanos ∧ d.instant ≤ wake ∧
      wake - d.instant ≤ s + l.poller.config.timeout.nanos - d.instant := by
  rw [Life.through_concat] at nap
  rcases Life.dated_cases (l.through before) d with ⟨_, _, _, _, hm⟩ | ⟨_, same⟩ | still
  · have tiring := Poller.stage_of_moves_napping hm nap
    have noted := starts.startedAt split (by rw [tiring]; rfl)
    have config := Life.config_through l before
    have found := Poller.nap_of_moves noted (by rw [config]; exact near) hm nap
    rw [config] at found
    omega
  · rw [same] at nap
    exact absurd nap awake
  · rcases Life.stage_of_still (l := l.through before) still with same | ⟨_, hs⟩ | ⟨_, _, hs⟩ |
      ⟨_, _, hs⟩
    · exact absurd (same ▸ nap) awake
    all_goals
      rw [hs] at nap
      cases nap

theorem decides_of_answer {reply : Reply} {outcome : DownloadOutcome} (sound : l.poller.Sound)
    (split : c = before ++ d :: later) (answers : d.act = .answer reply)
    (calling : (l.through before).poller.stage = .calling)
    (decides : Decides (ofReply l.poller.model reply) outcome) :
    (∀ o, (l.through c).poller.known = some o → o = outcome ∨
      o = .cancelled ∧ ∃ first rest, later = first ++ rest ∧
        (l.through (before ++ d :: first)).poller.stage =
          .received (ofReply l.poller.model reply) ∧
        (l.through (before ++ d :: first)).poller.gate = .stopped) ∧
    (2 ≤ Chronicle.turns later → (l.through c).poller.known.isSome = true) := by
  have received := Life.received_of_answer answers calling
  have soundThen : ((l.through before).after d.act).poller.Sound :=
    (Life.sound_through sound before).changes (Life.changes_after _ _)
  have unknown : ∀ stage, (l.through c).poller.stage = stage → stage.pending? = none →
      stage.isBusy = true → (l.through c).poller.known = none := by
    intro stage hs pending busy
    have fits := (Life.sound_through sound c).outcome
    cases stage <;> simp_all [Poller.OutcomeFits, Poller.known, Stage.pending?, Stage.isBusy]
  have passed : ∀ first, l.through (before ++ d :: first) =
      ((l.through before).after d.act).through first := by
    intro first
    rw [Life.through_append, Life.through_cons]
  have fate := Life.decided_through soundThen received decides later
  rw [← passed, ← split] at fate
  rcases fate with ⟨hs, none⟩ | ⟨hs, few⟩ | hk | ⟨hk, first, rest, rfl, closed⟩
  · have hk := unknown _ hs rfl rfl
    refine ⟨fun o ho => ?_, fun enough => by omega⟩
    rw [hk] at ho
    cases ho
  · have hk := unknown _ hs rfl rfl
    refine ⟨fun o ho => ?_, fun enough => by omega⟩
    rw [hk] at ho
    cases ho
  · exact ⟨fun o ho => .inl (Option.some.inj (ho.symm.trans hk)), fun _ => by rw [hk]; rfl⟩
  · refine ⟨fun o ho => .inr ⟨Option.some.inj (ho.symm.trans hk), first, rest, rfl, ?_⟩,
      fun _ => by rw [hk]; rfl⟩
    rw [passed]
    exact closed

theorem runs_out_of_answer {reply : Reply} (sound : l.poller.Sound) (clock : c.OnClock)
    (starts : l.StartsAt c s) (near : s + l.poller.config.timeout.nanos < endOfTime)
    (split : c = before ++ d :: later) (answers : d.act = .answer reply)
    (calling : (l.through before).poller.stage = .calling)
    (isOpen : IsOpen (ofReply l.poller.model reply))
    (late : s + l.poller.config.timeout.nanos ≤ d.instant) :
    (∀ first rest, later = first ++ rest →
      (l.through (before ++ d :: first)).poller.call? = none) ∧
    (∀ o, (l.through c).poller.known = some o →
      (∃ last, o = .timedOut l.poller.config.timeout last) ∨
      o = .cancelled ∧ (l.through c).poller.gate = .stopped) ∧
    (5 ≤ Chronicle.turns later → (l.through c).poller.known.isSome = true) := by
  have received := Life.received_of_answer answers calling
  have changed := Life.changes_after (l.through before) d.act
  have soundThen := (Life.sound_through sound before).changes changed
  have noted := starts.startedAt split (by rw [calling]; rfl)
  have notedThen := (Poller.entered_changes changed ⟨by rw [calling]; rfl, noted⟩).2
  have config := (Poller.config_changes changed).trans (Life.config_through l before)
  have undecided : ((l.through before).after d.act).poller.IsUndecided := by
    simpa only [Poller.IsUndecided, received] using isOpen
  have fate : ∀ first rest, later = first ++ rest →
      (l.through (before ++ d :: first)).poller.IsUndecided ∧
        (l.through (before ++ d :: first)).poller.toCheck + Chronicle.turns first ≤ 5 ∨
      (l.through (before ++ d :: first)).poller.HasRunOut := by
    intro first rest hlater
    rw [Life.through_append, Life.through_cons]
    have five : ((l.through before).after d.act).poller.toCheck = 5 := by
      simp only [Poller.toCheck, received]
    rw [← five]
    refine Life.undecided_through soundThen notedThen (by rw [config]; exact near) ?_ undecided
    intro e he
    rw [config]
    have after := clock.le_of_split split (hlater ▸ List.mem_append_left rest he)
    omega
  refine ⟨fun first rest hlater => ?_, ?_⟩
  · rcases fate first rest hlater with ⟨still, _⟩ | out
    · exact still.call?_eq_none
    · exact out.call?_eq_none (Life.sound_through sound _)
  have last := fate later [] (List.append_nil later).symm
  rw [← split] at last
  have configLast := Life.config_through l c
  rcases last with ⟨still, more⟩ | out
  · have waits := still.toCheck_pos
    refine ⟨fun o ho => ?_, fun enough => by omega⟩
    rw [still.known_eq_none (Life.sound_through sound c)] at ho
    cases ho
  · rcases out with ⟨last, hk⟩ | ⟨hk, stopped⟩
    · refine ⟨fun o ho => .inl ⟨last, ?_⟩, fun _ => by rw [hk]; rfl⟩
      rw [← configLast]
      exact Option.some.inj (ho.symm.trans hk)
    · exact ⟨fun o ho => .inr ⟨Option.some.inj (ho.symm.trans hk), stopped⟩,
        fun _ => by rw [hk]; rfl⟩

end Keeping

/-- A poller that was started at an instant keeps the deadline that lies its timeout behind that
instant, at whatever pace it goes on, its calls are answered and it is stopped. Where the deadline
is past the end of time there is none, and the poller never finds its time to be up. -/
theorem deadline_is_kept {model : String} {config : PollerConfig} {c : Chronicle} {s : Nat}
    (clock : c.OnClock) (starts : (Life.fresh model config).StartsAt c s) :
    (s + config.timeout.nanos < endOfTime →
      KeepsDeadline (Life.fresh model config) c (s + config.timeout.nanos)) ∧
    (endOfTime ≤ s + config.timeout.nanos → ∀ after last,
      ((Life.fresh model config).through c).poller.known ≠ some (.timedOut after last)) := by
  have sound : (Life.fresh model config).poller.Sound := Poller.sound_new model config
  refine ⟨fun near => ?_, Life.not_timedOut_of_endless sound rfl starts⟩
  exact
    { timedOut := fun _ _ _ _ _ split unknown hk =>
        (Life.late_of_timedOut starts split unknown hk).2
      begins := fun _ _ _ split begins =>
        begins_in_time Stage.noConfusion starts near split begins
      naps := fun _ _ _ _ split awake nap => nap_in_time starts near split awake nap
      decides := fun _ _ _ _ _ split answers calling decides =>
        decides_of_answer sound split answers calling decides
      late := fun _ _ _ _ split answers calling isOpen late =>
        runs_out_of_answer sound clock starts near split answers calling isOpen late }

/-- A start at 5 and a timeout of two seconds. The first status call begins at 7 and is answered
with a reading a second late. -/
theorem deadline_is_kept_past_late_reading :
    let l := Life.fresh "phi" ⟨.ofSeconds 1, .ofSeconds 2⟩
    let c : Chronicle := [.others 5 .start, .go 5 .none, .go 5 .none, .go 5 .none,
      .others 6 (.answer (.ok "\x7b\x7d")), .go 6 .none, .others 6 .run, .go 6 .none,
      .go 6 .none, .go 7 .none, .go 7 .none,
      .others 3000000000 (.answer (.ok "\x7b\"progress\":25\x7d"))]
    let later : Chronicle := List.replicate 5 (.go 3000000000 .none)
    KeepsDeadline l (c ++ later) 2000000005 ∧
    (l.through (c ++ later)).poller.known =
      some (.timedOut (.ofSeconds 2) (some ⟨0x4039000000000000⟩)) := by
  intro l c later
  have starts : l.StartsAt (c ++ later) 5 :=
    ⟨[.others 5 .start], .go 5 .none, _, .none, rfl, rfl, rfl⟩
  exact ⟨(deadline_is_kept (by decide +kernel) starts).1 (by decide), by decide +kernel⟩

end ModelDepot
