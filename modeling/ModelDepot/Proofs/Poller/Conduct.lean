import ModelDepot.Proofs.Batch.Stories
import ModelDepot.Proofs.Poller.Calls
import ModelDepot.Proofs.Poller.Cell
import ModelDepot.Proofs.Poller.Novelty
import ModelDepot.Proofs.Poller.Stopping
import ModelDepot.Proofs.Poller.Visible

/-! # One account of a download

A poller gives account of its download in several places: the state that handles see, the progress
they see, the events, the outcome that is noted and the result of the start. Whatever happens to a
poller, in whatever order, these accounts agree.
-/

namespace ModelDepot

def Passage.requestsStart (t : Passage) : Bool :=
  !t.was.isRequesting && t.now.isRequesting

def Passage.answersStart (t : Passage) : Bool :=
  t.call matches some (.startDownload _)

namespace Stage

def isUnasked : Stage → Bool
  | .idle | .entering | .claiming | .claimed => true
  | _ => false

def isUnanswered (s : Stage) : Bool :=
  s.isUnasked || s matches .requesting

end Stage

namespace Poller

variable {p p' : Poller} {outcome : DownloadOutcome}

theorem isUnasked_changes (hc : p.Changes p') (unasked : p'.stage.isUnasked = true) :
    p.stage.isUnasked = true := by
  cases hc with
  | none | run | halt => exact unasked
  | start hs | startRun hs => rw [hs]; rfl
  | startAnswered _ _ | statusAnswered _ _ => simp [Stage.isUnasked] at unasked
  | move hm => cases hm <;> simp_all [Stage.isUnasked]

theorem isUnanswered_changes (hc : p.Changes p') (unanswered : p'.stage.isUnanswered = true) :
    p.stage.isUnanswered = true := by
  cases hc with
  | none | run | halt => exact unanswered
  | start hs | startRun hs | startAnswered _ hs => rw [hs]; rfl
  | statusAnswered _ _ => simp [Stage.isUnanswered, Stage.isUnasked] at unanswered
  | move hm => cases hm <;> simp_all [Stage.isUnanswered, Stage.isUnasked]

theorem isUnasked_of_isRequesting (hc : p.Changes p') (before : p.isRequesting = false)
    (now : p'.isRequesting = true) :
    p.stage.isUnasked = true ∧ p'.stage.isUnasked = false := by
  cases hc with
  | none | run | halt =>
      have same : p.isRequesting = true := now
      rw [before] at same
      cases same
  | start hs | startRun hs | startAnswered _ hs | statusAnswered _ hs =>
      simp [isRequesting] at now
  | move hm => cases hm <;> simp_all [isRequesting, Stage.isUnasked]

theorem isInFlight_of_isEarly (early : p.stage.isEarly = true) : p.stage.isInFlight = false := by
  cases hs : p.stage <;> simp_all [Stage.isEarly, Stage.isInFlight]

theorem isInFlight_of_known (sound : p.Sound) (hk : p.known = some outcome) :
    p.stage.isInFlight = false := by
  have ho := sound.outcome
  cases hs : p.stage <;> simp_all [Stage.isInFlight, known, Stage.pending?, OutcomeFits]

theorem beginsCall_eq_false_of_calm (calm : p'.stage.isInFlight = false) :
    p.beginsCall p' = false := by
  cases hs : p'.stage <;> simp_all [beginsCall, Stage.isCalling, Stage.isInFlight]

/-- A poller that runs out of time says which value it told last. -/
def LastFits (p : Poller) : Prop :=
  ∀ after last, p.known = some (.timedOut after last) → last = p.told.head?

theorem LastFits.changes (sound : p.Sound) (h : p.LastFits) (hc : p.Changes p') :
    p'.LastFits := by
  have ho := sound.outcome
  intro after last hk
  cases hc with
  | none | run | halt => exact h after last hk
  | start hs | startRun hs | startAnswered _ hs | statusAnswered _ hs =>
      simp_all [known, Stage.pending?, OutcomeFits]
  | move hm =>
      cases hm with
      | expire hs =>
          simp only [known, Stage.pending?, Option.some_or] at hk
          cases hk
          rfl
      | @decide r o hs hv =>
          simp only [known, Stage.pending?, Option.some_or] at hk
          cases hk
          cases StatusResult.verdict_eq_decided_iff.1 hv
      | _ => simp_all [LastFits, known, Stage.pending?, OutcomeFits]

/-- All that a poller shows agrees with the stage it is in and with what it has told. -/
structure Agrees (p : Poller) : Prop where
  sound : p.Sound
  state : p.StateFits
  cell : p.CellFits
  last : p.LastFits

theorem agrees_new (model : String) (config : PollerConfig) : (new model config).Agrees :=
  ⟨sound_new model config, stateFits_new model config, cellFits_new model config,
    fun _ _ hk => nomatch hk⟩

theorem Agrees.changes (h : p.Agrees) (hc : p.Changes p') : p'.Agrees :=
  ⟨h.sound.changes hc, h.state.changes h.sound hc, h.cell.changes h.sound hc,
    h.last.changes h.sound hc⟩

theorem outcome_of_startResult {reason : FailureReason} (h : p.startResult = .error reason) :
    p.outcome = some (.failed reason) := by
  unfold startResult at h
  split at h
  · next hr =>
      cases h
      exact hr
  · cases h

end Poller

namespace Life

variable {l : Life} {acts : List Act} {t : Passage}

theorem agrees_was (h : l.poller.Agrees) (ht : t ∈ l.passages acts) : t.was.Agrees :=
  was_of_changes (fun hc ha => ha.changes hc) h ht

/-- What takes a poller out of stages that it never comes back to happens once at most. -/
theorem countP_le_of_leaves {among : Stage → Bool} (event : Passage → Bool)
    (closed : ∀ {p p' : Poller}, p.Changes p' → among p'.stage = true → among p.stage = true)
    (leaves : ∀ (l : Life) a, event (l.passage a) = true →
      among l.poller.stage = true ∧ among (l.after a).poller.stage = false)
    (l : Life) (acts : List Act) :
    (l.passages acts).countP event ≤ (among l.poller.stage).toNat := by
  induction acts generalizing l with
  | nil => exact Nat.zero_le _
  | cons a acts ih =>
      have later := ih (l.after a)
      rw [passages, List.countP_cons]
      split
      · next happens =>
          obtain ⟨inside, outside⟩ := leaves l a happens
          rw [outside] at later
          rw [inside]
          exact Nat.succ_le_succ later
      · have fewer : (among (l.after a).poller.stage).toNat ≤ (among l.poller.stage).toNat := by
          cases hs : among (l.after a).poller.stage with
          | false => exact Nat.zero_le _
          | true => exact Nat.le_of_eq (by rw [closed (changes_after l a) hs])
        exact Nat.le_trans later fewer

theorem countP_requestsStart_le (l : Life) (acts : List Act) :
    (l.passages acts).countP Passage.requestsStart ≤ 1 := by
  have once := countP_le_of_leaves Passage.requestsStart Poller.isUnasked_changes
    (fun l a requests => by
      obtain ⟨before, now⟩ : l.poller.isRequesting = false ∧
          (l.after a).poller.isRequesting = true := by
        simpa [Passage.requestsStart, passage] using requests
      exact Poller.isUnasked_of_isRequesting (changes_after l a) before now) l acts
  exact Nat.le_trans once (Bool.toNat_le _)

theorem countP_startDownload_le (l : Life) (acts : List Act) :
    (l.calls acts).countP (· matches .startDownload _) ≤ 1 := by
  have once := countP_le_of_leaves Passage.answersStart Poller.isUnanswered_changes
    (fun l a answers => by
      cases a with
      | answer reply =>
          cases hs : l.poller.stage <;>
            simp_all [Passage.answersStart, passage, after, Poller.call?, Poller.receive,
              Stage.isUnanswered, Stage.isUnasked]
      | _ => simp [Passage.answersStart, passage] at answers) l acts
  have same : (l.calls acts).countP (· matches .startDownload _) =
      (l.passages acts).countP Passage.answersStart := by
    rw [calls, List.countP_filterMap]
    refine List.countP_congr fun t _ => ?_
    cases hc : t.call with
    | none => simp [Passage.answersStart, hc]
    | some c => cases c <;> simp [Passage.answersStart, hc]
  rw [same]
  exact Nat.le_trans once (Bool.toNat_le _)

theorem isEarly_of_afterAll (early : (l.afterAll acts).poller.stage.isEarly = true) :
    l.poller.stage.isEarly = true := by
  induction acts generalizing l with
  | nil => exact early
  | cons a acts ih => exact Poller.isEarly_changes (changes_after l a) (ih early)

theorem begun_eq_zero_of_isEarly (early : (l.afterAll acts).poller.stage.isEarly = true) :
    l.begun acts = 0 := by
  induction acts generalizing l with
  | nil => rfl
  | cons a acts ih =>
      -- no later stage is early again, so that the first act has led to an early one
      have first : (l.after a).poller.stage.isEarly = true := isEarly_of_afterAll early
      have calm := Poller.isInFlight_of_isEarly first
      rw [begun_cons, ih early, Poller.beginsCall_eq_false_of_calm calm]
      rfl

theorem begun_eq_zero_of_known {outcome : DownloadOutcome} (sound : l.poller.Sound)
    (hk : l.poller.known = some outcome) (acts : List Act) : l.begun acts = 0 := by
  induction acts generalizing l with
  | nil => rfl
  | cons a acts ih =>
      have hc := changes_after l a
      have soundNow := sound.changes hc
      have hkNow := Poller.known_changes sound hc hk
      have calm := Poller.isInFlight_of_known soundNow hkNow
      rw [begun_cons, ih soundNow hkNow, Poller.beginsCall_eq_false_of_calm calm]
      rfl

theorem known_of_noted {before : List Act} {outcome : DownloadOutcome} (sound : l.poller.Sound)
    (noted : (l.afterAll before).poller.outcome = some outcome) (later : List Act) :
    (l.afterAll (before ++ later)).poller.known = some outcome := by
  have soundThen := sound_afterAll sound before
  have ho := soundThen.outcome
  have hk : (l.afterAll before).poller.known = some outcome := by
    cases hs : (l.afterAll before).poller.stage <;>
      simp_all [Poller.known, Stage.pending?, Poller.OutcomeFits]
  rw [afterAll_append]
  exact known_afterAll soundThen hk later

end Life

/-- How the accounts that a poller gives of its download agree, given all that has happened to
it. -/
structure Life.Accounts (l : Life) (acts : List Act) : Prop where
  /-- The state that handles see goes forward step by step, until it is terminal. -/
  state : ∀ t ∈ l.passages acts,
    (t.now.state = t.was.state ∨ t.was.state.Precedes t.now.state) ∧
    (t.was.state.isTerminal = true → t.now.state = t.was.state)
  /-- The backend is asked to start the download once at most, and answers once at most. -/
  asks : (l.passages acts).countP Passage.requestsStart ≤ 1 ∧
    (l.calls acts).countP (· matches .startDownload _) ≤ 1
  /-- Before the end of the run only values are told. -/
  told : (l.afterAll acts).poller.stage ≠ .ended →
    l.told acts = (l.values acts).map (.progress l.poller.model)
  /-- At its end they have been told, and then the outcome that the run comes to. The state is that
  of the outcome; the progress is that of the completed status, and otherwise the value told last;
  and an outcome that tells a last value tells that one. -/
  ended : (l.afterAll acts).poller.stage = .ended → ∃ outcome,
    (l.afterAll acts).poller.outcome = some outcome ∧
    l.told acts = (l.values acts).map (.progress l.poller.model) ++
      [.finished l.poller.model outcome] ∧
    (l.afterAll acts).poller.state = .ofOutcome outcome ∧
    (l.afterAll acts).poller.progress.get =
      Poller.seenAt ((l.values acts).getLast?.getD .zero) (some outcome) ∧
    ∀ after last, outcome = .timedOut after last → last = (l.values acts).getLast?
  /-- An outcome that is noted, be it by the start, is the outcome in the end. -/
  noted : ∀ before later outcome, acts = before ++ later →
    (l.afterAll before).poller.outcome = some outcome →
    (l.afterAll acts).poller.known = some outcome ∧
    ((l.afterAll acts).poller.stage = .ended → (l.afterAll acts).poller.outcome = some outcome)
  /-- A start that has failed decides, and no status call begins before it or behind it. -/
  failed : ∀ before later reason, acts = before ++ later →
    (l.afterAll before).poller.stage = .started →
    (l.afterAll before).poller.startResult = .error reason →
    (l.afterAll acts).poller.known = some (.failed reason) ∧ l.begun acts = 0
  /-- A poller that runs, and whose outcome is known or whose gate is closed, comes to its end
  within thirteen turns, whatever is answered to it. Then it has told values and one outcome: the
  one that was known, if one was. -/
  ends : (l.afterAll acts).poller.Underway → (l.afterAll acts).poller.Closing →
    ∀ answers around n, 13 ≤ n →
      ((l.afterAll acts).poller.course answers around n).poller.stage = .ended ∧
      ∃ (values : List Binary64) (outcome : DownloadOutcome),
        ((l.afterAll acts).poller.course answers around n).poller.outcome = some outcome ∧
        l.told acts ++ ((l.afterAll acts).poller.course answers around n).sent =
          values.map (.progress l.poller.model) ++ [.finished l.poller.model outcome] ∧
        ∀ known, (l.afterAll acts).poller.known = some known → outcome = known

namespace Life

section Fresh

variable (model : String) (config : PollerConfig) {acts : List Act}

theorem agrees_fresh (acts : List Act) : ((fresh model config).afterAll acts).poller.Agrees :=
  afterAll_of_changes (fun hc ha => ha.changes hc) (Poller.agrees_new model config) acts

theorem told_eq_values (acts : List Act) :
    ((fresh model config).afterAll acts).poller.told =
      ((fresh model config).values acts).reverse := by
  rw [told_afterAll]
  exact List.append_nil _

theorem head?_told (acts : List Act) :
    ((fresh model config).afterAll acts).poller.told.head? =
      ((fresh model config).values acts).getLast? := by
  rw [told_eq_values, List.head?_reverse]

variable {model config}

theorem told_of_running (running : ((fresh model config).afterAll acts).poller.stage ≠ .ended) :
    (fresh model config).told acts =
      ((fresh model config).values acts).map (.progress model) := by
  have silent : (fresh model config).poller.HasTold [] := rfl
  have told := hasTold_afterAll (Poller.sound_new model config) silent acts
  have named : ((fresh model config).afterAll acts).poller.model = model :=
    model_afterAll (fresh model config) acts
  rw [List.nil_append] at told
  unfold Poller.HasTold at told
  split at told
  · next ended => exact absurd ended running
  · rw [told, told_eq_values, List.reverse_reverse, named]

theorem told_of_ended (ended : ((fresh model config).afterAll acts).poller.stage = .ended) :
    ∃ outcome, ((fresh model config).afterAll acts).poller.outcome = some outcome ∧
      (fresh model config).told acts =
        ((fresh model config).values acts).map (.progress model) ++
          [.finished model outcome] := by
  obtain ⟨story, rfl, noted, told⟩ := exists_story ended
  refine ⟨story.outcome, noted, ?_⟩
  have values : (fresh story.model config).values acts = story.values := by
    simp [Life.values, told, Batch.Story.events, List.filterMap_append, List.filterMap_map,
      Function.comp_def, DownloadEvent.progress?]
  rw [told, values]
  rfl

/-- The rest of a run to which nothing but the end is left is a part of the poller's life. -/
theorem ends_of_closing (underway : ((fresh model config).afterAll acts).poller.Underway)
    (closing : ((fresh model config).afterAll acts).poller.Closing) (answers : Nat → Reply)
    (around : Nat → Moment) {n : Nat} (hn : 13 ≤ n) :
    ∃ more, ((fresh model config).afterAll (acts ++ more)).poller.stage = .ended ∧
      ((fresh model config).afterAll (acts ++ more)).poller =
        (((fresh model config).afterAll acts).poller.course answers around n).poller ∧
      (fresh model config).told (acts ++ more) = (fresh model config).told acts ++
        (((fresh model config).afterAll acts).poller.course answers around n).sent := by
  have sound := sound_afterAll (l := fresh model config) (Poller.sound_new model config) acts
  obtain ⟨more, hmore⟩ :=
    Course.exists_acts ((fresh model config).afterAll acts).poller answers around n
  obtain ⟨there, told⟩ := hmore ((fresh model config).afterAll acts).stopping
  have same := congrArg Life.poller there
  rw [← afterAll_append] at same
  refine ⟨more, ?_, same, ?_⟩
  · rw [same]
    exact Course.ended_of_closing sound closing underway answers around hn
  · rw [told_append]
    exact congrArg _ told

end Fresh

end Life

/-- Whatever happens to a poller, at whatever instants and however often it is started and stopped
before it runs and while it does, the accounts that it gives agree. -/
theorem accounts_agree (model : String) (config : PollerConfig) (acts : List Act) :
    (Life.fresh model config).Accounts acts := by
  have sound : (Life.fresh model config).poller.Sound := Poller.sound_new model config
  have agrees := Life.agrees_fresh model config acts
  have moves : ∀ t ∈ (Life.fresh model config).passages acts,
      t.now.state = t.was.state ∨ t.was.state.Precedes t.now.state := fun t ht =>
    Poller.state_changes (Life.agrees_was (Poller.agrees_new model config) ht).state
      (Life.changes_of_mem ht)
  exact
    { state := by
        intro t ht
        refine ⟨moves t ht, fun terminal => ?_⟩
        rcases moves t ht with same | forward
        · exact same
        · rw [forward.isTerminal_eq_false] at terminal
          cases terminal
      asks := ⟨Life.countP_requestsStart_le _ acts, Life.countP_startDownload_le _ acts⟩
      told := Life.told_of_running
      ended := by
        intro ended
        obtain ⟨outcome, noted, told⟩ := Life.told_of_ended ended
        have hk : ((Life.fresh model config).afterAll acts).poller.known = some outcome := by
          rw [Poller.known_of_ended ended, noted]
        refine ⟨outcome, noted, told, ?_, ?_, ?_⟩
        · have state := agrees.state
          simp only [Poller.StateFits, ended, noted] at state
          exact state
        · have cell := agrees.cell
          rw [Poller.CellFits, hk, Poller.lastTold, Life.head?_told] at cell
          exact cell
        · rintro after last rfl
          rw [agrees.last after last hk, Life.head?_told]
      noted := by
        rintro before later outcome rfl noted
        have hk := Life.known_of_noted sound noted later
        exact ⟨hk, fun ended => by rw [← Poller.known_of_ended ended, hk]⟩
      failed := by
        rintro before later reason rfl started fails
        have noted := Poller.outcome_of_startResult fails
        have early : ((Life.fresh model config).afterAll before).poller.stage.isEarly = true := by
          rw [started]
          rfl
        refine ⟨Life.known_of_noted sound noted later, ?_⟩
        rw [Life.begun_append, Life.begun_eq_zero_of_isEarly early,
          Life.begun_eq_zero_of_known (Life.sound_afterAll sound before)
            (by simpa using Life.known_of_noted sound noted [])]
      ends := by
        intro underway closing answers around n hn
        obtain ⟨more, ended, same, told⟩ :=
          Life.ends_of_closing underway closing answers around hn
        obtain ⟨outcome, noted, whole⟩ := Life.told_of_ended ended
        rw [← same, ← told]
        refine ⟨ended, _, outcome, noted, whole, fun known hk => ?_⟩
        have final := Life.known_afterAll (Life.sound_afterAll sound acts) hk more
        rw [← Life.afterAll_append, Poller.known_of_ended ended, noted] at final
        exact Option.some.inj final }

/-- One poller tells a value and completes. Another one's start is refused, and whatever is answered
to its run, it tells that and nothing else. -/
theorem accounts_agree_of_completed_and_refused :
    let l := Life.fresh "phi" ⟨.ofSeconds 1, .ofSeconds 60⟩
    let go (n now : Nat) : List Act := List.replicate n (.go now .none)
    let completes : List Act := .run :: go 3 0 ++ .answer (.ok "\x7b\x7d") :: go 5 0 ++
      .answer (.ok "\x7b\"progress\":50\x7d") :: go 3 0 ++ go 4 1000000000 ++
      .answer (.ok "\x7b\"status\":\"completed\"\x7d") :: go 6 1000000000
    let refused : List Act :=
      .start :: go 3 0 ++ .answer (.error (.network "unreachable")) :: go 4 0
    let run := (l.afterAll (refused ++ [.run])).poller
    let failure : DownloadOutcome := .failed (.rejected "network error: unreachable")
    (∃ status, l.told completes =
        [.progress "phi" ⟨0x4049000000000000⟩, .finished "phi" (.completed status)] ∧
      (l.afterAll completes).poller.state = .completed ∧
      (l.afterAll completes).poller.progress.get = status.progress) ∧
    l.begun (refused ++ [.run]) = 0 ∧
    ∀ answers around, ∃ values : List Binary64,
      l.told (refused ++ [.run]) ++ (run.course answers around 13).sent =
        values.map (.progress "phi") ++ [.finished "phi" failure] := by
  intro l go completes refused run failure
  have completed := accounts_agree "phi" ⟨.ofSeconds 1, .ofSeconds 60⟩ completes
  have fails := accounts_agree "phi" ⟨.ofSeconds 1, .ofSeconds 60⟩ (refused ++ [.run])
  refine ⟨?_, ?_, fun answers around => ?_⟩
  · obtain ⟨outcome, noted, told, state, cell, -⟩ :=
      completed.ended (Stage.toEnd_eq_zero (by decide +kernel))
    have values : l.values completes = [⟨0x4049000000000000⟩] := by decide +kernel
    have succeeds : (l.afterAll completes).poller.outcome.map (·.isSuccess) = some true := by
      decide +kernel
    rw [noted] at succeeds
    cases outcome with
    | completed status =>
        rw [values] at told
        exact ⟨status, told, state, cell⟩
    | _ => cases succeeds
  · exact (fails.failed refused [.run] (.rejected "network error: unreachable") rfl rfl rfl).2
  · have known : run.known = some failure := by decide +kernel
    obtain ⟨-, values, outcome, -, told, same⟩ :=
      fails.ends (Poller.underway_requestRun (l.afterAll refused).poller)
        (.inr (by rw [known]; rfl)) answers around 13 (Nat.le_refl 13)
    rw [same failure known] at told
    exact ⟨values, told⟩

end ModelDepot
