import ModelDepot.Console.Program
import ModelDepot.Proofs.Batch.Success
import ModelDepot.Proofs.Poller.Conduct

/-! # Listening to downloads

A command that downloads listens to events until it hears an end. Whatever happens on the way, what
it has heard comes to a success if and only if all that it was to download has completed. At a
terminal in memory a download is one life of a poller, and a batch is one venture.
-/

namespace ModelDepot

open Batch (Venture)

namespace Console

/-! ## Listening -/

theorem toldOutcome_values (model : String) (values : List Binary64) (rest : List DownloadEvent) :
    toldOutcome (values.map (.progress model) ++ rest) = toldOutcome rest := by
  induction values with
  | nil => rfl
  | cons value values ih => exact ih

theorem toldReport?_append {told : List BatchEvent} (rest : List BatchEvent)
    (silent : ∀ e ∈ told, ∀ report, e ≠ .finished report) :
    toldReport? (told ++ rest) = toldReport? rest := by
  induction told with
  | nil => rfl
  | cons e told ih =>
      have later := ih fun e he => silent e (List.mem_cons_of_mem _ he)
      cases e with
      | finished report => exact absurd rfl (silent _ List.mem_cons_self report)
      | progress | memberFinished => exact later

/-- Whoever listens to a poller hears of a success if and only if the poller has completed. -/
theorem isSuccess_toldOutcome_iff (model : String) (config : PollerConfig) (acts : List Act) :
    (toldOutcome ((Life.fresh model config).told acts)).isSuccess = true ↔
      ((Life.fresh model config).afterAll acts).poller.HasCompleted := by
  by_cases ended : ((Life.fresh model config).afterAll acts).poller.stage = .ended
  · obtain ⟨outcome, noted, told⟩ := Life.told_of_ended ended
    rw [told, toldOutcome_values, toldOutcome, DownloadOutcome.isSuccess_iff]
    simp [Poller.HasCompleted, ended, noted]
  · have told := Life.told_of_running ended
    rw [← List.append_nil (List.map ..)] at told
    rw [told, toldOutcome_values]
    simp [Poller.HasCompleted, ended, toldOutcome, DownloadOutcome.isSuccess]

/-- The report on a batch that counts: the first one told, or else the one that is left. -/
def BatchHeard.verdict (h : BatchHeard) : BatchReport :=
  (toldReport? h.told).getD h.report

end Console

namespace Batch

open Console

/-- What the owner of a batch has got of it so far, with the report if that is due. -/
def Company.heardBy (c : Company) (names : List String) : BatchHeard where
  told := c.told ++ if c.tally.remaining = 0 then [.finished (c.tally.report names)] else []
  report := c.tally.report names

theorem Company.verdict_heardBy (c : Company) (names : List String) :
    (c.heardBy names).verdict = c.tally.report names := by
  have silent : ∀ e ∈ c.told, ∀ report, e ≠ .finished report :=
    fun e he report => Tally.ne_finished_of_mem_attend he report
  rw [BatchHeard.verdict, heardBy, toldReport?_append _ silent]
  split <;> rfl

/-- A batch that has heard its members out, or has told the report, comes to a success if and only
if all members have completed. -/
theorem isSuccess_verdict_iff {given names : List String} (settled : settle given = .ok names)
    (config : PollerConfig) (held : ActiveDownloads) (events : List Event)
    (whole : (Venture.reached names config held events).company.tally.remaining = 0 ∨
      (Venture.reached names config held events).company.IsHeardOut) :
    ((Venture.reached names config held events).company.heardBy names).verdict.isSuccess = true ↔
      ∀ i p, (Venture.reached names config held events).poller? i = some p → p.HasCompleted := by
  have h := Venture.orderly_reached (nodup_of_settle settled) config held events
  have heardOut := whole.elim h.fits.isHeardOut id
  rw [Company.verdict_heardBy]
  constructor
  · intro well i p hi
    obtain ⟨m, hm, rfl⟩ := Venture.poller?_eq_some_iff.1 hi
    exact h.honest.completed h.fits well (List.mem_of_getElem? hm)
  · intro all
    apply h.honest.isSuccess h.fits (ne_nil_of_settle settled) heardOut
    intro m hm
    obtain ⟨i, hi⟩ := List.mem_iff_getElem?.1 hm
    exact all i m.poller (poller?_of_member hi)

end Batch

theorem Life.exists_acts_stop (l : Life) :
    ∃ acts, (l.afterAll acts).poller = l.poller.stop ∧ l.told acts = [] := by
  cases terminal : l.poller.state.isTerminal with
  | true => exact ⟨[], by simp [Poller.stop, terminal], rfl⟩
  | false =>
      refine ⟨[.look, .close], ?_, rfl⟩
      simp [Life.after, Poller.stop, terminal]

namespace Console

namespace Session

variable {s : Session} {members given : List String}

/-- A download at a terminal is the life of a poller. -/
theorem exists_acts_lastOf (s : Session) (model : String) :
    ∃ acts, ((Life.fresh model s.poller).afterAll acts).poller = (s.lastOf model).1.poller ∧
      (Life.fresh model s.poller).told acts = (s.lastOf model).1.told := by
  obtain ⟨first, poller, told⟩ := Scene.exists_acts_advanceUntil isNapping Scene.fuel s.scene
    ((Life.fresh model s.poller).after .run)
  unfold lastOf
  have asked : ((Life.fresh model s.poller).after .run).poller =
    (Poller.new model s.poller).requestRun := rfl
  rw [asked] at poller told
  generalize s.scene.advanceUntil isNapping Scene.fuel (Poller.new model s.poller).requestRun = a
    at poller told
  generalize hl : ((Life.fresh model s.poller).after .run).afterAll first = l at poller
  obtain ⟨stops, stopped, silent⟩ : ∃ acts, (l.afterAll acts).poller =
      (if s.isAsked [a.poller] a.scene.transport then a.poller.stop else a.poller) ∧
      l.told acts = [] := by
    split
    · rw [← poller]
      exact l.exists_acts_stop
    · exact ⟨[], poller, rfl⟩
  obtain ⟨last, pollerLast, toldLast⟩ := Scene.exists_acts_advanceUntil (fun _ => false)
    Scene.fuel a.scene ((l.afterAll stops).after .run)
  have runs : ((l.afterAll stops).after .run).poller = (l.afterAll stops).poller.requestRun := rfl
  rw [runs, stopped] at pollerLast toldLast
  simp only [Scene.run, Scene.runStopping_never]
  refine ⟨.run :: (first ++ (stops ++ .run :: last)), ?_, ?_⟩
  · rw [Life.afterAll_cons, Life.afterAll_append, hl, Life.afterAll_append]
    exact pollerLast
  · rw [Life.told_cons, Life.told_append, hl, Life.told_append, Life.told_cons, told, silent,
      toldLast]
    rfl

/-- A batch at a terminal is a venture whose members are all heard out. -/
theorem exists_events_lastOfAll (settled : Batch.settle given = .ok members) (s : Session) :
    ∃ events,
      Batch.Mirrors (Venture.reached members s.poller s.scene.client.active events) members
        (s.lastOfAll members).1 ∧
      (Venture.reached members s.poller s.scene.client.active
        events).company.IsHeardOut := by
  unfold lastOfAll
  simp only
  split
  · have distinct := Batch.nodup_of_settle settled
    obtain ⟨starts, -, begun, silent⟩ := Batch.exists_start distinct
      (Batch.ne_nil_of_settle settled) s.poller s.scene
    obtain ⟨naps, -, napping, silent⟩ := Batch.exists_advanceAll begun silent distinct isNapping
    obtain ⟨stops, stopped, silent⟩ := napping.exists_stop silent distinct
    obtain ⟨rest, ended, silent⟩ := Batch.exists_run_of_mirrors stopped silent distinct
    refine ⟨starts ++ (naps ++ (stops ++ rest)), ?_⟩
    simp only [Venture.reached_append, Venture.afterAll_append]
    exact ⟨ended, silent⟩
  · obtain ⟨events, -, ended, silent⟩ := Batch.exists_run settled s.poller s.scene
    exact ⟨events, ended, silent⟩

theorem isSuccess_download_iff (s : Session) (model : String) :
    (toldOutcome (s.download model).1).isSuccess = true ↔
      (s.lastOf model).1.poller.HasCompleted := by
  obtain ⟨acts, poller, told⟩ := s.exists_acts_lastOf model
  rw [← poller, ← isSuccess_toldOutcome_iff, told]
  rfl

/-- A batch at a terminal comes to a success if and only if all its members have completed. -/
theorem isSuccess_downloadAll_iff (settled : Batch.settle given = .ok members) (s : Session)
    (lines : BatchEvent → List String) :
    (s.downloadAll members lines).1.verdict.isSuccess = true ↔
      ∀ p ∈ (s.lastOfAll members).1.batch.pollers, p.HasCompleted := by
  obtain ⟨events, mirrors, silent⟩ := exists_events_lastOfAll settled s
  have heard : (s.downloadAll members lines).1 =
      (Venture.reached members s.poller s.scene.client.active
        events).company.heardBy members := by
    show (⟨(s.lastOfAll members).1.told, (s.lastOfAll members).1.batch.report⟩ : BatchHeard) = _
    rw [mirrors.told, ← mirrors.batch, mirrors.fits.report_eq]
    rfl
  rw [heard, Batch.isSuccess_verdict_iff settled _ _ _ (.inr silent), ← mirrors.batch]
  simp only [Batch.Company.batch, List.mem_map, Venture.poller?_eq_some_iff]
  constructor
  · rintro all p ⟨m, hm, rfl⟩
    obtain ⟨i, hi⟩ := List.mem_iff_getElem?.1 hm
    exact all i m.poller ⟨m, hi, rfl⟩
  · rintro all i p ⟨m, hi, rfl⟩
    exact all m.poller ⟨m, List.mem_of_getElem? hi, rfl⟩

theorem members_lastOfAll (settled : Batch.settle given = .ok members) (s : Session) :
    (s.lastOfAll members).1.batch.members = members := by
  obtain ⟨events, mirrors, -⟩ := exists_events_lastOfAll settled s
  have named := mirrors.fits.named
  rw [← mirrors.batch, Batch.members, Batch.Company.batch, List.map_map]
  exact named

end Session

end Console

end ModelDepot
