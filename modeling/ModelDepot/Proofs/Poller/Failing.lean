import ModelDepot.Proofs.Poller.Conduct
import ModelDepot.Proofs.Poller.Deadline
import ModelDepot.Proofs.Poller.Settling
import ModelDepot.Proofs.Poller.Stopping
import ModelDepot.Proofs.Reply.Statuses

/-! # Replies that tell of a failure

A reply that counts and tells that the download has failed brings the poller to its end, whatever
progress it holds. The poller ends failed, with the backend's own words, unless the flag of the same
reply says completed: the flag is looked at first, and then the download counts as completed.
-/

namespace ModelDepot

namespace Poller

variable {p p' : Poller} {r : StatusResult} {outcome : DownloadOutcome}

theorem known_of_isTerminal (sound : p.Sound) (fits : p.StateFits)
    (terminal : p.state.isTerminal = true) :
    ∃ outcome, p.known = some outcome ∧ p.state = .ofOutcome outcome := by
  have ho := sound.outcome
  cases hs : p.stage with
  | concluding activity outcome =>
      refine ⟨outcome, by simp [known, hs, Stage.pending?], ?_⟩
      cases activity with
      | starting =>
          simp only [StateFits, hs] at fits
          rcases fits with ⟨idle, -⟩ | ⟨requested, -⟩
          · simp [idle, PollerState.isTerminal] at terminal
          · simp [requested, PollerState.isTerminal] at terminal
      | running =>
          simp only [StateFits, hs] at fits
          rcases fits with polling | settled
          · simp [polling, PollerState.isTerminal] at terminal
          · exact settled
  | releasing _ outcome | recording _ outcome | reporting outcome =>
      simp only [StateFits, hs] at fits
      exact ⟨outcome, by simp [known, hs, Stage.pending?], fits⟩
  | started | ended =>
      simp only [StateFits, hs] at fits
      cases noted : p.outcome with
      | none => simp [fits, noted, PollerState.isTerminal] at terminal
      | some outcome =>
          exact ⟨outcome, by simp [known, hs, Stage.pending?, noted], by simp [fits, noted]⟩
  | _ =>
      simp only [StateFits, hs] at fits
      simp [fits, PollerState.isTerminal] at terminal

/-- A result that decides for the outcome counts, or the outcome is known already. -/
structure IsBoundFor (p : Poller) (r : StatusResult) (outcome : DownloadOutcome) : Prop where
  sound : p.Sound
  state : p.StateFits
  way : p.stage = .accepted r ∨ p.known = some outcome

theorem IsBoundFor.changes (decides : r.Decides outcome) (h : p.IsBoundFor r outcome)
    (hc : p.Changes p') : p'.IsBoundFor r outcome := by
  refine ⟨h.sound.changes hc, h.state.changes h.sound hc, ?_⟩
  rcases h.way with accepted | hk
  · cases hc with
    | none | run | halt => exact .inl accepted
    | start hs | startRun hs | startAnswered _ hs | statusAnswered _ hs => simp_all
    | move hm => exact .inr (known_of_moves_accepted accepted decides hm)
  · exact .inr (known_changes h.sound hc hk)

theorem IsBoundFor.known_eq (h : p.IsBoundFor r outcome) {other : DownloadOutcome}
    (hk : p.known = some other) : other = outcome := by
  rcases h.way with accepted | known
  · have unnoted := h.sound.outcome
    simp_all [Poller.known, Stage.pending?, OutcomeFits]
  · rw [hk] at known
    cases known
    rfl

end Poller

namespace Course

variable {c : Course} {r : StatusResult} {outcome : DownloadOutcome}

theorem toEnd_turn_of_bound (decides : r.Decides outcome) (answers : Nat → Reply) (m : Moment)
    (h : c.poller.IsBoundFor r outcome) (underway : c.poller.Underway) :
    (c.turn answers m).poller.stage.toEnd < c.poller.stage.toEnd ∨ c.poller.stage = .ended := by
  rcases h.way with accepted | hk
  · refine .inl ?_
    rcases turn_cases c answers m with ⟨p, _, _, hm, hp, _⟩ | ⟨call, hc, _⟩ | ⟨_, hs, _⟩ | ⟨hr, _⟩
    · rw [hp]
      have verdict := StatusResult.verdict_of_decides decides
      cases hm <;> simp_all [Stage.toEnd]
    · simp [Poller.call?, accepted] at hc
    · simp [accepted] at hs
    · simp [Poller.IsResting, accepted] at hr
  · exact toEnd_turn answers m h.sound (.inr (by rw [hk]; rfl)) underway

end Course

namespace Poller

variable {p : Poller} {r : StatusResult} {outcome : DownloadOutcome}

/-- Nobody has to stop a poller that is bound for an outcome: it ends with it by itself. -/
theorem IsBoundFor.ends (decides : r.Decides outcome) (h : p.IsBoundFor r outcome)
    (answers : Nat → Reply) (around : Nat → Moment) {n : Nat} (hn : 13 ≤ n) :
    (p.requestRun.course answers around n).poller.stage = .ended ∧
    (p.requestRun.course answers around n).poller.outcome = some outcome ∧
    (p.requestRun.course answers around n).poller.state = .ofOutcome outcome := by
  have steady : ∀ n, (p.requestRun.course answers around n).poller.IsBoundFor r outcome ∧
      (p.requestRun.course answers around n).poller.Underway := by
    intro n
    induction n with
    | zero => exact ⟨h.changes decides (changes_requestRun p), underway_requestRun p⟩
    | succ n ih =>
        have hc := Course.changes_turn (p.requestRun.course answers around n) answers (around n)
        exact ⟨ih.1.changes decides hc, ih.2.changes hc⟩
  have ended := Course.ended_of_nearer (p := p.requestRun) (underway_requestRun p).2
    (fun n => Course.toEnd_turn_of_bound decides answers (around n) (steady n).1 (steady n).2) hn
  refine ⟨ended, ?_⟩
  obtain ⟨bound, -⟩ := steady n
  generalize (p.requestRun.course answers around n).poller = q at ended bound ⊢
  rcases bound.way with accepted | hk
  · rw [accepted] at ended
    cases ended
  · have noted : q.outcome = some outcome := by
      simpa only [known, ended, Stage.pending?, Option.none_or] using hk
    have state := bound.state
    simp only [StateFits, ended, noted] at state
    exact ⟨noted, state⟩

end Poller

open Payload

theorem StatusResult.decides_of_isFailure {model payload message : String}
    (fails : IsFailure (downloadStatus model payload) message) :
    (isFlagged payload = false →
      (ofReply model (.ok payload)).Decides (.failed (.remote message))) ∧
    (isFlagged payload = true → ∃ status, downloadStatus model payload = .ok status ∧
      status.completed = true ∧ (ofReply model (.ok payload)).Decides (.completed status)) := by
  have same : ofReply model (.ok payload) = downloadStatus model payload := rfl
  rw [same]
  generalize hd : downloadStatus model payload = decoded at fails
  cases fails with
  | error =>
      rw [isFlagged_of_remote hd]
      constructor
      · intro _
        exact .remote
      · intro flag
        cases flag
  | @status status failure =>
      rw [isFlagged_of_ok hd]
      constructor
      · intro plain
        rcases failure with hs | hs
        · rw [hs]
          exact .failed plain hs
        · rw [hs]
          exact .timeout plain hs
      · intro flag
        exact ⟨status, rfl, flag, .completed (.inl flag)⟩

namespace Life

/-- Nothing but the outcome comes of the acts: no other is known, told or shown by then, and the
poller ends with this one once it has its turns. -/
structure EndsIn (l : Life) (acts : List Act) (outcome : DownloadOutcome) : Prop where
  known : ∀ other, (l.afterAll acts).poller.known = some other → other = outcome
  told : ∀ name other, .finished name other ∈ l.told acts → other = outcome
  shown : (l.afterAll acts).poller.state.isTerminal = true →
    (l.afterAll acts).poller.state = .ofOutcome outcome
  ends : ∀ answers around n, 13 ≤ n →
    ((l.afterAll acts).poller.requestRun.course answers around n).poller.stage = .ended ∧
    ((l.afterAll acts).poller.requestRun.course answers around n).poller.outcome = some outcome ∧
    ((l.afterAll acts).poller.requestRun.course answers around n).poller.state =
      .ofOutcome outcome

section Fresh

variable {model : String} {config : PollerConfig} {acts : List Act} {r : StatusResult}
  {outcome : DownloadOutcome} {t : Passage}

theorem isBoundFor_of_accepts (decides : r.Decides outcome)
    (ht : t ∈ (fresh model config).passages acts) (counts : t.Accepts r) :
    ((fresh model config).afterAll acts).poller.IsBoundFor r outcome := by
  obtain ⟨before, a, later, rfl, rfl⟩ := mem_passages_iff.1 ht
  have split : (fresh model config).afterAll (before ++ a :: later) =
      ((fresh model config).afterAll (before ++ [a])).afterAll later := by
    simp [afterAll_append]
  rw [split]
  apply afterAll_of_changes (fun hc h => Poller.IsBoundFor.changes decides h hc)
  constructor
  · exact sound_fresh model config (before ++ [a])
  · exact (agrees_fresh model config (before ++ [a])).state
  · left
    rw [afterAll_append]
    exact counts.2.2

theorem endsIn_of_accepts (decides : r.Decides outcome)
    (ht : t ∈ (fresh model config).passages acts) (counts : t.Accepts r) :
    (fresh model config).EndsIn acts outcome := by
  have bound := isBoundFor_of_accepts decides ht counts
  constructor
  · intro other hk
    exact bound.known_eq hk
  · intro name other hear
    by_cases ended : ((fresh model config).afterAll acts).poller.stage = .ended
    · obtain ⟨last, noted, told⟩ := told_of_ended ended
      have hk : ((fresh model config).afterAll acts).poller.known = some last := by
        rw [Poller.known_of_ended ended, noted]
      rw [told] at hear
      obtain ⟨-, rfl⟩ : name = model ∧ other = last := by simpa using hear
      exact bound.known_eq hk
    · rw [told_of_running ended] at hear
      simp at hear
  · intro terminal
    obtain ⟨other, hk, state⟩ := Poller.known_of_isTerminal bound.sound bound.state terminal
    rw [state, bound.known_eq hk]
  · intro answers around n hn
    exact bound.ends decides answers around hn

end Fresh

end Life

/-- A reply tells of a failure if it is an error of the backend or a status with a word for it, and
then, once it counts, it brings the poller to its end: failed, unless the flag of the reply says
completed. -/
theorem failure_ends_download (model : String) (config : PollerConfig) (acts : List Act) :
    (∀ payload message,
      IsFailure (downloadStatus model payload) message ↔ TellsFailure payload message) ∧
    ∀ t ∈ (Life.fresh model config).passages acts, ∀ payload message,
      t.Accepts (.ofReply model (.ok payload)) → TellsFailure payload message →
      (isFlagged payload = false →
        (Life.fresh model config).EndsIn acts (.failed (.remote message))) ∧
      (isFlagged payload = true → ∃ status, downloadStatus model payload = .ok status ∧
        status.completed = true ∧ (Life.fresh model config).EndsIn acts (.completed status)) := by
  constructor
  · intro payload message
    exact isFailure_iff
  · intro t ht payload message counts tells
    obtain ⟨unflagged, flagged⟩ := StatusResult.decides_of_isFailure (isFailure_iff.2 tells)
    constructor
    · intro plain
      exact Life.endsIn_of_accepts (unflagged plain) ht counts
    · intro flag
      obtain ⟨status, given, completed, decides⟩ := flagged flag
      exact ⟨status, given, completed, Life.endsIn_of_accepts decides ht counts⟩

/-- A poller that is started and run, up to the first reply to its status calls. -/
def firstReply (payload : String) : List Act :=
  [.start, .go 0 .none, .go 0 .none, .go 0 .none, .answer (.ok "\x7b\x7d"), .go 0 .none, .run,
    .go 0 .none, .go 0 .none, .go 0 .none, .go 0 .none, .answer (.ok payload)]

section FirstReply

variable (payload : String)

/-- The reply counts, since nobody has stopped the poller. -/
theorem accepts_firstReply :
    (((Life.fresh "phi" ⟨.ofSeconds 1, .ofSeconds 60⟩).afterAll (firstReply payload)).passage
      (.go 0 .none)).Accepts (.ofReply "phi" (.ok payload)) :=
  ⟨rfl, rfl, rfl⟩

theorem mem_passages_firstReply (later : List Act) :
    ((Life.fresh "phi" ⟨.ofSeconds 1, .ofSeconds 60⟩).afterAll (firstReply payload)).passage
        (.go 0 .none) ∈
      (Life.fresh "phi" ⟨.ofSeconds 1, .ofSeconds 60⟩).passages
        (firstReply payload ++ .go 0 .none :: later) :=
  Life.mem_passages_iff.2 ⟨_, _, later, rfl, rfl⟩

end FirstReply

/-- A word in capitals between blanks fails a download that is all there. -/
theorem failure_ends_download_by_word :
    (Life.fresh "phi" ⟨.ofSeconds 1, .ofSeconds 60⟩).EndsIn
      (firstReply "\x7b\"status\":\" ERROR \",\"progress\":100\x7d" ++ [.go 0 .none])
      (.failed (.remote "backend reported status failed")) := by
  have read : downloadStatus "phi" "\x7b\"status\":\" ERROR \",\"progress\":100\x7d" =
      .ok ⟨"phi", ⟨0x4059000000000000⟩, false, .failed, none, none, none⟩ :=
    eq_ok_of_toOption (by decide +kernel)
  have fails : IsFailure (.ok ⟨"phi", ⟨0x4059000000000000⟩, false, .failed, none, none, none⟩)
      "backend reported status failed" := .status (.inl rfl)
  rw [← read] at fails
  obtain ⟨tells, ends⟩ := failure_ends_download "phi" ⟨.ofSeconds 1, .ofSeconds 60⟩
    (firstReply "\x7b\"status\":\" ERROR \",\"progress\":100\x7d" ++ [.go 0 .none])
  have happens := ends _ (mem_passages_firstReply _ []) _ _ (accepts_firstReply _)
    ((tells _ _).1 fails)
  exact happens.1 (isFlagged_of_ok read)

/-- The flag goes before the word: a download that the backend gives up is told as completed. -/
theorem flagged_failure_completes :
    ∃ t ∈ (Life.fresh "phi" ⟨.ofSeconds 1, .ofSeconds 60⟩).passages
        (firstReply "\x7b\"status\":\"failed\",\"completed\":true\x7d" ++
          .go 0 .none :: List.replicate 5 (.go 0 .none)),
      t.Accepts (.ofReply "phi" (.ok "\x7b\"status\":\"failed\",\"completed\":true\x7d")) ∧
      TellsFailure "\x7b\"status\":\"failed\",\"completed\":true\x7d"
        "backend reported status failed" ∧
      ((Life.fresh "phi" ⟨.ofSeconds 1, .ofSeconds 60⟩).afterAll
        (firstReply "\x7b\"status\":\"failed\",\"completed\":true\x7d" ++
          .go 0 .none :: List.replicate 5 (.go 0 .none))).poller.outcome =
        some (.completed ⟨"phi", .zero, true, .failed, none, none, none⟩) := by
  have read : downloadStatus "phi" "\x7b\"status\":\"failed\",\"completed\":true\x7d" =
      .ok ⟨"phi", .zero, true, .failed, none, none, none⟩ :=
    eq_ok_of_toOption (by decide +kernel)
  have fails : IsFailure (.ok ⟨"phi", .zero, true, .failed, none, none, none⟩)
      "backend reported status failed" := .status (.inl rfl)
  rw [← read] at fails
  have happens := mem_passages_firstReply
    "\x7b\"status\":\"failed\",\"completed\":true\x7d" (List.replicate 5 (.go 0 .none))
  exact ⟨_, happens, accepts_firstReply _, isFailure_iff.1 fails, by decide +kernel⟩

end ModelDepot
