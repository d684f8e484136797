import ModelDepot.Proofs.Poller.Approach

/-! # The first decisive result

A poller that is neither stopped nor out of time asks until the first decisive result, which is its
outcome. Until then it tells every reading of the progress once, at its first occurrence. Glitches
leave no trace.
-/

namespace ModelDepot

open StatusResult

structure OnCourse (undecided : List StatusResult) (last : StatusResult) (outcome : DownloadOutcome)
    (model : String) (c : Course) : Prop where
  sound : c.poller.Sound
  named : c.poller.model = model
  calls : c.calls = List.replicate c.calls.length (.downloadStatus model)
  way : OnTheWay undecided last outcome c.poller c.calls.length c.sent

/-- What a course has still before it: the calls that are still to come, and the steps to the next
of them. -/
def Course.toGo (undecided : List StatusResult) (c : Course) : Nat :=
  (undecided.length + 1 - c.calls.length) * 20 + c.poller.stage.ahead

section Courses

variable {undecided : List StatusResult} {last : StatusResult} {outcome : DownloadOutcome}
  {model : String} {c : Course} {answers : Nat → Reply} {m : Moment}

theorem OnCourse.turn (isOpen : ∀ r ∈ undecided, r.IsOpen) (decides : last.Decides outcome)
    (follows : BeginsWith model answers (undecided ++ [last]))
    (inTime : c.poller.stage = .timing → c.poller.isExpired m.now = false)
    (h : OnCourse undecided last outcome model c) :
    OnCourse undecided last outcome model (c.turn answers m) := by
  obtain ⟨sound, rfl, calls, way⟩ := h
  have sound' : (c.turn answers m).poller.Sound := sound.changes (Course.changes_turn _ _ _)
  rcases Course.turn_cases c answers m with ⟨p, _, told, hm, hp, hcalls, hsent⟩ |
    ⟨call, hc, hp, hcalls, hsent⟩ | ⟨_, _, _, _, ht⟩ | ⟨_, ht⟩
  · refine ⟨sound', ?_, ?_, ?_⟩
    · rw [hp]
      exact Poller.model_changes (.move hm)
    · rwa [hcalls]
    · rw [hp, hcalls, hsent]
      exact onTheWay_moves isOpen decides sound inTime hm way
  · obtain ⟨hcall, _, way'⟩ := onTheWay_receive follows hc way
    refine ⟨sound', ?_, ?_, ?_⟩
    · rw [hp, Poller.receive_model]
    · rw [hcalls, List.length_append, List.length_singleton, List.replicate_succ', ← calls, hcall]
    · rw [hp, hcalls, hsent, List.length_append]
      exact way'
  · rw [ht]
    exact ⟨sound, rfl, calls, way⟩
  · rw [ht]
    exact ⟨sound, rfl, calls, way⟩

/-- A turn brings the end nearer, unless the poller naps and it is too early to wake it. -/
theorem OnCourse.toGo_turn (follows : BeginsWith model answers (undecided ++ [last]))
    (h : OnCourse undecided last outcome model c) :
    (c.turn answers m).toGo undecided < c.toGo undecided ∨
    (∃ instant, c.poller.stage = .napping instant ∧ m.now < instant ∧ c.turn answers m = c) ∨
    c.poller.stage = .ended := by
  obtain ⟨_, rfl, _, way⟩ := h
  rcases Course.turn_cases c answers m with ⟨p, _, told, hm, hp, hcalls, _⟩ |
    ⟨call, hc, hp, hcalls, _⟩ | ⟨instant, hs, _, nap⟩ | ⟨hr, _⟩
  · refine .inl ?_
    have nearer := ahead_moves hm way
    simpa [Course.toGo, hp, hcalls] using nearer
  · refine .inl ?_
    obtain ⟨_, more, _⟩ := onTheWay_receive follows hc way
    have before : c.poller.stage.ahead = 7 ∧
        (c.poller.receive (answers c.calls.length)).stage.ahead = 16 := by
      cases hs : c.poller.stage with
      | requesting => simp [OnTheWay, hs] at way
      | calling => simp [Poller.receive, hs, Stage.ahead]
      | _ => simp [Poller.call?, hs] at hc
    simp only [Course.toGo, hp, hcalls, before, List.length_append, List.length_singleton]
    omega
  · exact .inr (.inl ⟨instant, hs, nap⟩)
  · refine .inr (.inr ?_)
    rcases hr with hs | hs | ⟨hs, hr⟩
    · simp [OnTheWay, hs] at way
    · exact hs
    · simp [OnTheWay, hs, hr] at way

end Courses

section Runs

variable {undecided : List StatusResult} {last : StatusResult} {outcome : DownloadOutcome}
  {p : Poller} {answers : Nat → Reply} {around : Nat → Moment}

theorem onCourse_course (isOpen : ∀ r ∈ undecided, r.IsOpen) (decides : last.Decides outcome)
    (follows : BeginsWith p.model answers (undecided ++ [last]))
    (inTime : StaysInTime p answers around) (sound : p.Sound)
    (way : OnTheWay undecided last outcome p 0 []) (n : Nat) :
    OnCourse undecided last outcome p.model (p.course answers around n) := by
  induction n with
  | zero => exact ⟨sound, rfl, rfl, way⟩
  | succ n ih => exact ih.turn isOpen decides follows (inTime n)

theorem exists_nearer (follows : BeginsWith p.model answers (undecided ++ [last]))
    (napsEnd : NapsEnd p answers around)
    (onCourse : ∀ n, OnCourse undecided last outcome p.model (p.course answers around n))
    (n : Nat) :
    (∃ k, (p.course answers around k).toGo undecided < (p.course answers around n).toGo undecided) ∨
    (p.course answers around n).poller.stage = .ended := by
  rcases (onCourse n).toGo_turn (m := around n) follows with nearer | ⟨instant, hs, _, _⟩ | ended
  · exact .inl ⟨n + 1, nearer⟩
  · refine .inl ?_
    -- while the poller naps as it does now, a turn either wakes it or comes too early
    have turnOfNap : ∀ j, p.course answers around j = p.course answers around n →
        (∃ k, (p.course answers around k).toGo undecided <
          (p.course answers around n).toGo undecided) ∨
        ((around j).now < instant ∧
          p.course answers around (j + 1) = p.course answers around n) := by
      intro j same
      rcases (onCourse j).toGo_turn (m := around j) follows with nearer | ⟨i, hi, early, stays⟩ |
        ended
      · exact .inl ⟨j + 1, Nat.lt_of_lt_of_eq nearer (by rw [same])⟩
      · rw [same, hs] at hi
        cases hi
        exact .inr ⟨early, stays.trans same⟩
      · rw [same, hs] at ended
        cases ended
    have napsOn : ∀ d, (∃ k, (p.course answers around k).toGo undecided <
          (p.course answers around n).toGo undecided) ∨
        p.course answers around (n + d) = p.course answers around n := by
      intro d
      induction d with
      | zero => exact .inr rfl
      | succ d ih =>
          rcases ih with nearer | same
          · exact .inl nearer
          · exact (turnOfNap (n + d) same).imp_right (·.2)
    obtain ⟨wakes, hle, hnow⟩ := napsEnd n instant hs
    obtain ⟨d, rfl⟩ := Nat.exists_eq_add_of_le hle
    rcases napsOn d with nearer | same
    · exact nearer
    rcases turnOfNap _ same with nearer | ⟨early, _⟩
    · exact nearer
    · omega
  · exact .inr ended

theorem exists_ended (follows : BeginsWith p.model answers (undecided ++ [last]))
    (napsEnd : NapsEnd p answers around)
    (onCourse : ∀ n, OnCourse undecided last outcome p.model (p.course answers around n)) :
    ∃ n, (p.course answers around n).poller.stage = .ended := by
  have nearest : ∀ distance n, (p.course answers around n).toGo undecided = distance →
      ∃ k, (p.course answers around k).poller.stage = .ended := by
    intro distance
    induction distance using Nat.strongRecOn with
    | ind distance ih =>
        rintro n rfl
        rcases exists_nearer follows napsEnd onCourse n with ⟨k, hk⟩ | ended
        · exact ih _ hk k rfl
        · exact ⟨n, ended⟩
  exact nearest _ 0 rfl

end Runs

/-- The poller has come through a start that nobody stopped, and the start has not failed. -/
def StartAccepted (p : Poller) : Prop :=
  ∃ model config acts, .close ∉ acts ∧ ((Life.fresh model config).afterAll acts).poller = p ∧
    p.stage = .started ∧ p.outcome = none

/-- A course that is over: its outcome, the number of status calls it took and the values it has
sent. -/
structure Course.IsOver (c : Course) (model : String) (outcome : DownloadOutcome) (asked : Nat)
    (values : List Binary64) : Prop where
  ended : c.poller.stage = .ended
  noted : c.poller.outcome = some outcome
  calls : c.calls = List.replicate asked (.downloadStatus model)
  sent : c.sent = values.map (.progress model) ++ [.finished model outcome]

/-- The course of the poller comes to an end and stays there, and a receiver that stays gets all
that is sent. -/
def EndsWith (p : Poller) (answers : Nat → Reply) (around : Nat → Moment)
    (outcome : DownloadOutcome) (asked : Nat) (values : List Binary64) : Prop :=
  ∃ n, ∀ m, n ≤ m →
    (p.course answers around m).IsOver p.model outcome asked values ∧
    ((∀ k, (around k).attended = true) →
      (p.course answers around m).received = (p.course answers around m).sent)

section Accepted

variable {undecided : List StatusResult} {last : StatusResult} {outcome : DownloadOutcome}
  {p : Poller} {answers : Nat → Reply} {around : Nat → Moment}

@[simp] theorem requestRun_of_started (hs : p.stage = .started) :
    p.requestRun = { p with isRunning := true } := by
  simp [Poller.requestRun, Poller.requestStart, hs]

variable (undecided last outcome) in
theorem StartAccepted.onTheWay (h : StartAccepted p) :
    p.requestRun.Sound ∧ OnTheWay undecided last outcome p.requestRun 0 [] := by
  obtain ⟨model, config, acts, unstopped, rfl, hs, ho⟩ := h
  have sound := Life.sound_fresh model config acts
  have hopen := Life.afterAll_of_after (l := Life.fresh model config)
    (P := fun p => p.gate.isStopped = false)
    (fun l a ha h => by rw [Life.isStopped_after (fun hc => unstopped (hc ▸ ha)), h]) rfl
  have untold : ((Life.fresh model config).afterAll acts).poller.told = [] :=
    Life.afterAll_of_changes (fun hc h => Poller.Untold.changes h hc) (fun _ => rfl) acts
      (by rw [hs]; rfl)
  refine ⟨sound.changes (Poller.changes_requestRun _), ?_⟩
  have idle : ((Life.fresh model config).afterAll acts).poller.gate = .idle := by
    have fits := sound.gate
    simp only [Poller.GateFits, hs] at fits
    cases hg : ((Life.fresh model config).afterAll acts).poller.gate with
    | idle => rfl
    | inFlight => exact absurd hg fits
    | stopped => simp [hg, PollGate.isStopped] at hopen
  simp [OnTheWay, hs, ho, idle, untold, Tells, readings]

theorem endsWith_of_beginsWith (accepted : StartAccepted p) (isOpen : ∀ r ∈ undecided, r.IsOpen)
    (decides : last.Decides outcome)
    (follows : BeginsWith p.model answers (undecided ++ [last]))
    (napsEnd : NapsEnd p.requestRun answers around)
    (inTime : StaysInTime p.requestRun answers around) :
    EndsWith p.requestRun answers around outcome (undecided.length + 1) (readings undecided) := by
  obtain ⟨sound, way⟩ := accepted.onTheWay undecided last outcome
  have named : p.requestRun.model = p.model := Poller.model_changes (Poller.changes_requestRun p)
  rw [← named] at follows
  have onCourse := onCourse_course isOpen decides follows inTime sound way
  obtain ⟨n, ended⟩ := exists_ended follows napsEnd onCourse
  refine ⟨n, fun m hle => ⟨?_, fun attended => Course.received_course attended m⟩⟩
  rw [Course.course_of_ended hle ended]
  obtain ⟨_, hmodel, calls, way⟩ := onCourse n
  simp only [OnTheWay, ended, hmodel] at way
  obtain ⟨noted, asked, sent⟩ := way
  exact ⟨ended, noted, by rw [calls, asked], sent⟩

end Accepted

/-- The first decisive result ends the run of a poller that nobody stops and that stays in time. The
poller makes one status call for each result up to that one; its outcome is the one that this result
decides; before it tells the outcome it tells every reading of the results before, once and at its
first occurrence. Glitches may be left out of the results or put between them: neither the outcome
nor what is told changes. All this is so whether or not anyone receives the events. -/
theorem run_ends_with_first_decision {p : Poller} {undecided : List StatusResult}
    {last : StatusResult} {outcome : DownloadOutcome} (accepted : StartAccepted p)
    (isOpen : ∀ r ∈ undecided, r.IsOpen) (decides : last.Decides outcome) :
    (∀ answers around, BeginsWith p.model answers (undecided ++ [last]) →
      NapsEnd p.requestRun answers around → StaysInTime p.requestRun answers around →
      EndsWith p.requestRun answers around outcome (undecided.length + 1) (readings undecided)) ∧
    ∀ other : List StatusResult,
      other.filter (!·.isGlitch) = undecided.filter (!·.isGlitch) →
      ∀ answers around, BeginsWith p.model answers (other ++ [last]) →
      NapsEnd p.requestRun answers around → StaysInTime p.requestRun answers around →
      EndsWith p.requestRun answers around outcome (other.length + 1) (readings undecided) := by
  constructor
  · intro answers around follows napsEnd inTime
    exact endsWith_of_beginsWith accepted isOpen decides follows napsEnd inTime
  · intro other same answers around follows napsEnd inTime
    have otherOpen : ∀ r ∈ other, r.IsOpen := by
      intro r hr
      cases hg : r.isGlitch
      · have kept : r ∈ other.filter (!·.isGlitch) := List.mem_filter.2 ⟨hr, by simp [hg]⟩
        rw [same] at kept
        exact isOpen r ((List.mem_filter.1 kept).1)
      · exact isOpen_of_isGlitch hg
    rw [← readings_of_settled_eq same]
    exact endsWith_of_beginsWith accepted otherOpen decides follows napsEnd inTime

/-- A glitch, a reading of 25 percent and a completed status: three calls and one progress event. -/
theorem run_ends_with_first_decision_after_glitch_and_reading :
    EndsWith
      ((Life.fresh "phi" ⟨.ofSeconds 1, .ofSeconds 0x8000000000000000⟩).afterAll
        [.start, .go 0 .none, .go 0 .none, .go 0 .none, .answer (.ok "\x7b\x7d"),
          .go 0 .none]).poller.requestRun
      (fun i => [.error (.noReply "status"),
        .ok "\x7b\"status\":\"downloading\",\"progress\":25\x7d"].getD i
          (.ok "\x7b\"status\":\"completed\",\"progress\":100\x7d"))
      (fun n => ⟨n, .none, true⟩)
      (.completed ⟨"phi", ⟨0x4059000000000000⟩, false, .completed, none, none, none⟩) 3
      [⟨0x4039000000000000⟩] := by
  refine (@run_ends_with_first_decision _
    [.error (.request (.noReply "status")),
      .ok ⟨"phi", ⟨0x4039000000000000⟩, false, .downloading, none, none, none⟩]
    (.ok ⟨"phi", ⟨0x4059000000000000⟩, false, .completed, none, none, none⟩) _
    ?_ ?_ ?_).1 _ _ ?_ ?_ ?_
  · exact ⟨"phi", _, _, by simp, rfl, rfl, rfl⟩
  · intro r hr outcome hd
    have undecided := verdict_of_decides hd
    rcases List.mem_cons.1 hr with rfl | hr
    · cases undecided
    · obtain rfl := List.mem_singleton.1 hr
      cases undecided
  · exact .completed (.inr rfl)
  · have comes : ∀ {reply status},
        (Client.accept (Payload.downloadStatus "phi") reply).toOption = some status →
        Client.accept (Payload.downloadStatus "phi") reply = .ok status := by
      intro reply status h
      cases hr : Client.accept (Payload.downloadStatus "phi") reply <;> simp_all [Except.toOption]
    intro i r hi
    match i with
    | 0 =>
        cases hi
        rfl
    | 1 | 2 =>
        cases hi
        exact comes (by decide +kernel)
    | i + 3 => cases hi
  · intro n instant _
    exact ⟨max n instant, Nat.le_max_left _ _, Nat.le_max_right _ _⟩
  · intro n _
    refine Poller.isExpired_of_endless ?_ _
    rw [Course.config_course]
    decide

end ModelDepot
