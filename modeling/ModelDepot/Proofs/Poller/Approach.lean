import ModelDepot.Proofs.Lists
import ModelDepot.Proofs.Poller.Course
import ModelDepot.Proofs.Poller.Decision

/-! # On the way to a decision

What a poller has asked and told at each stage, given the results of its status calls up to the
first decisive one. Every move and every reply keeps it so, and brings the next reply or the end
nearer.
-/

namespace ModelDepot

namespace StatusResult

/-- The readings of the progress among some results, each at its first occurrence. Readings are
told apart by their bits. -/
def readings (rs : List StatusResult) : List Binary64 :=
  (rs.filterMap reading?).eraseDups

variable {rs : List StatusResult} {r : StatusResult} {value : Binary64}

theorem readings_append_new (hr : r.reading? = some value) (hv : value ∉ readings rs) :
    readings (rs ++ [r]) = readings rs ++ [value] := by
  have absent : value ∉ rs.filterMap reading? := by
    simpa only [readings, List.mem_eraseDups] using hv
  rw [← List.contains_iff_mem, Bool.not_eq_true] at absent
  simp only [readings, List.filterMap_append, List.filterMap_cons, hr, List.filterMap_nil,
    eraseDups_concat, absent, Bool.false_eq_true, if_false]

theorem readings_append_known (hr : r.reading? = some value) (hv : value ∈ readings rs) :
    readings (rs ++ [r]) = readings rs := by
  have present : value ∈ rs.filterMap reading? := by
    simpa only [readings, List.mem_eraseDups] using hv
  rw [← List.contains_iff_mem] at present
  simp only [readings, List.filterMap_append, List.filterMap_cons, hr, List.filterMap_nil,
    eraseDups_concat, present, if_true]

theorem readings_append_glitch (hr : r.isGlitch = true) : readings (rs ++ [r]) = readings rs := by
  have unread : r.reading? = none := by
    cases r with
    | ok status => simp [isGlitch] at hr
    | error e => rfl
  simp only [readings, List.filterMap_append, List.filterMap_cons, unread, List.filterMap_nil,
    List.append_nil]

theorem readings_of_settled_eq {fewer : List StatusResult}
    (same : fewer.filter (!·.isGlitch) = rs.filter (!·.isGlitch)) :
    readings fewer = readings rs := by
  have settled : ∀ rs : List StatusResult,
      rs.filterMap reading? = (rs.filter (!·.isGlitch)).filterMap reading? := by
    intro rs
    rw [List.filterMap_filter]
    congr 1
    funext r
    cases r with
    | ok status => simp [isGlitch]
    | error e => cases he : isGlitch (.error e) <;> simp [reading?]
  simp only [readings, settled fewer, settled rs, same]

theorem isOpen_of_isGlitch (h : r.isGlitch = true) : r.IsOpen := by
  intro outcome hd
  simp [not_isGlitch_of_decides hd] at h

end StatusResult

open StatusResult

def resultOf (model : String) (answers : Nat → Reply) (i : Nat) : StatusResult :=
  Client.accept (Payload.downloadStatus model) (answers i)

/-- The first status calls come to the given results. -/
def BeginsWith (model : String) (answers : Nat → Reply) (rs : List StatusResult) : Prop :=
  ∀ i r, rs[i]? = some r → resultOf model answers i = r

/-- Whenever the deadline is checked on its course, the poller is in time. -/
def StaysInTime (p : Poller) (answers : Nat → Reply) (around : Nat → Moment) : Prop :=
  ∀ n, (p.course answers around n).poller.stage = .timing →
    (p.course answers around n).poller.isExpired (around n).now = false

/-- Every nap on its course is given a turn at which it is over. -/
def NapsEnd (p : Poller) (answers : Nat → Reply) (around : Nat → Moment) : Prop :=
  ∀ n instant, (p.course answers around n).poller.stage = .napping instant →
    ∃ m, n ≤ m ∧ instant ≤ (around m).now

/-- The values told so far, the last one first, and the events sent agree with some results. -/
def Tells (model : String) (told : List Binary64) (sent : List DownloadEvent)
    (rs : List StatusResult) : Prop :=
  told.reverse = readings rs ∧ sent = (readings rs).map (.progress model)

/-- How far a poller is, stage by stage, on its way to the decision by `last` after `undecided`,
when it has made `asked` status calls and sent the events `sent`. -/
def OnTheWay (undecided : List StatusResult) (last : StatusResult) (outcome : DownloadOutcome)
    (p : Poller) (asked : Nat) (sent : List DownloadEvent) : Prop :=
  match p.stage with
  | .started =>
    p.isRunning = true ∧ p.outcome = none ∧ p.gate = .idle ∧ asked = 0 ∧
      Tells p.model p.told sent []
  | .looking | .timing | .beginning | .tiring | .napping _ =>
    p.gate = .idle ∧ asked ≤ undecided.length ∧ Tells p.model p.told sent (undecided.take asked)
  | .calling =>
    p.gate = .inFlight ∧ asked ≤ undecided.length ∧ Tells p.model p.told sent (undecided.take asked)
  | .received r =>
    p.gate = .inFlight ∧ ∃ i, asked = i + 1 ∧ (undecided ++ [last])[i]? = some r ∧
      Tells p.model p.told sent (undecided.take i)
  | .accepted r =>
    p.gate = .idle ∧ ∃ i, asked = i + 1 ∧ (undecided ++ [last])[i]? = some r ∧
      Tells p.model p.told sent (undecided.take i)
  | .concluding .running o | .releasing .running o | .recording .running o | .reporting o =>
    o = outcome ∧ asked = undecided.length + 1 ∧ Tells p.model p.told sent undecided
  | .ended =>
    p.outcome = some outcome ∧ asked = undecided.length + 1 ∧
      sent = (readings undecided).map (.progress p.model) ++ [.finished p.model outcome]
  | _ => False

section Way

variable {undecided : List StatusResult} {last : StatusResult} {outcome : DownloadOutcome}
  {p p' : Poller} {asked : Nat} {sent : List DownloadEvent} {now : Nat}
  {active active' : ActiveDownloads} {told : Option DownloadEvent}

/-- A result that decides nothing is one of those before the last. -/
theorem take_succ_of_isOpen {i : Nat} {r : StatusResult} (decides : last.Decides outcome)
    (hi : (undecided ++ [last])[i]? = some r) (hr : r.IsOpen) :
    i + 1 ≤ undecided.length ∧ undecided.take (i + 1) = undecided.take i ++ [r] := by
  by_cases inside : i < undecided.length
  · rw [List.getElem?_append_left inside, List.getElem?_eq_getElem inside] at hi
    cases hi
    exact ⟨inside, List.take_succ_eq_append_getElem inside⟩
  · rw [List.getElem?_append_right (Nat.le_of_not_lt inside), List.getElem?_singleton] at hi
    split at hi
    · cases hi
      exact absurd decides (hr outcome)
    · cases hi

theorem eq_last_of_decides {i : Nat} {r : StatusResult} {o : DownloadOutcome}
    (isOpen : ∀ r ∈ undecided, r.IsOpen) (hi : (undecided ++ [last])[i]? = some r)
    (hr : r.Decides o) : i = undecided.length ∧ r = last := by
  by_cases inside : i < undecided.length
  · rw [List.getElem?_append_left inside] at hi
    exact absurd hr (isOpen r (List.mem_of_getElem? hi) o)
  · rw [List.getElem?_append_right (Nat.le_of_not_lt inside), List.getElem?_singleton] at hi
    split at hi
    · cases hi
      exact ⟨by omega, rfl⟩
    · cases hi

theorem isOpen_of_verdict_ne {r : StatusResult} {v : Poller.Verdict} (hv : Poller.verdict r = v)
    (hne : ∀ o, v ≠ .decided o) : r.IsOpen := by
  intro o hd
  rw [verdict_of_decides hd] at hv
  exact hne o hv.symm

theorem onTheWay_accepted (decides : last.Decides outcome) {r : StatusResult}
    (hs : p.stage = .accepted r) (hr : r.IsOpen)
    (h : OnTheWay undecided last outcome p asked sent) :
    p.gate = .idle ∧ ∃ i, asked = i + 1 ∧ i + 1 ≤ undecided.length ∧
      undecided.take (i + 1) = undecided.take i ++ [r] ∧
      Tells p.model p.told sent (undecided.take i) := by
  simp only [OnTheWay, hs] at h
  obtain ⟨hg, i, hasked, hi, ht⟩ := h
  obtain ⟨inside, htake⟩ := take_succ_of_isOpen decides hi hr
  exact ⟨hg, i, hasked, inside, htake, ht⟩

theorem onTheWay_moves (isOpen : ∀ r ∈ undecided, r.IsOpen) (decides : last.Decides outcome)
    (sound : p.Sound) (inTime : p.stage = .timing → p.isExpired now = false)
    (hm : Poller.Moves now active p p' active' told)
    (h : OnTheWay undecided last outcome p asked sent) :
    OnTheWay undecided last outcome p' asked (sent ++ told.toList) := by
  cases hm with
  | enter hs | enterStopped hs | claim hs | refused hs | request hs | acknowledged hs | rejected hs
  | recordStart hs => simp [OnTheWay, hs] at h
  | settled hs _ ho => simp [OnTheWay, hs, ho] at h
  | unsettled hs =>
      simp only [OnTheWay, hs] at h
      obtain ⟨_, _, hg, rfl, ht⟩ := h
      exact ⟨hg, Nat.zero_le _, by simpa using ht⟩
  | lookStopped hs hg | beginRefused hs hg | discard hs hg => simp_all [OnTheWay]
  | expire hs he => simp [inTime hs] at he
  | look hs | inTime hs | napFreely hs | late hs | nap hs | wake hs =>
      simp only [OnTheWay, hs] at h
      simpa [OnTheWay] using h
  | begin hs | finish hs =>
      simp only [OnTheWay, hs] at h
      simpa [OnTheWay] using h.2
  | @decide r o hs hv =>
      simp only [OnTheWay, hs] at h
      obtain ⟨_, i, rfl, hi, ht⟩ := h
      have hd := verdict_eq_decided_iff.1 hv
      obtain ⟨rfl, rfl⟩ := eq_last_of_decides isOpen hi hd
      rw [List.take_length] at ht
      simpa [OnTheWay, hd.unique decides] using ht
  | @tell r value hs hv hn =>
      have hr : IsOpen r := isOpen_of_verdict_ne hv (by simp)
      obtain ⟨hg, i, rfl, inside, htake, ht, hsent⟩ := onTheWay_accepted decides hs hr h
      have unread : value ∉ readings (undecided.take i) := by
        rw [← ht]
        simpa using hn
      have grown := readings_append_new (reading?_of_verdict hv) unread
      rw [← htake] at grown
      simp [OnTheWay, Tells, hg, inside, grown, ht, hsent]
  | @keepSilent r value hs hv hn =>
      have hr : IsOpen r := isOpen_of_verdict_ne hv (by simp)
      obtain ⟨hg, i, rfl, inside, htake, ht⟩ := onTheWay_accepted decides hs hr h
      have read : value ∈ readings (undecided.take i) := by
        rw [← ht.1]
        simpa using hn
      have same := readings_append_known (reading?_of_verdict hv) read
      rw [← htake] at same
      simpa [OnTheWay, Tells, hg, inside, same] using ht
  | @rideOut r hs hv =>
      have hr : IsOpen r := isOpen_of_verdict_ne hv (by simp)
      obtain ⟨hg, i, rfl, inside, htake, ht⟩ := onTheWay_accepted decides hs hr h
      have same : readings (undecided.take i ++ [r]) = readings (undecided.take i) :=
        readings_append_glitch (isGlitch_of_verdict hv)
      rw [← htake] at same
      simpa [OnTheWay, Tells, hg, inside, same] using ht
  | @conclude activity o hs =>
      cases activity <;> simp only [OnTheWay, hs] at h
      simpa [OnTheWay] using h
  | @release activity o hs =>
      cases activity <;> simp only [OnTheWay, hs] at h
      simpa [OnTheWay] using h
  | @recordRun o hs =>
      simp only [OnTheWay, hs] at h
      have unnoted : p.outcome = none := by simpa [Poller.OutcomeFits, hs] using sound.outcome
      simpa [OnTheWay, unnoted] using h
  | @report o hs =>
      simp only [OnTheWay, hs] at h
      obtain ⟨rfl, hasked, _, hsent⟩ := h
      have noted : p.outcome = some o := by simpa [Poller.OutcomeFits, hs] using sound.outcome
      simp [OnTheWay, noted, hasked, hsent]

theorem onTheWay_receive {answers : Nat → Reply}
    (follows : BeginsWith p.model answers (undecided ++ [last])) {call : Call}
    (hc : p.call? = some call) (h : OnTheWay undecided last outcome p asked sent) :
    call = .downloadStatus p.model ∧ asked ≤ undecided.length ∧
      OnTheWay undecided last outcome (p.receive (answers asked)) (asked + 1) sent := by
  cases hs : p.stage with
  | requesting => simp [OnTheWay, hs] at h
  | calling =>
      simp only [OnTheWay, hs] at h
      obtain ⟨hg, hle, ht⟩ := h
      have inside : asked < (undecided ++ [last]).length := by simpa using Nat.lt_succ_of_le hle
      have hi := List.getElem?_eq_getElem inside
      have hr := follows asked _ hi
      refine ⟨by simpa [Poller.call?, hs] using hc.symm, hle, ?_⟩
      simp only [Poller.receive, hs, OnTheWay]
      refine ⟨hg, asked, rfl, ?_, ?_⟩
      · rw [hi, ← hr]
        rfl
      · exact ht
  | _ => simp [Poller.call?, hs] at hc

/-- The steps ahead of a poller until its next call is answered, or until its end when there is no
further call. -/
def Stage.ahead : Stage → Nat
  | .received _ => 16
  | .accepted _ => 15
  | .tiring => 14
  | .napping _ => 13
  | .started => 11
  | .looking => 10
  | .timing => 9
  | .beginning => 8
  | .calling => 7
  | .concluding _ _ => 4
  | .releasing _ _ => 3
  | .recording _ _ => 2
  | .reporting _ => 1
  | _ => 0

theorem ahead_moves (hm : Poller.Moves now active p p' active' told)
    (h : OnTheWay undecided last outcome p asked sent) : p'.stage.ahead < p.stage.ahead := by
  cases hm <;> simp_all [OnTheWay, Stage.ahead]

end Way

end ModelDepot
