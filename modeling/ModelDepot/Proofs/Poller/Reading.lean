import ModelDepot.Proofs.Number.Order
import ModelDepot.Proofs.Poller.Clock
import ModelDepot.Proofs.Poller.Settling

/-! # What a poller reads

The values that status replies hold once they are decoded are percentages. All that a poller tells,
and the status it completes with, it has read in one of them.
-/

namespace ModelDepot

open StatusResult

namespace Binary64

def IsPercent (x : Binary64) : Prop :=
  zero.le x = true ∧ x.le Payload.hundred = true

theorem IsPercent.isNaN_eq_false {x : Binary64} (h : x.IsPercent) : x.isNaN = false :=
  (le_iff.1 h.1).2.1

theorem isPercent_zero : zero.IsPercent := by
  constructor <;> decide +kernel

theorem isPercent_clampPercent {x : Binary64} (hx : x.isFinite = true) :
    (Payload.clampPercent x).IsPercent := by
  refine clamp_within ?_ (by decide +kernel)
  simp only [isFinite, isNaN, decide_eq_true_eq, decide_eq_false_iff_not] at *
  omega

end Binary64

/-- A percentage comes of every status reply that is read. -/
theorem isPercent_of_downloadStatus {requested payload : String} {status : DownloadStatus}
    (h : Payload.downloadStatus requested payload = .ok status) : status.progress.IsPercent := by
  simp only [Payload.downloadStatus] at h
  split at h
  · cases h
  split at h
  · cases h
  split at h
  · cases h
  · next finite =>
      cases h
      exact Binary64.isPercent_clampPercent (by simpa using finite)

theorem isPercent_of_reading? {model : String} {reply : Reply} {v : Binary64}
    (h : StatusResult.reading? (ofReply model reply) = some v) : v.IsPercent := by
  cases reply with
  | error e => cases h
  | ok payload =>
      simp only [ofReply, Client.accept] at h
      cases hd : Payload.downloadStatus model payload with
      | error e =>
          rw [hd] at h
          cases h
      | ok status =>
          rw [hd] at h
          cases h
          exact isPercent_of_downloadStatus hd

/-- The progress that an answered status call reads. -/
def Passage.reading? (t : Passage) : Option Binary64 :=
  match t.call, t.now.stage with
  | some (.downloadStatus _), .received r => StatusResult.reading? r
  | _, _ => none

def Life.observed (l : Life) (acts : List Act) : List Binary64 :=
  (l.passages acts).filterMap Passage.reading?

theorem Life.isPercent_of_reading? {l : Life} {a : Act} {v : Binary64}
    (read : (l.passage a).reading? = some v) : v.IsPercent := by
  cases a with
  | answer reply =>
      simp only [passage, Passage.reading?, after, Poller.receive] at read
      cases hs : l.poller.stage with
      | calling =>
          simp only [hs, Poller.call?] at read
          exact ModelDepot.isPercent_of_reading? read
      | _ => simp [hs, Poller.call?] at read
  | _ => simp [passage, Passage.reading?] at read

theorem Life.isPercent_of_observed {l : Life} {acts : List Act} {v : Binary64}
    (hv : v ∈ l.observed acts) : v.IsPercent := by
  obtain ⟨t, ht, read⟩ := List.mem_filterMap.1 hv
  obtain ⟨before, a, later, -, rfl⟩ := mem_passages_iff.1 ht
  exact isPercent_of_reading? read

/-- What a poller has told, what it may still tell without another call, and what it has completed
with are values of a kind. -/
structure Poller.ReadsOnly (P : Binary64 → Prop) (p : Poller) : Prop where
  told : ∀ v ∈ p.told, P v
  reply : ∀ r v, p.stage = .received r ∨ p.stage = .accepted r → StatusResult.reading? r = some v →
    P v
  completed : ∀ status, p.known = some (.completed status) → P status.progress

namespace Poller

variable {P : Binary64 → Prop} {p p' : Poller} {now : Nat} {active active' : ActiveDownloads}
  {told : Option DownloadEvent}

theorem readsOnly_new (P : Binary64 → Prop) (model : String) (config : PollerConfig) :
    (new model config).ReadsOnly P := by
  constructor <;> simp [new, known, Stage.pending?]

theorem ReadsOnly.completed_moves (sound : p.Sound) (h : p.ReadsOnly P)
    (hm : Moves now active p p' active' told) (status : DownloadStatus)
    (hk : p'.known = some (.completed status)) : P status.progress := by
  cases known : p.known with
  | some outcome =>
      rw [known_changes sound (.move hm) known] at hk
      cases hk
      exact h.completed status known
  | none =>
      cases settles_of_known sound (.move hm) known hk with
      | decided hs hd =>
          cases hd
          exact h.reply _ _ (.inr hs) rfl

theorem ReadsOnly.moves (sound : p.Sound) (h : p.ReadsOnly P)
    (hm : Moves now active p p' active' told) : p'.ReadsOnly P := by
  have told := h.told
  have completed := h.completed_moves sound hm
  cases hm with
  | finish hs =>
      refine ⟨told, fun r v hr hv => h.reply r v (.inl ?_) hv, completed⟩
      rcases hr with hr | hr
      · cases hr
      · cases hr
        exact hs
  | tell hs hv =>
      have read := h.reply _ _ (.inr hs) (reading?_of_verdict hv)
      exact ⟨List.forall_mem_cons.2 ⟨read, told⟩, by simp, completed⟩
  | request | acknowledged | conclude => exact ⟨by simpa using told, by simp, completed⟩
  | _ => exact ⟨told, by simp, completed⟩

end Poller

namespace Life

variable {P : Binary64 → Prop} {l : Life} {acts : List Act}

theorem reading?_of_received {a : Act} {r : StatusResult} (calling : l.poller.stage = .calling)
    (received : (l.after a).poller.stage = .received r) :
    (l.passage a).reading? = StatusResult.reading? r := by
  cases a with
  | answer reply =>
      simp only [Passage.reading?, passage, Poller.call?, calling, received]
  | go now active =>
      simp [after, Poller.go, Poller.next, calling] at received
  | start => simp [after, Poller.requestStart, calling] at received
  | run => simp [after, Poller.requestRun, Poller.requestStart, calling] at received
  | look | close =>
      simp only [after] at received
      split at received <;> simp [calling, Poller.halt] at received

theorem readsOnly_after (sound : l.poller.Sound) (h : l.poller.ReadsOnly P) (a : Act)
    (read : ∀ v, (l.passage a).reading? = some v → P v) : (l.after a).poller.ReadsOnly P := by
  cases still : a.now? with
  | some now =>
      cases a with
      | go now active =>
          rcases Poller.go_cases l.poller now active with ⟨_, _, hm, _⟩ | ⟨hp, _⟩
          · exact h.moves sound hm
          · simpa only [after, hp] using h
      | _ => cases still
  | none =>
      have told := told_of_still (l := l) still
      have known := known_of_still (l := l) still
      refine ⟨by rw [told]; exact h.told, fun r v hr hv => ?_, by rw [known]; exact h.completed⟩
      rcases stage_of_still (l := l) still with same | ⟨_, hs⟩ | ⟨_, _, hs⟩ | ⟨calling, _, hs⟩
      · exact h.reply r v (by rwa [same] at hr) hv
      · simp [hs] at hr
      · simp [hs] at hr
      · obtain received | accepted := hr
        · exact read v ((reading?_of_received calling received).trans hv)
        · simp [hs] at accepted

theorem readsOnly_afterAll (sound : l.poller.Sound) (h : l.poller.ReadsOnly P) (acts : List Act)
    (read : ∀ v ∈ l.observed acts, P v) : (l.afterAll acts).poller.ReadsOnly P := by
  induction acts generalizing l with
  | nil => exact h
  | cons a acts ih =>
      have first : l.observed (a :: acts) =
          (l.passage a).reading?.toList ++ (l.after a).observed acts := by
        simp only [observed, passages, List.filterMap_cons]
        cases (l.passage a).reading? <;> rfl
      rw [first] at read
      refine ih (sound.changes (changes_after l a)) (readsOnly_after sound h a fun v hv => ?_)
        fun v hv => read v (List.mem_append_right _ hv)
      exact read v (List.mem_append_left _ (by simp [hv]))

end Life

end ModelDepot
