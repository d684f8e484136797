import Mathlib.Data.List.Induction
import ModelDepot.Proofs.Batch.Stories
import ModelDepot.Proofs.Claims.Exclusive
import ModelDepot.Proofs.Poller.Approach
import ModelDepot.Proofs.Poller.Calls
import ModelDepot.Proofs.Poller.Clock
import ModelDepot.Proofs.Poller.Launched

/-! # What a poller makes of the replies to its calls

A script has the reply to the start of a download and those to its status calls. Unless something
from outside comes in between, a stop, a deadline or a name that is held, the script alone says with
what outcome a poller ends, after how many status calls, and what it tells before.
-/

namespace ModelDepot

open StatusResult

/-- The replies to the calls of one poller. -/
structure Script where
  start : Reply
  status : Nat → Reply

namespace Script

def result (s : Script) (model : String) (k : Nat) : StatusResult :=
  .ofReply model (s.status k)

def results (s : Script) (model : String) (k : Nat) : List StatusResult :=
  (List.range k).map (s.result model)

/-- The start is taken, and nothing is decided by so many status calls. -/
def IsOpenTo (s : Script) (model : String) (k : Nat) : Prop :=
  (∃ ack, Client.accept Client.decodeStart s.start = .ok ack) ∧ ∀ j < k, (s.result model j).IsOpen

/-- The outcome, the number of status calls before it, and the values that are told. -/
inductive Ends (s : Script) (model : String) : DownloadOutcome → Nat → List Binary64 → Prop where
  | rejected {e} : Client.accept Client.decodeStart s.start = .error e →
      Ends s model (.failed (.rejected (Poller.rejection e))) 0 []
  | decided {k outcome} : s.IsOpenTo model k → (s.result model k).Decides outcome →
      Ends s model outcome (k + 1) (readings (s.results model k))

variable {s : Script} {model : String} {outcome other : DownloadOutcome} {j k n m : Nat}
  {values more : List Binary64}

theorem results_succ (s : Script) (model : String) (k : Nat) :
    s.results model (k + 1) = s.results model k ++ [s.result model k] := by
  rw [results, List.range_succ, List.map_append]
  rfl

theorem IsOpenTo.succ (h : s.IsOpenTo model k) (hr : (s.result model k).IsOpen) :
    s.IsOpenTo model (k + 1) := by
  refine ⟨h.1, fun j less => ?_⟩
  rcases Nat.lt_succ_iff_lt_or_eq.1 less with earlier | rfl
  · exact h.2 j earlier
  · exact hr

theorem IsOpenTo.le (h : s.IsOpenTo model j) (hd : (s.result model k).Decides outcome) : j ≤ k := by
  by_contra behind
  exact h.2 k (by omega) outcome hd

theorem readings_prefix (s : Script) (model : String) (h : j ≤ k) :
    readings (s.results model j) <+: readings (s.results model k) := by
  induction h with
  | refl => exact List.prefix_rfl
  | @step k _ ih =>
      refine ih.trans ?_
      rw [results_succ, readings, readings, List.filterMap_append]
      cases hr : (s.result model k).reading? with
      | none => simp [hr]
      | some value =>
          rw [List.filterMap_cons_some hr, List.filterMap_nil, eraseDups_concat]
          split
          · exact List.prefix_rfl
          · exact List.prefix_append _ _

theorem Ends.unique (h : s.Ends model outcome n values) (h' : s.Ends model other m more) :
    other = outcome ∧ m = n ∧ more = values := by
  cases h with
  | rejected refused =>
      cases h' with
      | rejected refused' =>
          rw [refused] at refused'
          cases refused'
          exact ⟨rfl, rfl, rfl⟩
      | decided taken _ =>
          obtain ⟨ack, taken⟩ := taken.1
          rw [refused] at taken
          cases taken
  | decided isOpen decides =>
      cases h' with
      | rejected refused =>
          obtain ⟨ack, taken⟩ := isOpen.1
          rw [refused] at taken
          cases taken
      | decided isOpen' decides' =>
          obtain rfl := Nat.le_antisymm (isOpen.le decides') (isOpen'.le decides)
          exact ⟨decides'.unique decides, rfl, rfl⟩

/-- What an open download has told so far is told in the end. -/
theorem Ends.of_isOpenTo (h : s.Ends model outcome n values) (isOpen : s.IsOpenTo model k) :
    k < n ∧ readings (s.results model k) <+: values := by
  cases h with
  | rejected refused =>
      obtain ⟨ack, taken⟩ := isOpen.1
      rw [refused] at taken
      cases taken
  | decided _ decides =>
      have le := isOpen.le decides
      exact ⟨Nat.lt_succ_of_le le, readings_prefix s model le⟩

end Script

/-! ## A poller that follows a script -/

namespace Poller

/-- How far the poller is in a script when so many of its status calls have been answered. -/
def Follows (s : Script) (p : Poller) (asked : Nat) : Prop :=
  match p.known with
  | some outcome => s.Ends p.model outcome asked p.told.reverse
  | none =>
    match p.stage with
    | .answered reply =>
      reply = Client.accept Client.decodeStart s.start ∧ asked = 0 ∧ p.told = []
    | .received r | .accepted r =>
      ∃ k, asked = k + 1 ∧ r = s.result p.model k ∧ s.IsOpenTo p.model k ∧
        p.told.reverse = readings (s.results p.model k)
    | .started | .looking | .timing | .beginning | .calling | .tiring | .napping _ =>
      s.IsOpenTo p.model asked ∧ p.told.reverse = readings (s.results p.model asked)
    | _ => asked = 0 ∧ p.told = []

/-- Nothing from outside comes in when the poller goes on. -/
structure Calm (p : Poller) (now : Nat) (active : ActiveDownloads) : Prop where
  isOpen : p.gate.isStopped = false
  inTime : p.stage = .timing → p.isExpired now = false
  free : p.stage = .claiming → p.model ∉ active.names

variable {s : Script} {p p' : Poller} {asked : Nat} {now : Nat} {active active' : ActiveDownloads}
  {told : Option DownloadEvent}

theorem follows_new (s : Script) (model : String) (config : PollerConfig) :
    (new model config).Follows s 0 :=
  ⟨rfl, rfl⟩

theorem follows_iff_of_known {outcome : DownloadOutcome} (hk : p.known = some outcome) :
    p.Follows s asked ↔ s.Ends p.model outcome asked p.told.reverse := by
  rw [Follows, hk]

theorem Follows.of_known {outcome : DownloadOutcome} (h : p.Follows s asked)
    (hk : p.known = some outcome) (hk' : p'.known = some outcome) (model : p'.model = p.model)
    (told : p'.told = p.told) : p'.Follows s asked := by
  rw [follows_iff_of_known hk', model, told]
  exact (follows_iff_of_known hk).1 h

theorem Follows.of_accepted {r : StatusResult} (unknown : p.known = none)
    (hs : p.stage = .accepted r) (hr : r.IsOpen) (h : p.Follows s asked) :
    s.IsOpenTo p.model asked ∧ ∃ k, asked = k + 1 ∧ s.results p.model asked =
      s.results p.model k ++ [r] ∧ p.told.reverse = readings (s.results p.model k) := by
  simp only [Follows, unknown, hs] at h
  obtain ⟨k, rfl, rfl, isOpen, told⟩ := h
  exact ⟨isOpen.succ hr, k, rfl, Script.results_succ s p.model k, told⟩

theorem Follows.moves (sound : p.Sound) (calm : p.Calm now active)
    (hm : Moves now active p p' active' told) (h : p.Follows s asked) : p'.Follows s asked := by
  have hg := sound.gate
  have gate : p.gate ≠ .stopped := fun stopped => by
    have closed := PollGate.isStopped_iff.2 stopped
    rw [calm.isOpen] at closed
    cases closed
  cases hk : p.known with
  | some outcome =>
      have hc : p.Changes p' := .move hm
      have told : p'.told = p.told := by
        have ho := sound.outcome
        cases hm <;> simp_all [known, Stage.pending?, OutcomeFits]
      exact h.of_known hk (known_changes sound hc hk) (model_changes hc) told
  | none =>
      have ho : p.outcome = none := by
        rw [known, Option.or_eq_none_iff] at hk
        exact hk.2
      cases hm with
      | enterStopped hs hstop | lookStopped hs hstop =>
          rw [calm.isOpen] at hstop
          cases hstop
      | refused hs held => exact absurd (ActiveDownloads.claim_eq_none_iff.1 held) (calm.free hs)
      | expire hs late =>
          rw [calm.inTime hs] at late
          cases late
      | beginRefused hs hne | discard hs hne =>
          -- a gate that is neither idle nor in flight is closed
          cases hp : p.gate <;> simp_all [GateFits]
      | conclude hs | release hs | recordStart hs | recordRun hs | report hs =>
          simp [known, hs, Stage.pending?] at hk
      | settled hs _ noted =>
          rw [ho] at noted
          cases noted
      | @rejected e hs =>
          simp only [Follows, hk, hs] at h
          obtain ⟨refused, rfl, told⟩ := h
          simp only [Follows, known, Stage.pending?, Option.some_or, told]
          exact .rejected refused.symm
      | @acknowledged ack hs =>
          simp only [Follows, hk, hs] at h
          obtain ⟨taken, rfl, told⟩ := h
          simp only [Follows, known, Stage.pending?, setState_outcome, ho, setState_told, told,
            setState_model, Option.none_or]
          exact ⟨⟨⟨ack, taken.symm⟩, fun j below => absurd below (Nat.not_lt_zero j)⟩, rfl⟩
      | @decide r outcome hs hv =>
          have decides := verdict_eq_decided_iff.1 hv
          simp only [Follows, hk, hs] at h
          obtain ⟨k, rfl, rfl, isOpen, told⟩ := h
          simp only [Follows, known, Stage.pending?, Option.some_or, told]
          exact .decided isOpen decides
      | @tell r value hs hv hn =>
          have isOpen : IsOpen r := isOpen_of_verdict_ne hv (by simp)
          obtain ⟨taken, k, -, grown, told⟩ := h.of_accepted hk hs isOpen
          have unread : value ∉ readings (s.results p.model k) := by
            rw [← told]
            simpa using hn
          have new := readings_append_new (reading?_of_verdict hv) unread
          simp only [Follows, known, Stage.pending?, ho, Option.none_or, List.reverse_cons, told,
            grown, new]
          exact ⟨taken, trivial⟩
      | @keepSilent r value hs hv hn =>
          have isOpen : IsOpen r := isOpen_of_verdict_ne hv (by simp)
          obtain ⟨taken, k, -, grown, told⟩ := h.of_accepted hk hs isOpen
          have read : value ∈ readings (s.results p.model k) := by
            rw [← told]
            simpa using hn
          have same := readings_append_known (reading?_of_verdict hv) read
          simp only [Follows, known, Stage.pending?, ho, Option.none_or, told, grown, same]
          exact ⟨taken, trivial⟩
      | @rideOut r hs hv =>
          have isOpen : IsOpen r := isOpen_of_verdict_ne hv (by simp)
          obtain ⟨taken, k, -, grown, told⟩ := h.of_accepted hk hs isOpen
          have same : readings (s.results p.model k ++ [r]) = readings (s.results p.model k) :=
            readings_append_glitch (isGlitch_of_verdict hv)
          simp only [Follows, known, Stage.pending?, ho, Option.none_or, told, grown, same]
          exact ⟨taken, trivial⟩
      | finish hs => simpa [Follows, known, Stage.pending?, hs, ho] using h
      | _ => simp_all [Follows, known, Stage.pending?]

theorem follows_receive (hs : p.stage = .requesting) (unknown : p.known = none)
    (h : p.Follows s asked) : (p.receive s.start).Follows s asked := by
  have ho : p.outcome = none := by
    rw [known, Option.or_eq_none_iff] at unknown
    exact unknown.2
  simp only [Follows, unknown, hs] at h
  simpa [Follows, receive, hs, known, Stage.pending?, ho] using h

theorem follows_receive_status (hs : p.stage = .calling) (unknown : p.known = none)
    (h : p.Follows s asked) : (p.receive (s.status asked)).Follows s (asked + 1) := by
  have ho : p.outcome = none := by
    rw [known, Option.or_eq_none_iff] at unknown
    exact unknown.2
  simp only [Follows, unknown, hs] at h
  simp only [Follows, receive, hs, known, Stage.pending?, ho, Option.none_or]
  exact ⟨asked, rfl, rfl, h.1, h.2⟩

end Poller

namespace Script

/-- The reply is the one that the script has for a call that is being made when so many status calls
have been answered. -/
def gives (s : Script) (asked : Nat) (reply : Reply) : Option Call → Bool
  | some (.startDownload _) => reply = s.start
  | some (.downloadStatus _) => reply = s.status asked
  | _ => true

/-- If the act is an answer, it is the one of the script. -/
def answers (s : Script) (asked : Nat) (p : Poller) : Act → Bool
  | .answer reply => s.gives asked reply p.call?
  | _ => true

end Script

namespace Life

variable {s : Script} {l : Life} {a : Act} {acts : List Act} {asked : Nat}

/-- Whatever happens to a poller that is left alone keeps it in its script. -/
theorem follows_after (sound : l.poller.Sound)
    (calm : ∀ now active, a = .go now active → l.poller.Calm now active)
    (fed : s.answers asked l.poller a = true)
    (h : l.poller.Follows s asked) :
    (l.after a).poller.Follows s (asked + (l.passage a).answersStatus.toNat) := by
  cases a with
  | go now active =>
      rcases Poller.go_cases l.poller now active with ⟨_, _, hm, -⟩ | ⟨same, -⟩
      · exact h.moves sound (calm now active rfl) hm
      · simp only [after, same]
        exact h
  | answer reply =>
      have given : s.gives asked reply l.poller.call? = true := fed
      cases hc : l.poller.call? with
      | none =>
          have same : l.poller.receive reply = l.poller := by
            cases hs : l.poller.stage <;> simp_all [Poller.call?, Poller.receive]
          simpa [after, passage, Passage.answersStatus, same, hc] using h
      | some c =>
          have unknown := Poller.known_of_call sound hc
          cases hs : l.poller.stage with
          | requesting =>
              obtain rfl : .startDownload l.poller.model = c := by simpa [Poller.call?, hs] using hc
              obtain rfl : reply = s.start := by simpa [Script.gives, hc] using given
              simpa [after, passage, Passage.answersStatus, hc] using
                Poller.follows_receive hs unknown h
          | calling =>
              obtain rfl : .downloadStatus l.poller.model = c := by
                simpa [Poller.call?, hs] using hc
              obtain rfl : reply = s.status asked := by simpa [Script.gives, hc] using given
              simpa [after, passage, Passage.answersStatus, hc] using
                Poller.follows_receive_status hs unknown h
          | _ => simp [Poller.call?, hs] at hc
  | start =>
      simp only [after, Poller.requestStart]
      split
      · next hs => simpa [Poller.Follows, Poller.known, hs, Stage.pending?, passage,
          Passage.answersStatus] using h
      · exact h
  | run =>
      simp only [after, Poller.requestRun, Poller.requestStart]
      split
      · next hs => simpa [Poller.Follows, Poller.known, hs, Stage.pending?, passage,
          Passage.answersStatus] using h
      · exact h
  | look =>
      simp only [after]
      split <;> exact h
  | close =>
      simp only [after]
      split <;> exact h

end Life

end ModelDepot
