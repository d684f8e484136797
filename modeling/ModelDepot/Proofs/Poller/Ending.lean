import Mathlib.Order.OrderIsoNat
import ModelDepot.Proofs.Poller.Pace

/-! # Every poller comes to its end

A life without end in which the run is asked for, the poller goes on again and again, its calls are
answered and its naps are over some time. Along it a rank falls with every change of the stage; a
status call that begins lifts it, but there are only so many of these. Where it has come to rest
the poller has ended, for at every other stage something is still to come.
-/

namespace ModelDepot

/-- All that ever happens to a poller. -/
abbrev History := Nat → Dated

def History.first (h : History) (n : Nat) : Chronicle :=
  (List.range n).map h

theorem History.first_succ (h : History) (n : Nat) : h.first (n + 1) = h.first n ++ [h n] := by
  simp [first, List.range_succ]

/-- Nobody keeps the poller waiting for ever. -/
structure Life.IsAttended (l : Life) (h : History) : Prop where
  /-- The clock never goes back. -/
  clock : ∀ n, (h n).instant ≤ (h (n + 1)).instant
  /-- The owner asks for the run. -/
  runs : ∃ n, (h n).act = .run
  /-- The poller goes on again and again. -/
  goesOn : ∀ n, ∃ m, n ≤ m ∧ (h m).act.now?.isSome = true
  /-- Each call is answered. -/
  answers : ∀ n, (l.through (h.first n)).poller.call?.isSome = true →
    ∃ m reply, n ≤ m ∧ (h m).act = .answer reply
  /-- Each nap is over some time. -/
  naps : ∀ n wake, (l.through (h.first n)).poller.stage = .napping wake →
    ∃ m, n ≤ m ∧ (h m).act.now?.isSome = true ∧ wake ≤ (h m).instant

/-- The stages ahead of a poller, status calls that are still to begin aside. -/
def Stage.rank : Stage → Nat
  | .idle => 25
  | .entering => 24
  | .claiming => 23
  | .claimed => 22
  | .requesting => 21
  | .answered _ => 20
  | .concluding .starting _ => 19
  | .releasing .starting _ => 18
  | .recording .starting _ => 17
  | .calling => 16
  | .received _ => 15
  | .accepted _ => 14
  | .tiring => 13
  | .started | .napping _ => 12
  | .looking => 11
  | .timing => 10
  | .beginning => 9
  | .concluding .running _ => 4
  | .releasing .running _ => 3
  | .recording .running _ => 2
  | .reporting _ => 1
  | .ended => 0

namespace Poller

variable {p p' : Poller} {now : Nat} {active active' : ActiveDownloads}
  {told : Option DownloadEvent}

/-- Every step lowers the rank but the one that lets a status call begin. -/
theorem rank_moves (hm : Moves now active p p' active' told) :
    p'.stage.rank < p.stage.rank ∨
    p.beginsCall p' = true ∧ p'.stage.rank < p.stage.rank + 8 := by
  cases hm with
  | @conclude activity _ hs | @release activity _ hs =>
      refine .inl ?_
      cases activity <;> simp [hs, Stage.rank]
  | begin hs =>
      exact .inr (by simp [hs, Stage.rank, beginsCall, Stage.isBeginning, Stage.isCalling])
  | _ => exact .inl (by simp_all [Stage.rank])

theorem beginsCall_eq_false (same : p'.stage = p.stage) : p.beginsCall p' = false := by
  rw [beginsCall, same]
  cases p.stage <;> rfl

theorem rank_changes (hc : p.Changes p') :
    p'.stage = p.stage ∨ p'.stage.rank < p.stage.rank ∨
    p.beginsCall p' = true ∧ p'.stage.rank < p.stage.rank + 8 := by
  cases hc with
  | none | run | halt => exact .inl rfl
  | start hs | startRun hs | startAnswered _ hs | statusAnswered _ hs =>
      exact .inr (.inl (by simp [hs, Stage.rank]))
  | move hm => exact .inr (rank_moves hm)

theorem stage_ne_of_moves (hm : Moves now active p p' active' told) : p'.stage ≠ p.stage := by
  intro same
  rcases rank_moves hm with falls | ⟨begins, _⟩
  · rw [same] at falls
    exact Nat.lt_irrefl _ falls
  · rw [beginsCall_eq_false same] at begins
    cases begins

end Poller

namespace Life

variable {l : Life} {h : History}

theorem through_first_succ (l : Life) (h : History) (n : Nat) :
    l.through (h.first (n + 1)) = (l.through (h.first n)).after (h n).act := by
  rw [History.first_succ, through_concat]

theorem IsAttended.onClock (attended : l.IsAttended h) (n : Nat) : (h.first n).OnClock := by
  have rising : Monotone fun k => (h k).instant := monotone_nat_of_le_succ attended.clock
  exact List.pairwise_map.2 (List.pairwise_lt_range.imp fun less => rising (Nat.le_of_lt less))

theorem history_of_changes {P : Poller → Prop}
    (kept : ∀ {p p'}, Poller.Changes p p' → P p → P p') {n m : Nat} (later : n ≤ m)
    (holds : P (l.through (h.first n)).poller) : P (l.through (h.first m)).poller := by
  induction m, later using Nat.le_induction with
  | base => exact holds
  | succ m _ ih =>
      rw [through_first_succ]
      exact kept (changes_after _ _) ih

theorem startedAt_of_entered {n m : Nat} (later : n ≤ m)
    (entered : (l.through (h.first n)).poller.stage.hasEntered = true) :
    (l.through (h.first m)).poller.startedAt = (l.through (h.first n)).poller.startedAt :=
  have kept := history_of_changes
    (P := fun p => p.stage.hasEntered = true ∧
      p.startedAt = (l.through (h.first n)).poller.startedAt)
    Poller.entered_changes later ⟨entered, rfl⟩
  kept.2

/-- How far a poller is from its end when at most `most` status calls can begin. -/
def distance (l : Life) (h : History) (most n : Nat) : Nat :=
  8 * (most - l.begun (h.first n).acts) + (l.through (h.first n)).poller.stage.rank

/-- No act takes the poller away from its end, and any that changes its stage brings it nearer. -/
theorem distance_succ {most : Nat} (few : ∀ n, l.begun (h.first n).acts ≤ most) (n : Nat) :
    l.distance h most (n + 1) ≤ l.distance h most n ∧
    (l.distance h most (n + 1) = l.distance h most n →
      (l.through (h.first (n + 1))).poller.stage = (l.through (h.first n)).poller.stage) := by
  have enough := few (n + 1)
  have counted : l.begun (h.first (n + 1)).acts = l.begun (h.first n).acts +
      ((l.through (h.first n)).poller.beginsCall
        ((l.through (h.first n)).after (h n).act).poller).toNat := by
    rw [History.first_succ, Chronicle.acts_append, begun_append, Chronicle.acts_cons, begun_cons]
    rfl
  rw [distance, distance, through_first_succ]
  rcases Poller.rank_changes (changes_after (l.through (h.first n)) (h n).act) with
    same | falls | ⟨begins, little⟩
  · rw [Poller.beginsCall_eq_false same, Bool.toNat_false] at counted
    rw [same]
    exact ⟨by omega, fun _ => rfl⟩
  · exact ⟨by omega, fun level => by omega⟩
  · -- one call less is left, which is worth more than the rank has risen
    rw [begins, Bool.toNat_true] at counted
    exact ⟨by omega, fun level => by omega⟩

theorem exists_settled {most : Nat} (few : ∀ n, l.begun (h.first n).acts ≤ most) (since : Nat) :
    ∃ n, since ≤ n ∧ ∀ m, n ≤ m →
      (l.through (h.first m)).poller.stage = (l.through (h.first n)).poller.stage := by
  have falls : Antitone (l.distance h most) :=
    antitone_nat_of_succ_le fun n => (distance_succ few n).1
  obtain ⟨n, level⟩ := WellFoundedGT.monotone_chain_condition (α := Natᵒᵈ)
    ⟨fun n => OrderDual.toDual (l.distance h most n), falls⟩
  refine ⟨max since n, Nat.le_max_left _ _, fun m later => ?_⟩
  induction m, later using Nat.le_induction with
  | base => rfl
  | succ m later ih =>
      have before : n ≤ m := Nat.le_trans (Nat.le_max_right _ _) later
      have same : l.distance h most (m + 1) = l.distance h most m :=
        (level (m + 1) (Nat.le_succ_of_le before)).symm.trans (level m before)
      exact ((distance_succ few m).2 same).trans ih

/-- Something is still to come at every stage of an attended poller that runs but the last. -/
theorem ended_of_settled (attended : l.IsAttended h) {n : Nat}
    (settled : ∀ m, n ≤ m →
      (l.through (h.first m)).poller.stage = (l.through (h.first n)).poller.stage)
    (underway : (l.through (h.first n)).poller.Underway) :
    (l.through (h.first n)).poller.stage = .ended := by
  have stays : ∀ m, n ≤ m → ((l.through (h.first m)).after (h m).act).poller.stage =
      (l.through (h.first m)).poller.stage := by
    intro m later
    rw [← through_first_succ]
    exact (settled (m + 1) (Nat.le_succ_of_le later)).trans (settled m later).symm
  have stuck : ∀ m, n ≤ m → ∀ {active p active' told}, (h m).act = .go (h m).instant active →
      ¬ Poller.Moves (h m).instant active (l.through (h.first m)).poller p active' told := by
    intro m later active p active' told acts hm
    refine Poller.stage_ne_of_moves hm ?_
    have same := stays m later
    rwa [acts, after, Poller.go_of_moves hm] at same
  -- whatever the poller does next, an act of the history lets it happen and changes the stage
  obtain ⟨m, later, goes⟩ := attended.goesOn n
  obtain ⟨active, acts⟩ := Dated.exists_go goes
  have runs := history_of_changes (fun hc hu => hu.changes hc) later underway
  rcases Poller.next_cases (l.through (h.first m)).poller (h m).instant active with
    ⟨_, _, _, hm⟩ | ⟨call, hc, _⟩ | ⟨wake, nap, _⟩ | ⟨rests, _⟩
  · exact absurd hm (stuck m later acts)
  · obtain ⟨k, reply, laterStill, answers⟩ := attended.answers m (by rw [hc]; rfl)
    have stays := stays k (Nat.le_trans later laterStill)
    have same := (settled k (Nat.le_trans later laterStill)).trans (settled m later).symm
    cases hs : (l.through (h.first m)).poller.stage with
    | requesting | calling =>
        rw [hs] at same
        simp [answers, after, Poller.receive, same] at stays
    | _ => simp [Poller.call?, hs] at hc
  · obtain ⟨k, laterStill, goes, past⟩ := attended.naps m wake nap
    obtain ⟨active, acts⟩ := Dated.exists_go goes
    have same := (settled k (Nat.le_trans later laterStill)).trans (settled m later).symm
    exact absurd (.wake (same.trans nap) (by simp [past]))
      (stuck k (Nat.le_trans later laterStill) acts)
  · rcases rests with idle | ended | ⟨_, waits⟩
    · exact absurd idle runs.2
    · exact (settled m later).symm.trans ended
    · rw [runs.1] at waits
      cases waits

/-- An attended poller ends with an outcome, which stays, if there is a limit to its calls. -/
theorem ends_of_isAttended {most : Nat} (sound : l.poller.Sound) (attended : l.IsAttended h)
    (few : ∀ n, l.begun (h.first n).acts ≤ most) :
    ∃ n outcome, ∀ m, n ≤ m → (l.through (h.first m)).poller.stage = .ended ∧
      (l.through (h.first m)).poller.outcome = some outcome := by
  obtain ⟨start, runs⟩ := attended.runs
  obtain ⟨n, since, settled⟩ := exists_settled few (start + 1)
  have underway : (l.through (h.first n)).poller.Underway := by
    refine history_of_changes (fun hc hu => hu.changes hc) since ?_
    rw [through_first_succ, runs]
    exact Poller.underway_requestRun _
  have ended := ended_of_settled attended settled underway
  have soundThen := sound_through sound (h.first n)
  have noted := soundThen.outcome
  simp only [Poller.OutcomeFits, ended] at noted
  obtain ⟨outcome, ho⟩ := Option.isSome_iff_exists.1 noted
  have hk : (l.through (h.first n)).poller.known = some outcome := by
    simpa [Poller.known, ended, Stage.pending?] using ho
  refine ⟨n, outcome, fun m later => ?_⟩
  have endedThen := (settled m later).trans ended
  obtain ⟨_, known⟩ := history_of_changes (P := fun p => p.Sound ∧ p.known = some outcome)
    (fun hc hp => ⟨hp.1.changes hc, Poller.known_changes hp.1 hc hp.2⟩) later ⟨soundThen, hk⟩
  exact ⟨endedThen, by simpa [Poller.known, endedThen, Stage.pending?] using known⟩

end Life

end ModelDepot
