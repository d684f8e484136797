import ModelDepot.Download.Run
import ModelDepot.Proofs.Poller.Novelty

/-! # Runs step by step

A run that nobody stops, peeled at its front. Each step is one act in the life of the poller, what
the steps keep holds at the end, a longer run tells more, and a run that has come to rest stays as
it is.
-/

namespace ModelDepot.Scene

variable {τ : Type} [Transport τ] {s : Scene τ} {p : Poller} {a : Advance τ}

def callsOf : Nat → Scene τ → Poller → List Call
  | 0, _, _ => []
  | n + 1, s, p =>
    match s.advance p with
    | none => []
    | some a => p.call?.toList ++ callsOf n a.scene a.poller

section Peeling

variable (n : Nat)

theorem runStopping_of_rest (h : s.advance p = none) : s.runStopping .never n p = ⟨s, p, []⟩ := by
  cases n with
  | zero => rfl
  | succ n => simp [runStopping, StopPoint.before, h]

theorem runStopping_succ (h : s.advance p = some a) :
    s.runStopping .never (n + 1) p =
      { a.scene.runStopping .never n a.poller with
        told := a.told ++ (a.scene.runStopping .never n a.poller).told } := by
  simp [runStopping, StopPoint.before, StopPoint.after, h]

theorem callsOf_of_rest (h : s.advance p = none) : callsOf n s p = [] := by
  cases n with
  | zero => rfl
  | succ n => simp [callsOf, h]

theorem callsOf_succ (h : s.advance p = some a) :
    callsOf (n + 1) s p = p.call?.toList ++ callsOf n a.scene a.poller := by
  simp [callsOf, h]

end Peeling

/-- What a poller does in a scene is an act that its life knows, and none that closes the gate. -/
theorem exists_act {l : Life} (h : s.advance l.poller = some a) :
    ∃ act ≠ Act.close, (l.after act).poller = a.poller ∧ (l.passage act).told = a.told := by
  simp only [advance] at h
  cases hn : l.poller.next s.now s.client.active with
  | step p' active told =>
      simp only [hn, Option.some.injEq] at h
      subst h
      refine ⟨.go s.now s.client.active, by simp, ?_, ?_⟩
      · simp [Life.after, Poller.go, hn]
      · simp [Life.passage, Poller.tells, hn]
  | call c =>
      simp only [hn, Option.some.injEq] at h
      subst h
      exact ⟨.answer (s.call c).1, by simp, rfl, rfl⟩
  | sleep wake =>
      simp only [hn, Option.some.injEq] at h
      subst h
      refine ⟨.go s.now s.client.active, by simp, ?_, ?_⟩
      · simp [Life.after, Poller.go, hn]
      · simp [Life.passage, Poller.tells, hn]
  | rest => simp [hn] at h

theorem changes_of_advance (h : s.advance p = some a) : p.Changes a.poller := by
  obtain ⟨act, -, hp, -⟩ := exists_act (l := ⟨p, 0⟩) h
  rw [← hp]
  exact Life.changes_after ⟨p, 0⟩ act

theorem isStopped_of_advance (h : s.advance p = some a) :
    a.poller.gate.isStopped = p.gate.isStopped := by
  obtain ⟨act, hact, hp, -⟩ := exists_act (l := ⟨p, 0⟩) h
  rw [← hp]
  exact Life.isStopped_after hact

theorem told_of_advance (h : s.advance p = some a) :
    a.poller.told = (a.told.filterMap DownloadEvent.progress?).reverse ++ p.told := by
  obtain ⟨act, -, hp, ht⟩ := exists_act (l := ⟨p, 0⟩) h
  rw [← hp, ← ht]
  exact Life.told_after ⟨p, 0⟩ act

/-- What every step keeps holds at the end of a run. -/
theorem runStopping_of_kept {P : Scene τ → Poller → Prop}
    (kept : ∀ {s p a}, advance s p = some a → P s p → P a.scene a.poller) (h : P s p) (n : Nat) :
    P (s.runStopping .never n p).scene (s.runStopping .never n p).poller := by
  induction n generalizing s p with
  | zero => exact h
  | succ n ih =>
      cases ha : s.advance p with
      | none =>
          rw [runStopping_of_rest (n + 1) ha]
          exact h
      | some a =>
          rw [runStopping_succ n ha]
          exact ih (kept ha h)

theorem told_runStopping (s : Scene τ) (p : Poller) (n : Nat) :
    (s.runStopping .never n p).poller.told =
      ((s.runStopping .never n p).told.filterMap DownloadEvent.progress?).reverse ++ p.told := by
  induction n generalizing s p with
  | zero => rfl
  | succ n ih =>
      cases ha : s.advance p with
      | none =>
          rw [runStopping_of_rest (n + 1) ha]
          rfl
      | some a =>
          rw [runStopping_succ n ha]
          simp only [ih, told_of_advance ha, List.filterMap_append, List.reverse_append,
            List.append_assoc]

theorem told_prefix_of_le {n m : Nat} (h : n ≤ m) :
    (s.runStopping .never n p).told <+: (s.runStopping .never m p).told := by
  induction n generalizing s p m with
  | zero => exact List.nil_prefix
  | succ n ih =>
      obtain ⟨m, rfl⟩ : ∃ k, m = k + 1 := ⟨m - 1, by omega⟩
      cases ha : s.advance p with
      | none =>
          rw [runStopping_of_rest (n + 1) ha]
          exact List.nil_prefix
      | some a =>
          rw [runStopping_succ n ha, runStopping_succ m ha]
          exact (List.prefix_append_right_inj a.told).2 (ih (by omega))

theorem advance_of_ended (h : p.stage = .ended) : s.advance p = none := by
  simp [advance, Poller.next, h]

theorem stays_of_ended {n m : Nat} (h : n ≤ m)
    (ended : (s.runStopping .never n p).poller.stage = .ended) :
    s.runStopping .never m p = s.runStopping .never n p ∧ callsOf m s p = callsOf n s p := by
  induction n generalizing s p m with
  | zero =>
      have rests := advance_of_ended (s := s) ended
      exact ⟨runStopping_of_rest m rests, callsOf_of_rest m rests⟩
  | succ n ih =>
      obtain ⟨m, rfl⟩ : ∃ k, m = k + 1 := ⟨m - 1, by omega⟩
      cases ha : s.advance p with
      | none =>
          rw [runStopping_of_rest (n + 1) ha, runStopping_of_rest (m + 1) ha,
            callsOf_of_rest (n + 1) ha, callsOf_of_rest (m + 1) ha]
          exact ⟨rfl, rfl⟩
      | some a =>
          rw [runStopping_succ n ha] at ended
          obtain ⟨hrun, hcalls⟩ := ih (m := m) (by omega) ended
          rw [runStopping_succ n ha, runStopping_succ m ha, callsOf_succ n ha, callsOf_succ m ha,
            hrun, hcalls]
          exact ⟨rfl, rfl⟩

theorem runStopping_never (s : Scene τ) (p : Poller) (n : Nat) :
    s.runStopping .never n p = s.advanceUntil (fun _ => false) n p := by
  induction n generalizing s p with
  | zero => rfl
  | succ n ih =>
      cases ha : s.advance p with
      | none => simp [runStopping_of_rest (n + 1) ha, advanceUntil, ha]
      | some a => simp [runStopping_succ n ha, advanceUntil, ha, ih]

theorem exists_acts_advanceUntil (held : Poller → Bool) (n : Nat) (s : Scene τ) (l : Life) :
    ∃ acts, (l.afterAll acts).poller = (s.advanceUntil held n l.poller).poller ∧
      l.told acts = (s.advanceUntil held n l.poller).told := by
  induction n generalizing s l with
  | zero => exact ⟨[], rfl, rfl⟩
  | succ n ih =>
      rw [advanceUntil]
      split
      · exact ⟨[], rfl, rfl⟩
      · split
        · exact ⟨[], rfl, rfl⟩
        · next a ha =>
            obtain ⟨act, -, poller, told⟩ := exists_act ha
            obtain ⟨acts, pollerLater, toldLater⟩ := ih a.scene (l.after act)
            rw [poller] at pollerLater toldLater
            refine ⟨act :: acts, pollerLater, ?_⟩
            show l.told (act :: acts) = a.told ++ (a.scene.advanceUntil held n a.poller).told
            rw [Life.told_cons, told, toldLater]

end ModelDepot.Scene
