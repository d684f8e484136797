import ModelDepot.Proofs.Claims.World

/-! # A name is held by one claimant at a time -/

namespace ModelDepot

namespace ActiveDownloads

variable {a a' : ActiveDownloads} {name n : String}

theorem mem_claim (h : a.claim name = some a') :
    name ∉ a.names ∧ (n ∈ a'.names ↔ n = name ∨ n ∈ a.names) := by
  unfold claim contains at h
  split at h
  · cases h
  · next free =>
      cases h
      exact ⟨by simpa using free, mem_insertName⟩

theorem claim_eq_none_iff : a.claim name = .none ↔ name ∈ a.names := by
  unfold claim contains
  split
  · next held => simpa using held
  · next free => simpa using free

theorem mem_release : n ∈ (a.release name).names ↔ n ∈ a.names ∧ n ≠ name := by
  simp [release]

end ActiveDownloads

namespace World

structure Orderly (w : World) : Prop where
  sound : ∀ c ∈ w.claimants, c.Sound
  /-- A name is held by one claimant at most. -/
  single : ∀ i j n, w.held? i = some n → w.held? j = some n → i = j
  /-- The names on the list are the names that are held. -/
  listed : ∀ n, n ∈ w.active.names ↔ ∃ i, w.held? i = some n

variable {w : World} {i j : Nat} {c c' : Claimant} {active : ActiveDownloads}

theorem held?_append_self :
    (World.mk active (w.claimants ++ [c])).held? w.claimants.length = c.held? := by
  simp [held?]

theorem held?_append_of_ne (h : i ≠ w.claimants.length) :
    (World.mk active (w.claimants ++ [c])).held? i = w.held? i := by
  unfold held?
  rcases Nat.lt_or_ge i w.claimants.length with inside | outside
  · rw [List.getElem?_append_left inside]
  · rw [List.getElem?_eq_none outside, List.getElem?_eq_none (by simp; omega)]

theorem held?_set (h : w.claimants[i]? = some c) :
    (World.mk active (w.claimants.set i c')).held? j = if i = j then c'.held? else w.held? j := by
  have inside : i < w.claimants.length := (List.getElem?_eq_some_iff.1 h).1
  unfold held?
  split
  · next hij =>
      subst hij
      simp [inside]
  · next hij => simp [List.getElem?_set_ne hij]

theorem held?_of_length_le (h : w.claimants.length ≤ i) : w.held? i = none := by
  simp [held?, List.getElem?_eq_none h]

theorem Orderly.fresh : World.fresh.Orderly where
  sound := fun c hc => by cases hc
  single := fun i j n h => by simp [held?, World.fresh] at h
  listed := fun n => by simp [held?, World.fresh, Client.fresh, ActiveDownloads.none]

/-- The event by which the claimant in place `k` takes the name `n`: a direct claim, or the claim of
a poller at its start. -/
def TakesBy (w : World) (a : WorldAct) (k : Nat) (n : String) : Prop :=
  a = .claim n ∧ k = w.claimants.length ∨
  ∃ p now, a = .at k (.go now) ∧ w.claimants[k]? = some (.poller p) ∧ p.stage = .claiming ∧
    p.model = n

/-- The event by which the claimant in place `k` gives its name back: it is dropped, or it is a
poller that concludes. -/
def GivesBackBy (w : World) (a : WorldAct) (k : Nat) : Prop :=
  a = .at k .drop ∨
  ∃ p now activity outcome, a = .at k (.go now) ∧ w.claimants[k]? = some (.poller p) ∧
    p.stage = .releasing activity outcome

/-- What an event does to the names, by way of the claimant in place `k`. -/
inductive Shifts (w : World) (a : WorldAct) (k : Nat) : Prop where
  | keeps : (w.after a).active = w.active → (w.after a).held? k = w.held? k → Shifts w a k
  | takes (n) : TakesBy w a k n → w.active.claim n = some (w.after a).active →
      w.held? k = none → (w.after a).held? k = some n → Shifts w a k
  | givesBack (n) : GivesBackBy w a k → (w.after a).active = w.active.release n →
      w.held? k = some n → (w.after a).held? k = none → Shifts w a k

theorem exists_shifts (sound : ∀ c ∈ w.claimants, c.Sound) (a : WorldAct) :
    ∃ k, (∀ j, j ≠ k → (w.after a).held? j = w.held? j) ∧ Shifts w a k := by
  cases a with
  | add model config =>
      have beyond : w.held? w.claimants.length = none := held?_of_length_le (Nat.le_refl _)
      refine ⟨w.claimants.length, fun j hj => ?_, .keeps rfl ?_⟩
      · exact held?_append_of_ne hj
      · rw [after, held?_append_self, beyond]
        rfl
  | claim name =>
      have beyond : w.held? w.claimants.length = none := held?_of_length_le (Nat.le_refl _)
      cases hc : w.active.claim name with
      | none =>
          have same : w.after (.claim name) = w := by simp [after, hc]
          exact ⟨0, fun j _ => by rw [same], .keeps (by rw [same]) (by rw [same])⟩
      | some active =>
          have added : w.after (.claim name) = ⟨active, w.claimants ++ [.holder name]⟩ := by
            simp [after, hc]
          refine ⟨w.claimants.length, fun j hj => ?_,
            .takes name (.inl ⟨rfl, rfl⟩) (by rw [added, hc]) beyond ?_⟩
          · rw [added, held?_append_of_ne hj]
          · rw [added, held?_append_self]
            rfl
  | «at» i d =>
      cases hi : w.claimants[i]? with
      | none =>
          have same : w.after (.at i d) = w := by simp [after, hi]
          exact ⟨0, fun j _ => by rw [same], .keeps (by rw [same]) (by rw [same])⟩
      | some c =>
          have done : w.after (.at i d) =
              ⟨(c.after w.active d).2, w.claimants.set i (c.after w.active d).1⟩ := by
            simp [after, hi]
          have heldHere : w.held? i = c.held? := by simp [held?, hi]
          have heldThen : (w.after (.at i d)).held? i = (c.after w.active d).1.held? := by
            rw [done, held?_set hi, if_pos rfl]
          have heldElsewhere : ∀ j, j ≠ i → (w.after (.at i d)).held? j = w.held? j := by
            intro j hj
            rw [done, held?_set hi, if_neg (Ne.symm hj)]
          have activeThen : (w.after (.at i d)).active = (c.after w.active d).2 := by rw [done]
          refine ⟨i, heldElsewhere, ?_⟩
          cases Claimant.handles (sound c (List.mem_of_getElem? hi)) w.active d with
          | keeps ha hh => exact .keeps (activeThen.trans ha) (by rw [heldThen, hh, heldHere])
          | @takes p now hc hd hs hf ha ht =>
              subst hc hd
              exact .takes p.model (.inr ⟨p, now, rfl, hi, hs, rfl⟩) (by rw [activeThen, ha])
                (by rw [heldHere, hf]) (by rw [heldThen, ht])
          | @concludes p now activity outcome hc hd hs ht ha hf =>
              subst hc hd
              exact .givesBack p.model (.inr ⟨p, now, activity, outcome, rfl, hi, hs⟩)
                (activeThen.trans ha) (by rw [heldHere, ht]) (by rw [heldThen, hf])
          | drops name hd ht ha hf =>
              subst hd
              exact .givesBack name (.inl rfl) (activeThen.trans ha) (by rw [heldHere, ht])
                (by rw [heldThen, hf])

/-- What is true of all who come and of who is dropped, and kept by all that may happen to a poller,
stays true of all claimants. -/
theorem forall_after {P : Claimant → Prop} (comes : ∀ model config, P (.poller (.new model config)))
    (claims : ∀ name, P (.holder name)) (dropped : P .gone)
    (kept : ∀ {p p'}, Poller.Changes p p' → P (.poller p) → P (.poller p'))
    (all : ∀ c ∈ w.claimants, P c) (a : WorldAct) : ∀ c ∈ (w.after a).claimants, P c := by
  intro c hc
  cases a with
  | add model config =>
      rcases List.mem_append.1 hc with hc | hc
      · exact all c hc
      · obtain rfl := List.mem_singleton.1 hc
        exact comes model config
  | claim name =>
      simp only [after] at hc
      split at hc
      · rcases List.mem_append.1 hc with hc | hc
        · exact all c hc
        · obtain rfl := List.mem_singleton.1 hc
          exact claims name
      · exact all c hc
  | «at» i d =>
      simp only [after] at hc
      split at hc
      · next was hi =>
          rcases List.mem_or_eq_of_mem_set hc with hc | rfl
          · exact all c hc
          · exact Claimant.after_of_changes dropped kept (all was (List.mem_of_getElem? hi))
      · exact all c hc

theorem sound_after (sound : ∀ c ∈ w.claimants, c.Sound) (a : WorldAct) :
    ∀ c ∈ (w.after a).claimants, c.Sound :=
  forall_after Poller.sound_new (fun _ => trivial) trivial (fun hc h => Poller.Sound.changes h hc)
    sound a

section Step

variable {a : WorldAct} {k : Nat} (h : w.Orderly)
  (elsewhere : ∀ j, j ≠ k → (w.after a).held? j = w.held? j)

include elsewhere

theorem held?_of_keeps (hh : (w.after a).held? k = w.held? k) (j : Nat) :
    (w.after a).held? j = w.held? j := by
  by_cases hjk : j = k
  · rw [hjk, hh]
  · exact elsewhere j hjk

include h

theorem held?_ne_of_takes {name : String} (hc : w.active.claim name = some (w.after a).active)
    (hjk : j ≠ k) : (w.after a).held? j ≠ some name := by
  intro hheld
  rw [elsewhere j hjk] at hheld
  exact (ActiveDownloads.mem_claim (n := name) hc).1 ((h.listed name).2 ⟨j, hheld⟩)

theorem Shifts.single (shifts : Shifts w a k) {n : String} (hi : (w.after a).held? i = some n)
    (hj : (w.after a).held? j = some n) : i = j := by
  cases shifts with
  | keeps _ hh =>
      have same := held?_of_keeps elsewhere hh
      exact h.single i j n (by rw [← same, hi]) (by rw [← same, hj])
  | takes name _ hc hf ht =>
      by_cases hik : i = k <;> by_cases hjk : j = k
      · rw [hik, hjk]
      · subst hik
        rw [ht] at hi
        cases hi
        exact absurd hj (held?_ne_of_takes h elsewhere hc hjk)
      · subst hjk
        rw [ht] at hj
        cases hj
        exact absurd hi (held?_ne_of_takes h elsewhere hc hik)
      · exact h.single i j n (by rw [← elsewhere i hik, hi]) (by rw [← elsewhere j hjk, hj])
  | givesBack name _ _ _ hf =>
      have here : ∀ j, (w.after a).held? j = some n → j ≠ k := by
        rintro j hj rfl
        rw [hf] at hj
        cases hj
      exact h.single i j n (by rw [← elsewhere i (here i hi), hi])
        (by rw [← elsewhere j (here j hj), hj])

theorem Shifts.listed (shifts : Shifts w a k) (n : String) :
    n ∈ (w.after a).active.names ↔ ∃ i, (w.after a).held? i = some n := by
  cases shifts with
  | keeps ha hh => simp only [ha, held?_of_keeps elsewhere hh, h.listed]
  | takes name _ hc hf ht =>
      rw [(ActiveDownloads.mem_claim hc).2, h.listed]
      constructor
      · rintro (rfl | ⟨j, hj⟩)
        · exact ⟨k, ht⟩
        · refine ⟨j, ?_⟩
          rw [elsewhere j ?_, hj]
          rintro rfl
          rw [hf] at hj
          cases hj
      · rintro ⟨j, hj⟩
        by_cases hjk : j = k
        · subst hjk
          rw [ht] at hj
          cases hj
          exact .inl rfl
        · exact .inr ⟨j, by rw [← elsewhere j hjk, hj]⟩
  | givesBack name _ ha ht hf =>
      rw [ha, ActiveDownloads.mem_release, h.listed]
      constructor
      · rintro ⟨⟨j, hj⟩, hne⟩
        refine ⟨j, ?_⟩
        rw [elsewhere j ?_, hj]
        rintro rfl
        rw [ht] at hj
        cases hj
        exact hne rfl
      · rintro ⟨j, hj⟩
        have hjk : j ≠ k := by
          rintro rfl
          rw [hf] at hj
          cases hj
        rw [elsewhere j hjk] at hj
        refine ⟨⟨j, hj⟩, ?_⟩
        rintro rfl
        exact hjk (h.single j k n hj ht)

end Step

theorem Orderly.after (h : w.Orderly) (a : WorldAct) : (w.after a).Orderly := by
  obtain ⟨k, elsewhere, shifts⟩ := exists_shifts h.sound a
  exact ⟨sound_after h.sound a, fun _ _ _ hi hj => shifts.single h elsewhere hi hj,
    shifts.listed h elsewhere⟩

theorem orderly_afterAll (h : w.Orderly) (acts : List WorldAct) : (w.afterAll acts).Orderly := by
  induction acts generalizing w with
  | nil => exact h
  | cons a acts ih => exact ih (h.after a)

end World

end ModelDepot
