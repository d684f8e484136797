import ModelDepot.Proofs.Claims.Exclusive

/-! # What becomes of a claim

A claimant takes a name at most once, and gives back what it has taken once: a poller when it
concludes, and anyone who is dropped before.
-/

namespace ModelDepot

namespace Stage

/-- The start has not come to its claim. -/
def isUnclaimed : Stage → Bool
  | .idle | .entering | .claiming => true
  | _ => false

end Stage

namespace Poller

variable {p p' : Poller}

theorem isUnclaimed_changes (hc : p.Changes p') (h : p'.stage.isUnclaimed = true) :
    p.stage.isUnclaimed = true := by
  cases hc with
  | none | run | halt => exact h
  | start hs | startRun hs => rw [hs]; rfl
  | startAnswered _ hs | statusAnswered _ hs => simp [Stage.isUnclaimed] at h
  | move hm => cases hm <;> simp_all [Stage.isUnclaimed]

theorem holdsName_of_isUnclaimed (sound : p.Sound) (h : p.stage.isUnclaimed = true) :
    p.holdsName = false := by
  have hn := sound.name
  cases hs : p.stage <;> simp_all [Stage.isUnclaimed, NameFits]

end Poller

namespace World

variable {w : World} {i : Nat} {acts : List WorldAct}

def steps : World → List WorldAct → List (World × WorldAct)
  | _, [] => []
  | w, a :: rest => (w, a) :: (w.after a).steps rest

def takes (i : Nat) (s : World × WorldAct) : Bool :=
  (s.1.held? i).isNone && ((s.1.after s.2).held? i).isSome

def givesBack (i : Nat) (s : World × WorldAct) : Bool :=
  (s.1.held? i).isSome && ((s.1.after s.2).held? i).isNone

def taken (w : World) (i : Nat) (acts : List WorldAct) : Nat :=
  (w.steps acts).countP (takes i)

def givenBack (w : World) (i : Nat) (acts : List WorldAct) : Nat :=
  (w.steps acts).countP (givesBack i)

def mayTake (w : World) (i : Nat) : Bool :=
  match w.claimants[i]? with
  | none => true
  | some (.poller p) => p.stage.isUnclaimed
  | _ => false

/-- What is taken and not given back is held. -/
theorem balance (w : World) (i : Nat) (acts : List WorldAct) :
    (w.held? i).isSome.toNat + w.taken i acts =
      ((w.afterAll acts).held? i).isSome.toNat + w.givenBack i acts := by
  induction acts generalizing w with
  | nil => rfl
  | cons a acts ih =>
      have later := ih (w.after a)
      have first : (w.held? i).isSome.toNat + (takes i (w, a)).toNat =
          ((w.after a).held? i).isSome.toNat + (givesBack i (w, a)).toNat := by
        simp only [takes, givesBack]
        cases w.held? i <;> cases (w.after a).held? i <;> rfl
      have same : w.afterAll (a :: acts) = (w.after a).afterAll acts := rfl
      simp only [taken, givenBack, steps, List.countP_cons, same] at later ⊢
      cases ht : takes i (w, a) <;> cases hg : givesBack i (w, a) <;>
        simp only [ht, hg, Bool.toNat_true, Bool.toNat_false] at first <;> simp <;> omega

theorem held?_of_mayTake (sound : ∀ c ∈ w.claimants, c.Sound) (h : w.mayTake i = true) :
    w.held? i = none := by
  cases hi : w.claimants[i]? with
  | none => simp [held?, hi]
  | some c =>
      cases c with
      | poller p =>
          have unclaimed : p.stage.isUnclaimed = true := by simpa [mayTake, hi] using h
          have free := Poller.holdsName_of_isUnclaimed (sound _ (List.mem_of_getElem? hi)) unclaimed
          simp [held?, hi, Claimant.held?, free]
      | holder | gone => simp [mayTake, hi] at h

theorem mayTake_of_absent (h : w.claimants[i]? = none) : w.mayTake i = true := by
  simp [mayTake, h]

theorem mayTake_of_after {a : WorldAct} (h : (w.after a).mayTake i = true) :
    w.mayTake i = true := by
  cases hi : w.claimants[i]? with
  | none => exact mayTake_of_absent hi
  | some c =>
      rcases claimants_after hi a with stays | ⟨d, -, done⟩
      · simpa only [mayTake, hi, stays] using h
      · rcases Claimant.after_cases c w.active d with ⟨p, p', rfl, hc, hp⟩ | ⟨_, hg⟩ | hk
        · rw [hp] at done
          simp only [mayTake, done] at h
          simpa only [mayTake, hi] using Poller.isUnclaimed_changes hc h
        · rw [hg] at done
          simp [mayTake, done] at h
        · rw [hk] at done
          simpa only [mayTake, hi, done] using h

theorem mayTake_of_takesBy {a : WorldAct} {n : String} (h : TakesBy w a i n) :
    w.mayTake i = true := by
  rcases h with ⟨-, rfl⟩ | ⟨p, now, -, hi, hs, -⟩
  · exact mayTake_of_absent (List.getElem?_eq_none (Nat.le_refl _))
  · simp [mayTake, hi, hs, Stage.isUnclaimed]

theorem takesBy_of_takes {a : WorldAct} (sound : ∀ c ∈ w.claimants, c.Sound)
    (h : takes i (w, a) = true) :
    ∃ n, TakesBy w a i n ∧ n ∉ w.active.names ∧ n ∈ (w.after a).active.names := by
  obtain ⟨before, now⟩ : w.held? i = none ∧ ((w.after a).held? i).isSome = true := by
    simpa [takes] using h
  obtain ⟨k, elsewhere, shifts⟩ := exists_shifts sound a
  by_cases hik : i = k
  · subst hik
    cases shifts with
    | keeps _ hh => simp [hh, before] at now
    | takes n takesBy hc _ _ =>
        obtain ⟨free, listed⟩ := ActiveDownloads.mem_claim (n := n) hc
        exact ⟨n, takesBy, free, listed.2 (.inl rfl)⟩
    | givesBack _ _ _ _ hf => simp [hf] at now
  · simp [elsewhere i hik, before] at now

theorem givesBackBy_of_givesBack {a : WorldAct} (sound : ∀ c ∈ w.claimants, c.Sound)
    (h : givesBack i (w, a) = true) :
    ∃ n, GivesBackBy w a i ∧ w.held? i = some n ∧ n ∉ (w.after a).active.names := by
  obtain ⟨before, now⟩ : (w.held? i).isSome = true ∧ (w.after a).held? i = none := by
    simpa [givesBack] using h
  obtain ⟨k, elsewhere, shifts⟩ := exists_shifts sound a
  by_cases hik : i = k
  · subst hik
    cases shifts with
    | keeps _ hh => simp [← hh, now] at before
    | takes _ _ _ hf _ => simp [hf] at before
    | givesBack n givesBackBy ha ht _ =>
        exact ⟨n, givesBackBy, ht, by rw [ha, ActiveDownloads.mem_release]; simp⟩
  · simp [← elsewhere i hik, now] at before

theorem taken_le (sound : ∀ c ∈ w.claimants, c.Sound) : w.taken i acts ≤ (w.mayTake i).toNat := by
  induction acts generalizing w with
  | nil => exact Nat.zero_le _
  | cons a acts ih =>
      have later := ih (sound_after sound a)
      simp only [taken, steps, List.countP_cons] at later ⊢
      split
      · next hs =>
          obtain ⟨n, takesBy, -⟩ := takesBy_of_takes sound hs
          -- who holds a name has no claim to come, so this one is the last
          have spent : (w.after a).mayTake i = false := by
            cases hm : (w.after a).mayTake i with
            | false => rfl
            | true => simp [takes, held?_of_mayTake (sound_after sound a) hm] at hs
          rw [spent] at later
          rw [mayTake_of_takesBy takesBy]
          simpa using later
      · have fewer : ((w.after a).mayTake i).toNat ≤ (w.mayTake i).toNat := by
          cases hm : (w.after a).mayTake i with
          | false => exact Nat.zero_le _
          | true => exact Nat.le_of_eq (by rw [mayTake_of_after hm])
        omega

end World

end ModelDepot
