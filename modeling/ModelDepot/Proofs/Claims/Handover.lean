import ModelDepot.Proofs.Claims.Ledger
import ModelDepot.Proofs.Poller.Visible

/-! # The name of a poller that shows its end

A poller lets its handles see its end one step before it gives its name back. Between the two steps
another poller of the name is refused, though nobody polls for it any more. The next step of the
first one ends this, and from then on nobody is refused because of it. A poller that is dropped
gives its name back at once, whatever its handles go on showing.
-/

namespace ModelDepot

def Stage.isReleasing : Stage → Bool
  | .releasing _ _ => true
  | _ => false

namespace Poller

variable {p p' : Poller}

/-- A poller that shows its end holds its name only when it is about to give it back. -/
def ReleasesNext (p : Poller) : Prop :=
  p.state.isTerminal = true → p.holdsName = true → p.stage.isReleasing = true

theorem ReleasesNext.changes (sound : p.Sound) (fits : p.StateFits) (h : p.ReleasesNext)
    (hc : p.Changes p') : p'.ReleasesNext := by
  have named := sound.name
  have noted := sound.outcome
  cases hc with
  | none | run | halt => exact h
  | start hs | startRun hs | startAnswered _ hs | statusAnswered _ hs =>
      simp_all [ReleasesNext, StateFits, PollerState.isTerminal]
  | move hm =>
      cases hm with
      | conclude => intro _ _; rfl
      | _ => simp_all [ReleasesNext, StateFits, NameFits, OutcomeFits, PollerState.isTerminal]

/-- What a poller shows, and whether it holds its name, go together. -/
structure Presents (p : Poller) : Prop where
  sound : p.Sound
  state : p.StateFits
  ends : p.ReleasesNext

theorem presents_new (model : String) (config : PollerConfig) : (new model config).Presents :=
  ⟨sound_new model config, stateFits_new model config, nofun⟩

theorem Presents.changes (h : p.Presents) (hc : p.Changes p') : p'.Presents :=
  ⟨h.sound.changes hc, h.state.changes h.sound hc, h.ends.changes h.sound h.state hc⟩

theorem Presents.not_unclaimed (h : p.Presents) (terminal : p.state.isTerminal = true) :
    p.stage.isUnclaimed = false := by
  have fits := h.state
  cases hs : p.stage <;> simp_all [Stage.isUnclaimed, StateFits, PollerState.isTerminal]

end Poller

/-- A claimant that is a poller presents itself so. -/
def Claimant.Presents : Claimant → Prop
  | poller p => p.Presents
  | _ => True

namespace World

variable {w : World} {i j : Nat} {p q : Poller}

theorem presents_afterAll (presents : ∀ c ∈ w.claimants, c.Presents) (acts : List WorldAct) :
    ∀ c ∈ (w.afterAll acts).claimants, c.Presents := by
  induction acts generalizing w with
  | nil => exact presents
  | cons a acts ih =>
      exact ih (forall_after Poller.presents_new (fun _ => trivial) trivial
        (fun hc h => Poller.Presents.changes h hc) presents a)

theorem held?_afterAll_eq_none (sound : ∀ c ∈ w.claimants, c.Sound) (behind : w.mayTake i = false)
    (free : w.held? i = none) (acts : List WorldAct) : (w.afterAll acts).held? i = none := by
  have balanced := balance w i acts
  have few : w.taken i acts ≤ (w.mayTake i).toNat := taken_le sound
  rw [free, behind] at *
  cases held : (w.afterAll acts).held? i with
  | none => rfl
  | some name =>
      simp [held] at balanced few
      omega

/-- How the names stand with pollers that show their end. -/
structure HandsOver (w : World) : Prop where
  /-- A poller that shows its end holds nothing, or its name until its next step. -/
  shown : ∀ i (p : Poller), w.claimants[i]? = some (.poller p) → p.state.isTerminal = true →
    w.held? i = none ∨ w.held? i = some p.model ∧ p.stage.isReleasing = true
  /-- With that step the name is free. -/
  released : ∀ i p now, w.claimants[i]? = some (.poller p) → p.stage.isReleasing = true →
    w.held? i = some p.model →
    (w.after (.at i (.go now))).held? i = none ∧
    p.model ∉ (w.after (.at i (.go now))).active.names
  /-- It does not take the name again. -/
  forGood : ∀ i (p : Poller), w.claimants[i]? = some (.poller p) → p.state.isTerminal = true →
    w.held? i = none → ∀ later, (w.afterAll later).held? i = none
  /-- A poller that is dropped, whatever it shows, frees its name and holds nothing from then on. -/
  dropped : ∀ i (p : Poller), w.claimants[i]? = some (.poller p) →
    (w.held? i = some p.model → p.model ∉ (w.after (.at i .drop)).active.names) ∧
    ∀ later, ((w.after (.at i .drop)).afterAll later).held? i = none
  /-- A poller that is refused is refused because of someone else, and if that is a poller which
  shows its end, because of one that is about to give the name back. -/
  refused : ∀ j q, w.claimants[j]? = some (.poller q) → q.stage = .claiming →
    w.active.claim q.model = none →
    ∃ k, k ≠ j ∧ w.held? k = some q.model ∧
      ∀ p, w.claimants[k]? = some (.poller p) → p.state.isTerminal = true →
        p.stage.isReleasing = true

theorem held?_of_poller (hi : w.claimants[i]? = some (.poller p)) :
    w.held? i = if p.holdsName then some p.model else none := by
  simp [held?, hi, Claimant.held?]

theorem holdsName_of_held? {name : String} (hi : w.claimants[i]? = some (.poller p))
    (held : w.held? i = some name) : p.holdsName = true := by
  rw [held?_of_poller hi] at held
  cases holds : p.holdsName with
  | true => rfl
  | false => simp [holds] at held

theorem Orderly.handsOver (h : w.Orderly) (presents : ∀ c ∈ w.claimants, c.Presents) :
    w.HandsOver where
  shown i p hi terminal := by
    rw [held?_of_poller hi]
    cases holds : p.holdsName with
    | false => exact .inl rfl
    | true => exact .inr ⟨rfl, (presents _ (List.mem_of_getElem? hi)).ends terminal holds⟩
  released i p now hi releasing held := by
    obtain ⟨activity, outcome, hs⟩ : ∃ activity outcome, p.stage = .releasing activity outcome := by
      cases hs : p.stage <;> simp_all [Stage.isReleasing]
    have holds := holdsName_of_held? hi held
    have free : (p.go now w.active).holdsName = false := by simp [Poller.go, Poller.next, hs]
    have leaves : p.leaves now w.active = w.active.release p.model := by
      simp [Poller.leaves, Poller.next, hs, holds]
    have done : w.after (.at i (.go now)) = ⟨w.active.release p.model,
        w.claimants.set i (.poller (p.go now w.active))⟩ := by
      simp only [World.after, hi, Claimant.after, leaves]
    rw [done, held?_set hi, if_pos rfl]
    refine ⟨by simp [Claimant.held?, free], fun still => ?_⟩
    exact (ActiveDownloads.mem_release.1 still).2 rfl
  forGood i p hi terminal free := by
    have unclaimed := (presents _ (List.mem_of_getElem? hi)).not_unclaimed terminal
    exact held?_afterAll_eq_none h.sound (by simp [mayTake, hi, unclaimed]) free
  dropped i p hi := by
    have done : w.after (.at i .drop) = ⟨p.drop w.active, w.claimants.set i .gone⟩ := by
      simp only [World.after, hi, Claimant.after]
    have gone : (w.after (.at i .drop)).claimants[i]? = some .gone := by
      rw [done, List.getElem?_set_self (List.getElem?_eq_some_iff.1 hi).1]
    refine ⟨fun held still => ?_, ?_⟩
    · have holds := holdsName_of_held? hi held
      rw [done, Poller.drop, if_pos holds] at still
      exact (ActiveDownloads.mem_release.1 still).2 rfl
    · exact held?_afterAll_eq_none (h.after (.at i .drop)).sound (by simp [mayTake, gone])
        (by simp [held?, gone, Claimant.held?])
  refused j q hj hs taken := by
    obtain ⟨k, hk⟩ := (h.listed q.model).1 (ActiveDownloads.claim_eq_none_iff.1 taken)
    refine ⟨k, ?_, hk, ?_⟩
    · rintro rfl
      have free := held?_of_mayTake (i := k) h.sound (by simp [mayTake, hj, hs, Stage.isUnclaimed])
      rw [free] at hk
      cases hk
    · intro p hp terminal
      exact (presents _ (List.mem_of_getElem? hp)).ends terminal (holdsName_of_held? hp hk)

/-- However pollers and holders take turns: a poller that shows its end holds its name at most until
its next step, and from then on nobody is refused because of it. -/
theorem name_follows_end (acts : List WorldAct) : (fresh.afterAll acts).HandsOver :=
  (orderly_afterAll Orderly.fresh acts).handsOver
    (presents_afterAll (fun c hc => by cases hc) acts)

/-- A poller is seen to have failed, and a poller of its name that is made and started then is
refused because of it: the first one has not come to its next step. -/
theorem end_is_shown_before_release :
    let config : PollerConfig := ⟨.ofSeconds 1, .ofSeconds 60⟩
    let first : List WorldAct :=
      [.add "phi" config, .at 0 .run, .at 0 (.go 0), .at 0 (.go 0), .at 0 (.go 0),
        .at 0 (.answer (.error (.network "unreachable"))), .at 0 (.go 0), .at 0 (.go 0)]
    let second : List WorldAct :=
      [.add "phi" config, .at 1 .run, .at 1 (.go 0), .at 1 (.go 0)]
    ∃ p q, (fresh.afterAll first).claimants = [.poller p] ∧ p.state = .failed ∧
      (fresh.afterAll first).held? 0 = some "phi" ∧
      (fresh.afterAll (first ++ second)).claimants = [.poller p, .poller q] ∧
      q.known = some (.failed .alreadyActive) :=
  ⟨_, _, rfl, rfl, rfl, rfl, rfl⟩

end World

end ModelDepot
