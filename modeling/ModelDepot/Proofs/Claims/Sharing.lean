import ModelDepot.Proofs.Claims.Ledger

/-! # Names among pollers and holders

The list of downloads under way is the list of the names that are held, each by one claimant. A
poller that finds its name held fails for that reason, makes no call, and never touches the name.
-/

namespace ModelDepot

namespace Poller

variable {p p' : Poller}

/-- The poller has failed because its name was held. -/
structure Rejected (p : Poller) : Prop where
  sound : p.Sound
  known : p.known = some (.failed .alreadyActive)
  free : p.holdsName = false

theorem Rejected.changes (h : p.Rejected) (hc : p.Changes p') : p'.Rejected := by
  refine ⟨h.sound.changes hc, known_changes h.sound hc h.known, ?_⟩
  have hk := h.known
  have hf := h.free
  have ho := h.sound.outcome
  cases hc with
  | move hm => cases hm <;> simp_all [Poller.known, Stage.pending?, OutcomeFits]
  | _ => exact hf

theorem Rejected.call?_eq (h : p.Rejected) : p.call? = none :=
  call?_eq_none h.sound h.free

theorem call?_of_isUnclaimed (h : p.stage.isUnclaimed = true) : p.call? = none := by
  cases hs : p.stage <;> simp_all [Stage.isUnclaimed, call?]

theorem rejected_of_refused (sound : p.Sound) (hs : p.stage = .claiming) (now : Nat)
    {active : ActiveDownloads} (hc : active.claim p.model = none) :
    (p.go now active).Rejected ∧ p.leaves now active = active := by
  have hm : Moves now active p _ active none := .refused hs hc
  rw [go_of_moves hm, leaves_of_moves hm]
  have free : p.holdsName = false := by simpa only [NameFits, hs] using sound.name
  exact ⟨⟨sound.changes (.move hm), rfl, free⟩, rfl⟩

theorem ended_of_known (sound : p.Sound) {outcome : DownloadOutcome} (hk : p.known = some outcome)
    (answers : Nat → Reply) (around : Nat → Moment) {n : Nat} (hn : 13 ≤ n) :
    (p.requestRun.course answers around n).poller.stage = .ended ∧
    (p.requestRun.course answers around n).poller.outcome = some outcome := by
  have hc := changes_requestRun p
  have soundRun := sound.changes hc
  have knownRun := known_changes sound hc hk
  have ended := Course.ended_of_closing soundRun (.inr (by rw [knownRun]; rfl))
    (underway_requestRun p) answers around hn
  obtain ⟨acts, hacts⟩ := Course.exists_acts p.requestRun answers around n
  have final := Life.known_afterAll (l := ⟨p.requestRun, 0⟩) soundRun knownRun acts
  rw [(hacts 0).1] at final
  exact ⟨ended, by simpa only [known, ended, Stage.pending?, Option.none_or] using final⟩

end Poller

namespace World

variable {w : World} {i : Nat} {acts : List WorldAct}

/-- The claimant in place `i` has been dropped, or it is a poller of which `P` is true. -/
def Lasts (w : World) (i : Nat) (P : Poller → Prop) : Prop :=
  w.claimants[i]? = some .gone ∨ ∃ q, w.claimants[i]? = some (.poller q) ∧ P q

theorem Lasts.after {P : Poller → Prop} (kept : ∀ {p p'}, Poller.Changes p p' → P p → P p')
    (h : w.Lasts i P) (a : WorldAct) : (w.after a).Lasts i P := by
  rcases h with hi | ⟨q, hi, hq⟩
  · rcases claimants_after hi a with stays | ⟨d, -, done⟩
    · exact .inl stays
    · refine .inl (done.trans ?_)
      cases d <;> rfl
  · rcases claimants_after hi a with stays | ⟨d, -, done⟩
    · exact .inr ⟨q, stays, hq⟩
    · rcases Claimant.after_cases (.poller q) w.active d with ⟨p, p', hp, hc, hp'⟩ | ⟨-, hg⟩ | hk
      · cases hp
        exact .inr ⟨p', done.trans (congrArg some hp'), kept hc hq⟩
      · exact .inl (done.trans (congrArg some hg))
      · exact .inr ⟨q, done.trans (congrArg some hk), hq⟩

theorem Lasts.afterAll {P : Poller → Prop} (kept : ∀ {p p'}, Poller.Changes p p' → P p → P p')
    (h : w.Lasts i P) (acts : List WorldAct) : (w.afterAll acts).Lasts i P := by
  induction acts generalizing w with
  | nil => exact h
  | cons a acts ih => exact ih (h.after kept a)

theorem Lasts.poller {P : Poller → Prop} (h : w.Lasts i P) {q : Poller}
    (hi : w.claimants[i]? = some (.poller q)) : P q := by
  rcases h with hg | ⟨q', hq', hP⟩
  · rw [hi] at hg
    cases hg
  · rw [hi] at hq'
    cases hq'
    exact hP

theorem afterAll_append (acts more : List WorldAct) :
    w.afterAll (acts ++ more) = (w.afterAll acts).afterAll more :=
  List.foldl_append

theorem after_of_rejected (h : w.Lasts i Poller.Rejected) (d : Deed) :
    (w.after (.at i d)).active = w.active ∧ ∀ j, (w.after (.at i d)).held? j = w.held? j := by
  rcases h with hi | ⟨q, hi, hq⟩
  · have idle : Claimant.after .gone w.active d = (.gone, w.active) := by cases d <;> rfl
    have same : w.after (.at i d) = ⟨w.active, w.claimants.set i .gone⟩ := by simp [after, hi, idle]
    rw [same]
    refine ⟨rfl, fun j => ?_⟩
    rw [held?_set hi]
    split
    · next hij => rw [← hij, held?, hi]; rfl
    · rfl
  · have done : w.after (.at i d) =
        ⟨(Claimant.after (.poller q) w.active d).2,
          w.claimants.set i (Claimant.after (.poller q) w.active d).1⟩ := by simp [after, hi]
    have free : Claimant.held? (.poller q) = none := by simp [Claimant.held?, hq.free]
    rw [done]
    cases Claimant.handles (c := .poller q) hq.sound w.active d with
    | keeps ha hh =>
        refine ⟨ha, fun j => ?_⟩
        rw [held?_set hi]
        split
        · next hij => rw [← hij, hh, held?, hi]; rfl
        · rfl
    | @takes p now hp _ hs =>
        cases hp
        have known := hq.known
        have unnoted := hq.sound.outcome
        simp_all [Poller.known, Stage.pending?, Poller.OutcomeFits]
    | concludes hp _ _ ht =>
        cases hp
        rw [free] at ht
        cases ht
    | drops name _ ht =>
        rw [free] at ht
        cases ht

/-- How the names stand in a world. -/
structure Exclusive (w : World) : Prop where
  /-- A name is held by one claimant at most. -/
  single : ∀ i j n, w.held? i = some n → w.held? j = some n → i = j
  /-- The list of names is in ascending order, without repetition. -/
  ascending : w.active.names.Pairwise (· < ·)
  /-- The names on the list are the names that are held. -/
  listed : ∀ n, n ∈ w.active.names ↔ ∃ i, w.held? i = some n
  contains : ∀ n, w.active.contains n = true ↔ ∃ i, w.held? i = some n
  /-- A poller makes calls only while it holds its name. -/
  calls : ∀ i p call, w.claimants[i]? = some (.poller p) → p.call? = some call →
    w.held? i = some p.model
  /-- While a claimant holds a name, no other poller of that name makes a call. -/
  alone : ∀ i j p call, w.held? i = some p.model → w.claimants[j]? = some (.poller p) →
    p.call? = some call → i = j

/-- What becomes of the claim of the claimant in place `i` in the course of some events. -/
structure ClaimedOnce (acts : List WorldAct) (i : Nat) : Prop where
  once : fresh.taken i acts ≤ 1
  /-- What has been taken has been given back once, or is held still. -/
  settled : fresh.givenBack i acts + ((fresh.afterAll acts).held? i).isSome.toNat =
    fresh.taken i acts
  taken : ∀ s ∈ fresh.steps acts, takes i s = true →
    ∃ n, TakesBy s.1 s.2 i n ∧ n ∉ s.1.active.names ∧ n ∈ (s.1.after s.2).active.names
  givenBack : ∀ s ∈ fresh.steps acts, givesBack i s = true →
    ∃ n, GivesBackBy s.1 s.2 i ∧ s.1.held? i = some n ∧ n ∉ (s.1.after s.2).active.names
  /-- Nothing is held by one who is dropped, nor by a poller that has concluded. -/
  concluded : (fresh.afterAll acts).claimants[i]? = some .gone ∨
    (∃ p, (fresh.afterAll acts).claimants[i]? = some (.poller p) ∧
      (p.outcome.isSome = true ∨ p.stage = .ended)) →
    (fresh.afterAll acts).held? i = none

/-- What becomes of the poller in place `i` that finds its name held after some events, and of the
names, in the course of later ones. -/
structure Refused (acts : List WorldAct) (i now : Nat) (later : List WorldAct) : Prop where
  fails : ∀ q,
    (fresh.afterAll (acts ++ .at i (.go now) :: later)).claimants[i]? = some (.poller q) →
    q.known = some (.failed .alreadyActive) ∧
    ∀ answers around n, 13 ≤ n →
      (q.requestRun.course answers around n).poller.stage = .ended ∧
      (q.requestRun.course answers around n).poller.outcome = some (.failed .alreadyActive)
  silentBefore : ∀ first rest, acts = first ++ rest →
    ∀ q, (fresh.afterAll first).claimants[i]? = some (.poller q) → q.call? = none
  silentAfter : ∀ q, (fresh.afterAll (acts ++ .at i (.go now) :: later)).claimants[i]? =
    some (.poller q) → q.call? = none
  undisturbed : (fresh.afterAll (acts ++ [.at i (.go now)])).active = (fresh.afterAll acts).active
  harmless : ∀ d, ((fresh.afterAll (acts ++ .at i (.go now) :: later)).after (.at i d)).active =
      (fresh.afterAll (acts ++ .at i (.go now) :: later)).active ∧
    ∀ j, ((fresh.afterAll (acts ++ .at i (.go now) :: later)).after (.at i d)).held? j =
      (fresh.afterAll (acts ++ .at i (.go now) :: later)).held? j

theorem Orderly.exclusive (h : w.Orderly) : w.Exclusive := by
  have calls : ∀ i p call, w.claimants[i]? = some (.poller p) → p.call? = some call →
      w.held? i = some p.model := by
    intro i p call hi hc
    have held := Poller.holdsName_of_call (h.sound _ (List.mem_of_getElem? hi)) hc
    simp [held?, hi, Claimant.held?, held]
  refine ⟨h.single, w.active.ascending, h.listed, fun n => ?_, calls, ?_⟩
  · rw [← h.listed]
    simp [ActiveDownloads.contains]
  · intro i j p call hi hj hc
    exact h.single i j p.model hi (calls j p call hj hc)

theorem sound_of_mem_steps (sound : ∀ c ∈ w.claimants, c.Sound) {s : World × WorldAct}
    (hs : s ∈ w.steps acts) : ∀ c ∈ s.1.claimants, c.Sound := by
  induction acts generalizing w with
  | nil => cases hs
  | cons a acts ih =>
      rcases List.mem_cons.1 hs with rfl | hs
      · exact sound
      · exact ih (sound_after sound a) hs

theorem claimedOnce (acts : List WorldAct) (i : Nat) : ClaimedOnce acts i := by
  have orderly := orderly_afterAll Orderly.fresh acts
  have sound := Orderly.fresh.sound
  refine ⟨?_, ?_, fun s hs => takesBy_of_takes (sound_of_mem_steps sound hs),
    fun s hs => givesBackBy_of_givesBack (sound_of_mem_steps sound hs), ?_⟩
  · exact Nat.le_trans (taken_le sound) (Bool.toNat_le _)
  · have balanced := balance fresh i acts
    have nobody : (fresh.held? i).isSome.toNat = 0 := rfl
    omega
  · rintro (hg | ⟨p, hp, hasEnded⟩)
    · rw [held?, hg]
      rfl
    · have soundHere : p.Sound := orderly.sound _ (List.mem_of_getElem? hp)
      have named := soundHere.name
      have noted := soundHere.outcome
      have free : p.holdsName = false := by
        cases hs : p.stage <;> simp_all [Poller.NameFits, Poller.OutcomeFits]
      simp [held?, hp, Claimant.held?, free]

theorem mayTake_of_afterAll (h : (w.afterAll acts).mayTake i = true) : w.mayTake i = true := by
  induction acts generalizing w with
  | nil => exact h
  | cons a acts ih => exact mayTake_of_after (ih h)

theorem refused {p : Poller} {now : Nat}
    (hi : (fresh.afterAll acts).claimants[i]? = some (.poller p))
    (hs : p.stage = .claiming) (held : ∃ j, (fresh.afterAll acts).held? j = some p.model)
    (later : List WorldAct) : Refused acts i now later := by
  have orderly := orderly_afterAll Orderly.fresh acts
  have sound : p.Sound := orderly.sound _ (List.mem_of_getElem? hi)
  have taken := ActiveDownloads.claim_eq_none_iff.2 ((orderly.listed p.model).2 held)
  obtain ⟨rejected, same⟩ := Poller.rejected_of_refused sound hs now taken
  have done : (fresh.afterAll acts).after (.at i (.go now)) =
      ⟨(fresh.afterAll acts).active, (fresh.afterAll acts).claimants.set i
        (.poller (p.go now (fresh.afterAll acts).active))⟩ := by
    simp only [after, hi, Claimant.after, same]
  have inside : i < (fresh.afterAll acts).claimants.length := (List.getElem?_eq_some_iff.1 hi).1
  have lasts : ((fresh.afterAll acts).after (.at i (.go now))).Lasts i Poller.Rejected := by
    rw [done]
    exact .inr ⟨_, List.getElem?_set_self inside, rejected⟩
  have lastsLater :
      (fresh.afterAll (acts ++ .at i (.go now) :: later)).Lasts i Poller.Rejected := by
    rw [afterAll_append]
    exact lasts.afterAll (fun hc hq => hq.changes hc) later
  refine ⟨fun q hq => ?_, ?_, fun q hq => (lastsLater.poller hq).call?_eq, ?_,
    after_of_rejected lastsLater⟩
  · have rejectedLater := lastsLater.poller hq
    exact ⟨rejectedLater.known, fun answers around n hn =>
      Poller.ended_of_known rejectedLater.sound rejectedLater.known answers around hn⟩
  · rintro first rest rfl q hq
    have unclaimed : (fresh.afterAll (first ++ rest)).mayTake i = true := by
      simp [mayTake, hi, hs, Stage.isUnclaimed]
    rw [afterAll_append] at unclaimed
    have before := mayTake_of_afterAll unclaimed
    exact Poller.call?_of_isUnclaimed (by simpa only [mayTake, hq] using before)
  · rw [afterAll_append]
    have unchanged := congrArg World.active done
    exact unchanged

/-- Whatever pollers and holders do, and in whatever order: the list of downloads is the ascending
list of the names that are held, each by one claimant; a claim is given back once, when its poller
concludes or its claimant is dropped; and a poller that finds its name held fails for that reason,
makes no call and leaves the names alone for good. -/
theorem names_are_held_one_at_a_time (acts : List WorldAct) :
    (fresh.afterAll acts).Exclusive ∧ (∀ i, ClaimedOnce acts i) ∧
    ∀ i p now later, (fresh.afterAll acts).claimants[i]? = some (.poller p) → p.stage = .claiming →
      (∃ j, (fresh.afterAll acts).held? j = some p.model) → Refused acts i now later :=
  ⟨(orderly_afterAll Orderly.fresh acts).exclusive, claimedOnce acts,
    fun _ _ _ later hi hs held => refused hi hs held later⟩

/-- Two pollers of one name: the second finds it held. -/
theorem names_are_held_one_at_a_time_by_two_pollers :
    Refused
      [.add "phi" ⟨.ofSeconds 1, .ofSeconds 60⟩, .add "phi" ⟨.ofSeconds 1, .ofSeconds 60⟩,
        .at 0 .start, .at 0 (.go 0), .at 0 (.go 0), .at 1 .start, .at 1 (.go 0)]
      1 0 [.at 1 .run, .at 1 (.go 0), .at 1 .drop] :=
  (names_are_held_one_at_a_time _).2.2 1 _ 0 _ rfl rfl ⟨0, rfl⟩

end World

end ModelDepot
