import ModelDepot.Proofs.Batch.Company
import ModelDepot.Proofs.Number.Sum

/-! # The overall progress that a batch tells

Whatever happens to the members, and in whatever order the batch hears them, the means that it tells
are those of what it has shown. What it has shown of a member that has ended is what the handle of
the member shows, so in the end the last mean is the one that the handles have.
-/

namespace ModelDepot.Batch

/-- The progress that is told for a member right before its outcome: the one that it has completed
with, if that is another one than the last value that was told on. -/
def owed (last : Binary64) : DownloadOutcome → Option Binary64
  | .completed status => if status.progress.eqNumber last then none else some status.progress
  | _ => none

/-- Values that are equal as numbers, and not below zero, have one mean. -/
theorem mean_of_eqNumber {xs ys : List Binary64}
    (equal : List.Forall₂ (fun x y => x.eqNumber y = true) xs ys)
    (above : ∀ y ∈ ys, Binary64.zero.le y = true) : mean xs = mean ys := by
  have sum : xs.foldl Binary64.add .zero = ys.foldl Binary64.add .zero :=
    Binary64.foldl_add_of_eqNumber equal above (by decide)
  have empty : xs.isEmpty = ys.isEmpty := by cases equal <;> rfl
  rw [mean, mean, sum, empty, equal.length_eq]

/-- What is put in before an outcome is what is owed, if the handle shows what it should. -/
theorem Tally.catchUp_of_seenAt {t : Tally} {i : Nat} {outcome : DownloadOutcome}
    {reading : Binary64} (number : (t.known i).isNaN = false)
    (seen : reading = Poller.seenAt (t.known i) (some outcome)) (model : String) :
    t.catchUp i reading model =
      ((owed (t.known i) outcome).map fun value =>
        .progress model value (mean (t.latest.set i reading))).toList := by
  have self := Binary64.eqNumber_self number
  rw [catchUp, ← known]
  cases outcome with
  | completed status =>
      rw [show reading = status.progress from seen, owed]
      split <;> rfl
  | failed | timedOut | cancelled =>
      rw [show reading = t.known i from seen, self]
      rfl

namespace Company

variable {c : Company} {names : List String} {i : Nat} {m : Member} {rest : List DownloadEvent}
  {model : String} {value : Binary64} {outcome : DownloadOutcome}

theorem Fits.known_eq_lastShown (h : c.Fits names) (hi : c.members[i]? = some m) :
    c.tally.known i = lastShown c.told m.poller.model := by
  rw [Tally.known, h.shows.latest, shown, List.getElem?_map, h.name hi]
  rfl

theorem Fits.agrees_of_noted (h : c.Fits names) (hi : c.members[i]? = some m)
    (noted : c.tally.outcomes[i]? = some (some outcome)) :
    (lastShown c.told m.poller.model).eqNumber m.poller.progress.get = true := by
  obtain ⟨-, o, kept, stands⟩ := h.members i m hi
  rw [noted] at kept
  cases kept
  cases stands with
  | ended _ _ agrees => rwa [h.known_eq_lastShown hi] at agrees

theorem Fits.agrees_of_told (h : c.Fits names) (distinct : names.Nodup)
    (hi : c.members[i]? = some m) (told : .memberFinished m.poller.model outcome ∈ c.told) :
    (lastShown c.told m.poller.model).eqNumber m.poller.progress.get = true := by
  obtain ⟨j, o, hj, noted⟩ := h.shows.noted _ _ told
  obtain ⟨insideI, atI⟩ := List.getElem?_eq_some_iff.1 (h.name hi)
  obtain ⟨insideJ, atJ⟩ := List.getElem?_eq_some_iff.1 hj
  obtain rfl := (List.Nodup.getElem_inj_iff distinct).1 (atI.trans atJ.symm)
  exact h.agrees_of_noted hi noted

theorem Fits.agrees_of_settled (h : c.Fits names) (settled : c.tally.remaining = 0) :
    List.Forall₂ (fun x y => x.eqNumber y = true) (shown names c.told)
      (c.members.map (·.poller.progress.get)) := by
  rw [shown, ← h.named, List.map_map, List.forall₂_map_left_iff, List.forall₂_map_right_iff,
    List.forall₂_same]
  intro m hm
  obtain ⟨i, hi⟩ := List.getElem?_of_mem hm
  obtain ⟨-, noted, kept, -⟩ := h.members i m hi
  rw [h.counts.remaining, List.countP_eq_zero] at settled
  cases noted with
  | none => exact absurd rfl (settled none (List.mem_of_getElem? kept))
  | some outcome => exact h.agrees_of_noted hi kept

theorem Fits.mean_of_settled (h : c.Fits names) (settled : c.tally.remaining = 0) :
    mean (shown names c.told) = c.batch.overallProgress := by
  have above : ∀ y ∈ c.members.map (·.poller.progress.get), Binary64.zero.le y = true := by
    intro y hy
    obtain ⟨m, hm, rfl⟩ := List.mem_map.1 hy
    obtain ⟨i, hi⟩ := List.getElem?_of_mem hm
    exact (h.members i m hi).member.isPercent.1
  rw [mean_of_eqNumber (h.agrees_of_settled settled) above, overallProgress, batch, List.map_map]
  rfl

theorem told_of_nothing {s : Happening}
    (nothing : ∀ i m, s = .hear i → c.members[i]? = some m → m.unheard = []) :
    (c.after s).told = c.told := by
  cases s with
  | act i a => exact (tally_act c i a).2.1
  | hear i => rw [after_hear_of_nothing fun m => nothing i m rfl]

theorem Fits.told_of_progress (h : c.Fits names) (hi : c.members[i]? = some m)
    (next : m.unheard = .progress model value :: rest) :
    ∃ overall, (c.after (.hear i)).told = c.told ++ [.progress model value overall] := by
  obtain ⟨-, told⟩ := h.attend_hear hi next
  exact ⟨_, told⟩

theorem Fits.told_of_finished (h : c.Fits names) (hi : c.members[i]? = some m)
    (next : m.unheard = .finished model outcome :: rest) :
    ∃ overall, (c.after (.hear i)).told = c.told ++
      ((owed (lastValue (heardOf i c.heard)) outcome).map (.progress model · overall)).toList ++
        [.memberFinished model outcome] := by
  obtain ⟨-, told⟩ := h.attend_hear hi next
  obtain ⟨member, _, _, stands⟩ := h.members i m hi
  rcases member.hears next with ⟨_, same⟩ | ⟨_, same, rfl, ended, noted⟩
  · cases same
  cases same
  obtain ⟨-, known, -⟩ := stands.of_unheard next
  have last : m.poller.lastTold = c.tally.known i :=
    (member.lastTold_of_finished next).trans known.symm
  have number := (last ▸ member.isPercent_lastTold).isNaN_eq_false
  have seen : m.poller.progress.get = Poller.seenAt (c.tally.known i) (some outcome) := by
    rw [member.cell, Poller.known_of_ended ended, noted, last]
  refine ⟨mean (c.tally.latest.set i m.poller.progress.get), ?_⟩
  rw [told, (Tally.hear_finished _ i _ _ _).1, Tally.catchUp_of_seenAt number seen, known,
    List.append_assoc]

end Company

/-- How a batch under way tells the progress of its members. -/
structure Company.TellsProgress (c : Company) (names : List String) : Prop where
  /-- Each progress comes with the mean of what is shown last for each member, up to itself, and of
  zero for those that nothing is shown for. -/
  means : MeansFit names c.told
  /-- Nothing is told but when something is heard. -/
  silent : ∀ s, (∀ i m, s = .hear i → c.members[i]? = some m → m.unheard = []) →
    (c.after s).told = c.told
  /-- A progress is told on as it is heard. -/
  forwards : ∀ i m model value rest, c.members[i]? = some m →
    m.unheard = .progress model value :: rest →
    ∃ overall, (c.after (.hear i)).told = c.told ++ [.progress model value overall]
  /-- One progress more is told for a member that has completed with another one than was told on
  last, right before its outcome, and none for any other that ends. -/
  catchesUp : ∀ i m model outcome rest, c.members[i]? = some m →
    m.unheard = .finished model outcome :: rest →
    ∃ overall, (c.after (.hear i)).told = c.told ++
      ((owed (lastValue (heardOf i c.heard)) outcome).map (.progress model · overall)).toList ++
        [.memberFinished model outcome]
  /-- From its outcome on a member is shown as its handle shows it. -/
  agrees : ∀ (i : Nat) (m : Member) outcome, c.members[i]? = some m →
    .memberFinished m.poller.model outcome ∈ c.told →
    (lastShown c.told m.poller.model).eqNumber m.poller.progress.get = true
  /-- When all have ended the handles have the values that are shown, and one mean with them. -/
  settled : c.tally.remaining = 0 →
    List.Forall₂ (fun x y => x.eqNumber y = true) (shown names c.told)
      (c.batch.pollers.map (·.progress.get)) ∧
    mean (shown names c.told) = c.batch.overallProgress

/-- Whatever happens to the members of a batch, and whenever it hears which of them, the overall
progress that it tells fits what it shows, and in the end what the handles show. -/
theorem company_tells_progress {names members : List String}
    (planned : settle names = .ok members) (config : PollerConfig)
    (happenings : List Happening) :
    ((Company.start members config).afterAll happenings).TellsProgress members := by
  have distinct := nodup_of_settle planned
  have fits := (Company.fits_start members config).afterAll distinct happenings
  exact
    { means := fits.shows.means
      silent := fun _ => Company.told_of_nothing
      forwards := fun _ _ _ _ _ => fits.told_of_progress
      catchesUp := fun _ _ _ _ _ => fits.told_of_finished
      agrees := fun _ _ _ => fits.agrees_of_told distinct
      settled := fun nobody => by
        refine ⟨?_, fits.mean_of_settled nobody⟩
        rw [Company.batch, List.map_map]
        exact fits.agrees_of_settled nobody }

/-- The first member completes without having told a progress, and the batch tells one for it. The
second is stopped before it starts. -/
theorem company_tells_progress_of_two :
    let life : List Act := [.run, .go 0 .none, .go 0 .none, .go 0 .none, .answer (.ok "\x7b\x7d"),
      .go 0 .none, .go 0 .none, .go 0 .none, .go 0 .none, .go 0 .none,
      .answer (.ok "\x7b\"progress\":100,\"status\":\"done\"\x7d"), .go 0 .none, .go 0 .none,
      .go 0 .none, .go 0 .none, .go 0 .none, .go 0 .none]
    let stopped : List Act := [.look, .close, .run, .go 0 .none, .go 0 .none, .go 0 .none,
      .go 0 .none, .go 0 .none, .go 0 .none, .go 0 .none, .go 0 .none, .go 0 .none, .go 0 .none]
    let c := (Company.start ["phi", "qwen"] ⟨.ofMillis 500, .ofSeconds 300⟩).afterAll
      (life.map (.act 0) ++ stopped.map (.act 1) ++ [.hear 0, .hear 1])
    settle ["phi", " qwen ", ""] = .ok ["phi", "qwen"] ∧ c.TellsProgress ["phi", "qwen"] ∧
    c.tally.remaining = 0 ∧
    c.told.map (shownBy? "phi") = [some ⟨0x4059000000000000⟩, none, none] := by
  refine ⟨rfl, @company_tells_progress ["phi", " qwen ", ""] _ rfl _ _, ?_⟩
  decide +kernel

end ModelDepot.Batch
