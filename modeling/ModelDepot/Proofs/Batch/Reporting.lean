import ModelDepot.Proofs.Batch.Company

/-! # What a batch reports

The outcomes that a batch notes, tells and reports are the outcomes with which its members have
ended, and none is made up: the report is due only when every member has been heard to end.
-/

namespace ModelDepot.Batch.Company

variable {c : Company} {names : List String} {i : Nat} {outcome : DownloadOutcome}

def lives (c : Company) : List Life :=
  c.members.map Member.life

theorem lives_act (c : Company) (j : Nat) (a : Act) :
    (c.after (.act j a)).lives = c.lives.modify j fun l => l.after a := by
  refine List.ext_getElem? fun i => ?_
  simp only [lives, Company.after, List.getElem?_modify, List.getElem?_map]
  cases hj : c.members[j]? with
  | none =>
      by_cases same : j = i
      · subst same
        simp [hj]
      · simp [same]
  | some m =>
      have inside := (List.getElem?_eq_some_iff.1 hj).1
      by_cases same : j = i
      · subst same
        simp [hj, List.getElem?_set_self inside, Member.after]
      · simp [List.getElem?_set_ne same, same]

theorem lives_hear (c : Company) (j : Nat) : (c.after (.hear j)).lives = c.lives := by
  simp only [lives, Company.after]
  split
  · next hj =>
      split
      · rfl
      · exact map_set hj rfl
  · rfl

/-- The member in place `i` has ended with an outcome. -/
def EndedWith (c : Company) (i : Nat) (outcome : DownloadOutcome) : Prop :=
  ∃ l, c.lives[i]? = some l ∧ l.poller.stage = .ended ∧ l.poller.outcome = some outcome

/-- The outcomes that the batch knows of are those of its members. -/
structure Honest (c : Company) (names : List String) : Prop where
  noted : ∀ i outcome, c.tally.outcomes[i]? = some (some outcome) → c.EndedWith i outcome
  told : ∀ model outcome, .memberFinished model outcome ∈ c.told →
    ∃ i, names[i]? = some model ∧ c.EndedWith i outcome
  /-- What is noted has been told. -/
  shows : ∀ (i : Nat) outcome, c.tally.outcomes[i]? = some (some outcome) →
    ∃ model, names[i]? = some model ∧ .memberFinished model outcome ∈ c.told

theorem EndedWith.after (h : c.EndedWith i outcome) (s : Happening) :
    (c.after s).EndedWith i outcome := by
  obtain ⟨l, hl, ended, noted⟩ := h
  cases s with
  | hear j => exact ⟨l, by rw [lives_hear, hl], ended, noted⟩
  | act j a =>
      rw [EndedWith, lives_act, List.getElem?_modify, hl]
      by_cases same : j = i
      · obtain ⟨stage, kept, -⟩ := Poller.changes_of_ended (Life.changes_after l a) ended
        exact ⟨l.after a, by simp [same], stage, kept.trans noted⟩
      · exact ⟨l, by simp [same], ended, noted⟩

theorem honest_start (names : List String) (config : PollerConfig) :
    (start names config).Honest names := by
  have nothing (i : Nat) (outcome : DownloadOutcome) :
      (start names config).tally.outcomes[i]? ≠ some (some outcome) := by
    simp [tally, start, Tally.attend, Tally.start, List.getElem?_replicate]
  refine ⟨fun i outcome noted => absurd noted (nothing i outcome), ?_,
    fun i outcome noted => absurd noted (nothing i outcome)⟩
  intro model outcome told
  simp [Company.told, start, Tally.attend] at told

theorem Honest.after (h : c.Honest names) (fits : c.Fits names) (s : Happening) :
    (c.after s).Honest names := by
  -- what was known before stays true, so only what is new has to be looked at
  have noted_before : ∀ i outcome, c.tally.outcomes[i]? = some (some outcome) →
      (c.after s).EndedWith i outcome := fun i outcome noted => (h.noted i outcome noted).after s
  have told_before : ∀ model outcome, .memberFinished model outcome ∈ c.told →
      ∃ i, names[i]? = some model ∧ (c.after s).EndedWith i outcome := by
    intro model outcome finished
    obtain ⟨i, hi, ended⟩ := h.told model outcome finished
    exact ⟨i, hi, ended.after s⟩
  cases s with
  | act j a =>
      obtain ⟨tally, told, -⟩ := tally_act c j a
      exact ⟨by rwa [tally], by rwa [told], by rw [tally, told]; exact h.shows⟩
  | hear j =>
      by_cases nothing : ∀ m, c.members[j]? = some m → m.unheard = []
      · rw [after_hear_of_nothing nothing]
        exact h
      obtain ⟨m, hj, unheard⟩ : ∃ m, c.members[j]? = some m ∧ m.unheard ≠ [] := by
        simpa using nothing
      obtain ⟨event, rest, next⟩ := List.exists_cons_of_ne_nil unheard
      obtain ⟨tally, told⟩ := fits.attend_hear hj next
      rcases (fits.members j m hj).member.hears next with ⟨value, rfl⟩ |
        ⟨last, rfl, -, ended, ends⟩
      · rw [Tally.hear_progress] at tally told
        refine ⟨by rwa [tally], ?_, ?_⟩
        · intro model outcome finished
          rw [told] at finished
          exact told_before model outcome (by simpa using finished)
        · intro i outcome noted
          rw [tally] at noted
          obtain ⟨model, hi, earlier⟩ := h.shows i outcome noted
          exact ⟨model, hi, by rw [told]; exact List.mem_append_left _ earlier⟩
      · obtain ⟨events, outcomes, -⟩ :=
          Tally.hear_finished c.tally j m.poller.progress.get m.poller.model last
        have here : (c.after (.hear j)).EndedWith j last := by
          refine ⟨m.life, ?_, ended, ends⟩
          rw [lives_hear, lives, List.getElem?_map, hj]
          rfl
        -- what is noted now is this end, or was noted before
        have cases_noted : ∀ i outcome,
            (c.after (.hear j)).tally.outcomes[i]? = some (some outcome) →
            j = i ∧ last = outcome ∨ c.tally.outcomes[i]? = some (some outcome) := by
          intro i outcome noted
          rw [tally, outcomes, List.getElem?_set] at noted
          split at noted
          · next same =>
              subst same
              obtain ⟨-, rfl⟩ : j < c.tally.outcomes.length ∧ last = outcome := by simpa using noted
              exact .inl ⟨rfl, rfl⟩
          · exact .inr noted
        refine ⟨?_, ?_, ?_⟩
        · intro i outcome noted
          rcases cases_noted i outcome noted with ⟨rfl, rfl⟩ | earlier
          · exact here
          · exact noted_before i outcome earlier
        · intro model outcome finished
          rw [told, events, ← List.append_assoc] at finished
          rcases List.mem_append.1 finished with earlier | now
          · exact told_before model outcome (Tally.mem_of_mem_catchUp earlier)
          · cases List.mem_singleton.1 now
            exact ⟨j, fits.name hj, here⟩
        · intro i outcome noted
          rw [told, events]
          rcases cases_noted i outcome noted with ⟨rfl, rfl⟩ | earlier
          · exact ⟨_, fits.name hj, by simp⟩
          · obtain ⟨model, hi, finished⟩ := h.shows i outcome earlier
            exact ⟨model, hi, List.mem_append_left _ finished⟩

theorem Fits.exists_noted (fits : c.Fits names) (due : c.tally.remaining = 0)
    (inside : i < names.length) : ∃ outcome, c.tally.outcomes[i]? = some (some outcome) := by
  have placed : i < c.tally.outcomes.length := by rwa [fits.counts.outcomes]
  have all : c.tally.outcomes.countP (·.isNone) = 0 := by rw [← fits.counts.remaining, due]
  have noted := List.countP_eq_zero.1 all _ (List.getElem_mem placed)
  rw [List.getElem?_eq_getElem placed]
  cases ho : c.tally.outcomes[i] with
  | none => simp [ho] at noted
  | some outcome => exact ⟨outcome, rfl⟩

theorem Fits.noted_of_heardOut (fits : c.Fits names) {m : Member} (hi : c.members[i]? = some m)
    (ended : m.poller.stage = .ended) (heardOut : m.unheard = []) :
    ∃ outcome, c.tally.outcomes[i]? = some (some outcome) := by
  obtain ⟨member, noted, kept, stands⟩ := fits.members i m hi
  cases stands with
  | ended => exact ⟨_, kept⟩
  | going values heard known =>
      -- its end has been told, and it is no value
      have tells := member.tells
      simp only [heardOut, List.append_nil, Poller.HasTold, ended] at tells
      obtain ⟨story, -, -, events⟩ := tells
      have last : .finished story.model story.outcome ∈ heardOf i c.heard := by
        simp [events, Story.events]
      simp [heard] at last

theorem Fits.report_of_noted (fits : c.Fits names) {model : String} (hi : names[i]? = some model)
    (noted : c.tally.outcomes[i]? = some (some outcome)) :
    c.batch.report.outcomes[i]? = some ⟨model, outcome⟩ := by
  have members : c.batch.members = names := by
    rw [← fits.named]
    simp [Batch.members, batch]
  have zipped : (names.zip c.tally.outcomes)[i]? = some (model, some outcome) :=
    List.getElem?_zip_eq_some.2 ⟨hi, noted⟩
  rw [Batch.report, members, Tally.report, List.getElem?_map]
  show (((names.zip c.tally.outcomes)[i]?).map _) = _
  rw [zipped]
  rfl

end ModelDepot.Batch.Company
