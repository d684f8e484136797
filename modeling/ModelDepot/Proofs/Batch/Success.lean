import ModelDepot.Proofs.Batch.Execution

/-! # When a batch succeeds

A batch reports success when every one of its members has completed. An outcome that never came to
be heard counts as a failure, so nothing that is lost on the way makes for a success.
-/

namespace ModelDepot

theorem DownloadOutcome.isSuccess_iff {outcome : DownloadOutcome} :
    outcome.isSuccess = true ↔ ∃ status, outcome = .completed status := by
  cases outcome <;> simp [isSuccess]

/-- The poller has come to its end, and its download has completed. -/
def Poller.HasCompleted (p : Poller) : Prop :=
  p.stage = .ended ∧ ∃ status, p.outcome = some (.completed status)

namespace Batch

variable {names : List String}

namespace Tally

variable {t : Tally}

theorem isSuccess_getD_unheard_iff (noted : Option DownloadOutcome) :
    (noted.getD unheard).isSuccess = true ↔ ∃ status, noted = some (.completed status) := by
  cases noted with
  | none => simp [unheard, DownloadOutcome.isSuccess]
  | some outcome => simp [DownloadOutcome.isSuccess_iff]

theorem outcomes_report (counts : t.Counts names.length) :
    (t.report names).outcomes.map (·.outcome) = t.outcomes.map (·.getD unheard) := by
  have second : (names.zip t.outcomes).map Prod.snd = t.outcomes :=
    List.map_snd_zip (Nat.le_of_eq counts.outcomes)
  calc (t.report names).outcomes.map (·.outcome)
      = ((names.zip t.outcomes).map Prod.snd).map (·.getD unheard) := by
        rw [report, List.map_map, List.map_map]
        rfl
    _ = t.outcomes.map (·.getD unheard) := by rw [second]

theorem isSuccess_report_iff (counts : t.Counts names.length) :
    (t.report names).isSuccess = true ↔
      names ≠ [] ∧ ∀ noted ∈ t.outcomes, ∃ status, noted = some (.completed status) := by
  have outcomes := outcomes_report counts
  have sized : (t.report names).outcomes.length = names.length := by
    simpa [counts.outcomes] using congrArg List.length outcomes
  have some : (t.report names).outcomes ≠ [] ↔ names ≠ [] := by
    rw [← List.length_pos_iff, sized, List.length_pos_iff]
  have all : (∀ m ∈ (t.report names).outcomes, m.outcome.isSuccess = true) ↔
      ∀ noted ∈ t.outcomes, (noted.getD unheard).isSuccess = true := by
    have same := congrArg (fun os => ∀ o ∈ os, o.isSuccess = true) outcomes
    simpa only [List.forall_mem_map, eq_iff_iff] using same
  simp only [← some, ← isSuccess_getD_unheard_iff, ← all]
  simp [BatchReport.isSuccess]

end Tally

namespace Company

variable {c : Company} {i : Nat} {outcome other : DownloadOutcome}

theorem EndedWith.unique (h : c.EndedWith i outcome) (h' : c.EndedWith i other) :
    outcome = other := by
  obtain ⟨l, hl, -, noted⟩ := h
  obtain ⟨l', hl', -, noted'⟩ := h'
  obtain rfl := Option.some.inj (hl.symm.trans hl')
  exact Option.some.inj (noted.symm.trans noted')

theorem Fits.isHeardOut (fits : c.Fits names) (due : c.tally.remaining = 0) : c.IsHeardOut := by
  intro m hm
  obtain ⟨i, hi⟩ := List.mem_iff_getElem?.1 hm
  cases next : m.unheard with
  | nil => rfl
  | cons event rest =>
      have waits := fits.waits hi next
      omega

theorem Fits.exists_member (fits : c.Fits names) {noted : Option DownloadOutcome}
    (kept : c.tally.outcomes[i]? = some noted) : ∃ m, c.members[i]? = some m := by
  have inside : i < c.members.length := by
    rw [← List.length_map (f := (·.poller.model)), fits.named, ← fits.counts.outcomes]
    exact (List.getElem?_eq_some_iff.1 kept).1
  exact ⟨_, List.getElem?_eq_getElem inside⟩

/-- When all members have ended and been heard out, the report is due. -/
theorem Fits.remaining_eq_zero (fits : c.Fits names) (heardOut : c.IsHeardOut)
    (all : ∀ m ∈ c.members, m.poller.stage = .ended) : c.tally.remaining = 0 := by
  rw [fits.counts.remaining, List.countP_eq_zero]
  intro noted hn
  obtain ⟨i, kept⟩ := List.mem_iff_getElem?.1 hn
  obtain ⟨m, hi⟩ := fits.exists_member kept
  have hm := List.mem_of_getElem? hi
  obtain ⟨outcome, heard⟩ := fits.noted_of_heardOut hi (all m hm) (heardOut m hm)
  obtain rfl : some outcome = noted := Option.some.inj (heard.symm.trans kept)
  simp

theorem Honest.completed (honest : c.Honest names) (fits : c.Fits names)
    (well : (c.tally.report names).isSuccess = true) {m : Member} (hm : m ∈ c.members) :
    m.poller.HasCompleted := by
  obtain ⟨-, all⟩ := (Tally.isSuccess_report_iff fits.counts).1 well
  obtain ⟨i, hi⟩ := List.mem_iff_getElem?.1 hm
  obtain ⟨-, noted, kept, -⟩ := fits.members i m hi
  obtain ⟨status, rfl⟩ := all noted (List.mem_of_getElem? kept)
  obtain ⟨l, hl, ended, has⟩ := honest.noted i _ kept
  obtain rfl : m.life = l := by simpa [lives, hi] using hl
  exact ⟨ended, status, has⟩

/-- A batch that has heard its members out reports success when all of them have completed. -/
theorem Honest.isSuccess (honest : c.Honest names) (fits : c.Fits names) (nonempty : names ≠ [])
    (heardOut : c.IsHeardOut) (all : ∀ m ∈ c.members, m.poller.HasCompleted) :
    (c.tally.report names).isSuccess = true := by
  refine (Tally.isSuccess_report_iff fits.counts).2 ⟨nonempty, fun noted hn => ?_⟩
  obtain ⟨i, kept⟩ := List.mem_iff_getElem?.1 hn
  obtain ⟨m, hi⟩ := fits.exists_member kept
  have hm := List.mem_of_getElem? hi
  obtain ⟨ended, status, has⟩ := all _ hm
  obtain ⟨outcome, heard⟩ := fits.noted_of_heardOut hi ended (heardOut _ hm)
  have ends : c.EndedWith i (.completed status) :=
    ⟨_, by rw [lives, List.getElem?_map, hi]; rfl, ended, has⟩
  have same := (honest.noted i outcome heard).unique ends
  exact ⟨status, by rw [← same]; exact Option.some.inj (kept.symm.trans heard)⟩

end Company

end Batch

end ModelDepot
