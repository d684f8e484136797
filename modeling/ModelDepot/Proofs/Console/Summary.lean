import ModelDepot.Console.Render

/-! # What a report says of its entries

Every entry of a report is in one of three lists, of the names that succeeded, that failed and that
were cancelled. The other things that are told about a report agree with these lists: whether it is
a success, the outcome under a name, and the lines of its summary.
-/

namespace ModelDepot

namespace BatchReport

/-- Entries sorted by their outcomes into the names that succeeded, failed and were cancelled. Each
rule takes one entry and puts its name in front of one list, so the entries tell how the three
lists are merged again. -/
inductive Sorts : List MemberOutcome → List String → List String → List String → Prop where
  | nil : Sorts [] [] [] []
  | completed {name status entries succeeded failed cancelled} :
      Sorts entries succeeded failed cancelled →
      Sorts (⟨name, .completed status⟩ :: entries) (name :: succeeded) failed cancelled
  | failed {name reason entries succeeded failed cancelled} :
      Sorts entries succeeded failed cancelled →
      Sorts (⟨name, .failed reason⟩ :: entries) succeeded (name :: failed) cancelled
  | timedOut {name limit last entries succeeded failed cancelled} :
      Sorts entries succeeded failed cancelled →
      Sorts (⟨name, .timedOut limit last⟩ :: entries) succeeded (name :: failed) cancelled
  | cancelled {name entries succeeded failed cancelled} :
      Sorts entries succeeded failed cancelled →
      Sorts (⟨name, .cancelled⟩ :: entries) succeeded failed (name :: cancelled)

variable {entries : List MemberOutcome} {succeeded failed cancelled : List String}

theorem sorts_report (r : BatchReport) :
    Sorts r.outcomes r.succeeded r.failed r.cancelled := by
  obtain ⟨entries⟩ := r
  induction entries with
  | nil => exact .nil
  | cons m entries ih =>
      obtain ⟨name, outcome⟩ := m
      cases outcome with
      | completed status => exact .completed ih
      | failed reason => exact .failed ih
      | timedOut limit last => exact .timedOut ih
      | cancelled => exact .cancelled ih

theorem Sorts.eq_report (h : Sorts entries succeeded failed cancelled) :
    succeeded = (BatchReport.mk entries).succeeded ∧ failed = (BatchReport.mk entries).failed ∧
      cancelled = (BatchReport.mk entries).cancelled := by
  induction h with
  | nil => exact ⟨rfl, rfl, rfl⟩
  | completed _ ih | failed _ ih | timedOut _ ih | cancelled _ ih =>
      obtain ⟨rfl, rfl, rfl⟩ := ih
      exact ⟨rfl, rfl, rfl⟩

/-- The three lists together hold the name of every entry once. -/
theorem Sorts.perm (h : Sorts entries succeeded failed cancelled) :
    (succeeded ++ failed ++ cancelled).Perm (entries.map (·.model)) := by
  induction h with
  | nil => exact .refl _
  | completed _ ih => exact ih.cons _
  | failed _ ih | timedOut _ ih =>
      rw [List.append_assoc] at ih ⊢
      exact List.perm_middle.trans (ih.cons _)
  | cancelled _ ih => exact List.perm_middle.trans (ih.cons _)

theorem Sorts.length (h : Sorts entries succeeded failed cancelled) :
    succeeded.length + failed.length + cancelled.length = entries.length := by
  simpa only [List.length_append, List.length_map] using h.perm.length_eq

theorem Sorts.all_iff (h : Sorts entries succeeded failed cancelled) :
    (∀ m ∈ entries, m.outcome.isSuccess = true) ↔ failed = [] ∧ cancelled = [] := by
  induction h with
  | nil => simp
  | completed _ ih => simpa [DownloadOutcome.isSuccess] using ih
  | failed | timedOut | cancelled => simp [DownloadOutcome.isSuccess]

theorem isSuccess_iff (r : BatchReport) :
    r.isSuccess = true ↔ r.outcomes ≠ [] ∧ r.failed = [] ∧ r.cancelled = [] := by
  rw [← r.sorts_report.all_iff]
  simp [isSuccess]

theorem outcome?_eq_some_iff (r : BatchReport) (name : String) (outcome : DownloadOutcome) :
    r.outcome? name = some outcome ↔
      ∃ before after, r.outcomes = before ++ ⟨name, outcome⟩ :: after ∧
        ∀ m ∈ before, m.model ≠ name := by
  simp only [outcome?, Option.map_eq_some_iff, List.find?_eq_some_iff_append, beq_iff_eq]
  constructor
  · rintro ⟨m, ⟨rfl, before, after, split, first⟩, rfl⟩
    exact ⟨before, after, split, by simpa using first⟩
  · rintro ⟨before, after, split, first⟩
    exact ⟨⟨name, outcome⟩, ⟨rfl, before, after, split, by simpa using first⟩, rfl⟩

theorem isSome_outcome?_iff (r : BatchReport) (name : String) :
    (r.outcome? name).isSome = true ↔ name ∈ r.outcomes.map (·.model) := by
  simp [outcome?, List.find?_isSome]

end BatchReport

namespace Console

def headline (coloured : Bool) (succeeded failed cancelled : Nat) : String :=
  paint coloured .green (decimalText succeeded) ++ " succeeded, " ++
    paint coloured .red (decimalText failed) ++ " failed, " ++
    paint coloured .yellow (decimalText cancelled) ++ " cancelled"

def failureLine (coloured : Bool) (m : MemberOutcome) : String :=
  "  " ++ paint coloured .red m.model ++ " " ++ m.outcome.text

/-- A text with the counts of a report and, behind them, one item for every entry that failed, in
the order of the report. -/
def Summarises (coloured : Bool) (r : BatchReport) (text : String) : Prop :=
  ∃ failures : List MemberOutcome, failures.Sublist r.outcomes ∧
    failures.map (·.model) = r.failed ∧ (∀ m ∈ failures, m.outcome.isFailure = true) ∧
    text = "\n".intercalate
      (headline coloured r.succeeded.length r.failed.length r.cancelled.length ::
        failures.map (failureLine coloured))

theorem summarises_summary (coloured : Bool) (r : BatchReport) :
    Summarises coloured r (summary coloured r) :=
  ⟨r.outcomes.filter fun m => m.outcome.isFailure, List.filter_sublist, rfl,
    fun _ hm => (List.mem_filter.1 hm).2, rfl⟩

/-- What is told about a report agrees with how its entries are sorted. -/
structure Tells (r : BatchReport) (coloured : Bool) : Prop where
  /-- The three lists sort the entries, and they are the only ones that do. -/
  sorted : ∀ succeeded failed cancelled, BatchReport.Sorts r.outcomes succeeded failed cancelled ↔
    succeeded = r.succeeded ∧ failed = r.failed ∧ cancelled = r.cancelled
  /-- Every entry is in one of the lists, once. -/
  perm : (r.succeeded ++ r.failed ++ r.cancelled).Perm (r.outcomes.map (·.model))
  length : r.succeeded.length + r.failed.length + r.cancelled.length = r.outcomes.length
  success : r.isSuccess = true ↔ r.outcomes ≠ [] ∧ r.failed = [] ∧ r.cancelled = []
  /-- There is an outcome under the names of entries only. -/
  found : ∀ name, (r.outcome? name).isSome = true ↔ name ∈ r.outcomes.map (·.model)
  /-- It is the outcome of the first entry of that name. -/
  first : ∀ name outcome, r.outcome? name = some outcome ↔
    ∃ before after, r.outcomes = before ++ ⟨name, outcome⟩ :: after ∧
      ∀ m ∈ before, m.model ≠ name
  summary : Summarises coloured r (summary coloured r)

/-- The lists, the verdict, the outcomes by name and the summary of a report go by its entries. -/
theorem report_is_told_by_its_entries (r : BatchReport) (coloured : Bool) : Tells r coloured where
  sorted _ _ _ := by
    constructor
    · exact fun h => h.eq_report
    · rintro ⟨rfl, rfl, rfl⟩
      exact r.sorts_report
  perm := r.sorts_report.perm
  length := r.sorts_report.length
  success := r.isSuccess_iff
  found := r.isSome_outcome?_iff
  first := r.outcome?_eq_some_iff
  summary := summarises_summary coloured r

end Console

end ModelDepot
