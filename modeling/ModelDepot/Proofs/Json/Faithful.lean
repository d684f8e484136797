import ModelDepot.Download.Report
import ModelDepot.Proofs.Json.Forms
import ModelDepot.Proofs.Json.Yielding

/-! # Faithful forms

A form is faithful if it can be read back: of every value whose floating-point numbers are finite,
reading what was written gives the value itself. The forms of models, readings, errors, outcomes,
events and reports are faithful.
-/

namespace ModelDepot

open Json Json.Reader

def AreFinite (xs : List Binary64) : Prop :=
  ∀ x ∈ xs, x.isFinite = true

namespace Json

variable {α : Type} {r : Reader α} {name : String} {a : α}

/-- What is written with `toJson` can be read back with `read`, for values whose floating-point
numbers, which are `floats`, are finite. -/
structure Faithful (read : Reader α) (toJson : α → Json) (floats : α → List Binary64) : Prop where
  /-- A value is read back from its form, in whatever order members stand. -/
  readsBack : ∀ a, AreFinite (floats a) → ∀ j, Reordered (toJson a) j → read j = .ok a
  /-- Different values have different forms. -/
  injective : ∀ a b, AreFinite (floats a) → AreFinite (floats b) →
    ∀ j, Reordered (toJson a) j → Reordered (toJson b) j → a = b
  /-- A value that was read from any JSON is read again from its form. -/
  rereads : ∀ j a, j.IsProper → read j = .ok a →
    ∀ j', Reordered (toJson a) j' → read j' = .ok a

theorem faithful_of_restores {read : Reader α} {toJson : α → Json} {floats : α → List Binary64}
    (restores : ∀ a, AreFinite (floats a) → read.Restores (toJson a) a)
    (yields : ∀ a, read.Yields a → AreFinite (floats a)) : Faithful read toJson floats where
  readsBack := restores
  injective a b finite finite' j h h' := by
    have first := restores a finite j h
    rw [restores b finite' j h'] at first
    exact (Except.ok.inj first).symm
  rereads j a proper read := restores a (yields a ⟨j, proper, read⟩)

/-- Without floating-point numbers nothing is left to be finite. -/
theorem faithful_of_restores_all {read : Reader α} {toJson : α → Json}
    (restores : ∀ a, read.Restores (toJson a) a) : Faithful read toJson fun _ => [] :=
  faithful_of_restores (fun a _ => restores a) fun _ _ _ => nofun

theorem Field.Yields.of_required (h : (Field.required name r).Yields a) : r.Yields a := by
  rcases h with read | absent
  · exact read
  · cases absent

theorem Field.Yields.of_optional (h : (Field.optional name r).Yields (some a)) : r.Yields a := by
  rcases h with read | absent
  · exact read.of_some
  · cases absent

theorem restores_optFloat {x? : Option Binary64} (finite : AreFinite x?.toList) :
    Reader.float.option.Restores (x?.elim .null .float) x? := by
  cases x? with
  | none => exact restores_none
  | some x =>
      have only : x.isFinite = true := finite x (by simp)
      apply (restores_float only).some
      simp [Json.float, only]

end Json

namespace DownloadStatus

def floats (s : DownloadStatus) : List Binary64 :=
  [s.progress]

theorem restores_toJson (s : DownloadStatus) (finite : AreFinite s.floats) :
    DownloadStatus.read.Restores s.toJson s := by
  have only : s.progress.isFinite = true := finite s.progress (by simp [floats])
  refine restores_record ⟨s.modelName, s.progress, s.completed, s.state, s.error,
    s.downloadedBytes, s.totalBytes, ()⟩ rfl ⟨rfl, by decide⟩ ?_
    ⟨?_, ?_, ?_, ?_, ?_, ?_, ?_, trivial⟩
  · exact keys_append_sublist (keys_append_sublist (keys_append_sublist (.refl _)
      (keys_optMember_sublist ..)) (keys_optMember_sublist ..)) (keys_optMember_sublist ..)
  · exact Field.fits_of_member (by simp) (restores_string s.modelName)
  · exact Field.fits_of_member (by simp) (restores_float only)
  · exact Field.fits_of_member (by simp) (restores_bool s.completed)
  · exact Field.fits_of_member (by simp) s.state.restores_word
  · exact Field.fits_lenient (by simp) restores_string fun _ => nofun
  · exact Field.fits_lenient (by simp) restores_u64 fun _ => nofun
  · exact Field.fits_lenient (by simp) restores_u64 fun _ => nofun

theorem areFinite_of_yields {s : DownloadStatus} (h : DownloadStatus.read.Yields s) :
    AreFinite s.floats := by
  obtain ⟨row, ⟨-, progress, -⟩, rfl⟩ := h.of_record
  intro x inside
  rw [List.mem_singleton.1 inside]
  exact isFinite_of_yields progress.of_required

end DownloadStatus

namespace DownloadOutcome

def floats : DownloadOutcome → List Binary64
  | completed status => status.floats
  | timedOut _ last => last.toList
  | failed _ | cancelled => []

theorem restores_toJson (o : DownloadOutcome) (finite : AreFinite o.floats) :
    DownloadOutcome.read.Restores o.toJson o := by
  cases o with
  | completed status => exact restores_holding rfl ((status.restores_toJson finite).map completed)
  | failed reason => exact restores_holding rfl (reason.restores_toJson.map failed)
  | timedOut after last =>
      refine restores_fields rfl ⟨after, last, ()⟩ rfl ⟨rfl, by decide⟩ (.refl _)
        ⟨?_, ?_, trivial⟩
      · exact Field.fits_of_member (by simp) after.restores_toJson
      · exact Field.fits_of_member (by simp) (restores_optFloat finite)
  | cancelled => exact restores_bare rfl

theorem areFinite_of_yields {o : DownloadOutcome} (h : DownloadOutcome.read.Yields o) :
    AreFinite o.floats := by
  obtain ⟨name, variant, known, yields⟩ := h.of_variants
  simp only [List.mem_cons, List.not_mem_nil, or_false, Prod.mk.injEq] at known
  rcases known with ⟨-, rfl⟩ | ⟨-, rfl⟩ | ⟨-, rfl⟩ | ⟨-, rfl⟩
  · obtain ⟨status, read, rfl⟩ := Yields.of_map yields
    exact DownloadStatus.areFinite_of_yields read
  · obtain ⟨reason, -, rfl⟩ := Yields.of_map yields
    exact nofun
  · obtain ⟨⟨after, last, _⟩, ⟨-, progress, -⟩, rfl⟩ := yields.of_fields
    intro x inside
    obtain rfl := Option.mem_toList.1 inside
    exact isFinite_of_yields progress.of_optional
  · obtain rfl := yields
    exact nofun

end DownloadOutcome

namespace DownloadEvent

def floats : DownloadEvent → List Binary64
  | progress _ p => [p]
  | finished _ outcome => outcome.floats

theorem restores_toJson (e : DownloadEvent) (finite : AreFinite e.floats) :
    DownloadEvent.read.Restores e.toJson e := by
  cases e with
  | progress model p =>
      have only : p.isFinite = true := finite p (by simp [floats])
      refine restores_fields rfl ⟨model, p, ()⟩ rfl ⟨rfl, by decide⟩ (.refl _) ⟨?_, ?_, trivial⟩
      · exact Field.fits_of_member (by simp) (restores_string model)
      · exact Field.fits_of_member (by simp) (restores_float only)
  | finished model outcome =>
      refine restores_fields rfl ⟨model, outcome, ()⟩ rfl ⟨rfl, by decide⟩ (.refl _)
        ⟨?_, ?_, trivial⟩
      · exact Field.fits_of_member (by simp) (restores_string model)
      · exact Field.fits_of_member (by simp) (outcome.restores_toJson finite)

theorem areFinite_of_yields {e : DownloadEvent} (h : DownloadEvent.read.Yields e) :
    AreFinite e.floats := by
  obtain ⟨name, variant, known, yields⟩ := h.of_variants
  simp only [List.mem_cons, List.not_mem_nil, or_false, Prod.mk.injEq] at known
  rcases known with ⟨-, rfl⟩ | ⟨-, rfl⟩
  · obtain ⟨row, ⟨-, p, -⟩, rfl⟩ := yields.of_fields
    intro x inside
    rw [List.mem_singleton.1 inside]
    exact isFinite_of_yields p.of_required
  · obtain ⟨row, ⟨-, outcome, -⟩, rfl⟩ := yields.of_fields
    exact DownloadOutcome.areFinite_of_yields outcome.of_required

end DownloadEvent

namespace MemberOutcome

def floats (m : MemberOutcome) : List Binary64 :=
  m.outcome.floats

theorem restores_toJson (m : MemberOutcome) (finite : AreFinite m.floats) :
    MemberOutcome.read.Restores m.toJson m := by
  refine restores_record ⟨m.model, m.outcome, ()⟩ rfl ⟨rfl, by decide⟩ (.refl _)
    ⟨?_, ?_, trivial⟩
  · exact Field.fits_of_member (by simp) (restores_string m.model)
  · exact Field.fits_of_member (by simp) (m.outcome.restores_toJson finite)

theorem areFinite_of_yields {m : MemberOutcome} (h : MemberOutcome.read.Yields m) :
    AreFinite m.floats := by
  obtain ⟨row, ⟨-, outcome, -⟩, rfl⟩ := h.of_record
  exact DownloadOutcome.areFinite_of_yields outcome.of_required

end MemberOutcome

namespace BatchReport

def floats (r : BatchReport) : List Binary64 :=
  r.outcomes.flatMap (·.floats)

theorem areFinite_iff {r : BatchReport} :
    AreFinite r.floats ↔ ∀ m ∈ r.outcomes, AreFinite m.floats := by
  simp only [AreFinite, floats, List.mem_flatMap]
  grind

theorem restores_toJson (r : BatchReport) (finite : AreFinite r.floats) :
    BatchReport.read.Restores r.toJson r := by
  have outcomes : (list MemberOutcome.read).Restores
      (.array (r.outcomes.map MemberOutcome.toJson)) r.outcomes := by
    apply restores_list_map
    intro m inside
    exact m.restores_toJson (areFinite_iff.1 finite m inside)
  refine restores_record ⟨r.outcomes, ()⟩ rfl ⟨rfl, by decide⟩ (.refl _) ⟨?_, trivial⟩
  exact Field.fits_of_member (by simp) outcomes

theorem areFinite_of_yields {r : BatchReport} (h : BatchReport.read.Yields r) :
    AreFinite r.floats := by
  obtain ⟨row, ⟨outcomes, -⟩, rfl⟩ := h.of_record
  rw [areFinite_iff]
  intro m inside
  exact MemberOutcome.areFinite_of_yields (outcomes.of_required.of_mem inside)

end BatchReport

namespace BatchEvent

def floats : BatchEvent → List Binary64
  | progress _ p overall => [p, overall]
  | memberFinished _ outcome => outcome.floats
  | finished report => report.floats

theorem restores_toJson (e : BatchEvent) (finite : AreFinite e.floats) :
    BatchEvent.read.Restores e.toJson e := by
  cases e with
  | progress model p overall =>
      have first : p.isFinite = true := finite p (by simp [floats])
      have second : overall.isFinite = true := finite overall (by simp [floats])
      refine restores_fields rfl ⟨model, p, overall, ()⟩ rfl ⟨rfl, by decide⟩ (.refl _)
        ⟨?_, ?_, ?_, trivial⟩
      · exact Field.fits_of_member (by simp) (restores_string model)
      · exact Field.fits_of_member (by simp) (restores_float first)
      · exact Field.fits_of_member (by simp) (restores_float second)
  | memberFinished model outcome =>
      refine restores_fields rfl ⟨model, outcome, ()⟩ rfl ⟨rfl, by decide⟩ (.refl _)
        ⟨?_, ?_, trivial⟩
      · exact Field.fits_of_member (by simp) (restores_string model)
      · exact Field.fits_of_member (by simp) (outcome.restores_toJson finite)
  | finished report => exact restores_holding rfl ((report.restores_toJson finite).map finished)

theorem areFinite_of_yields {e : BatchEvent} (h : BatchEvent.read.Yields e) :
    AreFinite e.floats := by
  obtain ⟨name, variant, known, yields⟩ := h.of_variants
  simp only [List.mem_cons, List.not_mem_nil, or_false, Prod.mk.injEq] at known
  rcases known with ⟨-, rfl⟩ | ⟨-, rfl⟩ | ⟨-, rfl⟩
  · obtain ⟨row, ⟨-, p, overall, -⟩, rfl⟩ := yields.of_fields
    intro x inside
    rcases List.mem_pair.1 inside with rfl | rfl
    · exact isFinite_of_yields p.of_required
    · exact isFinite_of_yields overall.of_required
  · obtain ⟨row, ⟨-, outcome, -⟩, rfl⟩ := yields.of_fields
    exact DownloadOutcome.areFinite_of_yields outcome.of_required
  · obtain ⟨report, read, rfl⟩ := Yields.of_map yields
    exact BatchReport.areFinite_of_yields read

end BatchEvent

/-- Whatever is written of the catalogue, of readings, errors and outcomes, of events and reports
is read back as it was. -/
theorem forms_are_faithful :
    Faithful Model.read Model.toJson (fun _ => []) ∧
    Faithful DownloadState.read (fun s => .string s.word) (fun _ => []) ∧
    Faithful DownloadStatus.read DownloadStatus.toJson DownloadStatus.floats ∧
    Faithful HealthState.read (fun s => .string s.word) (fun _ => []) ∧
    Faithful HealthStatus.read HealthStatus.toJson (fun _ => []) ∧
    Faithful UpdateInfo.read UpdateInfo.toJson (fun _ => []) ∧
    Faithful Acknowledgement.read Acknowledgement.toJson (fun _ => []) ∧
    Faithful DownloadOutcome.read DownloadOutcome.toJson DownloadOutcome.floats ∧
    Faithful FailureReason.read FailureReason.toJson (fun _ => []) ∧
    Faithful DownloadEvent.read DownloadEvent.toJson DownloadEvent.floats ∧
    Faithful MemberOutcome.read MemberOutcome.toJson MemberOutcome.floats ∧
    Faithful BatchReport.read BatchReport.toJson BatchReport.floats ∧
    Faithful BatchEvent.read BatchEvent.toJson BatchEvent.floats ∧
    Faithful RequestError.read RequestError.toJson (fun _ => []) ∧
    Faithful RejectedCandidate.read RejectedCandidate.toJson (fun _ => []) :=
  ⟨faithful_of_restores_all Model.restores_toJson,
    faithful_of_restores_all DownloadState.restores_word,
    faithful_of_restores DownloadStatus.restores_toJson fun _ => DownloadStatus.areFinite_of_yields,
    faithful_of_restores_all HealthState.restores_word,
    faithful_of_restores_all HealthStatus.restores_toJson,
    faithful_of_restores_all UpdateInfo.restores_toJson,
    faithful_of_restores_all Acknowledgement.restores_toJson,
    faithful_of_restores DownloadOutcome.restores_toJson
      fun _ => DownloadOutcome.areFinite_of_yields,
    faithful_of_restores_all FailureReason.restores_toJson,
    faithful_of_restores DownloadEvent.restores_toJson fun _ => DownloadEvent.areFinite_of_yields,
    faithful_of_restores MemberOutcome.restores_toJson fun _ => MemberOutcome.areFinite_of_yields,
    faithful_of_restores BatchReport.restores_toJson fun _ => BatchReport.areFinite_of_yields,
    faithful_of_restores BatchEvent.restores_toJson fun _ => BatchEvent.areFinite_of_yields,
    faithful_of_restores_all RequestError.restores_toJson,
    faithful_of_restores_all RejectedCandidate.restores_toJson⟩

/-- Members come in the order of their keys when a text is read. -/
example : DownloadOutcome.read (.object [("TimedOut", .object [
      ("after", .object [("nanos", .nat 5), ("secs", .nat 1)]), ("last_progress", .null)])]) =
    .ok (.timedOut ⟨1000000005, by decide⟩ none) := rfl

end ModelDepot
