import Mathlib.Data.List.Nodup
import ModelDepot.Proofs.Batch.Merging
import ModelDepot.Proofs.Lists

/-! # What the events of a batch show

Each progress that a batch tells carries a mean. It is the mean of what the events so far show last
for each member, this one included, and of zero for members that none shows.
-/

namespace ModelDepot.Batch

/-- The progress that an event shows for the member `model`. -/
def shownBy? (model : String) : BatchEvent → Option Binary64
  | .progress m value _ => if m = model then some value else none
  | _ => none

/-- The progress that some events show last for a member; zero when none shows it. -/
def lastShown (told : List BatchEvent) (model : String) : Binary64 :=
  (told.filterMap (shownBy? model)).getLast?.getD .zero

/-- The progress that some events show last for each member. -/
def shown (names : List String) (told : List BatchEvent) : List Binary64 :=
  names.map (lastShown told)

/-- Each mean is that of what is shown up to its event. -/
def MeansFit (names : List String) (told : List BatchEvent) : Prop :=
  ∀ before model value overall later,
    told = before ++ BatchEvent.progress model value overall :: later →
    overall = mean (shown names (before ++ [.progress model value overall]))

variable {names : List String} {told : List BatchEvent} {model : String} {value reading : Binary64}
  {i : Nat} {outcome : DownloadOutcome}

theorem lastShown_concat (told : List BatchEvent) (e : BatchEvent) (model : String) :
    lastShown (told ++ [e]) model = (shownBy? model e).getD (lastShown told model) := by
  cases h : shownBy? model e <;> simp [lastShown, h]

theorem shown_progress (distinct : names.Nodup) (hi : names[i]? = some model)
    (overall : Binary64) :
    shown names (told ++ [.progress model value overall]) = (shown names told).set i value := by
  obtain ⟨inside, rfl⟩ := List.getElem?_eq_some_iff.1 hi
  refine List.ext_getElem (by simp [shown]) fun j hj _ => ?_
  have insideJ : j < names.length := by simpa [shown] using hj
  have same : names[i] = names[j] ↔ i = j := List.Nodup.getElem_inj_iff distinct
  simp only [shown, List.getElem_map, lastShown_concat, List.getElem_set, shownBy?, same]
  split <;> rfl

theorem shown_memberFinished :
    shown names (told ++ [.memberFinished model outcome]) = shown names told :=
  List.map_congr_left fun m _ => lastShown_concat told _ m

theorem MeansFit.concat {e : BatchEvent} (h : MeansFit names told)
    (fits : ∀ model value overall, e = .progress model value overall →
      overall = mean (shown names (told ++ [e]))) : MeansFit names (told ++ [e]) := by
  intro before model value overall later split
  rcases concat_eq_split_iff.1 split with ⟨rfl, rfl, rfl⟩ | ⟨between, rfl, rfl⟩
  · exact fits _ _ _ rfl
  · exact h before model value overall between rfl

namespace Tally

variable {t : Tally} {event : DownloadEvent}

/-- The tally agrees with the events that the batch has told. -/
structure Shows (t : Tally) (names : List String) (told : List BatchEvent) : Prop where
  latest : t.latest = shown names told
  means : MeansFit names told
  noted : ∀ model outcome, .memberFinished model outcome ∈ told →
    ∃ (i : Nat) (o : DownloadOutcome), names[i]? = some model ∧ t.outcomes[i]? = some (some o)

/-- The places of a tally, and the count of the members that it waits for. -/
structure Counts (t : Tally) (n : Nat) : Prop where
  outcomes : t.outcomes.length = n
  latest : t.latest.length = n
  remaining : t.remaining = t.outcomes.countP (·.isNone)

theorem shows_start (names : List String) : (start names.length).Shows names [] where
  latest := List.map_const.symm
  means := fun _ _ _ _ _ split => by simp at split
  noted := fun _ _ told => by cases told

theorem counts_start (n : Nat) : (start n).Counts n := by
  constructor <;> simp [start, List.countP_replicate]

/-- What a tally knows last of member `i`. -/
def known (t : Tally) (i : Nat) : Binary64 :=
  (t.latest[i]?).getD .zero

theorem latest_finished (t : Tally) (i : Nat) (reading : Binary64) (model : String)
    (outcome : DownloadOutcome) :
    (t.hear i reading (.finished model outcome)).1.latest =
      if reading.eqNumber (t.known i) then t.latest else t.latest.set i reading := by
  unfold hear known note
  cases reading.eqNumber ((t.latest[i]?).getD .zero) <;> rfl

theorem Shows.note (h : t.Shows names told) (distinct : names.Nodup)
    (hi : names[i]? = some model) (value : Binary64) :
    t.latest.set i value =
      shown names (told ++ [.progress model value (mean (t.latest.set i value))]) ∧
    MeansFit names (told ++ [.progress model value (mean (t.latest.set i value))]) := by
  have latest : t.latest.set i value =
      shown names (told ++ [.progress model value (mean (t.latest.set i value))]) := by
    rw [shown_progress distinct hi, h.latest]
  refine ⟨latest, h.means.concat fun _ _ _ same => ?_⟩
  cases same
  rw [← latest]

theorem Shows.catchUp (h : t.Shows names told) (distinct : names.Nodup)
    (hi : names[i]? = some model) (reading : Binary64) :
    (if reading.eqNumber (t.known i) then t.latest else t.latest.set i reading) =
      shown names (told ++ t.catchUp i reading model) ∧
    MeansFit names (told ++ t.catchUp i reading model) := by
  unfold Tally.catchUp known
  split
  · rw [List.append_nil]
    exact ⟨h.latest, h.means⟩
  · exact h.note distinct hi reading

theorem mem_of_mem_catchUp {m : String} {o : DownloadOutcome}
    (h : .memberFinished m o ∈ told ++ t.catchUp i reading model) :
    .memberFinished m o ∈ told := by
  unfold catchUp at h
  split at h <;> simpa using h

theorem Shows.hear (h : t.Shows names told) (counts : t.Counts names.length)
    (distinct : names.Nodup) (hi : names[i]? = some event.model) (reading : Binary64) :
    (t.hear i reading event).1.Shows names (told ++ (t.hear i reading event).2) := by
  cases event with
  | progress model value =>
      rw [hear_progress]
      obtain ⟨latest, means⟩ := h.note distinct hi value
      refine ⟨latest, means, fun model outcome finished => ?_⟩
      exact h.noted model outcome (by simpa using finished)
  | finished model outcome =>
      have hi : names[i]? = some model := hi
      have inside : i < t.outcomes.length :=
        counts.outcomes ▸ (List.getElem?_eq_some_iff.1 hi).1
      obtain ⟨events, outcomes, -⟩ := hear_finished t i reading model outcome
      obtain ⟨latest, means⟩ := h.catchUp distinct hi reading
      refine ⟨?_, ?_, fun m o finished => ?_⟩
      · rw [latest_finished, events, ← List.append_assoc, shown_memberFinished, latest]
      · rw [events, ← List.append_assoc]
        exact means.concat fun _ _ _ same => by cases same
      · rw [events, ← List.append_assoc] at finished
        rw [outcomes]
        rcases List.mem_append.1 finished with earlier | now
        · obtain ⟨j, o, hj, noted⟩ := h.noted m o (mem_of_mem_catchUp earlier)
          by_cases same : i = j
          · exact ⟨j, outcome, hj, by rw [same, List.getElem?_set_self (same ▸ inside)]⟩
          · exact ⟨j, o, hj, by rw [List.getElem?_set_ne same, noted]⟩
        · cases List.mem_singleton.1 now
          exact ⟨i, outcome, hi, List.getElem?_set_self inside⟩

theorem Counts.hear {n : Nat} (h : t.Counts n) (inside : i < n) (reading : Binary64)
    (event : DownloadEvent) : (t.hear i reading event).1.Counts n := by
  cases event with
  | progress model value =>
      rw [hear_progress]
      exact ⟨h.outcomes, by simp [h.latest], h.remaining⟩
  | finished model outcome =>
      obtain ⟨-, outcomes, latest, -, remaining⟩ := hear_finished t i reading model outcome
      have placed : i < t.outcomes.length := h.outcomes ▸ inside
      refine ⟨by simp [outcomes, h.outcomes], by rw [latest, h.latest], ?_⟩
      rw [remaining, outcomes, List.countP_set placed, h.remaining,
        List.getElem?_eq_getElem placed]
      cases t.outcomes[i] <;> simp

end Tally

end ModelDepot.Batch
