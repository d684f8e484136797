import ModelDepot.Download.Batch

/-! # What a batch makes of the events of its members

The members tell their events side by side, and the batch hears them in some order. What it makes
of them depends on the order only where events of different members are concerned.
-/

namespace ModelDepot.Batch

/-- What one member tells: values of its progress, then its outcome. -/
structure Story where
  model : String
  values : List Binary64
  outcome : DownloadOutcome

def Story.events (s : Story) : List DownloadEvent :=
  s.values.map (.progress s.model) ++ [.finished s.model s.outcome]

/-- An order in which events arrive: again and again some member that has something to tell tells
the next of its events, whatever its handle shows at that time, until nothing is left. -/
inductive Merge : List (List DownloadEvent) → List Arrival → Prop where
  | done {streams} : (∀ s ∈ streams, s = []) → Merge streams []
  | next {streams i event rest arrivals} (reading : Binary64) :
      streams[i]? = some (event :: rest) → Merge (streams.set i rest) arrivals →
      Merge streams (⟨i, reading, event⟩ :: arrivals)

/-- The event of the batch read as an event of the member `model`, if it is one. -/
def echo? (model : String) : BatchEvent → Option DownloadEvent
  | .progress m value _ => if m = model then some (.progress m value) else none
  | .memberFinished m outcome => if m = model then some (.finished m outcome) else none
  | .finished _ => none

namespace Tally

variable {t : Tally} {i : Nat} {reading value : Binary64} {model : String}
  {outcome : DownloadOutcome}

/-! ## One event -/

theorem hear_progress :
    t.hear i reading (.progress model value) =
      ({ t with latest := t.latest.set i value },
        [.progress model value (mean (t.latest.set i value))]) := rfl

/-- What a member that ends makes the batch tell before. -/
def catchUp (t : Tally) (i : Nat) (reading : Binary64) (model : String) : List BatchEvent :=
  if reading.eqNumber ((t.latest[i]?).getD .zero) then []
  else [.progress model reading (mean (t.latest.set i reading))]

variable (t i reading model outcome) in
theorem hear_finished :
    (t.hear i reading (.finished model outcome)).2 =
      t.catchUp i reading model ++ [.memberFinished model outcome] ∧
    (t.hear i reading (.finished model outcome)).1.outcomes = t.outcomes.set i (some outcome) ∧
    (t.hear i reading (.finished model outcome)).1.latest.length = t.latest.length ∧
    (∀ j, j ≠ i → (t.hear i reading (.finished model outcome)).1.latest[j]? = t.latest[j]?) ∧
    (t.hear i reading (.finished model outcome)).1.remaining =
      if ((t.outcomes[i]?).getD none).isNone then t.remaining - 1 else t.remaining := by
  simp only [hear, catchUp, note]
  split
  · exact ⟨rfl, rfl, rfl, fun _ _ => rfl, rfl⟩
  · exact ⟨rfl, rfl, by simp, fun j hj => by simp [List.getElem?_set_ne (Ne.symm hj)], rfl⟩

theorem echo?_of_mem_hear {event : DownloadEvent} {e : BatchEvent}
    (he : e ∈ (t.hear i reading event).2) : (echo? event.model e).isSome = true := by
  cases event with
  | progress m value =>
      rw [hear_progress] at he
      obtain rfl := List.mem_singleton.1 he
      simp [echo?, DownloadEvent.model]
  | finished m outcome =>
      rw [(hear_finished t i reading m outcome).1] at he
      rcases List.mem_append.1 he with he | he
      · unfold catchUp at he
        split at he
        · cases he
        · obtain rfl := List.mem_singleton.1 he
          simp [echo?, DownloadEvent.model]
      · obtain rfl := List.mem_singleton.1 he
        simp [echo?, DownloadEvent.model]

theorem echo?_of_ne {model' : String} {e : BatchEvent} (h : (echo? model e).isSome = true)
    (hne : model ≠ model') : echo? model' e = none := by
  cases e with
  | progress m value overall =>
      simp only [echo?] at h ⊢
      split at h
      · next hm => rw [hm, if_neg hne]
      · cases h
  | memberFinished m outcome =>
      simp only [echo?] at h ⊢
      split at h
      · next hm => rw [hm, if_neg hne]
      · cases h
  | finished report => rfl

theorem filterMap_hear_of_ne {event : DownloadEvent} (hne : event.model ≠ model) :
    (t.hear i reading event).2.filterMap (echo? model) = [] :=
  List.filterMap_eq_nil_iff.2 fun _ he => echo?_of_ne (echo?_of_mem_hear he) hne

/-! ## Where a tally stands -/

/-- The tally fits what the members have still to tell: a member that has told all has its outcome
noted, any other has not. -/
structure Fits (t : Tally) (streams : List (List DownloadEvent)) : Prop where
  outcomes : t.outcomes.length = streams.length
  latest : t.latest.length = streams.length
  remaining : t.remaining = t.outcomes.countP (·.isNone)
  places : ∀ (i : Nat) s, streams[i]? = some s →
    (s = [] ∧ ∃ o, t.outcomes[i]? = some (some o)) ∨
    (t.outcomes[i]? = some none ∧ ∃ story : Story, s = story.events)

variable {streams : List (List DownloadEvent)} {event : DownloadEvent} {rest : List DownloadEvent}

theorem fits_start (stories : List Story) :
    (start stories.length).Fits (stories.map Story.events) := by
  refine ⟨by simp [start], by simp [start], ?_, ?_⟩
  · simp [start, List.countP_replicate]
  · intro i s hs
    rw [List.getElem?_map] at hs
    obtain ⟨story, hstory, rfl⟩ := Option.map_eq_some_iff.1 hs
    have inside : i < stories.length := (List.getElem?_eq_some_iff.1 hstory).1
    exact .inr ⟨by simp [start, inside], story, rfl⟩

theorem Fits.waits (h : t.Fits streams) (hi : streams[i]? = some (event :: rest)) :
    t.outcomes[i]? = some none ∧ 0 < t.remaining := by
  rcases h.places i _ hi with ⟨hs, -⟩ | ⟨ho, -⟩
  · cases hs
  · refine ⟨ho, ?_⟩
    rw [h.remaining]
    exact List.countP_pos_iff.2 ⟨none, List.mem_of_getElem? ho, rfl⟩

theorem story_cases {story : Story} (h : event :: rest = story.events) :
    (∃ value shorter, event = .progress story.model value ∧ shorter.model = story.model ∧
      shorter.outcome = story.outcome ∧ story.values = value :: shorter.values ∧
      rest = Story.events shorter) ∨
    (event = .finished story.model story.outcome ∧ rest = [] ∧ story.values = []) := by
  obtain ⟨model, values, outcome⟩ := story
  cases values with
  | nil =>
      cases h
      exact .inr ⟨rfl, rfl, rfl⟩
  | cons value values =>
      cases h
      exact .inl ⟨value, ⟨model, values, outcome⟩, rfl, rfl, rfl, rfl, rfl⟩

theorem Fits.hear (h : t.Fits streams) (hi : streams[i]? = some (event :: rest))
    (reading : Binary64) :
    (t.hear i reading event).1.Fits (streams.set i rest) := by
  obtain ⟨ho, positive⟩ := h.waits hi
  have inside : i < streams.length := (List.getElem?_eq_some_iff.1 hi).1
  rcases h.places i _ hi with ⟨hs, -⟩ | ⟨-, story, hstory⟩
  · cases hs
  rcases story_cases hstory with ⟨value, shorter, rfl, -, -, -, hrest⟩ | ⟨rfl, rfl, -⟩
  · rw [hear_progress]
    refine ⟨by simp [h.outcomes], by simp [h.latest], h.remaining, fun j s hs => ?_⟩
    by_cases hij : i = j
    · subst hij
      rw [List.getElem?_set_self inside] at hs
      cases hs
      exact .inr ⟨ho, shorter, hrest⟩
    · rw [List.getElem?_set_ne hij] at hs
      exact h.places j s hs
  · obtain ⟨-, houtcomes, hlatest, -, hremaining⟩ :=
      hear_finished t i reading story.model story.outcome
    have insideOutcomes : i < t.outcomes.length := h.outcomes ▸ inside
    refine ⟨by simp [houtcomes, h.outcomes], by simp [hlatest, h.latest], ?_, fun j s hs => ?_⟩
    · have unended : t.outcomes[i] = none := by
        rw [List.getElem?_eq_getElem insideOutcomes] at ho
        exact Option.some.inj ho
      rw [hremaining, houtcomes, List.countP_set insideOutcomes, ho, h.remaining, unended]
      simp
    · rw [houtcomes]
      by_cases hij : i = j
      · subst hij
        rw [List.getElem?_set_self inside] at hs
        cases hs
        exact .inl ⟨rfl, story.outcome, List.getElem?_set_self insideOutcomes⟩
      · rw [List.getElem?_set_ne hij] at hs
        rw [List.getElem?_set_ne hij]
        exact h.places j s hs

/-! ## All events -/

theorem attend_cons {arrivals : List Arrival} (waits : 0 < t.remaining) (i : Nat)
    (reading : Binary64) (event : DownloadEvent) :
    t.attend (⟨i, reading, event⟩ :: arrivals) =
      (((t.hear i reading event).1.attend arrivals).1,
        (t.hear i reading event).2 ++ ((t.hear i reading event).1.attend arrivals).2) := by
  simp only [attend, if_neg (Nat.ne_of_gt waits)]

theorem attend_append (t : Tally) (heard rest : List Arrival) :
    t.attend (heard ++ rest) =
      (((t.attend heard).1.attend rest).1,
        (t.attend heard).2 ++ ((t.attend heard).1.attend rest).2) := by
  induction heard generalizing t with
  | nil => rfl
  | cons a heard ih =>
      by_cases nobody : t.remaining = 0
      · have deaf : ∀ arrivals, t.attend arrivals = (t, []) := by
          intro arrivals
          cases arrivals with
          | nil => rfl
          | cons b arrivals => simp only [attend, if_pos nobody]
        simp only [deaf, List.append_nil]
      · obtain ⟨i, reading, event⟩ := a
        have waits := Nat.pos_of_ne_zero nobody
        rw [List.cons_append, attend_cons waits, attend_cons waits, ih]
        simp only [List.append_assoc]

/-- At any point of a merge the tally fits what is still to come. -/
theorem Fits.attend {heard later : List Arrival} (h : t.Fits streams)
    (merge : Merge streams (heard ++ later)) :
    ∃ left, left.length = streams.length ∧ Merge left later ∧ (t.attend heard).1.Fits left := by
  induction heard generalizing t streams with
  | nil => exact ⟨streams, rfl, merge, h⟩
  | cons a heard ih =>
      cases merge with
      | @next _ i event rest _ reading hi merge =>
          obtain ⟨left, hlength, hleft, hfits⟩ := ih (h.hear hi reading) merge
          refine ⟨left, by simpa using hlength, hleft, ?_⟩
          rw [attend_cons (h.waits hi).2]
          exact hfits

theorem Fits.settled (h : t.Fits streams) (merge : Merge streams []) :
    t.remaining = 0 ∧ ∀ o ∈ t.outcomes, o.isSome = true := by
  have noted : ∀ o ∈ t.outcomes, o.isSome = true := by
    intro o ho
    obtain ⟨i, hi, rfl⟩ := List.getElem_of_mem ho
    have inside : i < streams.length := h.outcomes ▸ hi
    cases merge with
    | done empty =>
        rcases h.places i streams[i] (List.getElem?_eq_getElem inside) with ⟨-, o, ho⟩ |
          ⟨-, story, hs⟩
        · rw [List.getElem?_eq_getElem hi] at ho
          rw [Option.some.inj ho]
          rfl
        · rw [empty _ (List.getElem_mem inside)] at hs
          have nonempty : story.events ≠ [] := by simp [Story.events]
          exact absurd hs.symm nonempty
  refine ⟨?_, noted⟩
  rw [h.remaining, List.countP_eq_zero]
  intro o ho
  simp [Option.isNone_iff_eq_none, Option.isSome_iff_ne_none.1 (noted o ho)]

end Tally

end ModelDepot.Batch
