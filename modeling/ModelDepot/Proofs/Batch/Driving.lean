import ModelDepot.Proofs.Batch.Stories

/-! # Batches driven to their end

Whatever the order in which the events of the members arrive, each member is heard to its end, what
it tells is told on in its own order, and the report comes last and is the same.
-/

namespace ModelDepot.Batch

namespace Tally

variable {t : Tally} {streams : List (List DownloadEvent)} {arrivals : List Arrival} {i : Nat}
  {story : Story} {event : DownloadEvent} {reading : Binary64}

theorem hear_of_ne {j : Nat} (h : j ≠ i) :
    (t.hear i reading event).1.outcomes[j]? = t.outcomes[j]? ∧
    (t.hear i reading event).1.latest[j]? = t.latest[j]? := by
  cases event with
  | progress model value =>
      rw [hear_progress]
      exact ⟨rfl, List.getElem?_set_ne (Ne.symm h)⟩
  | finished model outcome =>
      obtain ⟨-, houtcomes, -, hlatest, -⟩ := hear_finished t i reading model outcome
      exact ⟨by rw [houtcomes, List.getElem?_set_ne (Ne.symm h)], hlatest j h⟩

theorem outcomes_of_told (h : t.Fits streams) (merge : Merge streams arrivals)
    (hs : streams[i]? = some []) : (t.attend arrivals).1.outcomes[i]? = t.outcomes[i]? := by
  induction merge generalizing t with
  | done => rfl
  | @next streams k event rest arrivals reading hk _ ih =>
      have hik : i ≠ k := by
        rintro rfl
        rw [hs] at hk
        cases hk
      rw [attend_cons (h.waits hk).2]
      have later := ih (h.hear hk reading) (by rw [List.getElem?_set_ne (Ne.symm hik), hs])
      exact later.trans (hear_of_ne hik).1

theorem outcomes_attend (h : t.Fits streams) (merge : Merge streams arrivals)
    (hs : streams[i]? = some story.events) :
    (t.attend arrivals).1.outcomes[i]? = some (some story.outcome) := by
  induction merge generalizing t story with
  | done empty =>
      have nothing := empty _ (List.mem_of_getElem? hs)
      simp [Story.events] at nothing
  | @next streams k event rest arrivals reading hk merge ih =>
      have inside : k < streams.length := (List.getElem?_eq_some_iff.1 hk).1
      rw [attend_cons (h.waits hk).2]
      by_cases hik : i = k
      · subst hik
        rw [hk] at hs
        have left : (streams.set i rest)[i]? = some rest := List.getElem?_set_self inside
        rcases story_cases (Option.some.inj hs) with ⟨_, shorter, -, -, same, -, hrest⟩ |
          ⟨rfl, rfl, -⟩
        · rw [← same]
          exact ih (h.hear hk reading) (by rw [left, hrest])
        · have placed : i < t.outcomes.length := h.outcomes ▸ inside
          rw [outcomes_of_told (h.hear hk reading) merge left,
            (hear_finished t i reading story.model story.outcome).2.1,
            List.getElem?_set_self placed]
      · exact ih (h.hear hk reading) (by rw [List.getElem?_set_ne (Ne.symm hik), hs])

/-- Nobody but the member in place `i` tells events of `model`. -/
def Apart (streams : List (List DownloadEvent)) (i : Nat) (model : String) : Prop :=
  ∀ (j : Nat) s, j ≠ i → streams[j]? = some s → ∀ e ∈ s, e.model ≠ model

theorem Apart.set {model : String} {k : Nat} {rest : List DownloadEvent} (h : Apart streams i model)
    (hk : streams[k]? = some (event :: rest)) : Apart (streams.set k rest) i model := by
  intro j s hj hs e he
  by_cases hkj : k = j
  · subst hkj
    rw [List.getElem?_set_self (List.getElem?_eq_some_iff.1 hk).1] at hs
    cases hs
    exact h k _ hj hk e (List.mem_cons_of_mem _ he)
  · rw [List.getElem?_set_ne hkj] at hs
    exact h j s hj hs e he

theorem echo_of_told {model : String} (h : t.Fits streams) (merge : Merge streams arrivals)
    (hs : streams[i]? = some []) (apart : Apart streams i model) :
    (t.attend arrivals).2.filterMap (echo? model) = [] := by
  induction merge generalizing t with
  | done => rfl
  | @next streams k event rest arrivals reading hk _ ih =>
      have hki : k ≠ i := by
        rintro rfl
        rw [hs] at hk
        cases hk
      have foreign := apart k _ hki hk event List.mem_cons_self
      rw [attend_cons (h.waits hk).2, List.filterMap_append, filterMap_hear_of_ne foreign,
        List.nil_append]
      exact ih (h.hear hk reading) (by rw [List.getElem?_set_ne hki, hs]) (apart.set hk)

/-- The progress that is told for a member right before its outcome, if its handle shows another
one than it has told last. -/
def caughtUp (reading last : Binary64) : List Binary64 :=
  if reading.eqNumber last then [] else [reading]

theorem filterMap_catchUp (model : String) :
    (t.catchUp i reading model).filterMap (echo? model) =
      (caughtUp reading ((t.latest[i]?).getD .zero)).map (.progress model) := by
  unfold catchUp caughtUp
  split <;> simp [echo?]

theorem echo_attend (h : t.Fits streams) (merge : Merge streams arrivals)
    (hs : streams[i]? = some story.events) (apart : Apart streams i story.model) :
    ∃ reading, ⟨i, reading, .finished story.model story.outcome⟩ ∈ arrivals ∧
      (t.attend arrivals).2.filterMap (echo? story.model) =
        (story.values ++
            caughtUp reading (story.values.getLast?.getD ((t.latest[i]?).getD .zero))).map
          (.progress story.model) ++ [.finished story.model story.outcome] := by
  induction merge generalizing t story with
  | done empty =>
      have nothing := empty _ (List.mem_of_getElem? hs)
      simp [Story.events] at nothing
  | @next streams k event rest arrivals reading hk merge ih =>
      have inside : k < streams.length := (List.getElem?_eq_some_iff.1 hk).1
      rw [attend_cons (h.waits hk).2, List.filterMap_append]
      by_cases hki : k = i
      · subst hki
        rw [hk] at hs
        have left : (streams.set k rest)[k]? = some rest := List.getElem?_set_self inside
        rcases story_cases (Option.some.inj hs) with
          ⟨value, shorter, rfl, hmodel, houtcome, hvalues, hrest⟩ | ⟨rfl, rfl, hvalues⟩
        · obtain ⟨last, hlast, echoes⟩ := ih (h.hear hk reading) (by rw [left, hrest])
            (hmodel ▸ apart.set hk)
          have placed : k < t.latest.length := h.latest ▸ inside
          rw [hmodel] at echoes
          -- the value just heard is the one that the handle is compared with if no other comes
          refine ⟨last, List.mem_cons_of_mem _ (by rw [← hmodel, ← houtcome]; exact hlast), ?_⟩
          rw [echoes, hear_progress, hvalues, houtcome]
          simp [echo?, placed, List.getLast?_cons]
        · refine ⟨reading, List.mem_cons_self, ?_⟩
          rw [echo_of_told (h.hear hk reading) merge left (apart.set hk),
            (hear_finished t k reading story.model story.outcome).1, List.filterMap_append,
            filterMap_catchUp, hvalues]
          simp [echo?]
      · have foreign := apart k _ hki hk event List.mem_cons_self
        obtain ⟨last, hlast, echoes⟩ := ih (h.hear hk reading)
          (by rw [List.getElem?_set_ne hki, hs]) (apart.set hk)
        refine ⟨last, List.mem_cons_of_mem _ hlast, ?_⟩
        rw [filterMap_hear_of_ne foreign, List.nil_append, echoes,
          (hear_of_ne (t := t) (i := k) (j := i) (Ne.symm hki)).2]

theorem ne_finished_of_mem_attend {e : BatchEvent} (he : e ∈ (t.attend arrivals).2)
    (report : BatchReport) : e ≠ .finished report := by
  induction arrivals generalizing t with
  | nil => cases he
  | cons a arrivals ih =>
      by_cases nobody : t.remaining = 0
      · simp [attend, nobody] at he
      · obtain ⟨i, reading, event⟩ := a
        rw [attend_cons (Nat.pos_of_ne_zero nobody)] at he
        rcases List.mem_append.1 he with he | he
        · rintro rfl
          simpa [echo?] using echo?_of_mem_hear he
        · exact ih he

end Tally

/-! ## The members of a batch -/

theorem nodup_membersOf (names : List String) : (membersOf names).Nodup := by
  have kept : ∀ (members : List String) name, members.Nodup → (addMember members name).Nodup := by
    intro members name distinct
    simp only [addMember]
    split
    · exact distinct
    · next new =>
        obtain ⟨-, absent⟩ : ¬(Text.trim name).isEmpty = true ∧ Text.trim name ∉ members := by
          simpa using new
        refine List.nodup_append.2 ⟨distinct, by simp, ?_⟩
        rintro a ha b hb rfl
        obtain rfl := List.mem_singleton.1 hb
        exact absent ha
  have folded : ∀ (names members : List String), members.Nodup →
      (names.foldl addMember members).Nodup := by
    intro names
    induction names with
    | nil => exact fun _ distinct => distinct
    | cons name names ih =>
        intro members distinct
        rw [List.foldl_cons]
        exact ih (addMember members name) (kept members name distinct)
  exact folded names [] List.nodup_nil

theorem mem_addMember {members : List String} {name m : String} :
    m ∈ addMember members name ↔ m ∈ members ∨ m ≠ "" ∧ Text.trim name = m := by
  simp only [addMember]
  split
  · next known =>
      refine ⟨.inl, ?_⟩
      rintro (old | ⟨shown, rfl⟩)
      · exact old
      · simpa [shown] using known
  · next new =>
      have shown : Text.trim name ≠ "" := by
        intro blank
        simp [blank] at new
      rw [List.mem_append, List.mem_singleton]
      refine or_congr_right ⟨?_, fun h => h.2.symm⟩
      rintro rfl
      exact ⟨shown, rfl⟩

theorem mem_membersOf {names : List String} {m : String} :
    m ∈ membersOf names ↔ m ≠ "" ∧ ∃ name ∈ names, Text.trim name = m := by
  have folded : ∀ (names members : List String), m ∈ names.foldl addMember members ↔
      m ∈ members ∨ m ≠ "" ∧ ∃ name ∈ names, Text.trim name = m := by
    intro names
    induction names with
    | nil => simp
    | cons name names ih =>
        intro members
        rw [List.foldl_cons, ih, mem_addMember]
        simp only [List.mem_cons, exists_eq_or_imp, and_or_left, or_assoc]
  simpa [membersOf] using folded names []

theorem settle_eq_ok_iff {names members : List String} :
    settle names = .ok members ↔ members = membersOf names ∧ members ≠ [] := by
  simp only [settle, List.isEmpty_iff]
  split
  · next none =>
      constructor
      · intro h
        cases h
      · rintro ⟨rfl, some⟩
        exact absurd none some
  · next some =>
      constructor
      · intro h
        cases h
        exact ⟨rfl, some⟩
      · rintro ⟨rfl, -⟩
        rfl

theorem nodup_of_settle {names members : List String} (h : settle names = .ok members) :
    members.Nodup := by
  obtain ⟨rfl, -⟩ := settle_eq_ok_iff.1 h
  exact nodup_membersOf names

theorem ne_nil_of_settle {names members : List String} (h : settle names = .ok members) :
    members ≠ [] :=
  (settle_eq_ok_iff.1 h).2

theorem mem_of_choose {listing : Except ClientError (List Model)} {members : List String}
    (h : choose listing = .ok members) :
    ∃ models, listing = .ok models ∧ members.Nodup ∧ ∀ name, name ∈ members ↔
      name ≠ "" ∧ ∃ m ∈ models, m.recommended = true ∧ Text.trim m.name = name := by
  cases listing with
  | error e => cases h
  | ok models =>
      refine ⟨models, rfl, nodup_of_settle h, fun name => ?_⟩
      obtain ⟨rfl, -⟩ := settle_eq_ok_iff.1 h
      rw [mem_membersOf]
      simp only [List.mem_map, List.mem_filter]
      grind


/-- What comes of driving a batch, given what its members tell and how it arrives. -/
structure Driven (stories : List Story) (arrivals : List Arrival) : Prop where
  /-- The report has one entry for each member, in order: its name and its outcome. -/
  report : (drive (stories.map Story.model) arrivals).1 =
    ⟨stories.map fun s => ⟨s.model, s.outcome⟩⟩
  /-- The report is told once, and last. -/
  last : ∃ told,
    (drive (stories.map Story.model) arrivals).2 =
      told ++ [.finished (drive (stories.map Story.model) arrivals).1] ∧
    ∀ e ∈ told, ∀ report, e ≠ .finished report
  /-- Each member is echoed event by event. Only before its outcome a progress may be put in, which
  its handle shows and which it has not told. -/
  echoes : ∀ s ∈ stories, ∃ i reading, stories[i]? = some s ∧
    ⟨i, reading, .finished s.model s.outcome⟩ ∈ arrivals ∧
    (drive (stories.map Story.model) arrivals).2.filterMap (echo? s.model) =
      (s.values ++ Tally.caughtUp reading (s.values.getLast?.getD .zero)).map (.progress s.model) ++
        [.finished s.model s.outcome]
  /-- The number of members that are waited for is right, and not zero when something arrives. -/
  waits : ∀ heard a later, arrivals = heard ++ a :: later →
    ((Tally.start stories.length).attend heard).1.remaining =
      ((Tally.start stories.length).attend heard).1.outcomes.countP (·.isNone) ∧
    0 < ((Tally.start stories.length).attend heard).1.remaining
  /-- In the end nobody is waited for and every outcome is noted. -/
  settled : ((Tally.start stories.length).attend arrivals).1.remaining = 0 ∧
    ∀ o ∈ ((Tally.start stories.length).attend arrivals).1.outcomes, o.isSome = true

section Drive

variable {stories : List Story} {arrivals : List Arrival}

theorem waits_of_merge (merge : Merge (stories.map Story.events) arrivals)
    {heard later : List Arrival} {a : Arrival} (split : arrivals = heard ++ a :: later) :
    ((Tally.start stories.length).attend heard).1.remaining =
      ((Tally.start stories.length).attend heard).1.outcomes.countP (·.isNone) ∧
    0 < ((Tally.start stories.length).attend heard).1.remaining := by
  obtain ⟨left, -, mergeLeft, fits⟩ := (Tally.fits_start stories).attend (split ▸ merge)
  refine ⟨fits.remaining, ?_⟩
  cases mergeLeft with
  | next reading hi _ => exact (fits.waits hi).2

theorem settled_of_merge (merge : Merge (stories.map Story.events) arrivals) :
    ((Tally.start stories.length).attend arrivals).1.remaining = 0 ∧
    (∀ o ∈ ((Tally.start stories.length).attend arrivals).1.outcomes, o.isSome = true) ∧
    ((Tally.start stories.length).attend arrivals).1.outcomes.length = stories.length := by
  rw [← List.append_nil arrivals] at merge
  obtain ⟨left, length, mergeLeft, fits⟩ := (Tally.fits_start stories).attend merge
  obtain ⟨nobody, noted⟩ := fits.settled mergeLeft
  exact ⟨nobody, noted, by rw [fits.outcomes, length, List.length_map]⟩

theorem outcomes_of_merge (merge : Merge (stories.map Story.events) arrivals) :
    ((Tally.start stories.length).attend arrivals).1.outcomes =
      stories.map fun s => some s.outcome := by
  obtain ⟨-, -, length⟩ := settled_of_merge merge
  refine List.ext_getElem? fun i => ?_
  rcases Nat.lt_or_ge i stories.length with inside | outside
  · have told : (stories.map Story.events)[i]? = some stories[i].events := by
      rw [List.getElem?_map, List.getElem?_eq_getElem inside]
      rfl
    rw [Tally.outcomes_attend (Tally.fits_start stories) merge told, List.getElem?_map,
      List.getElem?_eq_getElem inside]
    rfl
  · rw [List.getElem?_eq_none (by omega), List.getElem?_eq_none (by simpa using outside)]

theorem report_of_merge (merge : Merge (stories.map Story.events) arrivals) :
    (drive (stories.map Story.model) arrivals).1 = ⟨stories.map fun s => ⟨s.model, s.outcome⟩⟩ := by
  simp only [drive, Tally.report, List.length_map, outcomes_of_merge merge, List.zip_map',
    List.map_map]
  congr

theorem model_of_mem_events {s : Story} {e : DownloadEvent} (he : e ∈ s.events) :
    e.model = s.model := by
  rcases List.mem_append.1 he with he | he
  · obtain ⟨value, -, rfl⟩ := List.mem_map.1 he
    rfl
  · obtain rfl := List.mem_singleton.1 he
    rfl

theorem apart_of_nodup (distinct : (stories.map Story.model).Nodup) {i : Nat}
    (inside : i < stories.length) :
    Tally.Apart (stories.map Story.events) i stories[i].model := by
  intro j s hj hs e he same
  rw [List.getElem?_map] at hs
  obtain ⟨story, hstory, rfl⟩ := Option.map_eq_some_iff.1 hs
  obtain ⟨insideJ, rfl⟩ := List.getElem?_eq_some_iff.1 hstory
  rw [model_of_mem_events he] at same
  have sameName : (stories.map Story.model)[j]? = (stories.map Story.model)[i]? := by
    simp [insideJ, inside, same]
  exact hj ((List.getElem?_inj (by simpa using insideJ) distinct).1 sameName)

theorem driven_of_merge (distinct : (stories.map Story.model).Nodup)
    (merge : Merge (stories.map Story.events) arrivals) : Driven stories arrivals where
  report := report_of_merge merge
  last := ⟨_, rfl, fun _ he report => Tally.ne_finished_of_mem_attend he report⟩
  waits := fun _ _ _ split => waits_of_merge merge split
  settled := ⟨(settled_of_merge merge).1, (settled_of_merge merge).2.1⟩
  echoes := by
    intro s hs
    obtain ⟨i, inside, rfl⟩ := List.getElem_of_mem hs
    have told : (stories.map Story.events)[i]? = some stories[i].events := by
      rw [List.getElem?_map, List.getElem?_eq_getElem inside]
      rfl
    obtain ⟨reading, arrives, echoes⟩ :=
      Tally.echo_attend (Tally.fits_start stories) merge told (apart_of_nodup distinct inside)
    refine ⟨i, reading, List.getElem?_eq_getElem inside, arrives, ?_⟩
    have start : ((Tally.start stories.length).latest[i]?).getD .zero = .zero := by
      simp [Tally.start, inside]
    rw [start] at echoes
    simp only [drive, List.length_map, List.filterMap_append, echoes]
    simp [echo?]

/-- Somebody is waited for exactly when something is still to come. -/
theorem remaining_eq_zero_iff {heard later : List Arrival}
    (merge : Merge (stories.map Story.events) (heard ++ later)) :
    ((Tally.start stories.length).attend heard).1.remaining = 0 ↔ later = [] := by
  constructor
  · intro nobody
    cases later with
    | nil => rfl
    | cons a later =>
        have waits := (waits_of_merge merge rfl).2
        omega
  · rintro rfl
    rw [List.append_nil] at merge
    exact (settled_of_merge merge).1

/-- A running batch, which hears its members piece by piece, hears them as they are driven here, and
tells the report right after the last piece. -/
theorem hearAll_of_merge {heard later : List Arrival} {b : Batch} {i : Nat}
    {events : List DownloadEvent} {reading : Binary64}
    (shown : ((b.pollers[i]?).map (·.progress.get)).getD .zero = reading)
    (tally : b.tally = ((Tally.start stories.length).attend heard).1)
    (merge : Merge (stories.map Story.events)
      (heard ++ ((events.map fun event => ⟨i, reading, event⟩) ++ later))) :
    (b.hearAll i events).1.tally =
      ((Tally.start stories.length).attend
        (heard ++ events.map fun event => ⟨i, reading, event⟩)).1 ∧
    (b.hearAll i events).2 =
      (b.tally.attend (events.map fun event => ⟨i, reading, event⟩)).2 ++
        if events ≠ [] ∧ later = [] then [.finished (b.hearAll i events).1.report] else [] := by
  have before := remaining_eq_zero_iff merge
  rw [← List.append_assoc] at merge
  have after := remaining_eq_zero_iff merge
  rw [Tally.attend_append, ← tally] at after
  rw [← tally] at before
  refine ⟨?_, ?_⟩
  · rw [Tally.attend_append, ← tally]
    simp only [hearAll, shown]
  · have isLast : (b.tally.remaining ≠ 0 ∧
        (b.tally.attend (events.map fun event => ⟨i, reading, event⟩)).1.remaining = 0) ↔
        (events ≠ [] ∧ later = []) := by
      rw [after, ne_eq, before]
      simp +contextual
    simp only [hearAll, shown, report, members, isLast]

end Drive

/-- However the events of the members of a batch are merged, the batch is driven to its end as
`Driven` says, and its report does not depend on the merge. The members do tell such events: a
poller that has ended has told its values and then its outcome. -/
theorem drive_of_any_merge {names : List String} {stories : List Story} {arrivals : List Arrival}
    (planned : settle names = .ok (stories.map Story.model))
    (merge : Merge (stories.map Story.events) arrivals) :
    Driven stories arrivals ∧
    (∀ other, Merge (stories.map Story.events) other →
      (drive (stories.map Story.model) other).1 = (drive (stories.map Story.model) arrivals).1) ∧
    ∀ model config acts, ((Life.fresh model config).afterAll acts).poller.stage = .ended →
      ∃ story : Story, story.model = model ∧
        ((Life.fresh model config).afterAll acts).poller.outcome = some story.outcome ∧
        (Life.fresh model config).told acts = story.events :=
  ⟨driven_of_merge (nodup_of_settle planned) merge,
    fun _ otherMerge => (report_of_merge otherMerge).trans (report_of_merge merge).symm,
    fun _ _ _ ended => Life.exists_story ended⟩

/-- Two members: the second ends between the progress and the end of the first. -/
theorem drive_of_any_merge_of_two :
    Driven [⟨"phi", [⟨0x4039000000000000⟩], .cancelled⟩, ⟨"qwen", [], .failed .alreadyActive⟩]
      [⟨0, ⟨0x4039000000000000⟩, .progress "phi" ⟨0x4039000000000000⟩⟩,
        ⟨1, .zero, .finished "qwen" (.failed .alreadyActive)⟩,
        ⟨0, ⟨0x4049000000000000⟩, .finished "phi" .cancelled⟩] := by
  refine (@drive_of_any_merge ["phi", " qwen ", "phi", ""] _ _ rfl ?_).1
  refine .next _ rfl (.next _ rfl (.next _ rfl (.done ?_)))
  simp

end ModelDepot.Batch
