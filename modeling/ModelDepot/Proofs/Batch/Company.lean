import ModelDepot.Proofs.Batch.Driving
import ModelDepot.Proofs.Batch.Showing
import ModelDepot.Proofs.Poller.Cell
import ModelDepot.Proofs.Poller.Novelty

/-! # A batch and its members side by side

The members of a batch live on while the batch hears what they have told. What is told and not heard
waits, and for so long the progress that a member shows is not the one that the batch knows.
-/

namespace ModelDepot.Batch

/-- A member of a batch, and what it has told that the batch is still to hear. -/
structure Member where
  life : Life
  unheard : List DownloadEvent

/-- A batch under way: its members, and what has come to it of what they told. -/
structure Company where
  members : List Member
  heard : List Arrival

/-- One thing that may happen to a batch under way. -/
inductive Happening where
  /-- Something happens to the member in place `i`. -/
  | act (i : Nat) (a : Act)
  /-- The batch hears the next event of the member in place `i`. -/
  | hear (i : Nat)

def heardOf (i : Nat) (heard : List Arrival) : List DownloadEvent :=
  (heard.filter (·.member = i)).map (·.event)

/-- The last value among some events of a member; zero when there is none. -/
def lastValue (events : List DownloadEvent) : Binary64 :=
  (events.filterMap DownloadEvent.progress?).getLast?.getD .zero

namespace Member

def poller (m : Member) : Poller :=
  m.life.poller

def fresh (config : PollerConfig) (model : String) : Member :=
  ⟨.fresh model config, []⟩

def after (m : Member) (a : Act) : Member :=
  ⟨m.life.after a, m.unheard ++ (m.life.passage a).told⟩

end Member

namespace Company

def start (names : List String) (config : PollerConfig) : Company :=
  ⟨names.map (.fresh config), []⟩

def tally (c : Company) : Tally :=
  ((Tally.start c.members.length).attend c.heard).1

def told (c : Company) : List BatchEvent :=
  ((Tally.start c.members.length).attend c.heard).2

def batch (c : Company) : Batch :=
  ⟨c.members.map Member.poller, c.tally⟩

/-- A batch under way after one thing has happened. It hears events for as long as it waits for a
member to end. -/
def after (c : Company) : Happening → Company
  | .act i a =>
    match c.members[i]? with
    | some m => { c with members := c.members.set i (m.after a) }
    | none => c
  | .hear i =>
    match c.members[i]? with
    | some ⟨life, event :: rest⟩ =>
      if c.tally.remaining = 0 then c
      else ⟨c.members.set i ⟨life, rest⟩, c.heard ++ [⟨i, life.poller.progress.get, event⟩]⟩
    | _ => c

def afterAll (c : Company) (happenings : List Happening) : Company :=
  happenings.foldl after c

end Company

/-! ## One member -/

namespace Member

variable {m : Member} {heard rest : List DownloadEvent} {event : DownloadEvent}
  {latest : Binary64} {noted : Option DownloadOutcome}

/-- What is true of a member of which some events have been heard. -/
structure Fits (m : Member) (heard : List DownloadEvent) : Prop where
  sound : m.poller.Sound
  cell : m.poller.CellFits
  reads : m.poller.ReadsOnly Binary64.IsPercent
  tells : m.poller.HasTold (heard ++ m.unheard)
  values : m.poller.told = ((heard ++ m.unheard).filterMap DownloadEvent.progress?).reverse

/-- What the batch knows last of the member, and the outcome that it has noted. -/
inductive Stands (m : Member) (heard : List DownloadEvent) (latest : Binary64) :
    Option DownloadOutcome → Prop where
  /-- Only values have been heard. -/
  | going (values : List Binary64) : heard = values.map (.progress m.poller.model) →
      latest = lastValue heard → Stands m heard latest none
  /-- All has been heard, and the batch knows what the member shows. -/
  | ended {outcome} : m.poller.stage = .ended → m.unheard = [] →
      latest.eqNumber m.poller.progress.get = true → Stands m heard latest (some outcome)

theorem fits_fresh (config : PollerConfig) (model : String) : (fresh config model).Fits [] where
  sound := Poller.sound_new model config
  cell := Poller.cellFits_new model config
  reads := Poller.readsOnly_new _ model config
  tells := rfl
  values := rfl

theorem Fits.after (h : m.Fits heard) (a : Act) : (m.after a).Fits heard where
  sound := h.sound.changes (Life.changes_after m.life a)
  cell := h.cell.changes h.sound (Life.changes_after m.life a)
  reads := Life.readsOnly_after h.sound h.reads a fun _ => Life.isPercent_of_reading?
  tells := by
    rw [Member.after, ← List.append_assoc]
    exact Life.hasTold_after h.sound h.tells a
  values := by
    have told : (m.after a).poller.told =
        ((m.life.passage a).told.filterMap DownloadEvent.progress?).reverse ++ m.poller.told :=
      Life.told_after m.life a
    rw [told, h.values, ← List.reverse_append, ← List.filterMap_append, List.append_assoc]
    rfl

theorem told_of_ended (ended : m.poller.stage = .ended) (a : Act) :
    (m.life.passage a).told = [] := by
  have stage : m.life.poller.stage = .ended := ended
  cases a with
  | go now active => simp [Life.passage, Poller.tells, Poller.next, stage]
  | _ => rfl

theorem Stands.after (h : m.Stands heard latest noted) (a : Act) :
    (m.after a).Stands heard latest noted := by
  have changes := Life.changes_after m.life a
  cases h with
  | going values heardValues known =>
      have model : (m.after a).poller.model = m.poller.model := Poller.model_changes changes
      exact .going values (by rw [model]; exact heardValues) known
  | ended ended silent agrees =>
      obtain ⟨stage, -, progress, -⟩ := Poller.changes_of_ended changes ended
      refine .ended stage ?_ ?_
      · simp [Member.after, silent, told_of_ended ended]
      · rw [poller, Member.after, progress]
        exact agrees

theorem Fits.hears (h : m.Fits heard) (next : m.unheard = event :: rest) :
    (∃ value, event = .progress m.poller.model value) ∨
    (∃ outcome, event = .finished m.poller.model outcome ∧ rest = [] ∧ m.poller.stage = .ended ∧
      m.poller.outcome = some outcome) := by
  have tells := h.tells
  rw [next, Poller.HasTold] at tells
  split at tells
  · next ended =>
      obtain ⟨story, model, outcome, events⟩ := tells
      rcases List.eq_nil_or_concat rest with rfl | ⟨rest, last, rfl⟩
      · obtain ⟨-, same⟩ := List.append_inj' events rfl
        cases same
        exact .inr ⟨story.outcome, by rw [model], rfl, ended, outcome⟩
      · -- only the last event of a story is no value
        rw [List.concat_eq_append, ← List.cons_append, ← List.append_assoc] at events
        have early : event ∈ story.values.map (.progress story.model) := by
          rw [← (List.append_inj' events rfl).1]
          simp
        obtain ⟨value, -, rfl⟩ := List.mem_map.1 early
        exact .inl ⟨value, by rw [model]⟩
  · have early : event ∈ m.poller.told.reverse.map (.progress m.poller.model) := by
      rw [← tells]
      simp
    obtain ⟨value, -, rfl⟩ := List.mem_map.1 early
    exact .inl ⟨value, rfl⟩

theorem Fits.hear (h : m.Fits heard) (next : m.unheard = event :: rest) :
    ({ m with unheard := rest } : Member).Fits (heard ++ [event]) := by
  have all : heard ++ [event] ++ rest = heard ++ m.unheard := by
    rw [next, List.append_assoc, List.singleton_append]
  exact ⟨h.sound, h.cell, h.reads, all ▸ h.tells, all ▸ h.values⟩

theorem Fits.isPercent_lastTold (h : m.Fits heard) : m.poller.lastTold.IsPercent := by
  unfold Poller.lastTold
  cases ht : m.poller.told with
  | nil => exact Binary64.isPercent_zero
  | cons v told => exact h.reads.told v (by simp [ht])

theorem Fits.isPercent (h : m.Fits heard) : m.poller.progress.get.IsPercent := by
  rw [h.cell]
  unfold Poller.seenAt
  split
  · next status known => exact h.reads.completed status known
  · exact h.isPercent_lastTold

theorem Fits.lastTold_of_finished {model : String} {outcome : DownloadOutcome} (h : m.Fits heard)
    (next : m.unheard = [.finished model outcome]) : m.poller.lastTold = lastValue heard := by
  have finished : [DownloadEvent.finished model outcome].filterMap DownloadEvent.progress? = [] :=
    rfl
  rw [Poller.lastTold, h.values, next, List.filterMap_append, finished, List.append_nil,
    List.head?_reverse, lastValue]

theorem Stands.of_unheard (h : m.Stands heard latest noted) (next : m.unheard = event :: rest) :
    noted = none ∧ latest = lastValue heard ∧
      ∃ values : List Binary64, heard = values.map (.progress m.poller.model) := by
  cases h with
  | going values heardValues known => exact ⟨rfl, known, values, heardValues⟩
  | ended _ silent _ =>
      rw [silent] at next
      cases next

theorem Stands.hear {t : Tally} {i : Nat} (fits : m.Fits heard)
    (h : m.Stands heard (t.known i) noted) (kept : t.outcomes[i]? = some noted)
    (placed : i < t.latest.length) (next : m.unheard = event :: rest) :
    ∃ noted', (t.hear i m.poller.progress.get event).1.outcomes[i]? = some noted' ∧
      ({ m with unheard := rest } : Member).Stands (heard ++ [event])
        ((t.hear i m.poller.progress.get event).1.known i) noted' := by
  obtain ⟨rfl, -, values, heardValues⟩ := h.of_unheard next
  rcases fits.hears next with ⟨value, rfl⟩ | ⟨outcome, rfl, rfl, ended, -⟩
  · refine ⟨none, kept, .going (values ++ [value]) ?_ ?_⟩
    · rw [heardValues, List.map_append]
      rfl
    · simp [Tally.hear_progress, Tally.known, placed, lastValue, DownloadEvent.progress?]
  · have inside := (List.getElem?_eq_some_iff.1 kept).1
    refine ⟨some outcome, ?_, .ended ended rfl ?_⟩
    · rw [(Tally.hear_finished t i _ m.poller.model outcome).2.1, List.getElem?_set_self inside]
    · rw [Tally.known, Tally.latest_finished]
      split
      · next same => rwa [Binary64.eqNumber_comm]
      · -- what the handle shows is known from now on, and is a number
        rw [List.getElem?_set_self placed]
        exact Binary64.eqNumber_self fits.isPercent.isNaN_eq_false

end Member

/-! ## The batch with its members -/

theorem heardOf_concat (i : Nat) (heard : List Arrival) (a : Arrival) :
    heardOf i (heard ++ [a]) = heardOf i heard ++ if a.member = i then [a.event] else [] := by
  by_cases same : a.member = i <;> simp [heardOf, same]

theorem Tally.attend_concat {t : Tally} {heard : List Arrival}
    (waits : 0 < (t.attend heard).1.remaining) (i : Nat) (reading : Binary64)
    (event : DownloadEvent) :
    t.attend (heard ++ [⟨i, reading, event⟩]) =
      (((t.attend heard).1.hear i reading event).1,
        (t.attend heard).2 ++ ((t.attend heard).1.hear i reading event).2) := by
  rw [attend_append, attend_cons waits, attend, List.append_nil]

namespace Company

variable {c : Company} {names : List String} {i : Nat} {m : Member} {event : DownloadEvent}
  {rest : List DownloadEvent}

/-- The batch and the member in place `i` agree on what has been heard of it. -/
structure FitsAt (c : Company) (i : Nat) (m : Member) : Prop where
  member : m.Fits (heardOf i c.heard)
  stands : ∃ noted, c.tally.outcomes[i]? = some noted ∧
    m.Stands (heardOf i c.heard) (c.tally.known i) noted

/-- What is true of a batch under way. -/
structure Fits (c : Company) (names : List String) : Prop where
  named : c.members.map (·.poller.model) = names
  counts : c.tally.Counts names.length
  shows : c.tally.Shows names c.told
  members : ∀ i m, c.members[i]? = some m → c.FitsAt i m

theorem fits_start (names : List String) (config : PollerConfig) :
    (start names config).Fits names := by
  have tally : (start names config).tally = .start names.length := by
    simp [Company.tally, start, Tally.attend]
  have fresh : ∀ (i : Nat) m, (start names config).members[i]? = some m →
      i < names.length ∧ ∃ model, m = .fresh config model := by
    intro i m hi
    obtain ⟨model, hm, rfl⟩ := Option.map_eq_some_iff.1 (List.getElem?_map.symm.trans hi)
    exact ⟨(List.getElem?_eq_some_iff.1 hm).1, model, rfl⟩
  refine ⟨(List.map_map ..).trans (List.map_id names), ?_, ?_, fun i m hi => ?_⟩
  · rw [tally]
    exact Tally.counts_start _
  · rw [tally]
    exact Tally.shows_start names
  · obtain ⟨inside, model, rfl⟩ := fresh i m hi
    have known : (start names config).tally.known i = .zero := by
      simp [tally, Tally.known, Tally.start, inside]
    refine ⟨Member.fits_fresh config model, none, by simp [tally, Tally.start, inside], ?_⟩
    exact .going [] rfl known

theorem Fits.waits (h : c.Fits names) (hi : c.members[i]? = some m)
    (next : m.unheard = event :: rest) : 0 < c.tally.remaining := by
  obtain ⟨noted, kept, stands⟩ := (h.members i m hi).stands
  obtain ⟨rfl, -⟩ := stands.of_unheard next
  rw [h.counts.remaining]
  exact List.countP_pos_iff.2 ⟨none, List.mem_of_getElem? kept, rfl⟩

theorem Fits.after_hear (h : c.Fits names) (hi : c.members[i]? = some m)
    (next : m.unheard = event :: rest) :
    c.after (.hear i) =
      ⟨c.members.set i { m with unheard := rest },
        c.heard ++ [⟨i, m.poller.progress.get, event⟩]⟩ := by
  have waits : c.tally.remaining ≠ 0 := Nat.ne_of_gt (h.waits hi next)
  obtain ⟨life, unheard⟩ := m
  cases next
  simp only [after, hi, if_neg waits]
  rfl

theorem Fits.attend_hear (h : c.Fits names) (hi : c.members[i]? = some m)
    (next : m.unheard = event :: rest) :
    (c.after (.hear i)).tally = (c.tally.hear i m.poller.progress.get event).1 ∧
    (c.after (.hear i)).told = c.told ++ (c.tally.hear i m.poller.progress.get event).2 := by
  have heard := Tally.attend_concat (h.waits hi next) i m.poller.progress.get event
  rw [h.after_hear hi next]
  simp only [tally, told, List.length_set, heard]
  exact ⟨trivial, trivial⟩

theorem Fits.name (h : c.Fits names) (hi : c.members[i]? = some m) :
    names[i]? = some m.poller.model := by
  rw [← h.named, List.getElem?_map, hi]
  rfl

section Set

variable {m' : Member} (hi : c.members[i]? = some m)
include hi

theorem forall_set {P : Nat → Member → Prop} (here : P i m')
    (others : ∀ j m, j ≠ i → c.members[j]? = some m → P j m) (j : Nat) (m'' : Member)
    (hj : (c.members.set i m')[j]? = some m'') : P j m'' := by
  by_cases same : i = j
  · subst same
    rw [List.getElem?_set_self (List.getElem?_eq_some_iff.1 hi).1] at hj
    exact Option.some.inj hj ▸ here
  · rw [List.getElem?_set_ne same] at hj
    exact others j m'' (Ne.symm same) hj

theorem map_set {α : Type} {f : Member → α} (same : f m' = f m) :
    (c.members.set i m').map f = c.members.map f := by
  refine List.ext_getElem? fun j => ?_
  rw [List.getElem?_map, List.getElem?_map]
  by_cases here : i = j
  · subst here
    rw [List.getElem?_set_self (List.getElem?_eq_some_iff.1 hi).1, hi]
    exact congrArg some same
  · rw [List.getElem?_set_ne here]

end Set

theorem tally_act (c : Company) (i : Nat) (a : Act) :
    (c.after (.act i a)).tally = c.tally ∧ (c.after (.act i a)).told = c.told ∧
      (c.after (.act i a)).heard = c.heard := by
  simp only [after]
  split
  · simp [tally, told]
  · exact ⟨rfl, rfl, rfl⟩

theorem Fits.act (h : c.Fits names) (hi : c.members[i]? = some m) (a : Act) :
    (c.after (.act i a)).Fits names := by
  obtain ⟨tally, told, heard⟩ := tally_act c i a
  have members : (c.after (.act i a)).members = c.members.set i (m.after a) := by
    simp only [after, hi]
  have same : ∀ j m', c.FitsAt j m' → (c.after (.act i a)).FitsAt j m' := fun j m' fits =>
    ⟨by rw [heard]; exact fits.member, by rw [tally, heard]; exact fits.stands⟩
  refine ⟨?_, by rw [tally]; exact h.counts, by rw [tally, told]; exact h.shows, ?_⟩
  · rw [members, ← h.named]
    exact map_set hi (Poller.model_changes (Life.changes_after m.life a))
  · rw [members]
    refine forall_set hi (same _ _ ?_) fun j m' _ hj => same j m' (h.members j m' hj)
    obtain ⟨member, noted, kept, stands⟩ := h.members i m hi
    exact ⟨member.after a, noted, kept, stands.after a⟩

theorem Fits.hear (h : c.Fits names) (distinct : names.Nodup) (hi : c.members[i]? = some m)
    (next : m.unheard = event :: rest) : (c.after (.hear i)).Fits names := by
  obtain ⟨member, noted, kept, stands⟩ := h.members i m hi
  obtain ⟨tally, told⟩ := h.attend_hear hi next
  have after := h.after_hear hi next
  have heard : ∀ j, heardOf j (c.after (.hear i)).heard =
      heardOf j c.heard ++ if i = j then [event] else [] := fun j => by
    rw [after, heardOf_concat]
  have name : names[i]? = some event.model := by
    rw [h.name hi]
    rcases member.hears next with ⟨value, rfl⟩ | ⟨outcome, rfl, -⟩ <;> rfl
  have inside : i < names.length := (List.getElem?_eq_some_iff.1 name).1
  refine ⟨?_, ?_, ?_, ?_⟩
  · rw [after, ← h.named]
    exact map_set hi rfl
  · rw [tally]
    exact h.counts.hear inside _ event
  · rw [tally, told]
    exact h.shows.hear h.counts distinct name _
  · have members : (c.after (.hear i)).members = c.members.set i { m with unheard := rest } := by
      rw [after]
    rw [members]
    refine forall_set hi ⟨?_, ?_⟩ fun j m' apart hj => ⟨?_, ?_⟩
    · rw [heard, if_pos rfl]
      exact member.hear next
    · rw [tally, heard, if_pos rfl]
      exact stands.hear member kept (h.counts.latest ▸ inside) next
    · rw [heard, if_neg (Ne.symm apart), List.append_nil]
      exact (h.members j m' hj).member
    · rw [tally, heard, if_neg (Ne.symm apart), List.append_nil, (Tally.hear_of_ne apart).1,
        Tally.known, (Tally.hear_of_ne apart).2]
      exact (h.members j m' hj).stands

theorem after_hear_of_nothing (nothing : ∀ m, c.members[i]? = some m → m.unheard = []) :
    c.after (.hear i) = c := by
  cases hi : c.members[i]? with
  | none => simp only [after, hi]
  | some m =>
      obtain ⟨life, unheard⟩ := m
      obtain rfl : unheard = [] := nothing _ hi
      simp only [after, hi]

theorem Fits.after (h : c.Fits names) (distinct : names.Nodup) (s : Happening) :
    (c.after s).Fits names := by
  cases s with
  | act i a =>
      cases hi : c.members[i]? with
      | some m => exact h.act hi a
      | none => simpa only [Company.after, hi] using h
  | hear i =>
      by_cases nothing : ∀ m, c.members[i]? = some m → m.unheard = []
      · rwa [after_hear_of_nothing nothing]
      · obtain ⟨m, hi, unheard⟩ : ∃ m, c.members[i]? = some m ∧ m.unheard ≠ [] := by
          simpa using nothing
        obtain ⟨event, rest, next⟩ := List.exists_cons_of_ne_nil unheard
        exact h.hear distinct hi next

theorem Fits.afterAll (h : c.Fits names) (distinct : names.Nodup) (happenings : List Happening) :
    (c.afterAll happenings).Fits names := by
  induction happenings generalizing c with
  | nil => exact h
  | cons s happenings ih => exact ih (h.after distinct s)

/-- The batch hears out a member: all that the member has told so far, in one go. -/
theorem Fits.attend_hearOut (h : c.Fits names) (distinct : names.Nodup)
    (hi : c.members[i]? = some m) :
    let c' := c.afterAll (List.replicate m.unheard.length (.hear i))
    let arrivals := m.unheard.map fun event => ⟨i, m.poller.progress.get, event⟩
    c'.tally = (c.tally.attend arrivals).1 ∧ c'.told = c.told ++ (c.tally.attend arrivals).2 ∧
      c'.members.map Member.poller = c.members.map Member.poller := by
  generalize hevents : m.unheard = events
  induction events generalizing c m with
  | nil => exact ⟨rfl, (List.append_nil _).symm, rfl⟩
  | cons event rest ih =>
      obtain ⟨tally, told⟩ := h.attend_hear hi hevents
      have members : (c.after (.hear i)).members = c.members.set i { m with unheard := rest } := by
        rw [h.after_hear hi hevents]
      have placed : (c.after (.hear i)).members[i]? = some { m with unheard := rest } := by
        rw [members, List.getElem?_set_self (List.getElem?_eq_some_iff.1 hi).1]
      obtain ⟨tallyLater, toldLater, pollers⟩ := ih (h.hear distinct hi hevents) placed rfl
      simp only [tally, told] at tallyLater toldLater
      simp only [List.map_cons, Tally.attend_cons (h.waits hi hevents)]
      refine ⟨tallyLater, toldLater.trans (List.append_assoc ..), pollers.trans ?_⟩
      rw [members]
      exact map_set hi rfl

/-- A batch that runs and hears out a member is this batch under way: it has the same pollers and
the same tally, and tells the same. The last word on the last member is followed by the report. -/
theorem Fits.hearAll (h : c.Fits names) (distinct : names.Nodup) (hi : c.members[i]? = some m) :
    let c' := c.afterAll (List.replicate m.unheard.length (.hear i))
    (c.batch.hearAll i m.unheard).1 = c'.batch ∧
    c.told ++ (c.batch.hearAll i m.unheard).2 = c'.told ++
      if c.tally.remaining ≠ 0 ∧ c'.tally.remaining = 0 then [.finished c'.batch.report]
      else [] := by
  obtain ⟨tally, told, pollers⟩ := h.attend_hearOut distinct hi
  have shown : ((c.batch.pollers[i]?).map (·.progress.get)).getD .zero = m.poller.progress.get := by
    simp [batch, hi]
  intro c'
  have later : c'.batch = { c.batch with tally := c'.tally } :=
    congrArg (Batch.mk · c'.tally) pollers
  have same : (c.batch.hearAll i m.unheard).1 = c'.batch := by
    rw [later, tally]
    simp only [Batch.hearAll, shown]
    rfl
  refine ⟨same, ?_⟩
  rw [← same, told, tally, List.append_assoc]
  simp only [Batch.hearAll, shown]
  rfl

end Company

end ModelDepot.Batch
