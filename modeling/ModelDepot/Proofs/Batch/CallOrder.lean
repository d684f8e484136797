import ModelDepot.Proofs.Batch.Launch
import ModelDepot.Proofs.Claims.Ledger

/-! # The calls of a batch

What the log of a venture says: which members are started, who is polled and who is not, and what is
reported of those whose start has failed.
-/

namespace ModelDepot.Batch

/-- The two notes of a start that is over. -/
def answeredStart (model : String) : List Note :=
  [.made (.startDownload model), .answered (.startDownload model)]

def startedName (p : Poller) : List String :=
  if startNotes p = [] then [] else [p.model]

theorem startNotes_cases (p : Poller) :
    startNotes p = [] ∨ startNotes p = [.made (.startDownload p.model)] ∨
      startNotes p = answeredStart p.model := by
  unfold startNotes
  split
  all_goals try exact .inl rfl
  · exact .inr (.inl rfl)
  · split
    · exact .inl rfl
    · exact .inr (.inr rfl)

theorem made_startNotes (p : Poller) :
    (startNotes p).filterMap Note.made? = (startedName p).map .startDownload := by
  unfold startedName
  rcases startNotes_cases p with h | h | h <;> simp [h, answeredStart, Note.made?]

theorem startNotes_eq_answered {p : Poller} (launched : p.stage.isLaunched = true) :
    startNotes p = (startedName p).flatMap answeredStart := by
  rw [startedName, startNotes_of_launched launched]
  split <;> simp [answeredStart]

theorem startNotes_of_refused {p : Poller} (sound : p.Sound)
    (refused : p.stage.isUnclaimed = true ∨ p.known = some (.failed .alreadyActive)) :
    startNotes p = [] := by
  have ho := sound.outcome
  rcases refused with unclaimed | known
  · cases hs : p.stage <;> simp_all [startNotes, Stage.isUnclaimed]
  · unfold startNotes
    split
    · rfl
    · rfl
    · rfl
    · rfl
    · next hs => simp_all [Poller.known, Poller.OutcomeFits, Stage.pending?]
    · rw [if_pos known]

namespace Venture

variable {v : Venture} {names : List String} {i : Nat} {p p' : Poller} {e : Event}

def hasStarted (v : Venture) : Bool :=
  v.phase matches .running _

/-- What is true of a venture at every moment. -/
structure Orderly (v : Venture) (names : List String) : Prop where
  fits : v.company.Fits names
  honest : v.company.Honest names
  inPhase : v.InPhase
  logs : v.Logs

theorem orderly_start (names : List String) (config : PollerConfig) (held : ActiveDownloads) :
    (start names config held).Orderly names where
  fits := fits_start names config held
  honest := Company.honest_start names config
  inPhase := inPhase_start names config held
  logs := by
    refine ⟨[], ?_, nofun⟩
    have silent : (start names config held).startLog = [] := by
      refine List.flatMap_eq_nil_iff.2 fun l hl => ?_
      obtain ⟨m, hm, rfl⟩ := List.mem_map.1 hl
      obtain ⟨model, -, rfl⟩ := List.mem_map.1 hm
      rfl
    rw [silent]
    rfl

theorem Orderly.after (h : v.Orderly names) (distinct : names.Nodup) (e : Event) :
    (v.after e).Orderly names where
  fits := fits_after h.fits distinct e
  honest := by
    simp only [Venture.after]
    cases v.happening e with
    | none => exact h.honest
    | some s => exact h.honest.after h.fits s
  inPhase := h.inPhase.after e
  logs := h.logs.after h.fits distinct h.inPhase e

theorem Orderly.afterAll (h : v.Orderly names) (distinct : names.Nodup) (events : List Event) :
    (v.afterAll events).Orderly names := by
  induction events generalizing v with
  | nil => exact h
  | cons e events ih => exact ih (h.after distinct e)

/-! ## Starts and status calls -/

theorem starts_of_made {as bs : List String}
    (h : v.made = as.map .startDownload ++ bs.map .downloadStatus) :
    v.starts = as ∧ v.statuses = bs := by
  rw [starts, statuses, h]
  constructor
  · simp [List.filterMap_append, List.filterMap_map]
  · simp [List.filterMap_append, List.filterMap_map]

theorem exists_polled {f : Note → Option Call} {polls : List Note}
    (hf : ∀ note c, f note = some c → note = .made c ∨ note = .answered c)
    (h : ∀ note ∈ polls, v.IsPoll note) :
    ∃ polled : List String, polls.filterMap f = polled.map .downloadStatus ∧
      ∀ m ∈ polled, v.IsPoll (.made (.downloadStatus m)) := by
  induction polls with
  | nil => exact ⟨[], rfl, nofun⟩
  | cons note polls ih =>
      obtain ⟨polled, shown, all⟩ := ih fun n hn => h n (List.mem_cons_of_mem note hn)
      cases hn : f note with
      | none => exact ⟨polled, by rw [List.filterMap_cons_none hn, shown], all⟩
      | some c =>
          obtain ⟨i, p, hi, launched, runs, accepted, noted⟩ := h note List.mem_cons_self
          obtain rfl : c = .downloadStatus p.model := by
            rcases hf note c hn with rfl | rfl <;> simpa using noted
          refine ⟨p.model :: polled, by rw [List.filterMap_cons_some hn, shown]; rfl,
            List.forall_mem_cons.2 ⟨?_, all⟩⟩
          exact ⟨i, p, hi, launched, runs, accepted, .inl rfl⟩

def startedNames (v : Venture) : List String :=
  v.company.lives.flatMap fun l => startedName l.poller

theorem made_startLog (v : Venture) :
    v.startLog.filterMap Note.made? = v.startedNames.map .startDownload := by
  rw [startLog, startedNames, List.filterMap_flatMap, List.map_flatMap]
  congr 1
  funext l
  exact made_startNotes l.poller

/-- What the log says about starts and status calls. -/
theorem Orderly.calls (h : v.Orderly names) :
    v.made = v.starts.map .startDownload ++ v.statuses.map .downloadStatus ∧
      v.starts = v.startedNames ∧ ∀ m ∈ v.statuses, v.IsPoll (.made (.downloadStatus m)) := by
  obtain ⟨polls, log, arePolls⟩ := h.logs
  obtain ⟨polled, made, all⟩ := exists_polled Note.eq_of_made? arePolls
  have split : v.made = v.startedNames.map .startDownload ++ polled.map .downloadStatus := by
    rw [Venture.made, log, List.filterMap_append, made_startLog, made]
  obtain ⟨hs, hp⟩ := starts_of_made split
  exact ⟨by rw [hs, hp, split], hs, by rwa [hp]⟩

theorem Orderly.starts_sublist (h : v.Orderly names) : v.starts.Sublist names := by
  rw [h.calls.2.1, startedNames, ← h.fits.named]
  have named : v.company.members.map (·.poller.model) =
      v.company.lives.map fun l => l.poller.model := by
    rw [Company.lives, List.map_map]
    rfl
  rw [named]
  refine flatMap_sublist_map (fun l => ?_) v.company.lives
  unfold startedName
  split
  · exact .inl rfl
  · exact .inr rfl

theorem launched_of_hasStarted (inPhase : v.InPhase) (started : v.hasStarted = true)
    (hi : v.poller? i = some p) : p.stage.isLaunched = true := by
  have stands := inPhase i p hi
  cases hp : v.phase with
  | starting asked => simp [hasStarted, hp] at started
  | running spawned =>
      rw [hp] at stands
      exact stands.1

theorem hasStarted_of_isRunning (inPhase : v.InPhase) (hi : v.poller? i = some p)
    (runs : p.isRunning = true) : v.hasStarted = true := by
  have stands := inPhase i p hi
  cases hp : v.phase with
  | starting asked =>
      rw [hp] at stands
      rw [stands.2.1] at runs
      cases runs
  | running spawned => simp [hasStarted, hp]

theorem Orderly.log_of_hasStarted (h : v.Orderly names) (started : v.hasStarted = true) :
    ∃ polls, v.log = v.starts.flatMap answeredStart ++ polls ∧
      ∀ note ∈ polls, v.IsPoll note := by
  obtain ⟨polls, log, arePolls⟩ := h.logs
  refine ⟨polls, ?_, arePolls⟩
  have same : v.startLog = v.starts.flatMap answeredStart := by
    rw [h.calls.2.1, startedNames, startLog, List.flatMap_assoc]
    refine List.flatMap_congr fun l hl => ?_
    obtain ⟨k, hk⟩ := List.mem_iff_getElem?.1 hl
    have hk' : v.poller? k = some l.poller := by rw [poller?, life?, hk]; rfl
    exact startNotes_eq_answered (launched_of_hasStarted h.inPhase started hk')
  rw [log, same]

theorem Orderly.hasStarted_of_polled (h : v.Orderly names) (polled : v.statuses ≠ []) :
    v.hasStarted = true := by
  obtain ⟨m, hm⟩ := List.exists_mem_of_ne_nil _ polled
  obtain ⟨i, p, hi, -, runs, -⟩ := h.calls.2.2 m hm
  exact hasStarted_of_isRunning h.inPhase hi runs

theorem Orderly.mem_starts_iff (h : v.Orderly names) (distinct : names.Nodup)
    (hi : v.poller? i = some p) : p.model ∈ v.starts ↔ startNotes p ≠ [] := by
  rw [h.calls.2.1, startedNames, List.mem_flatMap]
  constructor
  · rintro ⟨l, hl, hm⟩
    obtain ⟨k, hk⟩ := List.mem_iff_getElem?.1 hl
    have hk' : v.poller? k = some l.poller := by rw [poller?, life?, hk]; rfl
    rw [startedName] at hm
    split at hm
    · cases hm
    · next called =>
        have same : k = i := by
          by_contra apart
          exact model_ne h.fits distinct hi hk' apart (List.mem_singleton.1 hm).symm
        subst same
        obtain rfl : p = l.poller := Option.some.inj (hi.symm.trans hk')
        exact called
  · intro called
    obtain ⟨l, hl, rfl⟩ := Option.map_eq_some_iff.1 hi
    refine ⟨l, List.mem_of_getElem? hl, ?_⟩
    rw [startedName, if_neg called]
    exact List.mem_singleton_self _

/-- Behind the starts, the members whose name was not held are those that were started. -/
theorem Orderly.mem_starts_iff_of_hasStarted (h : v.Orderly names) (distinct : names.Nodup)
    (started : v.hasStarted = true) (hi : v.poller? i = some p) :
    p.model ∈ v.starts ↔ p.known ≠ some (.failed .alreadyActive) := by
  rw [h.mem_starts_iff distinct hi,
    startNotes_of_launched (launched_of_hasStarted h.inPhase started hi)]
  split <;> simp_all

/-- A member whose start has failed is never asked about. -/
theorem Orderly.not_polled (h : v.Orderly names) (distinct : names.Nodup)
    (hi : v.poller? i = some p) (failed : p.StartFailed) : p.model ∉ v.statuses := by
  intro polled
  obtain ⟨k, q, hk, -, -, accepted, note⟩ := h.calls.2.2 _ polled
  have model : q.model = p.model := by
    rcases note with note | note
    · simpa using note.symm
    · cases note
  have same : k = i := by
    by_contra apart
    exact model_ne h.fits distinct hi hk apart model
  subst same
  obtain rfl : p = q := Option.some.inj (hi.symm.trans hk)
  exact accepted failed

end Venture
end ModelDepot.Batch
