import ModelDepot.Proofs.Poller.Life
import ModelDepot.Proofs.Poller.Standing

/-! # Lives on a clock

The acts of a poller's life with the instants at which they happen. The clock never goes back. A
poller that goes on reads the clock; a call takes as long as it takes, so its answer may come at any
later instant. Once the start has noted its instant, that instant stays.
-/

namespace ModelDepot

/-- What a poller reads off the clock when it goes on. -/
def Act.now? : Act → Option Nat
  | .go now _ => some now
  | _ => none

structure Dated where
  instant : Nat
  act : Act
  /-- A poller that goes on reads this instant. -/
  reads : ∀ now, act.now? = some now → now = instant

namespace Dated

def go (now : Nat) (active : ActiveDownloads) : Dated :=
  ⟨now, .go now active, fun _ h => (Option.some.inj h).symm⟩

def others (instant : Nat) (act : Act) (still : act.now? = none := by rfl) : Dated :=
  ⟨instant, act, fun _ h => by rw [still] at h; cases h⟩

theorem exists_go {d : Dated} (h : d.act.now?.isSome = true) :
    ∃ active, d.act = .go d.instant active := by
  obtain ⟨instant, act, reads⟩ := d
  cases act with
  | go now active =>
      obtain rfl : now = instant := reads now rfl
      exact ⟨active, rfl⟩
  | _ => cases h

end Dated

abbrev Chronicle := List Dated

namespace Chronicle

def acts (c : Chronicle) : List Act :=
  c.map Dated.act

/-- The clock never goes back. -/
def OnClock (c : Chronicle) : Prop :=
  c.Pairwise fun d e => d.instant ≤ e.instant

instance (c : Chronicle) : Decidable c.OnClock :=
  inferInstanceAs (Decidable (c.Pairwise _))

def turns (c : Chronicle) : Nat :=
  c.countP fun d => d.act.now?.isSome

def IsStill (c : Chronicle) : Prop :=
  ∀ d ∈ c, d.act.now? = none

@[simp] theorem acts_append (c more : Chronicle) : acts (c ++ more) = c.acts ++ acts more :=
  List.map_append

@[simp] theorem acts_cons (d : Dated) (c : Chronicle) : acts (d :: c) = d.act :: c.acts := rfl

@[simp] theorem turns_nil : turns [] = 0 := rfl

theorem turns_cons (d : Dated) (c : Chronicle) :
    turns (d :: c) = c.turns + if d.act.now?.isSome then 1 else 0 :=
  List.countP_cons

theorem turns_append (c more : Chronicle) : turns (c ++ more) = c.turns + turns more :=
  List.countP_append

theorem OnClock.le_of_split {c before later : Chronicle} {d e : Dated} (clock : OnClock c)
    (split : c = before ++ d :: later) (he : e ∈ later) : d.instant ≤ e.instant := by
  subst split
  exact (List.pairwise_cons.1 (List.pairwise_append.1 clock).2.1).1 e he

end Chronicle

def Stage.hasEntered : Stage → Bool
  | .idle | .entering => false
  | _ => true

/-- A poller that goes on at this stage gets on. -/
def Stage.isBusy : Stage → Bool
  | .idle | .started | .ended | .requesting | .calling | .napping _ => false
  | _ => true

namespace Poller

variable {p p' : Poller}

theorem entered_changes {noted : Option Nat} (hc : p.Changes p')
    (h : p.stage.hasEntered = true ∧ p.startedAt = noted) :
    p'.stage.hasEntered = true ∧ p'.startedAt = noted := by
  obtain ⟨entered, rfl⟩ := h
  cases hc with
  | none | run | halt => exact ⟨entered, rfl⟩
  | start hs | startRun hs => simp [hs, Stage.hasEntered] at entered
  | startAnswered _ _ | statusAnswered _ _ => exact ⟨rfl, rfl⟩
  | move hm =>
      cases hm with
      | enter hs | enterStopped hs => simp [hs, Stage.hasEntered] at entered
      | _ => simp [Stage.hasEntered]

theorem deadline_of_startedAt {s : Nat} (hs : p.startedAt = some s)
    (near : s + p.config.timeout.nanos < endOfTime) (now : Nat) :
    p.deadline now = some (s + p.config.timeout.nanos) := by
  simp [deadline, hs, near]

theorem isExpired_iff {s now : Nat} (hs : p.startedAt = some s) :
    p.isExpired now = true ↔
      s + p.config.timeout.nanos < endOfTime ∧ s + p.config.timeout.nanos ≤ now := by
  by_cases near : s + p.config.timeout.nanos < endOfTime <;> simp [isExpired, deadline, hs, near]

end Poller

namespace Life

variable {l : Life} {c before later : Chronicle} {s : Nat}

def through (l : Life) (c : Chronicle) : Life :=
  l.afterAll c.acts

@[simp] theorem through_nil : l.through [] = l := rfl

@[simp] theorem through_cons (d : Dated) : l.through (d :: c) = (l.after d.act).through c := rfl

theorem through_append (more : Chronicle) :
    l.through (c ++ more) = (l.through c).through more := by
  simp only [through, Chronicle.acts_append, afterAll_append]

theorem through_concat (d : Dated) : l.through (c ++ [d]) = (l.through c).after d.act :=
  through_append [d]

/-- What no act can undo holds to the end of a chronicle. -/
theorem through_of_changes {P : Poller → Prop}
    (kept : ∀ {p p'}, Poller.Changes p p' → P p → P p') (h : P l.poller) (c : Chronicle) :
    P (l.through c).poller :=
  afterAll_of_changes kept h c.acts

theorem sound_through (sound : l.poller.Sound) (c : Chronicle) : (l.through c).poller.Sound :=
  sound_afterAll sound c.acts

/-- The poller's start notes the instant `s`. -/
def StartsAt (l : Life) (c : Chronicle) (s : Nat) : Prop :=
  ∃ before d later active, c = before ++ d :: later ∧ d.act = .go s active ∧
    (l.through before).poller.stage = .entering

theorem config_through (l : Life) (c : Chronicle) :
    (l.through c).poller.config = l.poller.config :=
  through_of_changes (P := fun p => p.config = l.poller.config)
    (fun hc hp => (Poller.config_changes hc).trans hp) rfl c

theorem entered_through (entered : l.poller.stage.hasEntered = true) (c : Chronicle) :
    (l.through c).poller.stage.hasEntered = true ∧
    (l.through c).poller.startedAt = l.poller.startedAt :=
  through_of_changes
    (P := fun p => p.stage.hasEntered = true ∧ p.startedAt = l.poller.startedAt)
    Poller.entered_changes ⟨entered, rfl⟩ c

theorem entered_of_entering (s : Nat) (active : ActiveDownloads) (hs : l.poller.stage = .entering) :
    (l.after (.go s active)).poller.stage.hasEntered = true ∧
    (l.after (.go s active)).poller.startedAt = some s := by
  cases hg : l.poller.gate.isStopped
  · have moved := Poller.go_of_moves (Poller.Moves.enter hs hg : Poller.Moves s active _ _ _ _)
    exact ⟨by rw [after, moved]; rfl, by rw [after, moved]⟩
  · have moved :=
      Poller.go_of_moves (Poller.Moves.enterStopped hs hg : Poller.Moves s active _ _ _ _)
    exact ⟨by rw [after, moved]; rfl, by rw [after, moved]⟩

theorem StartsAt.startedAt (starts : l.StartsAt c s) (split : c = before ++ later)
    (entered : (l.through before).poller.stage.hasEntered = true) :
    (l.through before).poller.startedAt = some s := by
  obtain ⟨first, d, rest, active, hc, hd, hs⟩ := starts
  rw [hc] at split
  -- the start comes behind `before`, right at its end, or within it
  rcases List.append_eq_append_iff.1 split with ⟨between, rfl, hrest⟩ | ⟨between, rfl, hrest⟩
  · cases between with
    | nil => simp [hs, Stage.hasEntered] at entered
    | cons e between =>
        cases hrest
        rw [through_append, through_cons, hd]
        obtain ⟨enteredThen, noted⟩ := entered_of_entering s active hs
        exact (entered_through enteredThen between).2.trans noted
  · rw [through_append] at hs
    have late := (entered_through entered between).1
    simp [hs, Stage.hasEntered] at late

end Life

/-! ## One act -/

namespace Life

variable {l : Life} {a : Act}

theorem dated_cases (l : Life) (d : Dated) :
    (∃ active active' told, d.act = .go d.instant active ∧
      Poller.Moves d.instant active l.poller (l.after d.act).poller active' told) ∨
    (l.poller.stage.isBusy = false ∧ (l.after d.act).poller = l.poller) ∨
    d.act.now? = none := by
  cases goes : d.act.now? with
  | none => exact .inr (.inr rfl)
  | some now =>
      obtain ⟨active, acts⟩ := Dated.exists_go (by rw [goes]; rfl)
      rw [acts]
      rcases Poller.next_cases l.poller d.instant active with ⟨p', active', told, hm⟩ |
        ⟨_, hc, hn⟩ | ⟨_, hs, _, _, hn⟩ | ⟨hr, hn⟩
      · refine .inl ⟨active, active', told, rfl, ?_⟩
        simpa only [after, Poller.go_of_moves hm] using hm
      · refine .inr (.inl ⟨?_, by simp [after, Poller.go, hn]⟩)
        cases hs : l.poller.stage <;> simp_all [Poller.call?, Stage.isBusy]
      · exact .inr (.inl ⟨by rw [hs]; rfl, by simp [after, Poller.go, hn]⟩)
      · refine .inr (.inl ⟨?_, by simp [after, Poller.go, hn]⟩)
        rcases hr with hs | hs | ⟨hs, _⟩ <;> simp [hs, Stage.isBusy]

/-- Others move a poller on only where it waits for them. -/
theorem stage_of_still (still : a.now? = none) :
    (l.after a).poller.stage = l.poller.stage ∨
    l.poller.stage = .idle ∧ (l.after a).poller.stage = .entering ∨
    l.poller.stage = .requesting ∧ (∃ reply, (l.after a).poller.stage = .answered reply) ∨
    l.poller.stage = .calling ∧ ∃ reply, (l.after a).poller.stage = .received reply := by
  cases a with
  | go now active => cases still
  | start =>
      simp only [after, Poller.requestStart]
      split
      · next hs => exact .inr (.inl ⟨hs, rfl⟩)
      · exact .inl rfl
  | run =>
      simp only [after, Poller.requestRun, Poller.requestStart]
      split
      · next hs => exact .inr (.inl ⟨hs, rfl⟩)
      · exact .inl rfl
  | answer reply =>
      simp only [after, Poller.receive]
      split
      · next hs => exact .inr (.inr (.inl ⟨hs, _, rfl⟩))
      · next hs => exact .inr (.inr (.inr ⟨hs, _, rfl⟩))
      · exact .inl rfl
  | look =>
      simp only [after]
      split <;> exact .inl rfl
  | close =>
      simp only [after]
      split <;> exact .inl rfl

theorem stage_of_still_of_isBusy (still : a.now? = none) (busy : l.poller.stage.isBusy = true) :
    (l.after a).poller.stage = l.poller.stage := by
  rcases stage_of_still (l := l) still with same | ⟨hs, _⟩ | ⟨hs, _⟩ | ⟨hs, _⟩
  · exact same
  all_goals simp [hs, Stage.isBusy] at busy

theorem exists_of_still (still : a.now? = none) :
    ∃ stage gate isRunning, (l.after a).poller = { l.poller with stage, gate, isRunning } := by
  cases a with
  | go now active => cases still
  | start =>
      simp only [after, Poller.requestStart]
      split <;> exact ⟨_, _, _, rfl⟩
  | run =>
      simp only [after, Poller.requestRun, Poller.requestStart]
      split <;> exact ⟨_, _, _, rfl⟩
  | answer reply =>
      simp only [after, Poller.receive]
      split <;> exact ⟨_, _, _, rfl⟩
  | look | close =>
      simp only [after]
      split <;> exact ⟨_, _, _, rfl⟩

theorem startedAt_of_still (still : a.now? = none) :
    (l.after a).poller.startedAt = l.poller.startedAt := by
  obtain ⟨_, _, _, same⟩ := exists_of_still (l := l) still
  rw [same]

theorem told_of_still (still : a.now? = none) : (l.after a).poller.told = l.poller.told := by
  obtain ⟨_, _, _, same⟩ := exists_of_still (l := l) still
  rw [same]

theorem known_of_still (still : a.now? = none) :
    (l.after a).poller.known = l.poller.known := by
  obtain ⟨_, _, _, same⟩ := exists_of_still (l := l) still
  have outcome : (l.after a).poller.outcome = l.poller.outcome := by rw [same]
  simp only [Poller.known, outcome]
  rcases stage_of_still (l := l) still with same | ⟨hs, hs'⟩ | ⟨hs, _, hs'⟩ | ⟨hs, _, hs'⟩
  · rw [same]
  all_goals simp [hs, hs', Stage.pending?]

end Life

end ModelDepot
