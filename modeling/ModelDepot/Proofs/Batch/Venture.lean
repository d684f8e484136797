import ModelDepot.Proofs.Batch.Reporting
import ModelDepot.Proofs.Claims.Exclusive

/-! # A batch on a client that others use too

The whole of a batch from the request for its first start on. The owner starts the members one after
the other and then lets them run; the members go on, are answered and are heard side by side, and
others claim and release names on the same client. Any order of events is a venture. Its calls are
kept in a log.
-/

namespace ModelDepot.Batch

inductive Phase where
  /-- So many members have been asked to start, each when the start before it was over. -/
  | starting (asked : Nat)
  /-- All starts are over, and so many members have been let run. -/
  | running (spawned : Nat)

/-- What shows of a call. -/
inductive Note where
  | made (c : Call)
  | answered (c : Call)
  deriving DecidableEq

/-- A batch under way and its surroundings. -/
structure Venture where
  company : Company
  /-- The names that are held on the client. -/
  active : ActiveDownloads
  phase : Phase
  /-- All calls of the batch so far. -/
  log : List Note

inductive Event where
  /-- The owner goes on with the start of the batch. -/
  | proceed
  /-- The task of the member in place `i` goes on. -/
  | go (i now : Nat)
  /-- The call that the member in place `i` is making is answered. -/
  | answer (i : Nat) (reply : Reply)
  /-- A stop looks where the member in place `i` stands. -/
  | look (i : Nat)
  /-- A stop closes the gate of the member in place `i`. -/
  | close (i : Nat)
  /-- The batch hears the next event of the member in place `i`. -/
  | hear (i : Nat)
  /-- Someone else claims a name. -/
  | claim (name : String)
  /-- Someone else gives a name back. -/
  | giveBack (name : String)

namespace Note

def made? : Note → Option Call
  | made c => some c
  | answered _ => none

def answered? : Note → Option Call
  | made _ => none
  | answered c => some c

theorem eq_of_made? (note : Note) (c : Call) (h : note.made? = some c) :
    note = .made c ∨ note = .answered c := by
  cases note <;> simp_all [made?]

theorem eq_of_answered? (note : Note) (c : Call) (h : note.answered? = some c) :
    note = .made c ∨ note = .answered c := by
  cases note <;> simp_all [answered?]

end Note

/-- The call that a poller begins when it goes on. -/
def callBegun (p : Poller) (now : Nat) (active : ActiveDownloads) : List Note :=
  if p.call?.isSome then [] else (p.go now active).call?.toList.map .made

namespace Venture

/-- A batch of which nothing has been asked, on a client of which some names are held. -/
def start (members : List String) (config : PollerConfig) (held : ActiveDownloads) : Venture :=
  ⟨.start members config, held, .starting 0, []⟩

def life? (v : Venture) (i : Nat) : Option Life :=
  v.company.lives[i]?

def poller? (v : Venture) (i : Nat) : Option Poller :=
  (v.life? i).map Life.poller

def isReady (v : Venture) (asked : Nat) : Bool :=
  asked == 0 || (v.poller? (asked - 1)).any fun p => p.stage matches .started

/-- All members have been let run; the owner has its batch. -/
def isUnderway (v : Venture) : Bool :=
  match v.phase with
  | .starting _ => false
  | .running spawned => v.company.members.length ≤ spawned

def happening (v : Venture) : Event → Option Happening
  | .proceed =>
    match v.phase with
    | .starting asked => if v.isReady asked then some (.act asked .start) else none
    | .running spawned => some (.act spawned .run)
  | .go i now => some (.act i (.go now v.active))
  | .answer i reply => some (.act i (.answer reply))
  | .look i => if v.isUnderway then some (.act i .look) else none
  | .close i => if v.isUnderway then some (.act i .close) else none
  | .hear i => if v.isUnderway then some (.hear i) else none
  | .claim _ | .giveBack _ => none

def isOurs (v : Venture) (name : String) : Bool :=
  v.company.members.any fun m => m.poller.holdsName && m.poller.model == name

/-- The names that are held after an event. Others give back only what no member holds. -/
def activeAfter (v : Venture) : Event → ActiveDownloads
  | .go i now => (v.poller? i).elim v.active fun p => p.leaves now v.active
  | .claim name => (v.active.claim name).getD v.active
  | .giveBack name => if v.isOurs name then v.active else v.active.release name
  | _ => v.active

def phaseAfter (v : Venture) : Event → Phase
  | .proceed =>
    match v.phase with
    | .starting asked =>
      if v.isReady asked then
        if asked < v.company.members.length then .starting (asked + 1) else .running 0
      else v.phase
    | .running spawned =>
      if spawned < v.company.members.length then .running (spawned + 1) else v.phase
  | _ => v.phase

def notes (v : Venture) : Event → List Note
  | .go i now => (v.poller? i).elim [] fun p => callBegun p now v.active
  | .answer i _ => (v.poller? i).elim [] fun p => p.call?.toList.map .answered
  | _ => []

def after (v : Venture) (e : Event) : Venture where
  company := (v.happening e).elim v.company v.company.after
  active := v.activeAfter e
  phase := v.phaseAfter e
  log := v.log ++ v.notes e

def afterAll (v : Venture) (events : List Event) : Venture :=
  events.foldl after v

def made (v : Venture) : List Call :=
  v.log.filterMap Note.made?

def starts (v : Venture) : List String :=
  v.made.filterMap fun
    | .startDownload model => some model
    | _ => none

/-- The members for which status calls were made, once for each call. -/
def statuses (v : Venture) : List String :=
  v.made.filterMap fun
    | .downloadStatus model => some model
    | _ => none

/-- What an event does to the member in place `i`. -/
def actOn (v : Venture) (i : Nat) (e : Event) : Option Act :=
  match v.happening e with
  | some (.act j a) => if j = i then some a else none
  | _ => none

variable {v : Venture} {names : List String} {i j : Nat} {l : Life} {p p' : Poller} {e : Event}

theorem poller?_eq_some_iff :
    v.poller? i = some p ↔ ∃ m, v.company.members[i]? = some m ∧ m.poller = p := by
  simp [poller?, life?, Company.lives, Member.poller]

theorem afterAll_append (events more : List Event) :
    v.afterAll (events ++ more) = (v.afterAll events).afterAll more :=
  List.foldl_append

/-- What an event can do to the member in place `i`. -/
inductive Does (v : Venture) (i : Nat) : Event → Act → Prop where
  | start : v.phase = .starting i → v.isReady i = true → Does v i .proceed .start
  | run : v.phase = .running i → Does v i .proceed .run
  | go (now) : Does v i (.go i now) (.go now v.active)
  | answer (reply) : Does v i (.answer i reply) (.answer reply)
  | look : v.isUnderway = true → Does v i (.look i) .look
  | close : v.isUnderway = true → Does v i (.close i) .close

theorem actOn_eq_some_iff {a : Act} : v.actOn i e = some a ↔ v.Does i e a := by
  constructor
  · intro h
    simp only [actOn] at h
    split at h
    · next j b hh =>
        obtain ⟨rfl, rfl⟩ : j = i ∧ b = a := by simpa using h
        cases e with
        | proceed =>
            simp only [happening] at hh
            split at hh
            · next asked hp =>
                split at hh
                · next ready =>
                    cases hh
                    exact .start hp ready
                · cases hh
            · next spawned hp =>
                cases hh
                exact .run hp
        | go k now =>
            cases hh
            exact .go now
        | answer k reply =>
            cases hh
            exact .answer reply
        | look k | close k =>
            simp only [happening] at hh
            split at hh
            · next underway =>
                cases hh
                first | exact .look underway | exact .close underway
            · cases hh
        | hear k =>
            simp only [happening] at hh
            split at hh <;> cases hh
        | claim name | giveBack name => cases hh
    · cases h
  · intro h
    cases h with
    | start hp ready => simp [actOn, happening, hp, ready]
    | run hp => simp [actOn, happening, hp]
    | go now | answer reply => simp [actOn, happening]
    | look underway | close underway => simp [actOn, happening, underway]

/-! ## One member -/

theorem lives_after (v : Venture) (e : Event) :
    (v.after e).company.lives =
      match v.happening e with
      | some (.act j a) => v.company.lives.modify j fun l => l.after a
      | _ => v.company.lives := by
  simp only [after]
  cases v.happening e with
  | none => rfl
  | some h =>
      cases h with
      | act j a => exact Company.lives_act v.company j a
      | hear j => exact Company.lives_hear v.company j

/-- The life of a member goes on by what the event does to it. -/
theorem life?_after (v : Venture) (e : Event) (i : Nat) :
    (v.after e).life? i = (v.life? i).map fun l => (v.actOn i e).elim l l.after := by
  rw [life?, lives_after, life?, actOn]
  split
  · next j a _ =>
      rw [List.getElem?_modify]
      by_cases same : j = i <;> simp [same]
  · simp

theorem exists_changes (hi : v.poller? i = some p) (e : Event) :
    ∃ p', (v.after e).poller? i = some p' ∧ p.Changes p' := by
  obtain ⟨l, hl, rfl⟩ := Option.map_eq_some_iff.1 hi
  rw [poller?, life?_after, hl]
  cases v.actOn i e with
  | none => exact ⟨_, rfl, .none⟩
  | some a => exact ⟨_, rfl, Life.changes_after l a⟩

theorem exists_before (hi' : (v.after e).poller? i = some p') : ∃ p, v.poller? i = some p := by
  rw [poller?, life?_after, Option.map_map] at hi'
  obtain ⟨l, hl, -⟩ := Option.map_eq_some_iff.1 hi'
  exact ⟨l.poller, by rw [poller?, hl]; rfl⟩

/-! ## All members -/

theorem fits_after (fits : v.company.Fits names) (distinct : names.Nodup) (e : Event) :
    (v.after e).company.Fits names := by
  simp only [after]
  cases v.happening e with
  | none => exact fits
  | some h => exact fits.after distinct h

theorem fits_afterAll (fits : v.company.Fits names) (distinct : names.Nodup)
    (events : List Event) : (v.afterAll events).company.Fits names := by
  induction events generalizing v with
  | nil => exact fits
  | cons e events ih => exact ih (fits_after fits distinct e)

theorem fits_start (names : List String) (config : PollerConfig) (held : ActiveDownloads) :
    (start names config held).company.Fits names :=
  Company.fits_start names config

theorem poller?_start (names : List String) (config : PollerConfig) (held : ActiveDownloads)
    (i : Nat) : (start names config held).poller? i = (names[i]?).map fun m => .new m config := by
  simp [poller?, life?, Company.lives, start, Company.start, Member.fresh, Life.fresh,
    Function.comp_def]

section Fits

variable (fits : v.company.Fits names)
include fits

theorem sound_of_poller? (hi : v.poller? i = some p) : p.Sound := by
  obtain ⟨m, hm, rfl⟩ := poller?_eq_some_iff.1 hi
  exact (fits.members i m hm).member.sound

theorem name_of_poller? (hi : v.poller? i = some p) : names[i]? = some p.model := by
  obtain ⟨m, hm, rfl⟩ := poller?_eq_some_iff.1 hi
  exact fits.name hm

theorem length_members : v.company.members.length = names.length := by
  rw [← fits.named, List.length_map]

theorem exists_poller? {model : String} (h : names[i]? = some model) :
    ∃ p, v.poller? i = some p ∧ p.model = model := by
  have inside : i < v.company.members.length := by
    rw [length_members fits]
    exact (List.getElem?_eq_some_iff.1 h).1
  have hi : v.poller? i = some (v.company.members[i]).poller :=
    poller?_eq_some_iff.2 ⟨_, List.getElem?_eq_getElem inside, rfl⟩
  refine ⟨_, hi, Option.some.inj ?_⟩
  rw [← name_of_poller? fits hi, h]

theorem model_ne (distinct : names.Nodup) (hi : v.poller? i = some p)
    (hj : v.poller? j = some p') (apart : j ≠ i) : p'.model ≠ p.model := by
  intro same
  have hni := name_of_poller? fits hi
  have hnj := name_of_poller? fits hj
  refine apart ((List.getElem?_inj (List.getElem?_eq_some_iff.1 hnj).1 distinct).1 ?_)
  rw [hni, hnj, same]

end Fits

/-! ## Names of others -/

/-- The name of the poller is held, and not by the poller. -/
def IsForeign (v : Venture) (p : Poller) : Prop :=
  p.model ∈ v.active.names ∧ p.holdsName = false

theorem mem_leaves_of_ne {name : String} (sound : p.Sound) (apart : name ≠ p.model) (now : Nat)
    (active : ActiveDownloads) :
    name ∈ (p.leaves now active).names ↔ name ∈ active.names := by
  rcases Poller.names_go sound now active with ⟨same, -⟩ | ⟨-, claims, -⟩ | ⟨-, -, -, gives, -⟩
  · rw [same]
  · rw [(ActiveDownloads.mem_claim claims).2]
    exact or_iff_right apart
  · rw [gives, ActiveDownloads.mem_release]
    exact and_iff_left apart

theorem foreign_go (sound : p.Sound) (now : Nat) (active : ActiveDownloads) :
    (p.model ∈ (p.leaves now active).names ∧ (p.go now active).holdsName = false) ↔
      (p.model ∈ active.names ∧ p.holdsName = false) := by
  rcases Poller.names_go sound now active with ⟨same, holds⟩ | ⟨-, claims, -, holds⟩ |
    ⟨-, -, -, gives, holds, -⟩
  · rw [same, holds]
  · have free := (ActiveDownloads.mem_claim (n := p.model) claims).1
    simp [holds, free]
  · simp [gives, ActiveDownloads.mem_release, holds]

theorem poller?_after (hi : v.poller? i = some p) :
    (∃ a, v.Does i e a ∧ ∃ l : Life, l.poller = p ∧
      (v.after e).poller? i = some (l.after a).poller) ∨
    (v.actOn i e = none ∧ (v.after e).poller? i = some p) := by
  obtain ⟨l, hl, rfl⟩ := Option.map_eq_some_iff.1 hi
  rw [poller?, life?_after, hl]
  cases hact : v.actOn i e with
  | none => exact .inr ⟨rfl, rfl⟩
  | some a => exact .inl ⟨a, actOn_eq_some_iff.1 hact, l, rfl, rfl⟩

theorem poller?_go (hi : v.poller? i = some p) (now : Nat) :
    (v.after (.go i now)).poller? i = some (p.go now v.active) := by
  obtain ⟨l, hl, rfl⟩ := Option.map_eq_some_iff.1 hi
  have acts : v.actOn i (.go i now) = some (.go now v.active) := by simp [actOn, happening]
  rw [poller?, life?_after, hl, acts]
  rfl

theorem poller?_answer (hi : v.poller? i = some p) (reply : Reply) :
    (v.after (.answer i reply)).poller? i = some (p.receive reply) := by
  obtain ⟨l, hl, rfl⟩ := Option.map_eq_some_iff.1 hi
  have acts : v.actOn i (.answer i reply) = some (.answer reply) := by simp [actOn, happening]
  rw [poller?, life?_after, hl, acts]
  rfl

theorem poller?_of_actOn (h : v.actOn i e = none) : (v.after e).poller? i = v.poller? i := by
  rw [poller?, life?_after, h, poller?]
  simp

theorem holdsName_of_still {l : Life} {a : Act} (still : a.now? = none) :
    (l.after a).poller.holdsName = l.poller.holdsName := by
  obtain ⟨_, _, _, same⟩ := Life.exists_of_still (l := l) still
  rw [same]

section Foreign

variable (fits : v.company.Fits names) (hi : v.poller? i = some p)
include fits hi

theorem isForeign_after (distinct : names.Nodup) (hi' : (v.after e).poller? i = some p')
    (unclaimed : e ≠ .claim p.model) (kept : e ≠ .giveBack p.model) :
    (v.after e).IsForeign p' ↔ v.IsForeign p := by
  have sound := sound_of_poller? fits hi
  rcases poller?_after (e := e) hi with ⟨a, does, l, rfl, hl⟩ | ⟨nothing, same⟩
  · obtain rfl : (l.after a).poller = p' := Option.some.inj (hl.symm.trans hi')
    have model : (l.after a).poller.model = l.poller.model :=
      Poller.model_changes (Life.changes_after l a)
    rw [IsForeign, IsForeign, model]
    cases does with
    | go now =>
        have active : (v.after (.go i now)).active = l.poller.leaves now v.active := by
          simp [after, activeAfter, hi]
        rw [active]
        exact foreign_go sound now v.active
    | start _ _ | run _ | answer _ | look _ | close _ =>
        rw [holdsName_of_still rfl]
        rfl
  · obtain rfl : p = p' := Option.some.inj (same.symm.trans hi')
    rw [IsForeign, IsForeign]
    refine and_congr_left fun _ => ?_
    cases e with
    | go j now =>
        have apart : j ≠ i := by
          rintro rfl
          simp [actOn, happening] at nothing
        simp only [after, activeAfter]
        cases hj : v.poller? j with
        | none => rfl
        | some q =>
            exact mem_leaves_of_ne (sound_of_poller? fits hj)
              (model_ne fits distinct hj hi (Ne.symm apart)) now v.active
    | claim name =>
        have apart : p.model ≠ name := fun same => unclaimed (by rw [same])
        simp only [after, activeAfter]
        cases hc : v.active.claim name with
        | none => rfl
        | some active =>
            rw [Option.getD_some, (ActiveDownloads.mem_claim hc).2]
            exact or_iff_right apart
    | giveBack name =>
        have apart : p.model ≠ name := fun same => kept (by rw [same])
        simp only [after, activeAfter]
        split
        · rfl
        · rw [ActiveDownloads.mem_release]
          exact and_iff_left apart
    | proceed | answer _ _ | look _ | close _ | hear _ => rfl

/-- As long as others do not give it back, the name that they hold stays theirs. -/
theorem IsForeign.after (distinct : names.Nodup) (foreign : v.IsForeign p)
    (kept : e ≠ .giveBack p.model) (hi' : (v.after e).poller? i = some p') :
    (v.after e).IsForeign p' := by
  by_cases claims : e = .claim p.model
  · subst claims
    have held : v.active.claim p.model = none := ActiveDownloads.claim_eq_none_iff.2 foreign.1
    obtain rfl : p = p' := Option.some.inj ((hi.symm.trans (poller?_of_actOn rfl).symm).trans hi')
    simpa [IsForeign, Venture.after, activeAfter, held] using foreign
  · exact (isForeign_after fits hi distinct hi' claims kept).2 foreign

theorem not_isForeign_after (distinct : names.Nodup) (free : ¬ v.IsForeign p)
    (unclaimed : e ≠ .claim p.model) (hi' : (v.after e).poller? i = some p') :
    ¬ (v.after e).IsForeign p' := by
  by_cases gives : e = .giveBack p.model
  · subst gives
    obtain rfl : p = p' := Option.some.inj ((hi.symm.trans (poller?_of_actOn rfl).symm).trans hi')
    rintro ⟨held, holds⟩
    refine free ⟨?_, holds⟩
    simp only [Venture.after, activeAfter] at held
    split at held
    · exact held
    · exact (ActiveDownloads.mem_release.1 held).1
  · exact mt (isForeign_after fits hi distinct hi' unclaimed gives).1 free

end Foreign

end Venture

end ModelDepot.Batch
