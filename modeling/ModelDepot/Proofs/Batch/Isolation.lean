import ModelDepot.Proofs.Batch.StartsFirst
import ModelDepot.Proofs.Poller.Account
import ModelDepot.Proofs.Poller.Pace

/-! # Members of a batch do not touch each other

What shows of a member of a batch is what its own replies make of it, whatever is replied to the
others and in whatever order things happen. So it is what shows of a poller by itself.
-/

namespace ModelDepot.Batch

/-- What a backend replies to the calls for each name. Calls for other names make no difference. -/
abbrev Backend := String → Script

namespace Venture

variable {v : Venture} {names : List String} {i : Nat} {p p' : Poller} {e : Event}
  {events before : List Event} {config : PollerConfig} {held : ActiveDownloads} {model : String}
  {s : Script} {b : Backend}

def polled (v : Venture) (model : String) : Nat :=
  v.log.count (.answered (.downloadStatus model))

def sent (v : Venture) (i : Nat) : List DownloadEvent :=
  heardOf i v.company.heard ++ (v.company.members[i]?).elim [] Member.unheard

def account (v : Venture) (i : Nat) (model : String) : Account :=
  ⟨(v.poller? i).bind Poller.ending, v.sent i, v.statuses.count model⟩

/-- The reply of an event is the one that the backend has for the call that is answered. -/
def isAnsweredBy (v : Venture) (b : Backend) : Event → Bool
  | .answer i reply =>
    (v.poller? i).all fun p => (b p.model).gives (v.polled p.model) reply p.call?
  | _ => true

/-- The backend answers the calls of all members. -/
def isFedBy (b : Backend) : Venture → List Event → Bool
  | _, [] => true
  | v, e :: events => v.isAnsweredBy b e && isFedBy b (v.after e) events

/-- The event comes in from outside to the member in place `i`: a stop, a deadline that is found to
have come, or a claim of someone else to its name. -/
def isDisturbedBy (v : Venture) (i : Nat) (model : String) : Event → Bool
  | .close j => j == i
  | .go j now =>
    j == i && (v.poller? i).any fun p => (p.stage matches .timing) && p.isExpired now
  | .claim name => name == model
  | _ => false

/-- Nothing comes in from outside to the member in place `i`. -/
def isUndisturbed (i : Nat) (model : String) : Venture → List Event → Bool
  | _, [] => true
  | v, e :: events => !v.isDisturbedBy i model e && isUndisturbed i model (v.after e) events

/-- How many events bring the member in place `i` nearer to its end. -/
def helps (i : Nat) : Venture → List Event → Nat
  | _, [] => 0
  | v, e :: events =>
    ((v.actOn i e).any fun a => (v.poller? i).any (·.isHelpedBy a)).toNat +
      helps i (v.after e) events

/-! ## The calls for one name -/

theorem count_callBegun (p : Poller) (now : Nat) (active : ActiveDownloads) :
    (callBegun p now active).count (.made (.downloadStatus p.model)) =
      (p.beginsCall (p.go now active)).toNat := by
  rcases Poller.go_cases p now active with ⟨_, _, hm, -⟩ | ⟨same, -⟩
  · simp only [callBegun]
    generalize p.go now active = p' at hm
    cases hm <;>
      simp_all [Poller.call?, Poller.beginsCall, Stage.isBeginning, Stage.isCalling]
  · rw [callBegun_of_same same, same]
    cases hs : p.stage <;>
      simp [Poller.beginsCall, Stage.isBeginning, Stage.isCalling, hs]

theorem exists_of_mem_notes {note : Note} {c : Call} (hn : note ∈ v.notes e)
    (hc : note = .made c ∨ note = .answered c) :
    ∃ j q, v.poller? j = some q ∧ (c = .startDownload q.model ∨ c = .downloadStatus q.model) ∧
      ∃ a, v.Does j e a := by
  have named {q : Poller} (calls : q.call? = some c) :
      c = .startDownload q.model ∨ c = .downloadStatus q.model := by
    cases hs : q.stage <;> simp_all [Poller.call?]
  cases e with
  | go j now =>
      cases hj : v.poller? j with
      | none => simp [notes, hj] at hn
      | some q =>
          rw [notes, hj, Option.elim_some, callBegun] at hn
          split at hn
          · cases hn
          · obtain ⟨c', calls, rfl⟩ :
                ∃ c', (q.go now v.active).call? = some c' ∧ .made c' = note := by
              simpa using hn
            obtain rfl : c' = c := by simpa using hc
            have model := Poller.model_changes (Poller.changes_go q now v.active)
            exact ⟨j, q, hj, model ▸ named calls, _, .go now⟩
  | answer j reply =>
      cases hj : v.poller? j with
      | none => simp [notes, hj] at hn
      | some q =>
          obtain ⟨c', calls, rfl⟩ : ∃ c', q.call? = some c' ∧ .answered c' = note := by
            simpa [notes, hj] using hn
          obtain rfl : c' = c := by simpa using hc
          exact ⟨j, q, hj, named calls, _, .answer reply⟩
  | _ => simp [notes] at hn

theorem count_statuses (v : Venture) (model : String) :
    v.statuses.count model = v.log.count (.made (.downloadStatus model)) := by
  rw [statuses, made]
  induction v.log with
  | nil => rfl
  | cons note log ih =>
      rw [List.count_cons, ← ih]
      rcases note with c | c
      · cases c <;> simp [Note.made?, List.count_cons]
      · rw [List.filterMap_cons_none rfl]
        simp

theorem counts_after (fits : v.company.Fits names) (distinct : names.Nodup)
    (hi : v.poller? i = some p) :
    (∃ a, v.Does i e a ∧ ∃ l : Life, l.poller = p ∧
      (v.after e).poller? i = some (l.after a).poller ∧
      (v.after e).polled p.model = v.polled p.model + (l.passage a).answersStatus.toNat ∧
      (v.after e).statuses.count p.model =
        v.statuses.count p.model + (p.beginsCall (l.after a).poller).toNat) ∨
    (v.actOn i e = none ∧ (v.after e).poller? i = some p ∧
      (v.after e).polled p.model = v.polled p.model ∧
      (v.after e).statuses.count p.model = v.statuses.count p.model) := by
  have polled : (v.after e).polled p.model =
      v.polled p.model + (v.notes e).count (.answered (.downloadStatus p.model)) :=
    List.count_append
  have made : (v.after e).statuses.count p.model =
      v.statuses.count p.model + (v.notes e).count (.made (.downloadStatus p.model)) := by
    rw [count_statuses, count_statuses]
    exact List.count_append
  rw [polled, made]
  rcases poller?_after (e := e) hi with ⟨a, does, l, rfl, hl⟩ | ⟨nothing, same⟩
  · refine .inl ⟨a, does, l, rfl, hl, ?_⟩
    cases does with
    | go now =>
        refine ⟨?_, ?_⟩
        · rw [notes, hi, Option.elim_some,
            List.count_eq_zero_of_not_mem (answered_not_mem_callBegun _ _ _)]
          rfl
        · rw [notes, hi, Option.elim_some, count_callBegun]
          rfl
    | answer reply =>
        rw [notes, hi, Option.elim_some, Life.beginsCall_of_still rfl]
        cases hs : l.poller.stage <;>
          simp [Poller.call?, hs, Life.passage, Passage.answersStatus]
    | start | run | look | close =>
        rw [Life.beginsCall_of_still rfl]
        exact ⟨rfl, rfl⟩
  · refine .inr ⟨nothing, same, ?_⟩
    -- what happens is about another name
    have foreign (note : Note) (c : Call) (hc : note = .made c ∨ note = .answered c)
        (about : c = .downloadStatus p.model) : (v.notes e).count note = 0 := by
      refine List.count_eq_zero_of_not_mem fun hn => ?_
      obtain ⟨j, q, hj, named, a, does⟩ := exists_of_mem_notes hn hc
      have model : q.model = p.model := by simpa [about, eq_comm] using named
      obtain rfl : j = i := by
        by_contra apart
        exact model_ne fits distinct hi hj apart model
      rw [actOn_eq_some_iff.2 does] at nothing
      cases nothing
    rw [foreign _ _ (.inr rfl) rfl, foreign _ _ (.inl rfl) rfl]
    exact ⟨rfl, rfl⟩

/-! ## A member with its script -/

/-- What is true of a member that nobody disturbs, at every moment. -/
structure InScript (v : Venture) (s : Script) (p : Poller) : Prop where
  follows : p.Follows s (v.polled p.model)
  isOpen : p.gate.isStopped = false
  free : ¬ v.IsForeign p
  calls : v.statuses.count p.model = v.polled p.model + p.stage.isCalling.toNat

theorem InScript.after (member : v.InScript s p) (fits : v.company.Fits names)
    (distinct : names.Nodup) (hi : v.poller? i = some p) (hi' : (v.after e).poller? i = some p')
    (undisturbed : v.isDisturbedBy i p.model e = false)
    (fed : ∀ reply, e = .answer i reply → s.gives (v.polled p.model) reply p.call? = true) :
    (v.after e).InScript s p' := by
  obtain ⟨follows, isOpen, free, calls⟩ := member
  have sound := sound_of_poller? fits hi
  have model : p'.model = p.model := Poller.model_changes (changes_of_poller? hi hi')
  have unclaimed : e ≠ .claim p.model := by
    rintro rfl
    simp [isDisturbedBy] at undisturbed
  have stillFree := not_isForeign_after fits hi distinct free unclaimed hi'
  rcases counts_after (e := e) fits distinct hi with
    ⟨a, does, l, rfl, hl, polled, made⟩ | ⟨-, same, polled, made⟩
  · obtain rfl : (l.after a).poller = p' := Option.some.inj (hl.symm.trans hi')
    have kept : a ≠ .close := by
      rintro rfl
      cases does
      simp [isDisturbedBy] at undisturbed
    refine ⟨?_, ?_, stillFree, ?_⟩
    · rw [model, polled]
      refine Life.follows_after sound ?_ ?_ follows
      · rintro now active rfl
        cases does with
        | go now =>
            refine ⟨isOpen, fun checks => ?_, fun claims held => free ⟨held, ?_⟩⟩
            · simpa [isDisturbedBy, hi, checks] using undisturbed
            · exact Poller.holdsName_of_isUnclaimed sound (by rw [claims]; rfl)
      · cases does with
        | answer reply => exact fed reply rfl
        | _ => rfl
    · rw [Life.isStopped_after kept, isOpen]
    · have counts := Life.isCalling_after l a
      rw [model, polled, made, calls]
      omega
  · obtain rfl : p = p' := Option.some.inj (same.symm.trans hi')
    exact ⟨by rw [polled]; exact follows, isOpen, stillFree, by rw [polled, made, calls]⟩

theorem gives_of_isAnsweredBy (hi : v.poller? i = some p) (fed : v.isAnsweredBy b e = true)
    {reply : Reply} (answers : e = .answer i reply) :
    (b p.model).gives (v.polled p.model) reply p.call? = true := by
  subst answers
  simpa only [isAnsweredBy, hi, Option.all_some] using fed

section Run

variable (member : v.InScript (b model) p) (h : v.Orderly names) (distinct : names.Nodup)
  (name : names[i]? = some model) (hi : v.poller? i = some p)
include member h distinct name hi

theorem InScript.next (undisturbed : v.isDisturbedBy i model e = false)
    (fed : v.isAnsweredBy b e = true) (hi' : (v.after e).poller? i = some p') :
    (v.after e).InScript (b model) p' := by
  obtain rfl : p.model = model := Option.some.inj ((name_of_poller? h.fits hi).symm.trans name)
  exact member.after h.fits distinct hi hi' undisturbed
    fun reply answers => gives_of_isAnsweredBy hi fed answers

/-- A member that nobody disturbs follows its script, whatever the others do. -/
theorem InScript.afterAll (undisturbed : v.isUndisturbed i model events = true)
    (fed : v.isFedBy b events = true) (hi' : (v.afterAll events).poller? i = some p') :
    (v.afterAll events).InScript (b model) p' := by
  induction events generalizing v p with
  | nil =>
      obtain rfl : p = p' := Option.some.inj (hi.symm.trans hi')
      exact member
  | cons e events ih =>
      simp only [isUndisturbed, isFedBy, Bool.and_eq_true, Bool.not_eq_true'] at undisturbed fed
      obtain ⟨q, hq, -⟩ := exists_changes hi e
      exact ih (member.next h distinct name hi undisturbed.1 fed.1 hq) (h.after distinct e) hq
        undisturbed.2 fed.2 hi'

/-- Each event that helps a member brings it nearer to the end of its script. -/
theorem InScript.ended_of_helps {outcome : DownloadOutcome} {n : Nat} {values : List Binary64}
    (ends : (b model).Ends model outcome n values)
    (undisturbed : v.isUndisturbed i model events = true) (fed : v.isFedBy b events = true)
    (hi' : (v.afterAll events).poller? i = some p')
    (launched : p.stage.isLaunched = true) (underway : p.Underway)
    (near : p.stage = .ended ∨ p.toGo n (v.polled model) ≤ helps i v events) :
    p'.stage = .ended := by
  -- what is left of the script is never more than the events that still help
  induction events generalizing v p with
  | nil =>
      obtain rfl : p = p' := Option.some.inj (hi.symm.trans hi')
      exact near.elim id fun none => Poller.ended_of_toGo launched (Nat.le_zero.1 none)
  | cons e events ih =>
      simp only [isUndisturbed, isFedBy, Bool.and_eq_true, Bool.not_eq_true'] at undisturbed fed
      obtain rfl : p.model = model := Option.some.inj ((name_of_poller? h.fits hi).symm.trans name)
      have sound := sound_of_poller? h.fits hi
      obtain ⟨q, hq, hc⟩ := exists_changes hi e
      refine ih (member.next h distinct name hi undisturbed.1 fed.1 hq) (h.after distinct e) hq
        undisturbed.2 fed.2 hi' (Poller.launched_changes hc launched) (underway.changes hc) ?_
      rcases near with ended | near
      · exact .inl (Poller.changes_of_ended hc ended).1
      rcases counts_after (e := e) h.fits distinct hi with
        ⟨a, does, l, rfl, hl, polled, -⟩ | ⟨nothing, same, polled, -⟩
      · obtain rfl : (l.after a).poller = q := Option.some.inj (hl.symm.trans hq)
        rcases Life.toGo_after launched underway (fun c hc => Poller.known_of_call sound hc)
          member.follows ends a with ended | nearer
        · exact .inl (Poller.changes_of_ended hc ended).1
        · refine .inr ?_
          rw [helps, actOn_eq_some_iff.2 does, hi] at near
          rw [polled]
          simp only [Option.any_some] at near
          omega
      · obtain rfl : p = q := Option.some.inj (same.symm.trans hq)
        rw [helps, nothing] at near
        rw [polled]
        exact .inr (by simpa using near)

end Run

/-! ## Members and lone pollers -/

theorem inScript_start (config : PollerConfig) {held : ActiveDownloads} (free : model ∉ held.names)
    (s : Script) : (start names config held).InScript s (.new model config) where
  follows := Poller.follows_new s model config
  isOpen := rfl
  free := fun foreign => free foreign.1
  calls := rfl

theorem InScript.account (member : v.InScript s p) (fits : v.company.Fits names)
    (hi : v.poller? i = some p) : Account.Of s p.model (v.account i p.model) := by
  obtain ⟨m, hm, rfl⟩ := poller?_eq_some_iff.1 hi
  have heard := (fits.members i m hm).member
  have values : (v.sent i).filterMap DownloadEvent.progress? = m.poller.told.reverse := by
    rw [heard.values, List.reverse_reverse, sent, hm]
    rfl
  have told : m.poller.HasTold (v.sent i) := by
    rw [sent, hm]
    exact heard.tells
  rw [Venture.account, hi, member.calls]
  exact member.follows.account heard.sound told values

/-- A member that nobody disturbs is isolated from the others. -/
structure Isolated (names : List String) (config : PollerConfig) (held : ActiveDownloads)
    (events : List Event) (b : Backend) (i : Nat) (model : String) : Prop where
  /-- What shows of it is what shows of a poller by itself that gets the same replies. -/
  alone : ∀ config' acts, (Life.fresh model config').isUndisturbed acts = true →
    Life.isFedBy (b model) 0 (Life.fresh model config') acts = true →
    Account.Agree ((reached names config held events).account i model)
      ((Life.fresh model config').account acts)
  /-- It is the same in any batch, whatever is replied to the other members. -/
  elsewhere : ∀ given names' config' held' events' b' j, settle given = .ok names' →
    names'[j]? = some model → model ∉ held'.names → b' model = b model →
    (start names' config' held').isUndisturbed j model events' = true →
    (start names' config' held').isFedBy b' events' = true →
    Account.Agree ((reached names config held events).account i model)
      ((reached names' config' held' events').account j model)
  /-- Its outcome is what the batch tells and reports, and there is no report before. -/
  told : ∀ outcome,
    .memberFinished model outcome ∈ (reached names config held events).company.told →
    ((reached names config held events).account i model).outcome = some outcome
  report : (reached names config held events).company.tally.remaining = 0 →
    ∃ outcome, ((reached names config held events).account i model).outcome = some outcome ∧
      (reached names config held events).company.batch.report.outcomes[i]? = some ⟨model, outcome⟩
  /-- The others do not keep it from its end: where a poller by itself has ended, it ends too, as
  soon as enough events have helped it on. -/
  ends : ∀ config' acts, (Life.fresh model config').isUndisturbed acts = true →
    Life.isFedBy (b model) 0 (Life.fresh model config') acts = true →
    ((Life.fresh model config').account acts).outcome.isSome = true →
    ∀ before later, events = before ++ later →
    (reached names config held before).isUnderway = true →
    20 * ((Life.fresh model config').account acts).polls + 16 ≤
      helps i (reached names config held before) later →
    (reached names config held events).account i model = (Life.fresh model config').account acts

theorem outcome_of_endedWith {outcome : DownloadOutcome} (h : v.company.EndedWith i outcome)
    (model : String) : (v.account i model).outcome = some outcome := by
  obtain ⟨p, hi, ended, noted⟩ := endedWith_iff.1 h
  simp [Venture.account, hi, Poller.ending, ended, noted]

theorem isUndisturbed_append (later : List Event) : v.isUndisturbed i model (before ++ later) =
    (v.isUndisturbed i model before && (v.afterAll before).isUndisturbed i model later) := by
  induction before generalizing v with
  | nil => rfl
  | cons e before ih =>
      have rest : (v.after e).afterAll before = v.afterAll (e :: before) := rfl
      simp only [List.cons_append, isUndisturbed, ih, Bool.and_assoc, rest]

theorem isFedBy_append (later : List Event) : v.isFedBy b (before ++ later) =
    (v.isFedBy b before && (v.afterAll before).isFedBy b later) := by
  induction before generalizing v with
  | nil => rfl
  | cons e before ih =>
      have rest : (v.after e).afterAll before = v.afterAll (e :: before) := rfl
      simp only [List.cons_append, isFedBy, ih, Bool.and_assoc, rest]

section Member

variable (distinct : names.Nodup) (name : names[i]? = some model) (free : model ∉ held.names)
  (undisturbed : (start names config held).isUndisturbed i model events = true)
  (fed : (start names config held).isFedBy b events = true)
include distinct name free undisturbed fed

theorem inScript_reached (hi : (reached names config held events).poller? i = some p) :
    (reached names config held events).InScript (b model) p :=
  (inScript_start config free (b model)).afterAll (orderly_start names config held) distinct name
    (poller?_of_name name) undisturbed fed hi

theorem account_reached :
    Account.Of (b model) model ((reached names config held events).account i model) := by
  obtain ⟨p, hi, rfl⟩ := exists_member distinct name config held events
  exact (inScript_reached distinct name free undisturbed fed hi).account
    (orderly_reached distinct config held events).fits hi

theorem isSome_of_helps {a : Account} (complete : Account.Of (b model) model a)
    (ended : a.outcome.isSome = true) {later : List Event} (split : events = before ++ later)
    (underway : (reached names config held before).isUnderway = true)
    (enough : 20 * a.polls + 16 ≤ helps i (reached names config held before) later) :
    ((reached names config held events).account i model).outcome.isSome = true := by
  subst split
  obtain ⟨outcome, values, ends⟩ := complete.exists_ends ended
  rw [isUndisturbed_append, Bool.and_eq_true] at undisturbed
  rw [isFedBy_append, Bool.and_eq_true] at fed
  obtain ⟨first, second⟩ := undisturbed
  obtain ⟨fedFirst, fedSecond⟩ := fed
  obtain ⟨p, hi, -⟩ := exists_member distinct name config held before
  obtain ⟨p', hi', -⟩ := exists_member distinct name config held (before ++ later)
  have h := orderly_reached distinct config held before
  obtain ⟨launched, running⟩ := underway_of_isUnderway h.inPhase underway hi
  have member := inScript_reached distinct name free first fedFirst hi
  rw [reached_append] at hi' ⊢
  have stage := member.ended_of_helps h distinct name hi ends second fedSecond hi' launched running
    (.inr (Nat.le_trans (p.toGo_le _ _) enough))
  have noted := (sound_of_poller? (h.afterAll distinct later).fits hi').outcome
  simp only [Poller.OutcomeFits, stage] at noted
  simpa [Venture.account, hi', Poller.ending, stage] using noted

theorem isolated_reached : Isolated names config held events b i model := by
  have here := account_reached distinct name free undisturbed fed
  refine ⟨?_, ?_, ?_, ?_, ?_⟩
  · intro config' acts alone answered
    exact here.agree (Life.account_of_undisturbed alone answered)
  · intro given names' config' held' events' b' j settled name' free' same undisturbed' fed'
    have there := account_reached (nodup_of_settle settled) name' free' undisturbed' fed'
    exact here.agree (same ▸ there)
  · intro outcome finished
    exact outcome_of_endedWith (endedWith_of_told distinct name finished) model
  · intro due
    obtain ⟨outcome, ended, reported⟩ := exists_reported distinct name due
    exact ⟨outcome, outcome_of_endedWith ended model, reported⟩
  · intro config' acts alone answered complete before later split underway enough
    have there := Life.account_of_undisturbed alone answered
    have both := isSome_of_helps distinct name free undisturbed fed there complete split underway
      enough
    exact (here.agree there).both both complete

end Member

/-- The members of a batch are isolated from each other. -/
theorem members_are_isolated {given : List String} (settled : settle given = .ok names)
    (name : names[i]? = some model) (config : PollerConfig) (held : ActiveDownloads)
    (free : model ∉ held.names) (events : List Event) (b : Backend)
    (undisturbed : (start names config held).isUndisturbed i model events = true)
    (fed : (start names config held).isFedBy b events = true) :
    Isolated names config held events b i model :=
  isolated_reached (nodup_of_settle settled) name free undisturbed fed

/-- The backend is not there for the first member, and the second completes as if it were alone. -/
theorem second_is_as_if_alone :
    let names := ["alpha", "beta"]
    let config : PollerConfig := ⟨.ofMillis 500, .ofSeconds 2⟩
    let refusal : Reply := .error (.network "unreachable")
    let done : Reply := .ok "\x7b\"completed\":true\x7d"
    let b : Backend := fun name =>
      if name = "alpha" then ⟨refusal, fun _ => refusal⟩ else ⟨.ok "\x7b\x7d", fun _ => done⟩
    let turns (i n : Nat) : List Event := List.replicate n (.go i 0)
    let events : List Event :=
      [.proceed] ++ turns 0 3 ++ [.answer 0 refusal] ++ turns 0 4 ++
      [.proceed] ++ turns 1 3 ++ [.answer 1 (b "beta").start] ++ turns 1 1 ++
      [.proceed, .proceed, .proceed] ++ turns 1 4 ++ [.answer 1 done] ++ turns 1 6
    let steps (n : Nat) : List Act := List.replicate n (.go 0 .none)
    let acts : List Act :=
      [.start] ++ steps 3 ++ [.answer (b "beta").start] ++ steps 1 ++ [.run] ++ steps 4 ++
      [.answer done] ++ steps 6
    let alone := (Life.fresh "beta" config).account acts
    settle names = .ok names ∧ (reached names config .none events).account 1 "beta" = alone ∧
      alone.outcome = some (.completed ⟨"beta", .zero, true, .completed, none, none, none⟩) ∧
      alone.polls = 1 := by
  intro names config refusal done b turns events steps acts alone
  have settled : settle names = .ok names := by decide +kernel
  have isolated : Isolated names config .none events b 1 "beta" :=
    members_are_isolated settled rfl config .none (by decide) events b (by decide +kernel)
      (by decide +kernel)
  have agree := isolated.alone config acts (by decide +kernel) (by decide +kernel)
  refine ⟨settled, agree.both ?_ ?_, ?_, ?_⟩ <;> decide +kernel

end Venture

end ModelDepot.Batch
