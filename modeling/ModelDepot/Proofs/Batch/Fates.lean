import ModelDepot.Proofs.Batch.CallOrder

/-! # What becomes of the members of a batch

A member whose name others hold fails at once, one whose start the backend refuses fails with what
it was told, and every other one is polled unless it is stopped or late.
-/

namespace ModelDepot.Batch

/-- The task of the member in place `i` goes on. -/
def Event.isTurnOf (i : Nat) : Event → Bool
  | .go j _ => j == i
  | _ => false

def turnsOf (i : Nat) (events : List Event) : Nat :=
  events.countP (Event.isTurnOf i)

theorem turnsOf_cons (i : Nat) (e : Event) (events : List Event) :
    turnsOf i (e :: events) = turnsOf i events + (e.isTurnOf i).toNat := by
  rw [turnsOf, List.countP_cons, turnsOf]
  cases e.isTurnOf i <;> rfl

namespace Venture

variable {v : Venture} {names : List String} {i : Nat} {p p' : Poller} {e : Event}
  {events : List Event}

theorem now?_of_does {a : Act} (does : v.Does i e a) (still : e.isTurnOf i = false) :
    a.now? = none := by
  cases does with
  | go now => simp [Event.isTurnOf] at still
  | _ => rfl

theorem eq_go_of_isTurnOf (turn : e.isTurnOf i = true) : ∃ now, e = .go i now := by
  cases e with
  | go j now =>
      obtain rfl : j = i := by simpa [Event.isTurnOf] using turn
      exact ⟨now, rfl⟩
  | _ => cases turn

theorem known_of_still (hi : v.poller? i = some p) (hi' : (v.after e).poller? i = some p')
    (still : e.isTurnOf i = false) : p'.known = p.known := by
  rcases poller?_after (e := e) hi with ⟨a, does, l, rfl, hl⟩ | ⟨-, same⟩
  · obtain rfl : (l.after a).poller = p' := Option.some.inj (hl.symm.trans hi')
    exact Life.known_of_still (now?_of_does does still)
  · rw [Option.some.inj (same.symm.trans hi')]

theorem stage_of_still (hi : v.poller? i = some p) (hi' : (v.after e).poller? i = some p')
    (still : e.isTurnOf i = false) (begun : p.stage ≠ .idle) (silent : p.call? = none) :
    p'.stage = p.stage := by
  rcases poller?_after (e := e) hi with ⟨a, does, l, rfl, hl⟩ | ⟨-, same⟩
  · obtain rfl : (l.after a).poller = p' := Option.some.inj (hl.symm.trans hi')
    rcases Life.stage_of_still (l := l) (now?_of_does does still) with
      same | ⟨hs, -⟩ | ⟨hs, -⟩ | ⟨hs, -⟩
    · exact same
    · exact absurd hs begun
    all_goals simp [Poller.call?, hs] at silent
  · rw [Option.some.inj (same.symm.trans hi')]

def known? (v : Venture) (i : Nat) : Option DownloadOutcome :=
  (v.poller? i).bind Poller.known

theorem changes_of_poller? (hi : v.poller? i = some p) (hi' : (v.after e).poller? i = some p') :
    p.Changes p' := by
  obtain ⟨q, hq, hc⟩ := exists_changes hi e
  rwa [Option.some.inj (hi'.symm.trans hq)]

/-- What every event keeps of a member stays true of it. -/
theorem Orderly.kept {P : Venture → Poller → Prop} (h : v.Orderly names) (distinct : names.Nodup)
    (step : ∀ {w q q' e}, Orderly w names → e ∈ events → w.poller? i = some q →
      (w.after e).poller? i = some q' → P w q → P (w.after e) q')
    (hi : v.poller? i = some p) (holds : P v p) (hi' : (v.afterAll events).poller? i = some p') :
    P (v.afterAll events) p' := by
  induction events generalizing v p with
  | nil =>
      obtain rfl : p = p' := Option.some.inj (hi.symm.trans hi')
      exact holds
  | cons e events ih =>
      obtain ⟨q, hq, -⟩ := exists_changes hi e
      exact ih (h.after distinct e) (fun ho he => step ho (List.mem_cons_of_mem _ he)) hq
        (step h List.mem_cons_self hi hq holds) hi'

/-- What has come to be true of a member came to be at one of the events. -/
theorem exists_moment {P : Poller → Prop} (hi : v.poller? i = some p) (absent : ¬ P p)
    (hi' : (v.afterAll events).poller? i = some p') (present : P p') :
    ∃ before e later q q', events = before ++ e :: later ∧
      (v.afterAll before).poller? i = some q ∧
      ((v.afterAll before).after e).poller? i = some q' ∧ ¬ P q ∧ P q' := by
  induction events generalizing v p with
  | nil =>
      obtain rfl : p = p' := Option.some.inj (hi.symm.trans hi')
      exact absurd present absent
  | cons e events ih =>
      obtain ⟨q, hq, -⟩ := exists_changes hi e
      by_cases now : P q
      · exact ⟨[], e, events, p, q, rfl, hi, hq, absent, now⟩
      · obtain ⟨before, e', later, r, r', rfl, moment⟩ := ih hq now hi'
        exact ⟨e :: before, e', later, r, r', rfl, moment⟩

/-! ## Names that are held -/

theorem isForeign_of_refused (sound : p.Sound) (hi : v.poller? i = some p)
    (hi' : (v.after e).poller? i = some p') (before : p.known ≠ some (.failed .alreadyActive))
    (refused : p'.known = some (.failed .alreadyActive)) : v.IsForeign p := by
  cases turn : e.isTurnOf i with
  | false =>
      rw [known_of_still hi hi' turn] at refused
      exact absurd refused before
  | true =>
      obtain ⟨now, rfl⟩ := eq_go_of_isTurnOf turn
      obtain rfl : p.go now v.active = p' := Option.some.inj ((poller?_go hi now).symm.trans hi')
      have hc := Poller.changes_go p now v.active
      have unknown : p.known = none := by
        cases hk : p.known with
        | none => rfl
        | some other =>
            have final := Poller.known_changes sound hc hk
            rw [refused] at final
            exact absurd (hk.trans final.symm) before
      cases Poller.settles_of_known sound hc unknown refused with
      | decided _ hd => cases hd
      | alreadyActive hs hs' =>
          refine ⟨?_, Poller.holdsName_of_isUnclaimed sound (by rw [hs]; rfl)⟩
          cases claims : v.active.claim p.model with
          | none => exact ActiveDownloads.claim_eq_none_iff.1 claims
          | some active =>
              rw [Poller.go_of_moves (.claim hs claims)] at hs'
              cases hs'

theorem refused_of_isForeign (inPhase : v.InPhase) (hi : v.poller? i = some p)
    (hi' : (v.after e).poller? i = some p') (foreign : v.IsForeign p)
    (unclaimed : p.stage.isUnclaimed = true) :
    p'.stage.isUnclaimed = true ∨ p'.known = some (.failed .alreadyActive) := by
  have gate : p.gate.isStopped = false := by
    have stands := inPhase i p hi
    cases hp : v.phase with
    | starting asked =>
        rw [hp] at stands
        exact stands.1
    | running spawned =>
        rw [hp] at stands
        have launched := stands.1
        cases hs : p.stage <;> simp_all [Stage.isUnclaimed, Stage.isLaunched, Stage.isEarly]
  cases turn : e.isTurnOf i with
  | true =>
      obtain ⟨now, rfl⟩ := eq_go_of_isTurnOf turn
      obtain rfl : p.go now v.active = p' := Option.some.inj ((poller?_go hi now).symm.trans hi')
      have held : v.active.claim p.model = none := ActiveDownloads.claim_eq_none_iff.2 foreign.1
      rcases Poller.go_cases p now v.active with ⟨_, _, hm, -⟩ | ⟨same, -⟩
      · generalize p.go now v.active = p' at hm
        cases hm <;> simp_all [Stage.isUnclaimed, Poller.known, Stage.pending?]
      · rw [same]
        exact .inl unclaimed
  | false =>
      rcases poller?_after (e := e) hi with ⟨a, does, l, rfl, hl⟩ | ⟨-, same⟩
      · obtain rfl : (l.after a).poller = p' := Option.some.inj (hl.symm.trans hi')
        rcases Life.stage_of_still (l := l) (now?_of_does does turn) with
          same | ⟨-, entering⟩ | ⟨hs, -⟩ | ⟨hs, -⟩
        · rw [same]
          exact .inl unclaimed
        · rw [entering]
          exact .inl rfl
        all_goals simp [hs, Stage.isUnclaimed] at unclaimed
      · rw [Option.some.inj (same.symm.trans hi')] at unclaimed
        exact .inl unclaimed

section Fate

variable (h : v.Orderly names) (distinct : names.Nodup) (hi : v.poller? i = some p)
  (hi' : (v.afterAll events).poller? i = some p')
include h distinct hi hi'

theorem Orderly.free (free : ¬ v.IsForeign p) (known : p.known ≠ some (.failed .alreadyActive))
    (unclaimed : ∀ e ∈ events, e ≠ .claim p.model) :
    p'.known ≠ some (.failed .alreadyActive) := by
  have name := name_of_poller? h.fits hi
  have kept := h.kept distinct
    (P := fun w q => ¬ w.IsForeign q ∧ q.known ≠ some (.failed .alreadyActive)) ?_ hi ⟨free, known⟩
    hi'
  · exact kept.2
  · intro w q q' e ho he hq hq' ⟨free, known⟩
    have model : q.model = p.model :=
      Option.some.inj ((name_of_poller? ho.fits hq).symm.trans name)
    refine ⟨?_, fun refused => ?_⟩
    · exact not_isForeign_after ho.fits hq distinct free (model ▸ unclaimed e he) hq'
    · exact free (isForeign_of_refused (sound_of_poller? ho.fits hq) hq hq' known refused)

theorem Orderly.taken (foreign : v.IsForeign p) (unclaimed : p.stage.isUnclaimed = true)
    (held : ∀ e ∈ events, e ≠ .giveBack p.model) :
    p'.stage.isUnclaimed = true ∨ p'.known = some (.failed .alreadyActive) := by
  have name := name_of_poller? h.fits hi
  have kept := h.kept distinct (P := fun w q => w.IsForeign q ∧
    (q.stage.isUnclaimed = true ∨ q.known = some (.failed .alreadyActive))) ?_ hi
    ⟨foreign, .inl unclaimed⟩ hi'
  · exact kept.2
  · intro w q q' e ho he hq hq' ⟨foreign, waits⟩
    have model : q.model = p.model :=
      Option.some.inj ((name_of_poller? ho.fits hq).symm.trans name)
    refine ⟨?_, ?_⟩
    · exact foreign.after ho.fits hq distinct (model ▸ held e he) hq'
    · rcases waits with early | refused
      · exact refused_of_isForeign ho.inPhase hq hq' foreign early
      · exact .inr (Poller.known_changes (sound_of_poller? ho.fits hq)
          (changes_of_poller? hq hq') refused)

/-! ## Answers of the backend to a start -/

theorem Orderly.rejected {error : ClientError} (rejects : p.Rejects error)
    (launched : p'.stage.isLaunched = true) :
    p'.known = some (.failed (.rejected (Poller.rejection error))) := by
  have kept := h.kept distinct (P := fun _ q => q.Rejects error)
    (fun ho _ hq hq' hr => hr.changes (sound_of_poller? ho.fits hq) (changes_of_poller? hq hq'))
    hi rejects hi'
  rcases kept with answered | known
  · simp [answered, Stage.isLaunched, Stage.isEarly] at launched
  · exact known

theorem Orderly.accepted (accepts : p.Accepted) (launched : p'.stage.isLaunched = true) :
    ¬ p'.StartFailed := by
  have kept := h.kept distinct (P := fun _ q => q.Accepted)
    (fun ho _ hq hq' ha => ha.changes (sound_of_poller? ho.fits hq) (changes_of_poller? hq hq'))
    hi accepts hi'
  rcases kept with ⟨ack, answered⟩ | ⟨-, taken⟩
  · simp [answered, Stage.isLaunched, Stage.isEarly] at launched
  · exact taken

end Fate

theorem answered_not_mem_callBegun {c : Call} (p : Poller) (now : Nat) (active : ActiveDownloads) :
    .answered c ∉ callBegun p now active := by
  unfold callBegun
  split <;> simp

theorem eq_answer_of_answered {model : String} (h : v.Orderly names) (hi : v.poller? i = some p)
    (hi' : (v.after e).poller? i = some p')
    (before : .answered (.startDownload model) ∉ startNotes p)
    (behind : .answered (.startDownload model) ∈ startNotes p') :
    ∃ reply, e = .answer i reply ∧ p.call? = some (.startDownload model) := by
  have sound := sound_of_poller? h.fits hi
  have hc := changes_of_poller? hi hi'
  -- the note is no older than the member's launch
  cases hp : v.phase with
  | running spawned =>
      have stands := h.inPhase i p hi
      rw [hp] at stands
      rw [startNotes_changes sound stands.1 hc] at behind
      exact absurd behind before
  | starting asked =>
      have stands := h.inPhase i p hi
      rw [hp] at stands
      obtain ⟨gate, waits, -, -, idle⟩ := stands
      have early := early_of_starting h.inPhase hp hi
      rcases poller?_after (e := e) hi with ⟨a, does, l, rfl, hl⟩ | ⟨-, same⟩
      · obtain rfl : (l.after a).poller = p' := Option.some.inj (hl.symm.trans hi')
        cases does with
        | start hp' =>
            obtain rfl : asked = i := by simpa [hp] using hp'
            have entering : startNotes (l.after .start).poller = [] := by
              simp [Life.after, Poller.requestStart, idle (Nat.le_refl _), startNotes]
            simp [entering] at behind
        | run hp' => simp [hp] at hp'
        | go now =>
            rw [Life.after, startNotes_go sound gate early waits, List.mem_append] at behind
            exact absurd (behind.resolve_right (answered_not_mem_callBegun _ _ _)) before
        | answer reply =>
            rw [Life.after, startNotes_receive sound early reply, List.mem_append] at behind
            refine ⟨reply, rfl, ?_⟩
            simpa using behind.resolve_left before
        | look underway | close underway => simp [isUnderway, hp] at underway
      · rw [Option.some.inj (same.symm.trans hi')] at before
        exact absurd behind before

/-! ## Polling -/

theorem mem_statuses_iff {model : String} :
    model ∈ v.statuses ↔ .made (.downloadStatus model) ∈ v.log := by
  simp only [statuses, made, List.mem_filterMap]
  constructor
  · rintro ⟨c, ⟨note, hn, made⟩, asks⟩
    cases note with
    | answered c => cases made
    | made c' =>
        cases made
        cases c <;> simp_all
  · intro hn
    exact ⟨_, ⟨_, hn, rfl⟩, rfl⟩

theorem mem_statuses_after {model : String} (hm : model ∈ v.statuses) (e : Event) :
    model ∈ (v.after e).statuses :=
  mem_statuses_iff.2 (List.mem_append_left _ (mem_statuses_iff.1 hm))

theorem mem_statuses_of_hasAsked (sound : p.Sound) (hi : v.poller? i = some p)
    (hi' : (v.after e).poller? i = some p') (before : p.HasAsked → p.model ∈ v.statuses)
    (asked : p'.HasAsked) : p'.model ∈ (v.after e).statuses := by
  have hc := changes_of_poller? hi hi'
  have model := Poller.model_changes hc
  rw [model]
  rcases Poller.hasAsked_of_changes sound hc asked with earlier | ⟨beginning, calling⟩
  · exact mem_statuses_after (before earlier) e
  · cases turn : e.isTurnOf i with
    | true =>
        obtain ⟨now, rfl⟩ := eq_go_of_isTurnOf turn
        obtain rfl : p.go now v.active = p' := Option.some.inj ((poller?_go hi now).symm.trans hi')
        refine mem_statuses_iff.2 (List.mem_append_right _ ?_)
        rw [notes, hi, Option.elim_some, callBegun]
        simp [Poller.call?, beginning, calling, model]
    | false =>
        have stays := stage_of_still hi hi' turn (by simp [beginning])
          (by simp [Poller.call?, beginning])
        rw [calling, beginning] at stays
        cases stays

theorem mem_statuses_afterAll {model : String} (hm : model ∈ v.statuses) (events : List Event) :
    model ∈ (v.afterAll events).statuses := by
  induction events generalizing v with
  | nil => exact hm
  | cons e events ih => exact ih (mem_statuses_after hm e)

theorem mem_close_of_stopped (hi : v.poller? i = some p)
    (hi' : (v.after e).poller? i = some p') (before : p.gate ≠ .stopped)
    (stopped : p'.gate = .stopped) : e = .close i := by
  rcases poller?_after (e := e) hi with ⟨a, does, l, rfl, hl⟩ | ⟨-, same⟩
  · obtain rfl : (l.after a).poller = p' := Option.some.inj (hl.symm.trans hi')
    by_cases closes : a = .close
    · subst closes
      cases does
      rfl
    · have same := Life.isStopped_after (l := l) closes
      rw [PollGate.isStopped_iff.2 stopped] at same
      exact absurd (PollGate.isStopped_iff.1 same.symm) before
  · rw [Option.some.inj (same.symm.trans hi')] at before
    exact absurd stopped before

/-- A member finds at one of its turns that its deadline has come. -/
theorem isExpired_of_timedOut (hi : v.poller? i = some p) (hi' : (v.after e).poller? i = some p')
    (unknown : p.known = none) (checks : p.stage = .timing)
    (known : ∃ timeout last, p'.known = some (.timedOut timeout last)) :
    ∃ now, e = .go i now ∧ p.isExpired now = true := by
  obtain ⟨timeout, last, hk⟩ := known
  cases turn : e.isTurnOf i with
  | false =>
      rw [known_of_still hi hi' turn, unknown] at hk
      cases hk
  | true =>
      obtain ⟨now, rfl⟩ := eq_go_of_isTurnOf turn
      obtain rfl : p.go now v.active = p' := Option.some.inj ((poller?_go hi now).symm.trans hi')
      refine ⟨now, rfl, ?_⟩
      cases expired : p.isExpired now with
      | true => rfl
      | false =>
          rw [Poller.go_of_moves (.inTime checks expired)] at hk
          have ho := unknown
          simp_all [Poller.known, Stage.pending?]

/-- A running member that is given its turns makes a status call or learns its outcome. -/
theorem polled_of_turns {n : Nat} (h : v.Orderly names) (distinct : names.Nodup)
    (hi : v.poller? i = some p) (hi' : (v.afterAll events).poller? i = some p')
    (underway : p.Underway) (turns : n ≤ turnsOf i events)
    (near : p.model ∈ v.statuses ∨ p.known.isSome = true ∨
      0 < p.stage.toPoll ∧ p.stage.toPoll ≤ n) :
    p'.model ∈ (v.afterAll events).statuses ∨ p'.known.isSome = true := by
  -- the steps to the status call are never more than the turns that are left
  induction events generalizing v p n with
  | nil =>
      obtain rfl : p = p' := Option.some.inj (hi.symm.trans hi')
      have none : n = 0 := Nat.le_zero.1 turns
      refine near.imp_right fun close => close.resolve_right ?_
      omega
  | cons e events ih =>
      obtain ⟨q, hq, hc⟩ := exists_changes hi e
      have sound := sound_of_poller? h.fits hi
      have later := ih (n := n - (e.isTurnOf i).toNat) (h.after distinct e) hq hi'
        (underway.changes hc) (by rw [turnsOf_cons] at turns; omega)
      rcases near with polled | known | ⟨ahead, close⟩
      · exact later (.inl (by rw [Poller.model_changes hc]; exact mem_statuses_after polled e))
      · obtain ⟨outcome, hk⟩ := Option.isSome_iff_exists.1 known
        exact later (.inr (.inl (by rw [Poller.known_changes sound hc hk]; rfl)))
      cases turn : e.isTurnOf i with
      | true =>
          obtain ⟨now, rfl⟩ := eq_go_of_isTurnOf turn
          obtain rfl : p.go now v.active = q := Option.some.inj ((poller?_go hi now).symm.trans hq)
          cases known : p.known with
          | some outcome =>
              exact later (.inr (.inl (by rw [Poller.known_changes sound hc known]; rfl)))
          | none =>
              rcases Poller.toPoll_go underway.1 known ahead now v.active with
                learnt | calling | ⟨ahead', closer⟩
              · exact later (.inr (.inl learnt))
              · have asked : (p.go now v.active).HasAsked := .inl (by rw [calling]; rfl)
                refine later (.inl (mem_statuses_of_hasAsked sound hi hq ?_ asked))
                exact fun asked => absurd asked (Poller.not_hasAsked_of_toPoll ahead known)
              · exact later (.inr (.inr ⟨ahead', by rw [turn, Bool.toNat_true]; omega⟩))
      | false =>
          have stays := stage_of_still hi hq turn underway.2 (Poller.call?_of_toPoll ahead)
          exact later (.inr (.inr (by rw [stays, turn]; exact ⟨ahead, close⟩)))

/-! ## To the end -/

theorem ends_of_turns {outcome : DownloadOutcome} {n : Nat} (h : v.Orderly names)
    (distinct : names.Nodup) (hi : v.poller? i = some p)
    (hi' : (v.afterAll events).poller? i = some p') (underway : p.Underway)
    (known : p.known = some outcome) (turns : n ≤ turnsOf i events) (near : p.stage.toEnd ≤ n) :
    p'.stage = .ended ∧ p'.outcome = some outcome := by
  induction events generalizing v p n with
  | nil =>
      obtain rfl : p = p' := Option.some.inj (hi.symm.trans hi')
      have none : n = 0 := Nat.le_zero.1 turns
      have ended := Stage.toEnd_eq_zero (Nat.le_zero.1 (none ▸ near))
      refine ⟨ended, ?_⟩
      simpa [Poller.known, ended, Stage.pending?] using known
  | cons e events ih =>
      obtain ⟨q, hq, hc⟩ := exists_changes hi e
      have sound := sound_of_poller? h.fits hi
      have isKnown : p.known.isSome = true := by rw [known]; rfl
      refine ih (n := n - (e.isTurnOf i).toNat) (h.after distinct e) hq hi' (underway.changes hc)
        (Poller.known_changes sound hc known) (by rw [turnsOf_cons] at turns; omega) ?_
      cases turn : e.isTurnOf i with
      | true =>
          obtain ⟨now, rfl⟩ := eq_go_of_isTurnOf turn
          obtain rfl : p.go now v.active = q := Option.some.inj ((poller?_go hi now).symm.trans hq)
          rw [Bool.toNat_true]
          rcases Poller.toEnd_go sound underway isKnown now v.active with closer | ended
          · omega
          · rw [(Poller.changes_of_ended hc ended).1]
            exact Nat.zero_le _
      | false =>
          have silent : p.call? = none := by
            cases hcall : p.call? with
            | none => rfl
            | some c => simp [Poller.known_of_call sound hcall] at isKnown
          rw [stage_of_still hi hq turn underway.2 silent]
          exact near

end Venture

end ModelDepot.Batch
