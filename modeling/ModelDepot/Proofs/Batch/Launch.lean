import ModelDepot.Proofs.Batch.Venture
import ModelDepot.Proofs.Lists
import ModelDepot.Proofs.Poller.Launched

/-! # The start of a batch

The members of a batch are started one after the other, and no status is asked for before all of
these starts are over. So the log of a venture is the log of the starts, in the order of the
members, and behind it status calls only.
-/

namespace ModelDepot.Batch

/-! ## Where the members stand -/

/-- Where the member in place `i` stands when its owner has come this far. -/
def Phase.Fits (i : Nat) (p : Poller) : Phase → Prop
  | .starting asked =>
    p.gate.isStopped = false ∧ p.isRunning = false ∧ (i + 1 < asked → p.stage = .started) ∧
      (i + 1 = asked → p.stage.isEarly = true ∧ p.stage ≠ .idle) ∧ (asked ≤ i → p.stage = .idle)
  | .running spawned =>
    p.stage.isLaunched = true ∧ p.isRunning = decide (i < spawned) ∧
      (spawned ≤ i → p.stage = .started)

theorem waits_go {p : Poller} (waits : p.isRunning = false) (now : Nat) (active : ActiveDownloads)
    (hs : p.stage = .idle ∨ p.stage = .started) : p.go now active = p := by
  rcases hs with hs | hs
  · simp [Poller.go, Poller.next, hs]
  · simp [Poller.go, Poller.next, hs, waits]

theorem early_go {p : Poller} (now : Nat) (active : ActiveDownloads)
    (early : p.stage.isEarly = true) (asked : p.stage ≠ .idle) (waits : p.isRunning = false) :
    (p.go now active).stage.isEarly = true ∧ (p.go now active).stage ≠ .idle := by
  rcases Poller.go_cases p now active with ⟨_, _, hm, -⟩ | ⟨same, -⟩
  · generalize p.go now active = p' at hm
    cases hm with
    | @conclude activity _ hs | @release activity _ hs =>
        cases activity <;> simp_all [Stage.isEarly]
    | _ => simp_all [Stage.isEarly]
  · rw [same]
    exact ⟨early, asked⟩

theorem isRunning_go (p : Poller) (now : Nat) (active : ActiveDownloads) :
    (p.go now active).isRunning = p.isRunning := by
  rcases Poller.go_cases p now active with ⟨_, _, hm, -⟩ | ⟨same, -⟩
  · generalize p.go now active = p' at hm
    cases hm <;> simp
  · rw [same]

theorem isRunning_receive (p : Poller) (reply : Reply) :
    (p.receive reply).isRunning = p.isRunning := by
  unfold Poller.receive
  split <;> rfl

section Phase

variable {phase : Phase} {i : Nat} {p : Poller}

theorem Phase.Fits.go (h : phase.Fits i p) (now : Nat) (active : ActiveDownloads) :
    phase.Fits i (p.go now active) := by
  have stays (waits : p.isRunning = false) (hs : p.stage = .idle ∨ p.stage = .started) :
      p.go now active = p := waits_go waits now active hs
  cases phase with
  | starting asked =>
      obtain ⟨gate, waits, before, here, behind⟩ := h
      refine ⟨?_, ?_, fun less => ?_, fun same => ?_, fun less => ?_⟩
      · exact (Life.isStopped_after (l := ⟨p, 0⟩) (a := .go now active) nofun).trans gate
      · rw [isRunning_go, waits]
      · rw [stays waits (.inr (before less)), before less]
      · exact early_go now active (here same).1 (here same).2 waits
      · rw [stays waits (.inl (behind less)), behind less]
  | running spawned =>
      obtain ⟨launched, runs, behind⟩ := h
      refine ⟨Poller.launched_changes (Poller.changes_go p now active) launched, ?_, fun less => ?_⟩
      · rw [isRunning_go, runs]
      · rw [stays (by simp [runs, less]) (.inr (behind less)), behind less]

theorem Phase.Fits.receive (h : phase.Fits i p) (reply : Reply) :
    phase.Fits i (p.receive reply) := by
  have started (hs : p.stage = .started) : (p.receive reply).stage = .started := by
    simp [Poller.receive, hs]
  cases phase with
  | starting asked =>
      obtain ⟨gate, waits, before, here, behind⟩ := h
      refine ⟨?_, ?_, fun less => started (before less), fun same => ?_, fun less => ?_⟩
      · exact (Life.isStopped_after (l := ⟨p, 0⟩) (a := .answer reply) (by simp)).trans gate
      · rw [isRunning_receive, waits]
      · obtain ⟨early, asked⟩ := here same
        unfold Poller.receive
        split
        · exact ⟨rfl, fun h => by cases h⟩
        · next hs => simp [hs, Stage.isEarly] at early
        · exact ⟨early, asked⟩
      · simp [Poller.receive, behind less]
  | running spawned =>
      obtain ⟨launched, runs, behind⟩ := h
      refine ⟨Poller.launched_changes (Poller.changes_receive p reply) launched, ?_,
        fun less => started (behind less)⟩
      rw [isRunning_receive, runs]

theorem Phase.Fits.handled {spawned : Nat} {l : Life} (h : (Phase.running spawned).Fits i l.poller)
    (less : i < spawned) (a : Act)
    (same : (l.after a).poller.isRunning = l.poller.isRunning) :
    (Phase.running spawned).Fits i (l.after a).poller := by
  obtain ⟨launched, runs, -⟩ := h
  exact ⟨Poller.launched_changes (Life.changes_after l a) launched, by rw [same, runs],
    fun behind => by omega⟩

end Phase

namespace Venture

variable {v : Venture} {names : List String} {i : Nat} {p : Poller} {e : Event}

/-- Every member stands where the owner's progress leaves it. -/
def InPhase (v : Venture) : Prop :=
  ∀ i p, v.poller? i = some p → v.phase.Fits i p

theorem inPhase_start (names : List String) (config : PollerConfig) (held : ActiveDownloads) :
    (start names config held).InPhase := by
  intro i p hi
  rw [poller?_start] at hi
  obtain ⟨model, -, rfl⟩ := Option.map_eq_some_iff.1 hi
  exact ⟨rfl, rfl, nofun, nofun, fun _ => rfl⟩

theorem lt_length (hi : v.poller? i = some p) : i < v.company.members.length := by
  obtain ⟨m, hm, -⟩ := poller?_eq_some_iff.1 hi
  exact (List.getElem?_eq_some_iff.1 hm).1

theorem started_of_isReady (ready : v.isReady (i + 1) = true) (hi : v.poller? i = some p) :
    p.stage = .started := by
  simp only [isReady, Nat.add_sub_cancel, hi, Option.any_some, Bool.or_eq_true, beq_iff_eq] at ready
  cases hs : p.stage <;> simp [hs] at ready ⊢

theorem exists_running (underway : v.isUnderway = true) :
    ∃ spawned, v.phase = .running spawned ∧ v.company.members.length ≤ spawned := by
  cases hp : v.phase with
  | starting asked => simp [isUnderway, hp] at underway
  | running spawned => exact ⟨spawned, rfl, by simpa [isUnderway, hp] using underway⟩

theorem fits_of_proceed (hi : v.poller? i = some p) (fits : v.phase.Fits i p)
    (nothing : v.actOn i .proceed = none) : (v.after .proceed).phase.Fits i p := by
  have inside := lt_length hi
  cases hp : v.phase with
  | starting asked =>
      rw [hp] at fits
      obtain ⟨gate, waits, before, here, behind⟩ := fits
      cases ready : v.isReady asked with
      | false =>
          have phase : (v.after .proceed).phase = .starting asked := by
            simp [Venture.after, phaseAfter, hp, ready]
          rw [phase]
          exact ⟨gate, waits, before, here, behind⟩
      | true =>
          have apart : asked ≠ i := by
            rintro rfl
            simp [actOn, happening, hp, ready] at nothing
          have isOver (same : i + 1 = asked) : p.stage = .started := by
            subst same
            exact started_of_isReady ready hi
          by_cases more : asked < v.company.members.length
          · have phase : (v.after .proceed).phase = .starting (asked + 1) := by
              simp [Venture.after, phaseAfter, hp, ready, more]
            rw [phase]
            refine ⟨gate, waits, fun less => ?_, fun same => by omega,
              fun less => behind (by omega)⟩
            by_cases same : i + 1 = asked
            · exact isOver same
            · exact before (by omega)
          · have phase : (v.after .proceed).phase = .running 0 := by
              simp [Venture.after, phaseAfter, hp, ready, more]
            have started : p.stage = .started := by
              by_cases same : i + 1 = asked
              · exact isOver same
              · exact before (by omega)
            rw [phase]
            exact ⟨by simp [started, Stage.isLaunched], by simp [waits], fun _ => started⟩
  | running spawned =>
      have apart : spawned ≠ i := by
        rintro rfl
        simp [actOn, happening, hp] at nothing
      rw [hp] at fits
      obtain ⟨launched, runs, behind⟩ := fits
      by_cases more : spawned < v.company.members.length
      · have phase : (v.after .proceed).phase = .running (spawned + 1) := by
          simp [Venture.after, phaseAfter, hp, more]
        rw [phase]
        refine ⟨launched, ?_, fun less => behind (by omega)⟩
        rw [runs, decide_eq_decide]
        omega
      · have phase : (v.after .proceed).phase = .running spawned := by
          simp [Venture.after, phaseAfter, hp, more]
        rw [phase]
        exact ⟨launched, runs, behind⟩

theorem InPhase.after (h : v.InPhase) (e : Event) : (v.after e).InPhase := by
  intro i p' hi'
  obtain ⟨p, hi⟩ := exists_before hi'
  have inside := lt_length hi
  have fits := h i p hi
  -- either the event acts on this member, or only the owner has gone on
  rcases poller?_after (e := e) hi with ⟨a, does, l, rfl, hl⟩ | ⟨nothing, same⟩
  · obtain rfl : (l.after a).poller = p' := Option.some.inj (hl.symm.trans hi')
    cases does with
    | start hp ready =>
        have phase : (v.after .proceed).phase = .starting (i + 1) := by
          simp [Venture.after, phaseAfter, hp, ready, inside]
        rw [hp] at fits
        obtain ⟨gate, waits, -, -, behind⟩ := fits
        have idle : (l.after .start).poller = { l.poller with stage := .entering } := by
          simp [Life.after, Poller.requestStart, behind (Nat.le_refl i)]
        rw [phase, idle]
        exact ⟨gate, waits, fun less => by omega, fun _ => ⟨rfl, fun h => by cases h⟩,
          fun less => by omega⟩
    | run hp =>
        have phase : (v.after .proceed).phase = .running (i + 1) := by
          simp [Venture.after, phaseAfter, hp, inside]
        rw [hp] at fits
        obtain ⟨launched, -, behind⟩ := fits
        have started : (l.after .run).poller = { l.poller with isRunning := true } := by
          simp [Life.after, Poller.requestRun, Poller.requestStart, behind (Nat.le_refl i)]
        rw [phase, started]
        exact ⟨launched, by simp, fun less => by omega⟩
    | go now => exact fits.go now v.active
    | answer reply => exact fits.receive reply
    | look underway | close underway =>
        obtain ⟨spawned, hp, all⟩ := exists_running underway
        rw [hp] at fits
        show v.phase.Fits i _
        rw [hp]
        refine fits.handled (by omega) _ ?_
        simp only [Life.after]
        split <;> rfl
  · obtain rfl : p = p' := Option.some.inj (same.symm.trans hi')
    cases e with
    | proceed => exact fits_of_proceed hi fits nothing
    | _ => exact fits

end Venture

/-! ## The log of the starts -/

def startNotes (p : Poller) : List Note :=
  match p.stage with
  | .idle | .entering | .claiming | .claimed => []
  | .requesting => [.made (.startDownload p.model)]
  | _ =>
    if p.known = some (.failed .alreadyActive) then []
    else [.made (.startDownload p.model), .answered (.startDownload p.model)]

section StartNotes

variable {p p' : Poller} {now : Nat} {active : ActiveDownloads}

theorem callBegun_of_same (same : p.go now active = p) : callBegun p now active = [] := by
  rw [callBegun, same]
  cases p.call? <;> rfl

theorem startNotes_go (sound : p.Sound) (gate : p.gate.isStopped = false)
    (early : p.stage.isEarly = true) (waits : p.isRunning = false) :
    startNotes (p.go now active) = startNotes p ++ callBegun p now active := by
  have ho := sound.outcome
  rcases Poller.go_cases p now active with ⟨_, _, hm, -⟩ | ⟨same, -⟩
  · simp only [callBegun]
    generalize p.go now active = p' at hm
    cases hm with
    | @conclude activity _ hs | @release activity _ hs =>
        simp_all [startNotes, Poller.call?, Poller.known, Stage.pending?, Poller.OutcomeFits]
    | _ =>
        simp_all [startNotes, Poller.call?, Poller.known, Stage.pending?, Poller.OutcomeFits,
          Stage.isEarly]
  · rw [callBegun_of_same same, same, List.append_nil]

theorem startNotes_receive (sound : p.Sound) (early : p.stage.isEarly = true) (reply : Reply) :
    startNotes (p.receive reply) = startNotes p ++ p.call?.toList.map .answered := by
  have ho := sound.outcome
  unfold Poller.receive
  split
  · next hs => simp_all [startNotes, Poller.call?, Poller.known, Stage.pending?, Poller.OutcomeFits]
  · next hs => simp [hs, Stage.isEarly] at early
  · next hne _ =>
      have quiet : p.call? = none := by
        cases hs : p.stage <;> simp_all [Poller.call?, Stage.isEarly]
      simp [quiet]

theorem startNotes_of_launched (launched : p.stage.isLaunched = true) :
    startNotes p = if p.known = some (.failed .alreadyActive) then []
      else [.made (.startDownload p.model), .answered (.startDownload p.model)] := by
  cases hs : p.stage <;> simp_all [startNotes, Stage.isLaunched, Stage.isEarly]

theorem startNotes_changes (sound : p.Sound) (launched : p.stage.isLaunched = true)
    (hc : p.Changes p') : startNotes p' = startNotes p := by
  rw [startNotes_of_launched launched, startNotes_of_launched (Poller.launched_changes hc launched),
    Poller.model_changes hc]
  have same : p'.known = some (.failed .alreadyActive) ↔ p.known = some (.failed .alreadyActive) :=
    Poller.known_iff_of_launched sound launched hc rfl
  simp only [same]

end StartNotes

namespace Venture

variable {v : Venture} {names : List String} {i j : Nat} {p : Poller} {e : Event} {l : Life}

/-- The notes of all start calls, in the order of the members. -/
def startLog (v : Venture) : List Note :=
  v.company.lives.flatMap fun l => startNotes l.poller

theorem startLog_of_act {a : Act} {new : List Note} (acts : v.happening e = some (.act j a))
    (hj : v.life? j = some l)
    (here : startNotes (l.after a).poller = startNotes l.poller ++ new)
    (behind : new = [] ∨ ∀ k q, j < k → v.poller? k = some q → startNotes q = []) :
    (v.after e).startLog = v.startLog ++ new := by
  rw [startLog, lives_after, acts]
  refine flatMap_modify (f := fun l : Life => startNotes l.poller) hj here ?_
  refine behind.imp_right fun nothing k m less hk => nothing k m.poller less ?_
  rw [poller?, life?, hk]
  rfl

theorem startLog_of_nobody {a : Act} (acts : v.happening e = some (.act j a))
    (hj : v.life? j = none) : (v.after e).startLog = v.startLog := by
  have outside : v.company.lives.length ≤ j := List.getElem?_eq_none_iff.1 hj
  rw [startLog, lives_after, acts]
  show (v.company.lives.modify j fun l => l.after a).flatMap _ = _
  rw [List.modify_eq_self outside]
  rfl

/-- The note is one of a status call by a member that runs and whose start has not failed. -/
def IsPoll (v : Venture) (note : Note) : Prop :=
  ∃ i p, v.poller? i = some p ∧ p.stage.isLaunched = true ∧ p.isRunning = true ∧ ¬ p.StartFailed ∧
    (note = .made (.downloadStatus p.model) ∨ note = .answered (.downloadStatus p.model))

theorem IsPoll.after {note : Note} (fits : v.company.Fits names) (h : v.IsPoll note) (e : Event) :
    (v.after e).IsPoll note := by
  obtain ⟨i, p, hi, launched, runs, accepted, made⟩ := h
  obtain ⟨p', hi', hc⟩ := exists_changes hi e
  refine ⟨i, p', hi', Poller.launched_changes hc launched, ?_, ?_, ?_⟩
  · have notIdle : p.stage ≠ .idle := by
      rintro hs
      simp [hs, Stage.isLaunched, Stage.isEarly] at launched
    exact (Poller.Underway.changes ⟨runs, notIdle⟩ hc).1
  · rwa [Poller.startFailed_changes (sound_of_poller? fits hi) launched hc]
  · rwa [Poller.model_changes hc]

/-- The log has the starts first and in order, and status calls behind them. -/
def Logs (v : Venture) : Prop :=
  ∃ polls, v.log = v.startLog ++ polls ∧ ∀ note ∈ polls, v.IsPoll note

theorem startLog_of_still (still : ∀ j a, v.happening e ≠ some (.act j a)) :
    (v.after e).startLog = v.startLog := by
  rw [startLog, lives_after, startLog]
  split
  · next acts => exact absurd acts (still _ _)
  · rfl

section Phases

variable (inPhase : v.InPhase)
include inPhase

theorem early_of_starting {asked : Nat} (hp : v.phase = .starting asked)
    (hi : v.poller? i = some p) : p.stage.isEarly = true := by
  have stands := inPhase i p hi
  rw [hp] at stands
  obtain ⟨-, -, before, here, behind⟩ := stands
  rcases Nat.lt_trichotomy (i + 1) asked with less | same | more
  · rw [before less]
    rfl
  · exact (here same).1
  · rw [behind (by omega)]
    rfl

/-- Either the member is the one that is being started, and those behind it have not made a call,
or it does nothing. -/
theorem starting_cases {asked : Nat} (hp : v.phase = .starting asked) (hi : v.poller? i = some p) :
    (∀ k q, i < k → v.poller? k = some q → startNotes q = []) ∨
    (∀ now active, p.go now active = p) ∧ p.call? = none := by
  have stands := inPhase i p hi
  rw [hp] at stands
  obtain ⟨-, waits, before, here, behind⟩ := stands
  rcases Nat.lt_trichotomy (i + 1) asked with less | same | more
  · refine .inr ⟨fun now active => waits_go waits now active (.inr (before less)), ?_⟩
    simp [Poller.call?, before less]
  · refine .inl fun k q later hk => ?_
    have idle := inPhase k q hk
    rw [hp] at idle
    simp [startNotes, idle.2.2.2.2 (by omega)]
  · refine .inr ⟨fun now active => waits_go waits now active (.inl (behind (by omega))), ?_⟩
    simp [Poller.call?, behind (by omega)]

variable (fits : v.company.Fits names)
include fits

theorem startLog_starting {asked : Nat} (hp : v.phase = .starting asked) (e : Event) :
    (v.after e).startLog = v.startLog ++ v.notes e := by
  have quiet (nothing : v.notes e = []) (still : ∀ j a, v.happening e ≠ some (.act j a)) :
      (v.after e).startLog = v.startLog ++ v.notes e := by
    rw [nothing, List.append_nil, startLog_of_still still]
  cases e with
  | proceed =>
      cases ready : v.isReady asked with
      | false => exact quiet rfl fun j a => by simp [happening, hp, ready]
      | true =>
          have acts : v.happening .proceed = some (.act asked .start) := by
            simp [happening, hp, ready]
          cases hj : v.life? asked with
          | none =>
              rw [startLog_of_nobody acts hj]
              simp [notes]
          | some l =>
              have stands := inPhase asked l.poller (by rw [poller?, hj]; rfl)
              rw [hp] at stands
              have idle := stands.2.2.2.2 (Nat.le_refl asked)
              refine startLog_of_act acts hj ?_ (.inl rfl)
              simp [Life.after, Poller.requestStart, idle, startNotes, notes]
  | go j now =>
      cases hj : v.life? j with
      | none =>
          have nobody : v.poller? j = none := by rw [poller?, hj]; rfl
          rw [startLog_of_nobody rfl hj, notes, nobody, Option.elim_none, List.append_nil]
      | some l =>
          have hi : v.poller? j = some l.poller := by rw [poller?, hj]; rfl
          have stands := inPhase j l.poller hi
          rw [hp] at stands
          rw [notes, hi, Option.elim_some]
          refine startLog_of_act rfl hj ?_ ?_
          · exact startNotes_go (sound_of_poller? fits hi) stands.1
              (early_of_starting inPhase hp hi) stands.2.1
          · rcases starting_cases inPhase hp hi with behind | ⟨still, -⟩
            · exact .inr behind
            · exact .inl (callBegun_of_same (still now v.active))
  | answer j reply =>
      cases hj : v.life? j with
      | none =>
          have nobody : v.poller? j = none := by rw [poller?, hj]; rfl
          rw [startLog_of_nobody rfl hj, notes, nobody, Option.elim_none, List.append_nil]
      | some l =>
          have hi : v.poller? j = some l.poller := by rw [poller?, hj]; rfl
          rw [notes, hi, Option.elim_some]
          refine startLog_of_act rfl hj ?_ ?_
          · exact startNotes_receive (sound_of_poller? fits hi)
              (early_of_starting inPhase hp hi) reply
          · rcases starting_cases inPhase hp hi with behind | ⟨-, silent⟩
            · exact .inr behind
            · exact .inl (by simp [silent])
  | look j | close j | hear j =>
      refine quiet rfl fun k a => ?_
      simp [happening, isUnderway, hp]
  | claim name | giveBack name => exact quiet rfl fun j a => by simp [happening]

theorem startLog_running {spawned : Nat} (hp : v.phase = .running spawned) (e : Event) :
    (v.after e).startLog = v.startLog := by
  cases acts : v.happening e with
  | none => exact startLog_of_still fun j a same => by simp [acts] at same
  | some h =>
      cases h with
      | hear j => exact startLog_of_still fun j a same => by simp [acts] at same
      | act j a =>
          cases hj : v.life? j with
          | none => exact startLog_of_nobody acts hj
          | some l =>
              have hi : v.poller? j = some l.poller := by rw [poller?, hj]; rfl
              have launched : l.poller.stage.isLaunched = true := by
                have stands := inPhase j l.poller hi
                rw [hp] at stands
                exact stands.1
              have same := startNotes_changes (sound_of_poller? fits hi) launched
                (Life.changes_after l a)
              have kept : (v.after e).startLog = v.startLog ++ [] :=
                startLog_of_act acts hj (by rw [same, List.append_nil]) (.inl rfl)
              rwa [List.append_nil] at kept

omit inPhase in
theorem isPoll_of_call {spawned : Nat} (hi : v.poller? i = some p)
    (stands : (Phase.running spawned).Fits i p) {c : Call} (hc : p.call? = some c) :
    c = .downloadStatus p.model ∧ p.stage.isLaunched = true ∧ p.isRunning = true ∧
      ¬ p.StartFailed := by
  obtain ⟨launched, runs, behind⟩ := stands
  refine ⟨Poller.call_of_launched launched hc, launched, ?_, ?_⟩
  · rw [runs, decide_eq_true_eq]
    by_contra less
    simp [Poller.call?, behind (by omega)] at hc
  · simp [Poller.StartFailed, Poller.known_of_call (sound_of_poller? fits hi) hc]

/-- Behind the starts every note is one of a status call. -/
theorem isPoll_of_running (distinct : names.Nodup) {spawned : Nat} (hp : v.phase = .running spawned)
    (e : Event) {note : Note} (made : note ∈ v.notes e) : (v.after e).IsPoll note := by
  have later := fits_after fits distinct e
  cases e with
  | go j now =>
      cases hj : v.poller? j with
      | none => simp [notes, hj] at made
      | some p =>
          have hj' := poller?_go hj now
          have stands : (Phase.running spawned).Fits j (p.go now v.active) := by
            rw [← hp]
            exact (inPhase j p hj).go now v.active
          obtain ⟨c, hc, rfl⟩ : ∃ c, (p.go now v.active).call? = some c ∧ .made c = note := by
            rw [notes, hj, Option.elim_some, callBegun] at made
            split at made
            · cases made
            · simpa using made
          obtain ⟨rfl, launched, runs, accepted⟩ := isPoll_of_call later hj' stands hc
          exact ⟨j, _, hj', launched, runs, accepted, .inl rfl⟩
  | answer j reply =>
      cases hj : v.poller? j with
      | none => simp [notes, hj] at made
      | some p =>
          have hj' := poller?_answer hj reply
          have hc' := Poller.changes_receive p reply
          have stands := inPhase j p hj
          rw [hp] at stands
          obtain ⟨c, hc, rfl⟩ : ∃ c, p.call? = some c ∧ .answered c = note := by
            rw [notes, hj, Option.elim_some] at made
            simpa using made
          obtain ⟨rfl, launched, runs, accepted⟩ := isPoll_of_call fits hj stands hc
          refine ⟨j, _, hj', Poller.launched_changes hc' launched, ?_, ?_, .inr ?_⟩
          · rw [isRunning_receive, runs]
          · rwa [Poller.startFailed_changes (sound_of_poller? fits hj) launched hc']
          · rw [Poller.model_changes hc']
  | _ => simp [notes] at made

end Phases

/-- An event of the start belongs to the start that goes on, and every other to a status call. -/
theorem Logs.after (fits : v.company.Fits names) (distinct : names.Nodup) (inPhase : v.InPhase)
    (h : v.Logs) (e : Event) : (v.after e).Logs := by
  obtain ⟨polls, log, arePolls⟩ := h
  have kept : ∀ note ∈ polls, (v.after e).IsPoll note := fun note hn =>
    (arePolls note hn).after fits e
  have grown : (v.after e).log = v.startLog ++ polls ++ v.notes e := by
    rw [← log]
    rfl
  cases hp : v.phase with
  | starting asked =>
      obtain rfl : polls = [] := by
        refine List.eq_nil_iff_forall_not_mem.2 fun note hn => ?_
        obtain ⟨i, p, hi, -, runs, -⟩ := arePolls note hn
        have stands := inPhase i p hi
        rw [hp] at stands
        rw [stands.2.1] at runs
        cases runs
      refine ⟨[], ?_, nofun⟩
      rw [grown, startLog_starting inPhase fits hp]
      simp
  | running spawned =>
      refine ⟨polls ++ v.notes e, ?_, fun note hn => ?_⟩
      · rw [grown, startLog_running inPhase fits hp, List.append_assoc]
      · rcases List.mem_append.1 hn with earlier | now
        · exact kept note earlier
        · exact isPoll_of_running inPhase fits distinct hp e now

end Venture

end ModelDepot.Batch
