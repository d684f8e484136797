import ModelDepot.Proofs.Batch.Fates

/-! # A batch starts its members before it polls

What the calls of a batch are and what becomes of each member, whatever the backend answers,
whatever others hold on the client and in whatever order things happen.
-/

namespace ModelDepot.Batch

namespace Venture

def call? (v : Venture) (i : Nat) : Option Call :=
  (v.poller? i).bind Poller.call?

def hasRefused (v : Venture) (i : Nat) : Bool :=
  (v.known? i).any DownloadOutcome.failsStart

def isHeardOut (v : Venture) (i : Nat) : Prop :=
  ∃ m, v.company.members[i]? = some m ∧ m.unheard = []

/-- A venture that begins with the batch and goes on with some events. -/
def reached (names : List String) (config : PollerConfig) (held : ActiveDownloads)
    (events : List Event) : Venture :=
  (start names config held).afterAll events

/-- The calls that were made: starts in the order of the members, then status calls, and no others.
No status call is made before each of the starts is answered. -/
structure CallsInOrder (v : Venture) (names : List String) : Prop where
  calls : v.made = v.starts.map .startDownload ++ v.statuses.map .downloadStatus
  once : names.Nodup ∧ v.starts.Sublist names
  answered : v.statuses ≠ [] → v.hasStarted = true ∧
    ∃ polls, v.log = v.starts.flatMap answeredStart ++ polls ∧
      ∀ note ∈ polls, ∃ model ∈ names,
        note = .made (.downloadStatus model) ∨ note = .answered (.downloadStatus model)

/-- How the start of the member in place `i` goes. -/
structure StartOf (names : List String) (config : PollerConfig) (held : ActiveDownloads)
    (events : List Event) (i : Nat) (model : String) : Prop where
  /-- A name that is not held is started. -/
  free : model ∉ held.names → (∀ e ∈ events, e ≠ .claim model) →
    (reached names config held events).hasStarted = true →
    model ∈ (reached names config held events).starts
  /-- A name that is held is not. -/
  taken : model ∈ held.names → (∀ e ∈ events, e ≠ .giveBack model) →
    model ∉ (reached names config held events).starts ∧
    ((reached names config held events).hasStarted = true →
      (reached names config held events).known? i = some (.failed .alreadyActive))
  /-- One of the two it was when the member came to claim it. -/
  started : (reached names config held events).hasStarted = true →
    (model ∈ (reached names config held events).starts ↔
      (reached names config held events).known? i ≠ some (.failed .alreadyActive))
  answered : (reached names config held events).hasStarted = true →
    model ∈ (reached names config held events).starts →
    ∃ before reply later, events = before ++ .answer i reply :: later ∧
      (reached names config held before).call? i = some (.startDownload model)
  rejected : ∀ before reply later error, events = before ++ .answer i reply :: later →
    (reached names config held before).call? i = some (.startDownload model) →
    Client.accept Client.decodeStart reply = .error error →
    (reached names config held events).hasStarted = true →
    (reached names config held events).known? i =
      some (.failed (.rejected (Poller.rejection error)))
  accepted : ∀ before reply later ack, events = before ++ .answer i reply :: later →
    (reached names config held before).call? i = some (.startDownload model) →
    Client.accept Client.decodeStart reply = .ok ack →
    (reached names config held events).hasStarted = true →
    (reached names config held events).hasRefused i = false

/-- What becomes of the member in place `i` when its start is over. -/
structure FateOf (names : List String) (config : PollerConfig) (held : ActiveDownloads)
    (events : List Event) (i : Nat) (model : String) : Prop where
  /-- A member whose start has failed is never asked about. -/
  refused : (reached names config held events).hasRefused i = true →
    model ∉ (reached names config held events).statuses
  /-- Any other that is given its turns is, unless it is stopped or finds its deadline past. -/
  polled : ∀ before later, events = before ++ later →
    (reached names config held before).isUnderway = true → 4 ≤ turnsOf i later →
    (reached names config held events).hasRefused i = false →
    model ∈ (reached names config held events).statuses ∨ .close i ∈ events ∨
      ∃ before now later, events = before ++ .go i now :: later ∧
        ((reached names config held before).poller? i).any (·.isExpired now) = true
  /-- A member whose outcome is known comes to its end with it. -/
  ends : ∀ before later outcome, events = before ++ later →
    (reached names config held before).isUnderway = true → 6 ≤ turnsOf i later →
    (reached names config held before).known? i = some outcome →
    (reached names config held events).company.EndedWith i outcome
  /-- That is what is told and reported once it is heard. -/
  reported : ∀ outcome, (reached names config held events).company.EndedWith i outcome →
    (reached names config held events).isHeardOut i →
    .memberFinished model outcome ∈ (reached names config held events).company.told ∧
    (reached names config held events).company.batch.report.outcomes[i]? = some ⟨model, outcome⟩
  /-- Nothing else is told, and nothing else is in the report. -/
  told : ∀ outcome,
    .memberFinished model outcome ∈ (reached names config held events).company.told →
    (reached names config held events).known? i = some outcome
  report : (reached names config held events).company.tally.remaining = 0 →
    ∃ outcome, (reached names config held events).known? i = some outcome ∧
      (reached names config held events).company.batch.report.outcomes[i]? = some ⟨model, outcome⟩

section

variable {names : List String} {v : Venture} {i : Nat} {p : Poller} {outcome : DownloadOutcome}

theorem known?_of_poller? (hi : v.poller? i = some p) : v.known? i = p.known := by
  rw [known?, hi]
  rfl

theorem hasRefused_iff (hi : v.poller? i = some p) : v.hasRefused i = true ↔ p.StartFailed := by
  rw [hasRefused, known?_of_poller? hi]
  exact Iff.rfl

theorem exists_of_call? {c : Call} (h : v.call? i = some c) :
    ∃ p, v.poller? i = some p ∧ p.call? = some c :=
  Option.bind_eq_some_iff.1 h

theorem endedWith_iff : v.company.EndedWith i outcome ↔
    ∃ p, v.poller? i = some p ∧ p.stage = .ended ∧ p.outcome = some outcome := by
  constructor
  · rintro ⟨l, hl, ended, noted⟩
    exact ⟨l.poller, by rw [poller?, life?, hl]; rfl, ended, noted⟩
  · rintro ⟨p, hi, ended, noted⟩
    obtain ⟨l, hl, rfl⟩ := Option.map_eq_some_iff.1 hi
    exact ⟨l, hl, ended, noted⟩

theorem known?_of_endedWith (h : v.company.EndedWith i outcome) : v.known? i = some outcome := by
  obtain ⟨p, hi, ended, noted⟩ := endedWith_iff.1 h
  rw [known?_of_poller? hi, Poller.known, ended, noted]
  rfl

theorem poller?_of_name {model : String} {config : PollerConfig} {held : ActiveDownloads}
    (name : names[i]? = some model) :
    (start names config held).poller? i = some (.new model config) := by
  rw [poller?_start, name]
  rfl

theorem isForeign_start {config : PollerConfig} {held : ActiveDownloads}
    (hi : (start names config held).poller? i = some p) :
    (start names config held).IsForeign p ↔ p.model ∈ held.names := by
  rw [poller?_start] at hi
  obtain ⟨model, -, rfl⟩ := Option.map_eq_some_iff.1 hi
  exact and_iff_left rfl

end

section Reached

variable {names : List String} {config : PollerConfig} {held : ActiveDownloads}
  {events before later : List Event} {i : Nat} {model : String} {p : Poller}

theorem reached_append : reached names config held (before ++ later) =
    (reached names config held before).afterAll later :=
  afterAll_append before later

theorem orderly_reached (distinct : names.Nodup) (config : PollerConfig) (held : ActiveDownloads)
    (events : List Event) :
    (reached names config held events).Orderly names :=
  (orderly_start names config held).afterAll distinct events

theorem callsInOrder_reached (distinct : names.Nodup) :
    (reached names config held events).CallsInOrder names := by
  have h := orderly_reached distinct config held events
  refine ⟨h.calls.1, ⟨distinct, h.starts_sublist⟩, fun polled => ?_⟩
  have started := h.hasStarted_of_polled polled
  obtain ⟨notes, log, arePolls⟩ := h.log_of_hasStarted started
  refine ⟨started, notes, log, fun note hn => ?_⟩
  obtain ⟨i, p, hi, -, -, -, note⟩ := arePolls note hn
  exact ⟨p.model, List.mem_of_getElem? (name_of_poller? h.fits hi), note⟩

theorem underway_of_isUnderway (h : (reached names config held events).InPhase)
    (underway : (reached names config held events).isUnderway = true)
    (hi : (reached names config held events).poller? i = some p) :
    p.stage.isLaunched = true ∧ p.Underway := by
  obtain ⟨spawned, hp, all⟩ := exists_running underway
  have stands := h i p hi
  rw [hp] at stands
  obtain ⟨launched, runs, -⟩ := stands
  have inside := lt_length hi
  refine ⟨launched, by rw [runs]; simp; omega, fun idle => ?_⟩
  simp [idle, Stage.isLaunched, Stage.isEarly] at launched

section Member

variable (distinct : names.Nodup) (name : names[i]? = some model)
include distinct name

theorem exists_member (config : PollerConfig) (held : ActiveDownloads) (events : List Event) :
    ∃ p, (reached names config held events).poller? i = some p ∧ p.model = model :=
  exists_poller? (orderly_reached distinct config held events).fits name

theorem exists_answered (asks : (reached names config held before).call? i =
      some (.startDownload model)) (reply : Reply) :
    ∃ q, ((reached names config held before).after (.answer i reply)).poller? i = some q ∧
      q.stage = .answered (Client.accept Client.decodeStart reply) := by
  obtain ⟨q, hq, calls⟩ := exists_of_call? asks
  have fits := (orderly_reached distinct config held before).fits
  have same : q.model = model := Option.some.inj ((name_of_poller? fits hq).symm.trans name)
  exact ⟨q.receive reply, poller?_answer hq reply,
    Poller.stage_receive_start (by rw [calls, same]) reply⟩

theorem exists_answer (started : (reached names config held events).hasStarted = true)
    (called : model ∈ (reached names config held events).starts) :
    ∃ before reply later, events = before ++ .answer i reply :: later ∧
      (reached names config held before).call? i = some (.startDownload model) := by
  have h := orderly_reached distinct config held events
  obtain ⟨p, hi, rfl⟩ := exists_member distinct name config held events
  have noted : .answered (.startDownload p.model) ∈ startNotes p := by
    rw [startNotes_of_launched (launched_of_hasStarted h.inPhase started hi),
      if_neg ((h.mem_starts_iff_of_hasStarted distinct started hi).1 called)]
    simp
  obtain ⟨before, e, later, q, q', rfl, hq, hq', absent, present⟩ :=
    exists_moment (P := fun q => .answered (.startDownload p.model) ∈ startNotes q)
      (poller?_of_name name) (by simp [startNotes, Poller.new]) hi noted
  obtain ⟨reply, rfl, calls⟩ :=
    eq_answer_of_answered (orderly_reached distinct config held before) hq hq' absent present
  refine ⟨before, reply, later, rfl, ?_⟩
  have there : (reached names config held before).poller? i = some q := hq
  rw [call?, there]
  exact calls

theorem startOf_reached : StartOf names config held events i model := by
  have first := orderly_start names config held
  have new : (start names config held).poller? i = some (.new model config) := poller?_of_name name
  have h := orderly_reached distinct config held events
  obtain ⟨p, hi, rfl⟩ := exists_member distinct name config held events
  have known := known?_of_poller? hi
  have launched (started : (reached names config held events).hasStarted = true) :
      p.stage.isLaunched = true := launched_of_hasStarted h.inPhase started hi
  have whether := h.mem_starts_iff_of_hasStarted distinct (i := i) (p := p)
  refine ⟨?_, ?_, ?_, exists_answer distinct name, ?_, ?_⟩
  · intro free unclaimed started
    exact (whether started hi).2 (first.free distinct new hi (mt (isForeign_start new).1 free)
      (by simp [Poller.new, Poller.known, Stage.pending?]) unclaimed)
  · intro taken kept
    have fails := first.taken distinct new hi ((isForeign_start new).2 taken) rfl kept
    constructor
    · rw [h.mem_starts_iff distinct hi]
      exact fun called => called (startNotes_of_refused (sound_of_poller? h.fits hi) fails)
    · intro started
      have behind := launched started
      rw [known]
      refine fails.resolve_left fun unclaimed => ?_
      cases hs : p.stage <;> simp_all [Stage.isUnclaimed, Stage.isLaunched, Stage.isEarly]
  · intro started
    rw [known]
    exact whether started hi
  · rintro before reply later error rfl asks refuses started
    obtain ⟨q, hq, answered⟩ := exists_answered distinct name asks reply
    rw [refuses] at answered
    rw [known]
    rw [reached_append] at hi
    exact ((orderly_reached distinct config held before).after distinct _).rejected distinct hq hi
      (.inl answered) (launched started)
  · rintro before reply later ack rfl asks takes started
    obtain ⟨q, hq, answered⟩ := exists_answered distinct name asks reply
    rw [takes] at answered
    refine Bool.eq_false_iff.2 (mt (hasRefused_iff hi).1 ?_)
    rw [reached_append] at hi
    exact ((orderly_reached distinct config held before).after distinct _).accepted distinct hq hi
      (.inl ⟨ack, answered⟩) (launched started)

theorem mem_statuses_of_asked (hi : (reached names config held events).poller? i = some p)
    (asked : p.HasAsked) : model ∈ (reached names config held events).statuses := by
  have kept := (orderly_start names config held).kept distinct
    (P := fun w q => q.HasAsked → q.model ∈ w.statuses)
    (fun ho _ hq hq' before => mem_statuses_of_hasAsked (sound_of_poller? ho.fits hq) hq hq' before)
    (poller?_of_name name) ?_ hi
  · have fits := (orderly_reached distinct config held events).fits
    have same : p.model = model := Option.some.inj ((name_of_poller? fits hi).symm.trans name)
    exact same ▸ kept asked
  · rintro (asked | answer)
    · cases asked
    · cases answer

omit distinct in
theorem exists_close (hi : (reached names config held events).poller? i = some p)
    (stopped : p.gate = .stopped) : .close i ∈ events := by
  obtain ⟨before, e, later, q, q', rfl, hq, hq', absent, present⟩ :=
    exists_moment (P := fun q => q.gate = .stopped) (poller?_of_name name) (by simp [Poller.new])
      hi stopped
  obtain rfl := mem_close_of_stopped hq hq' absent present
  simp

/-- Why a member that has learnt its outcome has not been asked about. -/
theorem excuse_of_unpolled {outcome : DownloadOutcome}
    (known : (reached names config held events).known? i = some outcome)
    (unpolled : model ∉ (reached names config held events).statuses)
    (taken : outcome.failsStart = false) :
    .close i ∈ events ∨ ∃ before now later, events = before ++ .go i now :: later ∧
      ((reached names config held before).poller? i).any (·.isExpired now) = true := by
  obtain ⟨p, hi, -⟩ := exists_member distinct name config held events
  rw [known?_of_poller? hi] at known
  -- the moment at which the outcome became known
  obtain ⟨before, e, later, q, q', rfl, hq, hq', absent, present⟩ :=
    exists_moment (P := fun q => q.known = some outcome) (poller?_of_name name)
      (by simp [Poller.known, Poller.new, Stage.pending?]) hi known
  have sound := sound_of_poller?
    (orderly_reached distinct config held before).fits hq
  have hc := changes_of_poller? hq hq'
  have unknown : q.known = none := by
    cases hk : q.known with
    | none => rfl
    | some other =>
        have final := Poller.known_changes sound hc hk
        rw [present] at final
        exact absurd (hk.trans final.symm) absent
  cases Poller.settles_of_known sound hc unknown present with
  | cancelled stopped =>
      have closed := exists_close name hq stopped
      exact .inl (List.mem_append_left _ closed)
  | timedOut checks _ =>
      obtain ⟨now, rfl, expired⟩ := isExpired_of_timedOut hq hq' unknown checks ⟨_, _, present⟩
      have there : (reached names config held before).poller? i = some q := hq
      exact .inr ⟨before, now, later, rfl, by rw [there]; exact expired⟩
  | decided accepted _ =>
      -- a reply that counts answers a status call
      have asked := mem_statuses_of_asked distinct name hq (.inl (by rw [accepted]; rfl))
      rw [reached_append] at unpolled
      exact absurd (mem_statuses_afterAll asked _) unpolled
  | alreadyActive | rejected => cases taken

theorem endedWith_of_told {outcome : DownloadOutcome}
    (told : .memberFinished model outcome ∈ (reached names config held events).company.told) :
    (reached names config held events).company.EndedWith i outcome := by
  have h := orderly_reached distinct config held events
  obtain ⟨j, named, ended⟩ := h.honest.told model outcome told
  have same : j = i := (List.getElem?_inj (List.getElem?_eq_some_iff.1 named).1 distinct).1
    (named.trans name.symm)
  exact same ▸ ended

theorem exists_reported (due : (reached names config held events).company.tally.remaining = 0) :
    ∃ outcome, (reached names config held events).company.EndedWith i outcome ∧
      (reached names config held events).company.batch.report.outcomes[i]? =
        some ⟨model, outcome⟩ := by
  have h := orderly_reached distinct config held events
  obtain ⟨outcome, noted⟩ := h.fits.exists_noted due (List.getElem?_eq_some_iff.1 name).1
  exact ⟨outcome, h.honest.noted i outcome noted, h.fits.report_of_noted name noted⟩

theorem fateOf_reached : FateOf names config held events i model := by
  have h := orderly_reached distinct config held events
  obtain ⟨p, hi, rfl⟩ := exists_member distinct name config held events
  refine ⟨?_, ?_, ?_, ?_, ?_, ?_⟩
  · intro refused
    exact h.not_polled distinct hi ((hasRefused_iff hi).1 refused)
  · rintro before later rfl underway turns taken
    have there := orderly_reached distinct config held before
    obtain ⟨q, hq, model⟩ := exists_member distinct name config held before
    obtain ⟨launched, running⟩ := underway_of_isUnderway there.inPhase underway hq
    by_cases polled : p.model ∈ (reached names config held (before ++ later)).statuses
    · exact .inl polled
    refine .inr ?_
    rw [reached_append] at hi
    have near : q.model ∈ (reached names config held before).statuses ∨ q.known.isSome = true ∨
        0 < q.stage.toPoll ∧ q.stage.toPoll ≤ 4 := by
      rcases Poller.cases_of_launched (sound_of_poller? there.fits hq) launched with
        known | ahead | asked
      · exact .inr (.inl known)
      · exact .inr (.inr ⟨ahead, q.stage.toPoll_le⟩)
      · exact .inl (by rw [model]; exact mem_statuses_of_asked distinct name hq asked)
    rcases polled_of_turns there distinct hq hi running turns near with asked | learnt
    · rw [reached_append] at polled
      exact absurd asked polled
    · rw [← reached_append] at hi
      obtain ⟨outcome, known⟩ := Option.isSome_iff_exists.1 learnt
      refine excuse_of_unpolled distinct name ((known?_of_poller? hi).trans known) polled ?_
      rw [hasRefused, known?_of_poller? hi, known] at taken
      exact taken
  · rintro before later outcome rfl underway turns known
    have there := orderly_reached distinct config held before
    obtain ⟨q, hq, -⟩ := exists_member distinct name config held before
    obtain ⟨launched, running⟩ := underway_of_isUnderway there.inPhase underway hq
    rw [known?_of_poller? hq] at known
    have near := Poller.toEnd_le_of_launched (sound_of_poller? there.fits hq) launched
      (by rw [known]; rfl)
    rw [reached_append] at hi ⊢
    exact endedWith_iff.2 ⟨p, hi, ends_of_turns there distinct hq hi running known turns near⟩
  · rintro outcome ended ⟨m, hm, heardOut⟩
    have here : m.poller.stage = .ended := by
      obtain ⟨q, hq, stage, -⟩ := endedWith_iff.1 ended
      obtain ⟨m', hm', rfl⟩ := poller?_eq_some_iff.1 hq
      rwa [Option.some.inj (hm.symm.trans hm')]
    obtain ⟨last, noted⟩ := h.fits.noted_of_heardOut hm here heardOut
    obtain rfl : last = outcome := Option.some.inj
      ((known?_of_endedWith (h.honest.noted i last noted)).symm.trans (known?_of_endedWith ended))
    obtain ⟨model, named, finished⟩ := h.honest.shows i last noted
    obtain rfl := Option.some.inj (name.symm.trans named)
    exact ⟨finished, h.fits.report_of_noted name noted⟩
  · intro outcome finished
    exact known?_of_endedWith (endedWith_of_told distinct name finished)
  · intro due
    obtain ⟨outcome, ended, reported⟩ := exists_reported distinct name due
    exact ⟨outcome, known?_of_endedWith ended, reported⟩

end Member

/-- A batch starts its members in order before it polls any of them; those whose start fails it
reports, and all others it polls. -/
theorem starts_before_polling {given : List String} (settled : settle given = .ok names)
    (config : PollerConfig) (held : ActiveDownloads) (events : List Event) :
    (reached names config held events).CallsInOrder names ∧
    ∀ i model, names[i]? = some model →
      StartOf names config held events i model ∧ FateOf names config held events i model := by
  have distinct := nodup_of_settle settled
  refine ⟨callsInOrder_reached distinct, fun i model name => ?_⟩
  exact ⟨startOf_reached distinct name, fateOf_reached distinct name⟩

/-- Others hold the first name, and the backend is not there for the second. -/
theorem second_alone_is_started :
    let names := ["alpha", "beta"]
    let held : ActiveDownloads := ⟨["alpha"], List.pairwise_singleton _ _⟩
    let unreachable : Reply := .error (.network "unreachable")
    let events : List Event :=
      [.proceed, .go 0 0, .go 0 0, .go 0 0, .go 0 0, .go 0 0,
        .proceed, .go 1 0, .go 1 0, .go 1 0, .answer 1 unreachable, .go 1 0, .go 1 0, .go 1 0,
        .go 1 0, .proceed]
    let v := reached names ⟨.ofMillis 500, .ofSeconds 2⟩ held events
    settle ["alpha", " beta "] = .ok names ∧ v.hasStarted = true ∧
      "alpha" ∉ v.starts ∧ "beta" ∈ v.starts ∧ "beta" ∉ v.statuses := by
  intro names held unreachable events v
  have settled : settle ["alpha", " beta "] = .ok names := by decide +kernel
  have started : v.hasStarted = true := by decide +kernel
  obtain ⟨-, members⟩ :=
    starts_before_polling settled ⟨.ofMillis 500, .ofSeconds 2⟩ held events
  obtain ⟨alpha, -⟩ := members 0 "alpha" rfl
  obtain ⟨beta, betaLater⟩ := members 1 "beta" rfl
  refine ⟨settled, started, ?_, ?_, ?_⟩
  · exact (alpha.taken (by decide) (by simp [events])).1
  · exact beta.free (by decide) (by simp [events]) started
  · exact betaLater.refused (by decide +kernel)

end Reached

end Venture

end ModelDepot.Batch
