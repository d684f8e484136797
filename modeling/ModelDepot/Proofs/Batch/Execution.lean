import ModelDepot.Proofs.Batch.Service

/-! # A batch that is run is a venture

Over a transport a batch is started member by member, and then each member in turn goes on until it
rests. Every step of this is an event of a venture whose calls the transport answers, so all that is
shown of ventures is true of what is run.
-/

namespace ModelDepot

/-! ## The start of one poller -/

/-- The steps to the end of a start that is under way. -/
def Stage.toStarted : Stage → Nat
  | .entering => 8
  | .claiming => 7
  | .claimed => 6
  | .requesting => 5
  | .answered _ => 4
  | .concluding .starting _ => 3
  | .releasing .starting _ => 2
  | .recording .starting _ => 1
  | _ => 0

namespace Scene

variable {τ : Type} [Transport τ] {s : Scene τ} {p : Poller} {a : Advance τ}

theorem advance_of_waiting (hs : p.stage = .started) (waits : p.isRunning = false) :
    s.advance p = none := by
  simp [advance, Poller.next, hs, waits]

theorem exists_advance_of_early (early : p.stage.isEarly = true) (asked : p.stage ≠ .idle)
    (ahead : p.stage ≠ .started) :
    ∃ a, s.advance p = some a ∧ a.told = [] ∧ a.poller.stage.isEarly = true ∧
      a.poller.stage ≠ .idle ∧ a.poller.stage.toStarted < p.stage.toStarted ∧
      a.poller.isRunning = p.isRunning := by
  rcases Poller.next_cases p s.now s.client.active with
    ⟨p', active', told, hm⟩ | ⟨c, hc, hn⟩ | ⟨wake, hs, -⟩ | ⟨hr, -⟩
  · refine ⟨_, by rw [advance, Poller.next_of_moves hm], ?_⟩
    cases hm with
    | @conclude activity _ hs | @release activity _ hs =>
        cases activity <;> simp_all [Stage.isEarly, Stage.toStarted]
    | _ => simp_all [Stage.isEarly, Stage.toStarted]
  · have hs : p.stage = .requesting := by
      cases hs : p.stage <;> simp_all [Poller.call?, Stage.isEarly]
    refine ⟨_, by rw [advance, hn], ?_⟩
    simp [Poller.receive, hs, Stage.isEarly, Stage.toStarted]
  · simp [hs, Stage.isEarly] at early
  · rcases hr with hs | hs | ⟨hs, -⟩
    · exact absurd hs asked
    · simp [hs, Stage.isEarly] at early
    · exact absurd hs ahead

theorem started_of_advanceUntil {fuel : Nat} (early : p.stage.isEarly = true)
    (asked : p.stage ≠ .idle) (waits : p.isRunning = false) (enough : p.stage.toStarted ≤ fuel) :
    (s.advanceUntil (fun _ => false) fuel p).poller.stage = .started ∧
      (s.advanceUntil (fun _ => false) fuel p).told = [] := by
  induction fuel generalizing s p with
  | zero =>
      refine ⟨?_, rfl⟩
      cases hs : p.stage with
      | concluding activity _ | releasing activity _ | recording activity _ =>
          cases activity <;> simp_all [Stage.isEarly, Stage.toStarted]
      | _ => simp_all [Stage.isEarly, Stage.toStarted, advanceUntil]
  | succ fuel ih =>
      by_cases hs : p.stage = .started
      · simp [advanceUntil, advance_of_waiting hs waits, hs]
      · obtain ⟨a, ha, silent, early', asked', nearer, waits'⟩ :=
          exists_advance_of_early (s := s) early asked hs
        obtain ⟨started, told⟩ := ih (s := a.scene) early' asked' (waits'.trans waits) (by omega)
        simp [advanceUntil, ha, silent, started, told]

end Scene

namespace Batch

variable {τ : Type} [Transport τ] {t t' : τ} {s : Scene τ} {v : Venture} {i : Nat}
  {m m' : Member} {e : Event} {events : List Event} {names : List String}

/-! ## The start of a batch -/

theorem exists_started (hi : v.company.members[i]? = some m) (agree : v.active = s.client.active)
    (hp : v.phase = .starting i) (ready : v.isReady i = true) (idle : m.poller.stage = .idle)
    (waits : m.poller.isRunning = false) (silent : m.unheard = []) :
    ∃ events m', Served s.transport v events (s.start m.poller).scene.transport ∧
      (v.afterAll events).company = ⟨v.company.members.set i m', v.company.heard⟩ ∧
      (v.afterAll events).phase = .starting (i + 1) ∧
      (v.afterAll events).isReady (i + 1) = true ∧
      (v.afterAll events).active = (s.start m.poller).scene.client.active ∧
      m'.poller = (s.start m.poller).poller ∧ m'.unheard = [] := by
  have inside := (List.getElem?_eq_some_iff.1 hi).1
  have acts : v.happening .proceed = some (.act i .start) := by
    simp [Venture.happening, hp, ready]
  have company := company_of_acts acts hi
  have phase : (v.after .proceed).phase = .starting (i + 1) := by
    simp [Venture.after, Venture.phaseAfter, hp, ready, inside]
  have asked : (m.after .start).poller = m.poller.requestStart := rfl
  have entering : m.poller.requestStart = { m.poller with stage := .entering } := by
    simp [Poller.requestStart, idle]
  have placed : (v.after .proceed).company.members[i]? = some (m.after .start) := by
    rw [company, List.getElem?_set_self inside]
  obtain ⟨events, m', plays⟩ :=
    exists_plays (fun _ => false) Scene.fuel (s := s) placed agree
  have enough : m.poller.requestStart.stage.toStarted ≤ Scene.fuel := by
    rw [entering]
    exact (by decide : 8 ≤ Scene.fuel)
  obtain ⟨started, told⟩ := Scene.started_of_advanceUntil (s := s) (by rw [entering]; rfl)
    (by rw [entering]; simp) (by rw [entering]; exact waits) enough
  rw [asked] at plays
  have here := plays.placed placed
  refine ⟨.proceed :: events, m', .quiet rfl plays.served, ?_, plays.goesOn.phase.trans phase, ?_,
    plays.active, plays.poller, ?_⟩
  · show ((v.after .proceed).afterAll events).company = _
    rw [plays.goesOn.company, company, List.set_set]
  · show ((v.after .proceed).afterAll events).isReady (i + 1) = true
    simp [Venture.isReady, poller?_of_member here, plays.poller, started]
  · rw [plays.unheard, told, List.append_nil, Member.after, silent]
    rfl

theorem startAll_cons (s : Scene τ) (p : Poller) (rest : List Poller) :
    startAll s (p :: rest) = ((startAll (s.start p).scene rest).1,
      (s.start p).poller.requestRun :: (startAll (s.start p).scene rest).2) := by
  simp only [startAll]

theorem exists_startAll {before rest : List Member} (hm : v.company.members = before ++ rest)
    (agree : v.active = s.client.active) (hp : v.phase = .starting before.length)
    (ready : v.isReady before.length = true)
    (fresh : ∀ m ∈ rest, m.poller.stage = .idle ∧ m.poller.isRunning = false ∧ m.unheard = []) :
    ∃ events rest', Served s.transport v events
        (startAll s (rest.map Member.poller)).1.transport ∧
      (v.afterAll events).company = ⟨before ++ rest', v.company.heard⟩ ∧
      (v.afterAll events).phase = .starting (before ++ rest').length ∧
      (v.afterAll events).isReady (before ++ rest').length = true ∧
      (v.afterAll events).active = (startAll s (rest.map Member.poller)).1.client.active ∧
      rest'.map (·.poller.requestRun) = (startAll s (rest.map Member.poller)).2 ∧
      ∀ m ∈ rest', m.unheard = [] := by
  -- a start touches no member before it, so those stay as their own starts have left them
  induction rest generalizing s v before with
  | nil =>
      rw [List.append_nil] at hm
      subst hm
      refine ⟨[], [], .done, ?_⟩
      simp [Venture.afterAll, startAll, hp, ready, agree]
  | cons m rest ih =>
      have hi : v.company.members[before.length]? = some m := by simp [hm]
      obtain ⟨idle, waits, silent⟩ := fresh m List.mem_cons_self
      obtain ⟨events, m', served, company, phase, ready', active, poller, heard⟩ :=
        exists_started hi agree hp ready idle waits silent
      have members : (v.afterAll events).company.members = (before ++ [m']) ++ rest := by
        simp [company, hm]
      obtain ⟨more, rest', servedLater, companyLater, phaseLater, readyLater, activeLater, pollers,
          heardLater⟩ :=
        ih members active (by simpa using phase) (by simpa using ready')
          fun m hm => fresh m (List.mem_cons_of_mem _ hm)
      rw [List.map_cons, startAll_cons]
      refine ⟨events ++ more, m' :: rest', served.append servedLater, ?_⟩
      rw [Venture.afterAll_append]
      refine ⟨?_, by simpa using phaseLater, by simpa using readyLater, activeLater, ?_,
        List.forall_mem_cons.2 ⟨heard, heardLater⟩⟩
      · rw [companyLater, company]
        simp
      · rw [List.map_cons, poller, pollers]

theorem spawned_of_proceed {before rest : List Member} (hm : v.company.members = before ++ rest)
    (hp : v.phase = .running before.length) :
    (v.afterAll (List.replicate rest.length .proceed)).company =
        ⟨before ++ rest.map (·.after .run), v.company.heard⟩ ∧
      (v.afterAll (List.replicate rest.length .proceed)).phase =
        .running (before ++ rest).length ∧
      (v.afterAll (List.replicate rest.length .proceed)).active = v.active := by
  induction rest generalizing v before with
  | nil =>
      refine ⟨?_, ?_, rfl⟩
      · rw [List.map_nil, ← hm]
        rfl
      · rw [List.append_nil]
        exact hp
  | cons m rest ih =>
      have hi : v.company.members[before.length]? = some m := by simp [hm]
      have inside := (List.getElem?_eq_some_iff.1 hi).1
      have company := company_of_acts (e := .proceed) (a := .run)
        (by simp [Venture.happening, hp]) hi
      have phase : (v.after .proceed).phase = .running (before.length + 1) := by
        simp [Venture.after, Venture.phaseAfter, hp, inside]
      have members : (v.after .proceed).company.members = (before ++ [m.after .run]) ++ rest := by
        simp [company, hm]
      obtain ⟨later, phaseLater, active⟩ := ih members (by simpa using phase)
      have turn : v.afterAll (List.replicate (m :: rest).length .proceed) =
          (v.after .proceed).afterAll (List.replicate rest.length .proceed) := rfl
      rw [turn, later, phaseLater, company]
      exact ⟨by simp, by simp, active⟩

theorem launched_of_proceed (hp : v.phase = .starting v.company.members.length)
    (ready : v.isReady v.company.members.length = true) :
    (v.afterAll (List.replicate (v.company.members.length + 1) .proceed)).company =
        ⟨v.company.members.map (·.after .run), v.company.heard⟩ ∧
      (v.afterAll (List.replicate (v.company.members.length + 1) .proceed)).phase =
        .running v.company.members.length ∧
      (v.afterAll (List.replicate (v.company.members.length + 1) .proceed)).active = v.active := by
  have same : (v.after .proceed).company = v.company := by
    simp [Venture.after, Venture.happening, hp, ready, Company.after]
  have running : (v.after .proceed).phase = .running 0 := by
    simp [Venture.after, Venture.phaseAfter, hp, ready]
  have members : (v.after .proceed).company.members = [] ++ v.company.members := by
    rw [same, List.nil_append]
  have spawned := spawned_of_proceed members running
  rw [same] at spawned
  exact spawned

theorem start_eq (s : Scene τ) (names : List String) (config : PollerConfig) :
    start s names config =
      ((startAll s (names.map fun model => .new model config)).1,
        ⟨(startAll s (names.map fun model => .new model config)).2,
          .start (startAll s (names.map fun model => .new model config)).2.length⟩) := by
  simp only [start]

theorem exists_launched (names : List String) (config : PollerConfig) (s : Scene τ) :
    ∃ events members, Served s.transport (.start names config s.client.active) events
        (start s names config).1.transport ∧
      (Venture.reached names config s.client.active events).company = ⟨members, []⟩ ∧
      (Venture.reached names config s.client.active events).phase = .running members.length ∧
      (Venture.reached names config s.client.active events).active =
        (start s names config).1.client.active ∧
      members.map Member.poller = (start s names config).2.pollers ∧
      ∀ m ∈ members, m.unheard = [] := by
  have first : (Venture.start names config s.client.active).company.members =
      [] ++ names.map (.fresh config) := rfl
  have pollers : (names.map (Member.fresh config)).map Member.poller =
      names.map fun model => .new model config := by
    rw [List.map_map]
    rfl
  obtain ⟨events, members, served, company, phase, ready, active, runs, silent⟩ :=
    exists_startAll (s := s) first rfl rfl rfl fun m hm => by
      obtain ⟨model, -, rfl⟩ := List.mem_map.1 hm
      exact ⟨rfl, rfl, rfl⟩
  rw [pollers] at served active runs
  let begun := Venture.reached names config s.client.active events
  have all : begun.company.members = members := congrArg Company.members company
  obtain ⟨companyLater, phaseLater, activeLater⟩ := launched_of_proceed (v := begun)
    (by rw [all]; exact phase) (by rw [all]; exact ready)
  refine ⟨events ++ List.replicate (begun.company.members.length + 1) .proceed,
    members.map (·.after .run), served.append (served_replicate rfl _), ?_⟩
  rw [Venture.reached_append, companyLater, phaseLater, activeLater, all, start_eq]
  refine ⟨?_, by simp, active, ?_, ?_⟩
  · exact congrArg (Company.mk _ ·.heard) company
  · rw [List.map_map]
    exact runs
  · intro _ hm
    obtain ⟨m, here, rfl⟩ := List.mem_map.1 hm
    exact (List.append_nil _).trans (silent m here)

/-! ## A batch and its venture -/

/-- A batch in a scene is where a venture has come to. The report is told last. -/
structure Mirrors (v : Venture) (names : List String) (a : Advance τ) : Prop where
  fits : v.company.Fits names
  underway : v.isUnderway = true
  active : v.active = a.scene.client.active
  batch : v.company.batch = a.batch
  told : a.told = v.company.told ++
    if v.company.tally.remaining = 0 then [.finished (v.company.tally.report names)] else []

/-- All that the members have told has been heard. -/
def Company.IsHeardOut (c : Company) : Prop :=
  ∀ m ∈ c.members, m.unheard = []

/-- A batch that has been started is one of which all members have been started and let run. -/
theorem exists_start (distinct : names.Nodup) (nonempty : names ≠ []) (config : PollerConfig)
    (s : Scene τ) :
    ∃ events, Served s.transport (.start names config s.client.active) events
        (start s names config).1.transport ∧
      Mirrors (Venture.reached names config s.client.active events) names
        ⟨(start s names config).1, (start s names config).2, []⟩ ∧
      (Venture.reached names config s.client.active events).company.IsHeardOut := by
  obtain ⟨events, members, served, company, phase, active, pollers, silent⟩ :=
    exists_launched names config s
  refine ⟨events, served, ?_⟩
  have fits : (Venture.reached names config s.client.active events).company.Fits names :=
    Venture.fits_afterAll (Venture.fits_start names config _) distinct _
  -- from here on only what the venture has come to matters
  generalize Venture.reached names config s.client.active events = v at *
  have tally : v.company.tally = .start v.company.members.length := by
    rw [Company.tally, company, Tally.attend]
  have batch : v.company.batch = (start s names config).2 := by
    have sized : members.length = (start s names config).2.pollers.length := by
      rw [← pollers, List.length_map]
    rw [Company.batch, tally, company]
    simp only [pollers, sized]
    simp only [start_eq]
  have waits : v.company.tally.remaining ≠ 0 := by
    rw [tally, Venture.length_members fits]
    exact mt List.eq_nil_of_length_eq_zero nonempty
  refine ⟨⟨fits, ?_, active, batch, ?_⟩, ?_⟩
  · simp [Venture.isUnderway, phase, company]
  · have told : v.company.told = [] := by rw [Company.told, company, Tally.attend]
    rw [told, if_neg waits]
    rfl
  · rw [company]
    exact silent

/-! ## Going on -/

namespace Company

variable {c : Company}

theorem Fits.report_eq (h : c.Fits names) : c.batch.report = c.tally.report names := by
  rw [← h.named, Batch.report, Batch.members, Company.batch, List.map_map]
  rfl

theorem Fits.members_hearOut (h : c.Fits names) (distinct : names.Nodup)
    (hi : c.members[i]? = some m) :
    (c.afterAll (List.replicate m.unheard.length (.hear i))).members =
      c.members.set i { m with unheard := [] } := by
  generalize hevents : m.unheard = events
  induction events generalizing c m with
  | nil =>
      obtain ⟨inside, same⟩ := List.getElem?_eq_some_iff.1 hi
      have silent : ({ m with unheard := [] } : Member) = m := by rw [← hevents]
      rw [silent, ← same, List.set_getElem_self]
      rfl
  | cons event rest ih =>
      have members : (c.after (.hear i)).members = c.members.set i { m with unheard := rest } := by
        rw [h.after_hear hi hevents]
      have placed : (c.after (.hear i)).members[i]? = some { m with unheard := rest } := by
        rw [members, List.getElem?_set_self (List.getElem?_eq_some_iff.1 hi).1]
      have later := ih (h.hear distinct hi hevents) placed rfl
      rw [members, List.set_set] at later
      exact later

end Company

theorem afterAll_hear (underway : v.isUnderway = true) (n : Nat) :
    (v.afterAll (List.replicate n (.hear i))).company =
        v.company.afterAll (List.replicate n (.hear i)) ∧
      (v.afterAll (List.replicate n (.hear i))).phase = v.phase ∧
      (v.afterAll (List.replicate n (.hear i))).active = v.active := by
  induction n generalizing v with
  | zero => exact ⟨rfl, rfl, rfl⟩
  | succ n ih =>
      have company : (v.after (.hear i)).company = v.company.after (.hear i) := by
        simp [Venture.after, Venture.happening, underway]
      have sized : (v.after (.hear i)).company.members.length = v.company.members.length := by
        have lives := congrArg List.length (Company.lives_hear v.company i)
        rw [company]
        simpa only [Company.lives, List.length_map] using lives
      have still : (v.after (.hear i)).isUnderway = true := by
        rw [← underway, Venture.isUnderway, sized]
        rfl
      obtain ⟨later, phase, active⟩ := ih still
      rw [company] at later
      exact ⟨later, phase, active⟩

theorem advanceMember_eq (held : Poller → Bool) {a : Advance τ} {p : Poller}
    (hi : a.batch.pollers[i]? = some p) :
    advanceMember held a i =
      ⟨(a.scene.advanceUntil held Scene.fuel p).scene,
        (hearAll { a.batch with
            pollers := a.batch.pollers.set i (a.scene.advanceUntil held Scene.fuel p).poller } i
          (a.scene.advanceUntil held Scene.fuel p).told).1,
        a.told ++ (hearAll { a.batch with
            pollers := a.batch.pollers.set i (a.scene.advanceUntil held Scene.fuel p).poller } i
          (a.scene.advanceUntil held Scene.fuel p).told).2⟩ := by
  simp only [advanceMember, hi]

omit [Transport τ] in
theorem Mirrors.comesTo {a : Advance τ} {s : Scene τ} {p : Poller} {told : List DownloadEvent}
    (h : Mirrors v names a) (distinct : names.Nodup)
    (goes : ComesTo v i m events p s.client.active told m') :
    Mirrors (v.afterAll events) names
      ⟨s, { a.batch with pollers := a.batch.pollers.set i p }, a.told⟩ := by
  obtain ⟨company, phase⟩ := goes.goesOn
  have tally : (v.afterAll events).company.tally = v.company.tally := by
    simp [Company.tally, company]
  have same : (v.afterAll events).company.told = v.company.told := by
    simp [Company.told, company]
  refine ⟨Venture.fits_afterAll h.fits distinct events, ?_, goes.active, ?_, ?_⟩
  · rw [← h.underway, Venture.isUnderway, phase, company, List.length_set]
    rfl
  · rw [← h.batch, Company.batch, tally, company, List.map_set, goes.poller]
    rfl
  · rw [tally, same]
    exact h.told

omit [Transport τ] in
theorem Mirrors.hearOut {a : Advance τ} (h : Mirrors v names a) (distinct : names.Nodup)
    (hi : v.company.members[i]? = some m) :
    Mirrors (v.afterAll (List.replicate m.unheard.length (.hear i))) names
      ⟨a.scene, (a.batch.hearAll i m.unheard).1, a.told ++ (a.batch.hearAll i m.unheard).2⟩ := by
  obtain ⟨company, phase, active⟩ := afterAll_hear h.underway (i := i) m.unheard.length
  have fits := Venture.fits_afterAll h.fits distinct (List.replicate m.unheard.length (.hear i))
  obtain ⟨batch, told⟩ := h.fits.hearAll distinct hi
  simp only [← company] at batch told
  rw [h.batch] at batch told
  have members := h.fits.members_hearOut distinct hi
  rw [← company] at members
  refine ⟨fits, ?_, active.trans h.active, batch.symm, ?_⟩
  · rw [← h.underway, Venture.isUnderway, phase, members, List.length_set]
    rfl
  · simp only [h.told, List.append_assoc]
    by_cases waits : v.company.tally.remaining = 0
    · -- nothing is left to be heard, so nothing happens
      have silent : m.unheard = [] := by
        cases next : m.unheard with
        | nil => rfl
        | cons event rest => exact absurd waits (Nat.ne_of_gt (h.fits.waits hi next))
      have same : v.afterAll (List.replicate m.unheard.length (.hear i)) = v := by
        rw [silent]
        rfl
      rw [same] at told ⊢
      have nothing : (a.batch.hearAll i m.unheard).2 = [] := by simpa [waits] using told
      rw [nothing, List.append_nil]
    · rw [if_neg waits, List.nil_append, told, fits.report_eq]
      simp only [ne_eq, waits, not_false_eq_true, true_and]

omit [Transport τ] in
/-- A member that goes on and is heard out keeps the batch a venture. -/
theorem Mirrors.exists_heardOut {a : Advance τ} {s : Scene τ} {p : Poller}
    {told : List DownloadEvent} (h : Mirrors v names a) (heardOut : v.company.IsHeardOut)
    (distinct : names.Nodup) (hi : v.company.members[i]? = some m)
    (goes : ComesTo v i m events p s.client.active told m') :
    ∃ n, Mirrors (v.afterAll (events ++ List.replicate n (.hear i))) names
        ⟨s, (hearAll { a.batch with pollers := a.batch.pollers.set i p } i told).1,
          a.told ++ (hearAll { a.batch with pollers := a.batch.pollers.set i p } i told).2⟩ ∧
      (v.afterAll (events ++ List.replicate n (.hear i))).company.IsHeardOut := by
  have mirrors := h.comesTo distinct goes
  have here := goes.placed hi
  obtain rfl : m'.unheard = told := by
    rw [goes.unheard, heardOut m (List.mem_of_getElem? hi), List.nil_append]
  refine ⟨m'.unheard.length, ?_, ?_⟩
  · rw [Venture.afterAll_append]
    exact mirrors.hearOut distinct here
  · rw [Venture.afterAll_append]
    intro m'' hm
    rw [(afterAll_hear mirrors.underway _).1, mirrors.fits.members_hearOut distinct here,
      goes.goesOn.company, List.set_set] at hm
    rcases List.mem_or_eq_of_mem_set hm with before | rfl
    · exact heardOut m'' before
    · rfl

omit [Transport τ] in
theorem Mirrors.exists_member {a : Advance τ} {p : Poller} (h : Mirrors v names a)
    (hp : a.batch.pollers[i]? = some p) :
    ∃ m, v.company.members[i]? = some m ∧ m.poller = p := by
  rw [← h.batch, Company.batch, List.getElem?_map] at hp
  exact Option.map_eq_some_iff.1 hp

/-- When one member goes on until it is held or rests, the batch stays a venture. -/
theorem exists_advanceMember {a : Advance τ} (h : Mirrors v names a)
    (heardOut : v.company.IsHeardOut) (distinct : names.Nodup) (held : Poller → Bool) (i : Nat) :
    ∃ events, Served a.scene.transport v events (advanceMember held a i).scene.transport ∧
      Mirrors (v.afterAll events) names (advanceMember held a i) ∧
      (v.afterAll events).company.IsHeardOut := by
  cases hp : a.batch.pollers[i]? with
  | none =>
      have same : advanceMember held a i = a := by simp only [advanceMember, hp]
      rw [same]
      exact ⟨[], .done, h, heardOut⟩
  | some p =>
      obtain ⟨m, hi, rfl⟩ := h.exists_member hp
      obtain ⟨events, m', plays⟩ := exists_plays held Scene.fuel hi h.active
      obtain ⟨n, mirrors, silent⟩ := h.exists_heardOut heardOut distinct hi plays.toComesTo
      rw [advanceMember_eq held hp]
      exact ⟨events ++ List.replicate n (.hear i), plays.served.append (served_replicate rfl _),
        mirrors, silent⟩

/-- What is made of a batch when it turns to one member, from an instant on. -/
def advanceFrom (held : Poller → Bool) (now : Nat) (a : Advance τ) (i : Nat) : Advance τ :=
  let moved := advanceMember held { a with scene := { a.scene with now } } i
  { moved with scene := { moved.scene with now := max a.scene.now moved.scene.now } }

/-- When members go on one after the other, the batch stays a venture. -/
theorem exists_advanceFrom {a : Advance τ} (h : Mirrors v names a)
    (heardOut : v.company.IsHeardOut) (distinct : names.Nodup) (held : Poller → Bool) (now : Nat)
    (places : List Nat) :
    ∃ events, Served a.scene.transport v events
        (places.foldl (advanceFrom held now) a).scene.transport ∧
      Mirrors (v.afterAll events) names (places.foldl (advanceFrom held now) a) ∧
      (v.afterAll events).company.IsHeardOut := by
  induction places generalizing a v with
  | nil => exact ⟨[], .done, h, heardOut⟩
  | cons i places ih =>
      -- the turns begin at one instant, which no venture depends on
      obtain ⟨events, served, mirrors, heardOut'⟩ := exists_advanceMember
        (a := { a with scene := { a.scene with now } })
        ⟨h.fits, h.underway, h.active, h.batch, h.told⟩ heardOut distinct held i
      have placed : Mirrors (v.afterAll events) names (advanceFrom held now a i) :=
        ⟨mirrors.fits, mirrors.underway, mirrors.active, mirrors.batch, mirrors.told⟩
      obtain ⟨more, servedLater, later⟩ := ih placed heardOut'
      refine ⟨events ++ more, served.append servedLater, ?_⟩
      rw [Venture.afterAll_append]
      exact later

theorem exists_advanceAll {b : Batch} (h : Mirrors v names ⟨s, b, []⟩)
    (heardOut : v.company.IsHeardOut) (distinct : names.Nodup) (held : Poller → Bool) :
    ∃ events, Served s.transport v events (advanceAll held s b).scene.transport ∧
      Mirrors (v.afterAll events) names (advanceAll held s b) ∧
      (v.afterAll events).company.IsHeardOut :=
  exists_advanceFrom h heardOut distinct held s.now (List.range b.pollers.length)

theorem advanceMember_told (held : Poller → Bool) (a : Advance τ) (i : Nat) :
    advanceMember held a i =
      { advanceMember held { a with told := [] } i with
        told := a.told ++ (advanceMember held { a with told := [] } i).told } := by
  cases hi : a.batch.pollers[i]? with
  | none => simp [advanceMember, hi]
  | some p =>
      have here : ({ a with told := [] } : Advance τ).batch.pollers[i]? = some p := hi
      rw [advanceMember_eq held hi, advanceMember_eq held here, List.nil_append]

theorem foldl_advanceFrom_told (held : Poller → Bool) (now : Nat) (places : List Nat)
    (a : Advance τ) :
    places.foldl (advanceFrom held now) a =
      { places.foldl (advanceFrom held now) { a with told := [] } with
        told := a.told ++ (places.foldl (advanceFrom held now) { a with told := [] }).told } := by
  induction places generalizing a with
  | nil => simp
  | cons i places ih =>
      rw [List.foldl_cons, List.foldl_cons, ih, ih (advanceFrom held now { a with told := [] } i)]
      have turn : (advanceFrom held now a i).told =
          a.told ++ (advanceFrom held now { a with told := [] } i).told := by
        simp only [advanceFrom]
        rw [advanceMember_told]
      have silent : { advanceFrom held now a i with told := [] } =
          { advanceFrom held now { a with told := [] } i with told := [] } := by
        simp only [advanceFrom]
        rw [advanceMember_told]
      rw [turn, silent, List.append_assoc]

/-! ## Stopping -/

/-- A stop looks where a member stands and, unless that is the end, closes its gate. -/
theorem exists_stop (hi : v.company.members[i]? = some m) (underway : v.isUnderway = true) :
    ∃ events m', GoesOn i m' v (v.afterAll events) ∧ (v.afterAll events).active = v.active ∧
      m'.poller = m.poller.stop ∧ m'.unheard = m.unheard := by
  cases terminal : m.poller.state.isTerminal with
  | true => exact ⟨[], m, goesOn_refl hi, rfl, by simp [Poller.stop, terminal], rfl⟩
  | false =>
      have looks : GoesOn i (m.after .look) v (v.after (.look i)) :=
        ⟨company_of_acts (by simp [Venture.happening, underway]) hi, rfl⟩
      have placed : (v.after (.look i)).company.members[i]? = some (m.after .look) := by
        rw [looks.company, List.getElem?_set_self (List.getElem?_eq_some_iff.1 hi).1]
      have still : (v.after (.look i)).isUnderway = true := by
        rw [← underway, Venture.isUnderway, looks.phase, looks.company, List.length_set]
        rfl
      have closes : GoesOn i ((m.after .look).after .close) (v.after (.look i))
          ((v.after (.look i)).after (.close i)) :=
        ⟨company_of_acts (by simp [Venture.happening, still]) placed, rfl⟩
      have going : m.life.poller.state.isTerminal = false := terminal
      refine ⟨[.look i, .close i], _, looks.trans closes, rfl, ?_, ?_⟩
      · simp [Member.after, Member.poller, Life.after, Poller.stop, going]
      · simp [Member.after, Life.passage]

theorem exists_stopAll {before rest : List Member} (hm : v.company.members = before ++ rest)
    (underway : v.isUnderway = true) :
    ∃ events rest', (v.afterAll events).company = ⟨before ++ rest', v.company.heard⟩ ∧
      (v.afterAll events).phase = v.phase ∧ (v.afterAll events).active = v.active ∧
      rest'.map Member.poller = rest.map (·.poller.stop) ∧
      rest'.map Member.unheard = rest.map Member.unheard := by
  induction rest generalizing v before with
  | nil =>
      refine ⟨[], [], ?_, rfl, rfl, rfl, rfl⟩
      rw [← hm]
      rfl
  | cons m rest ih =>
      have hi : v.company.members[before.length]? = some m := by simp [hm]
      obtain ⟨events, m', goesOn, active, poller, unheard⟩ := exists_stop hi underway
      have members : (v.afterAll events).company.members = (before ++ [m']) ++ rest := by
        simp [goesOn.company, hm]
      have still : (v.afterAll events).isUnderway = true := by
        rw [← underway, Venture.isUnderway, goesOn.phase, goesOn.company, List.length_set]
        rfl
      obtain ⟨more, rest', company, phase, activeLater, pollers, heard⟩ := ih members still
      refine ⟨events ++ more, m' :: rest', ?_⟩
      rw [Venture.afterAll_append, company, phase, activeLater, goesOn.phase, active,
        goesOn.company]
      simp [poller, unheard, pollers, heard]

omit [Transport τ] in
theorem Mirrors.exists_stop {a : Advance τ} (h : Mirrors v names a)
    (heardOut : v.company.IsHeardOut) (distinct : names.Nodup) :
    ∃ events, Mirrors (v.afterAll events) names { a with batch := a.batch.stop } ∧
      (v.afterAll events).company.IsHeardOut := by
  have first : v.company.members = [] ++ v.company.members := rfl
  obtain ⟨events, members, company, phase, active, pollers, unheard⟩ :=
    exists_stopAll first h.underway
  rw [List.nil_append] at company
  have sized : members.length = v.company.members.length := by
    rw [← List.length_map (f := Member.unheard), unheard, List.length_map]
  have tally : (v.afterAll events).company.tally = v.company.tally := by
    simp [Company.tally, company, sized]
  have told : (v.afterAll events).company.told = v.company.told := by
    simp [Company.told, company, sized]
  refine ⟨events, ⟨Venture.fits_afterAll h.fits distinct events, ?_, active.trans h.active, ?_, ?_⟩,
    ?_⟩
  · rw [← h.underway, Venture.isUnderway, phase, company, sized]
    rfl
  · rw [← h.batch, Company.batch, tally, company, pollers]
    simp [Batch.stop, Company.batch]
  · rw [tally, told]
    exact h.told
  · intro m hm
    rw [company] at hm
    have silent : m.unheard ∈ v.company.members.map Member.unheard := by
      rw [← unheard]
      exact List.mem_map_of_mem hm
    obtain ⟨m', here, same⟩ := List.mem_map.1 silent
    rw [← same]
    exact heardOut m' here

/-! ## Runs -/

/-- A batch that is run is a venture in which nobody else takes part. The transport answers its
calls, and all that its members tell is heard. -/
theorem exists_run {given : List String} (settled : settle given = .ok names)
    (config : PollerConfig) (s : Scene τ) :
    ∃ events, Served s.transport (.start names config s.client.active) events
        (run (start s names config).1 (start s names config).2).scene.transport ∧
      Mirrors (Venture.reached names config s.client.active events) names
        (run (start s names config).1 (start s names config).2) ∧
      (Venture.reached names config s.client.active events).company.IsHeardOut := by
  have distinct := nodup_of_settle settled
  obtain ⟨events, served, begun, heardOut⟩ :=
    exists_start distinct (ne_nil_of_settle settled) config s
  obtain ⟨more, servedLater, later⟩ := exists_advanceAll begun heardOut distinct fun _ => false
  refine ⟨events ++ more, served.append servedLater, ?_⟩
  rw [Venture.reached_append]
  exact later

/-- A venture under way that is run goes on telling. -/
theorem exists_run_of_mirrors {b : Batch} {told : List BatchEvent}
    (h : Mirrors v names ⟨s, b, told⟩)
    (heardOut : v.company.IsHeardOut) (distinct : names.Nodup) :
    ∃ events, Mirrors (v.afterAll events) names { run s b with told := told ++ (run s b).told } ∧
      (v.afterAll events).company.IsHeardOut := by
  obtain ⟨events, -, mirrors, silent⟩ := exists_advanceFrom h heardOut distinct
    (fun _ => false) s.now (List.range b.pollers.length)
  rw [foldl_advanceFrom_told] at mirrors
  exact ⟨events, mirrors, silent⟩

theorem eq_filter_of_sublist {few all : List String} {p : String → Bool} (sub : few.Sublist all)
    (distinct : all.Nodup) (whether : ∀ a ∈ all, a ∈ few ↔ p a = true) : few = all.filter p := by
  have kept : few.filter p = few :=
    List.filter_eq_self.2 fun a ha => (whether a (sub.subset ha)).1 ha
  refine (kept ▸ sub.filter p).eq_of_length_le ((distinct.filter p).subperm ?_).length_le
  intro a ha
  obtain ⟨here, yes⟩ := List.mem_filter.1 ha
  exact (whether a here).2 yes

theorem answered_answeredStarts (starts : List String) :
    (starts.flatMap answeredStart).filterMap Note.answered? = starts.map .startDownload := by
  induction starts with
  | nil => rfl
  | cons model starts ih =>
      rw [List.flatMap_cons, List.filterMap_append, ih]
      rfl

section Reached

variable {config : PollerConfig} {held : ActiveDownloads} (distinct : names.Nodup)
  (served : Served t (.start names config held) events t')
  (started : (Venture.reached names config held events).hasStarted = true)
include distinct served started

/-- Where nobody else takes part, a member is started unless its name was held at the start. -/
theorem mem_starts_of_served {model : String} (name : names[i]? = some model) :
    model ∈ (Venture.reached names config held events).starts ↔ model ∉ held.names := by
  have own (e : Event) (he : e ∈ events) : e ≠ .claim model ∧ e ≠ .giveBack model := by
    rcases served.mem he with quiet | ⟨i, reply, rfl⟩
    · cases e <;> simp_all [Event.isQuiet]
    · exact ⟨nofun, nofun⟩
  have goes : Venture.StartOf names config held events i model :=
    Venture.startOf_reached distinct name
  exact ⟨fun called taken => (goes.taken taken fun e he => (own e he).2).1 called,
    fun free => goes.free free (fun e he => (own e he).1) started⟩

/-- The transport is left with what those starts, in order, and status calls behind them make of
it. -/
theorem carry_of_served :
    ∃ polled : List String,
      t' = carry t ((names.filter (· ∉ held.names)).map .startDownload ++
        polled.map .downloadStatus) ∧
      ∀ model ∈ polled, model ∈ names ∧ model ∉ held.names := by
  have h := Venture.orderly_reached distinct config held events
  obtain ⟨polls, log, arePolls⟩ := h.log_of_hasStarted started
  obtain ⟨polled, answered, all⟩ := Venture.exists_polled Note.eq_of_answered? arePolls
  obtain ⟨carried, whole, rfl⟩ := served.carries
  refine ⟨polled, ?_, fun model hm => ?_⟩
  · have starts : (Venture.reached names config held events).starts =
        names.filter (· ∉ held.names) :=
      eq_filter_of_sublist h.starts_sublist distinct fun model hm => by
        obtain ⟨i, name⟩ := List.mem_iff_getElem?.1 hm
        rw [mem_starts_of_served distinct served started name, decide_eq_true_iff]
    have same : carried = (Venture.reached names config held events).log := whole.symm
    rw [same, log, List.filterMap_append, answered, answered_answeredStarts, starts]
  · obtain ⟨i, p, hi, launched, -, accepted, note⟩ := all model hm
    obtain rfl : p.model = model := by simpa [eq_comm] using note
    have name := Venture.name_of_poller? h.fits hi
    refine ⟨List.mem_of_getElem? name, (mem_starts_of_served distinct served started name).1 ?_⟩
    rw [h.mem_starts_iff_of_hasStarted distinct started hi]
    exact fun refused => accepted (Poller.startFailed_iff.2 ⟨_, refused, rfl⟩)

end Reached

/-- The calls of a batch that is run are one start for each member that nobody else holds, in order,
and behind them status calls for these members. -/
theorem calls_of_run {given : List String} (settled : settle given = .ok names)
    (config : PollerConfig) (s : Scene τ) :
    ∃ polled : List String,
      (run (start s names config).1 (start s names config).2).scene.transport =
        carry s.transport ((names.filter (· ∉ s.client.active.names)).map .startDownload ++
          polled.map .downloadStatus) ∧
      ∀ model ∈ polled, model ∈ names ∧ model ∉ s.client.active.names := by
  obtain ⟨events, served, mirrors, -⟩ := exists_run settled config s
  obtain ⟨spawned, running, -⟩ := Venture.exists_running mirrors.underway
  exact carry_of_served (nodup_of_settle settled) served (by simp [Venture.hasStarted, running])

end Batch

end ModelDepot
