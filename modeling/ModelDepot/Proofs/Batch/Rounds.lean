import Mathlib.Data.List.Induction
import ModelDepot.Download.Round
import ModelDepot.Proofs.Batch.Success

/-! # A batch in real time is a venture

A program in real time goes round after round, at whatever instants and with whatever replies, and
stops the batch when its user asks. A round leaves no member with anything that it could do at once,
and says which calls are to be made and whether there is more to come. Whatever the rounds are, all
that happens in them is events of a venture.
-/

namespace ModelDepot

namespace Stage

/-- The most steps to the next call, nap or rest. -/
def toWait : Stage → Nat
  | .entering => 13
  | .claiming | .answered _ => 12
  | .received _ | .concluding .starting _ => 11
  | .accepted _ | .releasing .starting _ => 10
  | .tiring | .recording .starting _ => 9
  | .started | .napping _ => 8
  | .looking => 7
  | .timing => 6
  | .beginning => 5
  | .concluding .running _ => 4
  | .releasing .running _ => 3
  | .recording .running _ => 2
  | .claimed | .reporting _ => 1
  | .idle | .requesting | .calling | .ended => 0

theorem toWait_le (s : Stage) : s.toWait ≤ Poller.longestStride := by
  cases s with
  | concluding a _ | releasing a _ | recording a _ =>
      cases a <;> simp [toWait, Poller.longestStride]
  | _ => simp [toWait, Poller.longestStride]

end Stage

namespace Poller

variable {p p' : Poller} {now fuel : Nat} {active active' : ActiveDownloads}
  {told : Option DownloadEvent}

theorem toWait_moves (hm : Moves now active p p' active' told) :
    p'.stage.toWait < p.stage.toWait := by
  cases hm with
  | @conclude activity _ hs | @release activity _ hs => cases activity <;> simp [hs, Stage.toWait]
  | _ => simp_all [Stage.toWait]

/-- There is nothing that the poller could do at once. -/
inductive Waits (now : Nat) (p : Poller) : Prop where
  | calling {c} : p.call? = some c → Waits now p
  | napping {wake} : p.stage = .napping wake → p.gate.isStopped = false → now < wake → Waits now p
  | resting : p.IsResting → Waits now p

theorem moves_or_waits (p : Poller) (now : Nat) (active : ActiveDownloads) :
    (∃ p' active' told, Moves now active p p' active' told) ∨ p.Waits now := by
  rcases next_cases p now active with moves | ⟨c, hc, -⟩ | ⟨wake, hs, hg, hlt, -⟩ | ⟨hr, -⟩
  · exact .inl moves
  · exact .inr (.calling hc)
  · exact .inr (.napping hs hg hlt)
  · exact .inr (.resting hr)

theorem stride_of_moves (hm : Moves now active p p' active' told) :
    p.stride now (fuel + 1) active =
      { p'.stride now fuel active' with
        told := told.toList ++ (p'.stride now fuel active').told } := by
  simp only [stride, next_of_moves hm]

theorem waits_stride (enough : p.stage.toWait ≤ fuel) :
    (p.stride now fuel active).poller.Waits now := by
  induction fuel generalizing p active with
  | zero =>
      rcases moves_or_waits p now active with ⟨_, _, _, hm⟩ | waits
      · have less := toWait_moves hm
        omega
      · exact waits
  | succ fuel ih =>
      rcases next_cases p now active with ⟨p', active', told, hm⟩ | ⟨c, hc, hn⟩ |
        ⟨wake, hs, hg, hlt, hn⟩ | ⟨hr, hn⟩
      · rw [stride_of_moves hm]
        have less := toWait_moves hm
        exact ih (by omega)
      · simp only [stride, hn]
        exact .calling hc
      · simp only [stride, hn]
        exact .napping hs hg hlt
      · simp only [stride, hn]
        exact .resting hr

theorem next_of_waits (waits : p.Waits now) (active : ActiveDownloads) :
    (∃ c, p.call? = some c ∧ ¬ p.IsResting ∧ p.next now active = .call c) ∨
    (∃ wake, p.call? = none ∧ ¬ p.IsResting ∧ p.next now active = .sleep wake) ∨
    (p.call? = none ∧ p.IsResting ∧ p.next now active = .rest) := by
  cases waits with
  | calling hc =>
      refine .inl ⟨_, hc, ?_, next_eq_call_iff.2 hc⟩
      rintro (hs | hs | ⟨hs, -⟩) <;> simp [call?, hs] at hc
  | @napping wake hs hg hlt =>
      refine .inr (.inl ⟨wake, by simp [call?, hs], by simp [IsResting, hs], ?_⟩)
      simp [next, hs, hg, Nat.not_le.2 hlt]
  | resting hr =>
      refine .inr (.inr ?_)
      rcases hr with hs | hs | ⟨hs, hr⟩ <;> simp_all [call?, IsResting, next]

end Poller

namespace Batch

/-! ## What a round leaves -/

namespace Round

variable {b : Batch} {r : Round} {now i : Nat} {lines : List Line} {line : Line} {p : Poller}

/-- The calls that members ask for, each with the place of its member. -/
def asked (members : List (Line × Poller)) : List (Nat × Call) :=
  members.zipIdx.flatMap fun (m, i) =>
    if m.1.isUnderWay then [] else m.2.call?.toList.map (i, ·)

/-- What a turn leaves of a member, `p` before it and `q` now. -/
structure Turned (now : Nat) (r : Round) (line : Line) (i : Nat) (p q : Poller) : Prop where
  pollers : (r.turnTo now (line, i)).batch.pollers = r.batch.pollers.set i q
  stays : line.isUnderWay = true → q = p
  waits : line.isUnderWay = false → q.Waits now
  calls : (r.turnTo now (line, i)).calls =
    r.calls ++ if line.isUnderWay then [] else q.call?.toList.map (i, ·)
  rests : (r.turnTo now (line, i)).isWorking = false ↔
    r.isWorking = false ∧ line.isUnderWay = false ∧ q.IsResting

theorem turned_of_letGoOn (p' : Poller) (free : line.isUnderWay = false)
    (turn : r.turnTo now (line, i) = r.letGoOn now i p') :
    ∃ q, Turned now r line i p q := by
  have waits : (p'.stride now Poller.longestStride r.active).poller.Waits now :=
    Poller.waits_stride p'.stage.toWait_le
  refine ⟨(p'.stride now Poller.longestStride r.active).poller, ?_⟩
  -- what it waits for is what it is about to do
  rcases Poller.next_of_waits waits (p'.stride now Poller.longestStride r.active).active with
    ⟨c, hc, unresting, hn⟩ | ⟨wake, hc, unresting, hn⟩ | ⟨hc, resting, hn⟩
  all_goals
    refine ⟨?_, by simp [free], fun _ => waits, ?_, ?_⟩
    · rw [turn]
      rfl
    · simp [letGoOn, *]
    · simp [letGoOn, *]

theorem exists_turned (now : Nat) (line : Line) (hi : r.batch.pollers[i]? = some p) :
    ∃ q, Turned now r line i p q := by
  cases line with
  | free => exact turned_of_letGoOn p rfl (by simp [turnTo, hi])
  | answered reply => exact turned_of_letGoOn (p.receive reply) rfl (by simp [turnTo, hi])
  | underWay =>
      obtain ⟨inside, rfl⟩ := List.getElem?_eq_some_iff.1 hi
      have turn : r.turnTo now (.underWay, i) = { r with isWorking := true } := by
        simp [turnTo, hi]
      exact ⟨_, by simp [turn], fun _ => rfl, nofun, by simp [turn, Line.isUnderWay],
        by simp [turn, Line.isUnderWay]⟩

/-- What a round leaves of a batch, given how it stands with the calls of the members that have had
their turn. -/
structure Leaves (b : Batch) (now : Nat) (lines : List Line) (r : Round) : Prop where
  /-- A member whose call is under way stays as it is, as does one that has had no turn. -/
  untouched : ∀ j : Nat, (lines[j]?).all Line.isUnderWay = true →
    r.batch.pollers[j]? = b.pollers[j]?
  /-- Any other member has done all that it could do at once. -/
  waits : ∀ m ∈ lines.zip r.batch.pollers, m.1.isUnderWay = false → m.2.Waits now
  /-- The calls to be made are those that these members ask for. -/
  calls : r.calls = asked (lines.zip r.batch.pollers)
  /-- There is no more to come just when no call is under way and every member rests. -/
  rests : r.isWorking = false ↔
    ∀ m ∈ lines.zip r.batch.pollers, m.1.isUnderWay = false ∧ m.2.IsResting

theorem leaves_start (b : Batch) (now : Nat) (active : ActiveDownloads) :
    Leaves b now [] (start b active) where
  untouched _ _ := rfl
  waits := by simp
  calls := rfl
  rests := by simp [start]

theorem asked_concat (members : List (Line × Poller)) (line : Line) (p : Poller) :
    asked (members ++ [(line, p)]) = asked members ++
      if line.isUnderWay then [] else p.call?.toList.map (members.length, ·) := by
  simp [asked, List.zipIdx_append]

theorem Leaves.turn (h : Leaves b now lines r) (line : Line) :
    Leaves b now (lines ++ [line]) (r.turnTo now (line, lines.length)) := by
  rcases Nat.lt_or_ge lines.length r.batch.pollers.length with inside | outside
  · obtain ⟨q, turned⟩ := exists_turned now line (List.getElem?_eq_getElem inside)
    have side : (lines ++ [line]).zip (r.turnTo now (line, lines.length)).batch.pollers =
        lines.zip r.batch.pollers ++ [(line, q)] := by
      rw [turned.pollers, zip_concat_set inside]
    have place : (lines.zip r.batch.pollers).length = lines.length := by
      rw [List.length_zip, Nat.min_eq_left (Nat.le_of_lt inside)]
    refine ⟨fun j still => ?_, ?_, ?_, ?_⟩
    · rw [turned.pollers]
      rcases Nat.lt_trichotomy j lines.length with before | rfl | behind
      · rw [List.getElem?_append_left before] at still
        rw [List.getElem?_set_ne (Nat.ne_of_gt before)]
        exact h.untouched j still
      · have stays := turned.stays (by simpa using still)
        rw [stays, List.set_getElem_self]
        exact h.untouched _ (by simp)
      · rw [List.getElem?_set_ne (Nat.ne_of_lt behind)]
        exact h.untouched j (by simp [List.getElem?_eq_none (Nat.le_of_lt behind)])
    · rw [side]
      intro m hm free
      rcases List.mem_append.1 hm with earlier | last
      · exact h.waits m earlier free
      · obtain rfl := List.mem_singleton.1 last
        exact turned.waits free
    · rw [side, asked_concat, place, turned.calls, h.calls]
    · simp only [side, turned.rests, h.rests, List.forall_mem_append, List.forall_mem_singleton]
  · have turn : r.turnTo now (line, lines.length) = r := by
      simp [turnTo, List.getElem?_eq_none outside]
    rw [turn]
    refine ⟨fun j still => ?_, ?_, ?_, ?_⟩
    · rcases Nat.lt_or_ge j lines.length with before | behind
      · rw [List.getElem?_append_left before] at still
        exact h.untouched j still
      · exact h.untouched j (by simp [List.getElem?_eq_none behind])
    all_goals rw [zip_concat_of_le outside]
    · exact h.waits
    · exact h.calls
    · exact h.rests

end Round

theorem round_concat (b : Batch) (now : Nat) (active : ActiveDownloads) (lines : List Line)
    (line : Line) : b.round now active (lines ++ [line]) =
      (b.round now active lines).turnTo now (line, lines.length) := by
  simp [round, List.zipIdx_append]

/-- A round leaves nothing that could be done at once, and tells what is left to do. -/
theorem leaves_round (b : Batch) (now : Nat) (active : ActiveDownloads) (lines : List Line) :
    Round.Leaves b now lines (b.round now active lines) := by
  induction lines using List.reverseRecOn with
  | nil => exact Round.leaves_start b now active
  | append_singleton lines line ih =>
      rw [round_concat]
      exact ih.turn line

/-! ## Rounds and events -/

variable {v : Venture} {i now : Nat} {m m' : Member} {events : List Event} {names : List String}
  {p : Poller} {told : List BatchEvent} {r : Round}

theorem exists_comesTo_stride (now fuel : Nat) (hi : v.company.members[i]? = some m) :
    ∃ events m', ComesTo v i m events (m.poller.stride now fuel v.active).poller
      (m.poller.stride now fuel v.active).active (m.poller.stride now fuel v.active).told m' := by
  induction fuel generalizing v m with
  | zero => exact ⟨[], m, comesTo_refl hi⟩
  | succ fuel ih =>
      rw [Poller.stride]
      split
      · next p active told hn =>
          have first := comesTo_go hi hn
          obtain ⟨more, m', later⟩ := ih (first.placed hi)
          rw [first.poller, first.active] at later
          exact ⟨_, m', first.trans later⟩
      · exact ⟨[], m, comesTo_refl hi⟩

namespace Round

/-- A round seen as a batch in a scene, with what was told before. Neither a clock nor a transport
is anything to a venture. -/
def seen (told : List BatchEvent) (r : Round) : Advance Unit :=
  ⟨⟨(), { Client.fresh with active := r.active }, 0⟩, r.batch, told ++ r.told⟩

theorem exists_letGoOn (h : Mirrors v names (r.seen told)) (heardOut : v.company.IsHeardOut)
    (distinct : names.Nodup) (hi : v.company.members[i]? = some m)
    (begun : ComesTo v i m events p v.active [] m') :
    ∃ more, Mirrors (v.afterAll more) names ((r.letGoOn now i p).seen told) ∧
      (v.afterAll more).company.IsHeardOut := by
  have agree : v.active = r.active := h.active
  obtain ⟨later, m'', moved⟩ :=
    exists_comesTo_stride now Poller.longestStride (begun.placed hi)
  rw [begun.active, begun.poller, agree] at moved
  obtain ⟨n, mirrors, silent⟩ := h.exists_heardOut (s := ⟨(), ⟨[], _⟩, 0⟩) heardOut distinct hi
    (begun.trans moved)
  refine ⟨_, ?_, silent⟩
  simpa [seen, letGoOn, Client.fresh] using mirrors

theorem exists_turnTo (h : Mirrors v names (r.seen told)) (heardOut : v.company.IsHeardOut)
    (distinct : names.Nodup) (now : Nat) (turn : Line × Nat) :
    ∃ events, Mirrors (v.afterAll events) names ((r.turnTo now turn).seen told) ∧
      (v.afterAll events).company.IsHeardOut := by
  obtain ⟨line, i⟩ := turn
  cases hp : r.batch.pollers[i]? with
  | none =>
      have same : r.turnTo now (line, i) = r := by simp [turnTo, hp]
      rw [same]
      exact ⟨[], h, heardOut⟩
  | some p =>
      obtain ⟨m, hi, rfl⟩ := h.exists_member hp
      cases line with
      | underWay =>
          have same : r.turnTo now (.underWay, i) = { r with isWorking := true } := by
            simp [turnTo, hp]
          rw [same]
          exact ⟨[], h, heardOut⟩
      | free =>
          have goes : r.turnTo now (.free, i) = r.letGoOn now i m.poller := by simp [turnTo, hp]
          rw [goes]
          exact exists_letGoOn h heardOut distinct hi (comesTo_refl hi)
      | answered reply =>
          have goes : r.turnTo now (.answered reply, i) =
              r.letGoOn now i (m.poller.receive reply) := by simp [turnTo, hp]
          rw [goes]
          exact exists_letGoOn h heardOut distinct hi (comesTo_answer hi reply)

/-- What keeps a round a part of a venture can be done again and again. -/
theorem exists_foldl {α : Type} {next : Round → α → Round}
    (once : ∀ {v r}, Mirrors v names (seen told r) → v.company.IsHeardOut → ∀ a : α,
      ∃ events, Mirrors (v.afterAll events) names ((next r a).seen told) ∧
        (v.afterAll events).company.IsHeardOut)
    (h : Mirrors v names (r.seen told)) (heardOut : v.company.IsHeardOut) (as : List α) :
    ∃ events, Mirrors (v.afterAll events) names ((as.foldl next r).seen told) ∧
      (v.afterAll events).company.IsHeardOut := by
  induction as generalizing v r with
  | nil => exact ⟨[], h, heardOut⟩
  | cons a as ih =>
      obtain ⟨events, mirrors, silent⟩ := once h heardOut a
      obtain ⟨more, later⟩ := ih mirrors silent
      refine ⟨events ++ more, ?_⟩
      rw [Venture.afterAll_append]
      exact later

end Round

/-- What a program finds when it comes back to a batch: the instant, how it stands with the calls of
the members, and whether its user has asked to stop since. -/
structure Visit where
  now : Nat
  lines : List Line
  isAsked : Bool

def Round.visit (r : Round) (visit : Visit) : Round :=
  let next := r.batch.round visit.now r.active visit.lines
  { next with
    batch := if visit.isAsked then next.batch.stop else next.batch
    told := r.told ++ next.told }

theorem exists_visit (h : Mirrors v names (r.seen told)) (heardOut : v.company.IsHeardOut)
    (distinct : names.Nodup) (visit : Visit) :
    ∃ events, Mirrors (v.afterAll events) names ((r.visit visit).seen told) ∧
      (v.afterAll events).company.IsHeardOut := by
  have begun : Mirrors v names ((Round.start r.batch r.active).seen (told ++ r.told)) := by
    simpa [Round.seen, Round.start] using h
  obtain ⟨events, mirrors, silent⟩ := Round.exists_foldl
    (fun h silent turn => Round.exists_turnTo h silent distinct visit.now turn) begun heardOut
    visit.lines.zipIdx
  cases asked : visit.isAsked with
  | false => exact ⟨events, by simpa [Round.seen, Round.visit, asked, round] using mirrors, silent⟩
  | true =>
      obtain ⟨stops, stopped, silent⟩ := mirrors.exists_stop silent distinct
      refine ⟨events ++ stops, ?_⟩
      rw [Venture.afterAll_append]
      exact ⟨by simpa [Round.seen, Round.visit, asked, round] using stopped, silent⟩

/-- Whatever a program in real time finds at its visits, and however often it comes back, the batch
goes on as a venture. -/
theorem exists_visits (h : Mirrors v names (r.seen told)) (heardOut : v.company.IsHeardOut)
    (distinct : names.Nodup) (visits : List Visit) :
    ∃ events, Mirrors (v.afterAll events) names ((visits.foldl Round.visit r).seen told) ∧
      (v.afterAll events).company.IsHeardOut :=
  Round.exists_foldl (fun h silent visit => exists_visit h silent distinct visit) h heardOut
    visits

/-- A batch in real time that was started in a scene, after some visits. -/
def inRealTime {τ : Type} [Transport τ] (s : Scene τ) (names : List String) (config : PollerConfig)
    (visits : List Visit) : Round :=
  visits.foldl Round.visit (.start (start s names config).2 (start s names config).1.client.active)

variable {τ : Type} [Transport τ] {s : Scene τ} {config : PollerConfig} {given : List String}
  {lines : List Line}

theorem exists_inRealTime (settled : settle given = .ok names) (config : PollerConfig)
    (s : Scene τ) (visits : List Visit) :
    ∃ events, Mirrors (Venture.reached names config s.client.active events) names
        ((inRealTime s names config visits).seen []) ∧
      (Venture.reached names config s.client.active events).company.IsHeardOut := by
  have distinct := nodup_of_settle settled
  obtain ⟨starts, -, begun, silent⟩ :=
    exists_start distinct (ne_nil_of_settle settled) config s
  have first : Mirrors (Venture.reached names config s.client.active starts) names
      ((Round.start (start s names config).2 (start s names config).1.client.active).seen []) :=
    ⟨begun.fits, begun.underway, begun.active, begun.batch, begun.told⟩
  obtain ⟨more, later⟩ := exists_visits first silent distinct visits
  refine ⟨starts ++ more, ?_⟩
  rw [Venture.reached_append]
  exact later

theorem isResting_stop (p : Poller) : p.stop.IsResting ↔ p.IsResting := by
  unfold Poller.stop
  split <;> exact Iff.rfl

/-- After a visit with nothing more to come every member that has had its turn rests. -/
theorem resting_of_visit {visit : Visit} (idle : (r.visit visit).isWorking = false)
    (hi : (r.visit visit).batch.pollers[i]? = some p) (inside : i < visit.lines.length) :
    p.IsResting := by
  let next := r.batch.round visit.now r.active visit.lines
  have rests := (leaves_round r.batch visit.now r.active visit.lines).rests.1 idle
  have turned (q : Poller) (hq : next.batch.pollers[i]? = some q) : q.IsResting := by
    refine (rests (visit.lines[i], q) (List.mem_iff_getElem?.2 ⟨i, ?_⟩)).2
    exact List.getElem?_zip_eq_some.2 ⟨List.getElem?_eq_getElem inside, hq⟩
  cases asked : visit.isAsked with
  | false => exact turned p (by simpa [Round.visit, asked] using hi)
  | true =>
      obtain ⟨q, hq, rfl⟩ : ∃ q, next.batch.pollers[i]? = some q ∧ q.stop = p := by
        simpa [Round.visit, asked, Batch.stop] using hi
      exact (isResting_stop q).2 (turned q hq)

/-- When a program in real time finds that there is no more to come, every member has ended and the
report on them has been told last. -/
theorem over_of_idle_visit (settled : settle given = .ok names) (config : PollerConfig)
    (s : Scene τ) (visits : List Visit) {last : Visit} (sized : last.lines.length = names.length)
    (idle : (inRealTime s names config (visits ++ [last])).isWorking = false) :
    (∀ p ∈ (inRealTime s names config (visits ++ [last])).batch.pollers, p.stage = .ended) ∧
      ∃ told, (inRealTime s names config (visits ++ [last])).told =
        told ++ [.finished (inRealTime s names config (visits ++ [last])).batch.report] := by
  obtain ⟨events, mirrors, silent⟩ := exists_inRealTime settled config s (visits ++ [last])
  have orderly := Venture.orderly_reached (nodup_of_settle settled) config s.client.active events
  have visited : inRealTime s names config (visits ++ [last]) =
      (inRealTime s names config visits).visit last := by simp [inRealTime]
  generalize inRealTime s names config (visits ++ [last]) = r at *
  have ended (i : Nat) (p : Poller) (hi : r.batch.pollers[i]? = some p) : p.stage = .ended := by
    obtain ⟨m, hm, rfl⟩ := mirrors.exists_member hi
    have here := poller?_of_member hm
    have inside : i < last.lines.length := by
      rw [sized]
      exact (List.getElem?_eq_some_iff.1 (Venture.name_of_poller? orderly.fits here)).1
    rw [visited] at hi idle
    obtain ⟨-, runs, asked⟩ :=
      Venture.underway_of_isUnderway orderly.inPhase mirrors.underway here
    rcases resting_of_visit idle hi inside with hs | hs | ⟨-, waits⟩
    · exact absurd hs asked
    · exact hs
    · rw [runs] at waits
      cases waits
  have due := orderly.fits.remaining_eq_zero silent fun m hm => by
    obtain ⟨i, hi⟩ := List.mem_iff_getElem?.1 hm
    have batch : r.batch = _ := mirrors.batch.symm
    exact ended i m.poller (by simp [batch, Company.batch, hi])
  have report : r.batch.report = _ :=
    (congrArg Batch.report mirrors.batch.symm).trans orderly.fits.report_eq
  have told : [] ++ r.told = _ := mirrors.told
  rw [due, if_pos rfl, List.nil_append, ← report] at told
  refine ⟨fun p hp => ?_, _, told⟩
  obtain ⟨i, hi⟩ := List.mem_iff_getElem?.1 hp
  exact ended i p hi

end Batch

end ModelDepot
