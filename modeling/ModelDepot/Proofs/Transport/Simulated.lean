import Mathlib.Algebra.Group.Nat.Defs
import ModelDepot.Proofs.Lists
import ModelDepot.Proofs.Transport.Serving

/-! # Simulated downloads

A model without a script has a simulated download from an accepted start to its removal. What it
reports is told by the number of status calls that were answered since it began: more starts and
other calls do not count. The points are kept in 32 bits before they are cut at a hundred, so the
download goes on to its end and stays there only for as long as their product fits.
-/

namespace ModelDepot

namespace InMemory

/-- The model has no script, or one without any reply. -/
def Unscripted (b : InMemory) (model : String) : Prop :=
  ∀ script, b.scripts.get? model = some script → script.next.1 = none

def notUnderWay : Reply :=
  .ok (errorPayload "Model not found or not being downloaded")

/-- The report of a download that so many status calls were answered for. -/
def report (model : String) (polls : Nat) : Reply :=
  let points := 20 * polls % 2 ^ 32
  .ok (statusPayload model (.ofNat (min points 100)) (decide (100 ≤ points)))

/-- Of the calls answered so far, none has begun a download of the model that lasts: behind every
accepted start there is a removal. -/
def Idle (model : String) (answers : List (Call × Reply)) : Prop :=
  ∀ before text since, answers = before ++ (.startDownload model, .ok text) :: since →
    .removeModel model ∈ since.map (·.1)

/-- A download of the model has begun that was not removed since, and so many status calls for the
model were answered since. It begins with an accepted start when there is none. -/
def UnderWay (model : String) (answers : List (Call × Reply)) (polls : Nat) : Prop :=
  ∃ before text since, answers = before ++ (.startDownload model, .ok text) :: since ∧
    Idle model before ∧ .removeModel model ∉ since.map (·.1) ∧
    (since.map (·.1)).count (.downloadStatus model) = polls

variable {b : InMemory} {c : Call} {model : String} {answers : List (Call × Reply)} {polls : Nat}

/-! ## Histories -/

theorem idle_nil (model : String) : Idle model [] := by
  intro before text since split
  simp at split

theorem snoc_eq_split {a first : Call × Reply} {before since : List (Call × Reply)}
    (h : answers ++ [a] = before ++ first :: since) (apart : a ≠ first) :
    ∃ since', since = since' ++ [a] ∧ answers = before ++ first :: since' := by
  rcases concat_eq_split_iff.1 h with ⟨-, same, -⟩ | split
  · exact absurd same apart
  · exact split

theorem Idle.concat (h : Idle model answers) {a : Call × Reply}
    (other : ∀ text, a ≠ (.startDownload model, .ok text)) : Idle model (answers ++ [a]) := by
  intro before text since split
  obtain ⟨since', rfl, earlier⟩ := snoc_eq_split split (other text)
  rw [List.map_append]
  exact List.mem_append_left _ (h before text since' earlier)

theorem idle_of_removed (model : String) (answers : List (Call × Reply)) (reply : Reply) :
    Idle model (answers ++ [(.removeModel model, reply)]) := by
  intro before text since split
  obtain ⟨since', rfl, -⟩ := snoc_eq_split split (by simp)
  simp

theorem Idle.begin (h : Idle model answers) (text : String) :
    UnderWay model (answers ++ [(.startDownload model, .ok text)]) 0 :=
  ⟨answers, text, [], rfl, h, by simp, rfl⟩

theorem UnderWay.append (h : UnderWay model answers polls) (later : List (Call × Reply))
    (kept : .removeModel model ∉ later.map (·.1)) :
    UnderWay model (answers ++ later)
      (polls + (later.map (·.1)).count (.downloadStatus model)) := by
  obtain ⟨before, text, since, rfl, idle, lasts, rfl⟩ := h
  refine ⟨before, text, since ++ later, by simp, idle, ?_, ?_⟩
  · rw [List.map_append, List.mem_append, not_or]
    exact ⟨lasts, kept⟩
  · rw [List.map_append, List.count_append]

theorem Idle.not_underWay (idle : Idle model answers) : ¬ UnderWay model answers polls := by
  rintro ⟨before, text, since, split, -, lasts, -⟩
  exact lasts (idle before text since split)

/-- Of two accepted starts of downloads that last, the later one did not begin anything. -/
theorem since_eq_of_idle {before mid since since' : List (Call × Reply)}
    {first first' : Call × Reply} {text : String}
    (accepted : first = (.startDownload model, .ok text)) (idle : Idle model (before ++ mid))
    (lasts : .removeModel model ∉ since.map (·.1))
    (same : first :: since = mid ++ first' :: since') : since = since' := by
  cases mid with
  | nil => exact (List.cons.inj same).2
  | cons next mid =>
      rw [List.cons_append, List.cons.injEq] at same
      obtain ⟨rfl, rfl⟩ := same
      subst accepted
      have removed := idle before text mid rfl
      rw [List.map_append, List.mem_append, not_or] at lasts
      exact absurd removed lasts.1

theorem UnderWay.unique {polls' : Nat} (h : UnderWay model answers polls)
    (h' : UnderWay model answers polls') : polls = polls' := by
  obtain ⟨before, text, since, rfl, idle, lasts, rfl⟩ := h
  obtain ⟨before', text', since', split, idle', lasts', rfl⟩ := h'
  suffices since = since' by rw [this]
  rcases List.append_eq_append_iff.1 split with ⟨mid, rfl, same⟩ | ⟨mid, rfl, same⟩
  · exact since_eq_of_idle rfl idle' lasts same
  · exact (since_eq_of_idle rfl idle lasts' same).symm

/-! ## The points of a download -/

theorem toNat_simulatedProgress (polls : Nat) :
    (simulatedProgress (.ofNat polls)).toNat = min (20 * polls % 2 ^ 32) 100 := by
  have points : ((.ofNat polls : UInt32) * simulatedStep).toNat = 20 * polls % 2 ^ 32 := by
    rw [UInt32.toNat_mul, UInt32.toNat_ofNat', Nat.mul_comm 20, Nat.mod_mul_mod]
    rfl
  rw [simulatedProgress, UInt32.toNat_min, points]
  rfl

theorem simulate_of_none (nothing : b.simulated.get? model = none) :
    b.simulate model = (notUnderWay, b) := by
  rw [simulate, nothing]
  rfl

theorem simulate_of_some (counted : b.simulated.get? model = some (.ofNat polls)) :
    b.simulate model =
      (report model polls, { b with simulated := b.simulated.set model (.ofNat (polls + 1)) }) := by
  have next : (.ofNat polls : UInt32) + 1 = .ofNat (polls + 1) := (UInt32.ofNat_add polls 1).symm
  have points := toNat_simulatedProgress polls
  have done : (100 ≤ simulatedProgress (.ofNat polls)) ↔ 100 ≤ 20 * polls % 2 ^ 32 := by
    rw [UInt32.le_iff_toNat_le, points]
    exact Nat.le_min.trans (and_iff_left (Nat.le_refl 100))
  simp only [simulate, counted, report, next, points, done]

/-! ## The count follows the history -/

theorem simulated_simulate_of_ne {name : String} (apart : model ≠ name) :
    (b.simulate name).2.simulated.get? model = b.simulated.get? model := by
  unfold simulate
  split
  · rfl
  · exact Keyed.get?_set_of_ne _ _ apart

theorem simulated_answer_of_ne (other : c.model? ≠ some model) :
    (b.answer c).2.simulated.get? model = b.simulated.get? model := by
  cases c with
  | startDownload name =>
      have apart : model ≠ name := fun same => other (congrArg some same.symm)
      simp only [answer, start]
      split
      · rfl
      · split
        · rfl
        · exact Keyed.get?_set_of_ne _ _ apart
  | downloadStatus name =>
      have apart : model ≠ name := fun same => other (congrArg some same.symm)
      simp only [answer, nextStatus]
      split
      · exact simulated_simulate_of_ne apart
      · split
        · rfl
        · exact simulated_simulate_of_ne apart
  | removeModel name =>
      exact Keyed.get?_erase_of_ne _ fun same => other (congrArg some same.symm)
  | _ => rfl

theorem Unscripted.nextStatus_eq (free : b.Unscripted model) :
    b.nextStatus model = b.simulate model := by
  unfold nextStatus
  split
  · rfl
  · next script given =>
      have nothing := free script given
      split
      · next next => simp [next] at nothing
      · rfl

theorem Unscripted.take (free : b.Unscripted model) (turn : Turn) :
    (b.take turn).Unscripted model := by
  intro script given
  apply free script
  by_cases status : turn = .answered (.downloadStatus model)
  · subst status
    rw [← scripts_simulate b model, ← free.nextStatus_eq]
    exact given
  · rwa [scripts_take_of_ne status] at given

/-- The count kept for the model fits what was answered so far. -/
inductive Tracks (model : String) (answers : List (Call × Reply)) : Option UInt32 → Prop where
  | idle : Idle model answers → Tracks model answers none
  | underWay {polls : Nat} : UnderWay model answers polls →
      Tracks model answers (some (.ofNat polls))

/-- An answer that neither begins nor ends a download nor counts for one changes nothing. -/
theorem Tracks.aside {count : Option UInt32} (h : Tracks model answers count) {a : Call × Reply}
    (start : ∀ text, a ≠ (.startDownload model, .ok text)) (removal : a.1 ≠ .removeModel model)
    (status : a.1 ≠ .downloadStatus model) : Tracks model (answers ++ [a]) count := by
  cases h with
  | idle idle => exact .idle (idle.concat start)
  | underWay way =>
      have more := way.append [a] (by simpa using removal.symm)
      rw [List.map_singleton, List.count_singleton, if_neg (by simpa using status)] at more
      exact .underWay more

theorem tracks_start (h : Tracks model answers (b.simulated.get? model)) :
    Tracks model (answers ++ [(.startDownload model, (b.start model).1)])
      ((b.start model).2.simulated.get? model) := by
  unfold start
  split
  · exact h.aside (by simp) nofun nofun
  · next text _ =>
      generalize counted : b.simulated.get? model = count at h ⊢
      cases h with
      | idle idle =>
          simp only [Option.isSome_none, Bool.false_eq_true, if_false, Keyed.get?_set_self]
          exact .underWay (idle.begin text)
      | underWay way =>
          simp only [Option.isSome_some, if_true, counted]
          exact .underWay (way.append [_] (by simp))

theorem tracks_simulate (h : Tracks model answers (b.simulated.get? model)) (reply : Reply) :
    Tracks model (answers ++ [(.downloadStatus model, reply)])
      ((b.simulate model).2.simulated.get? model) := by
  generalize counted : b.simulated.get? model = count at h
  cases h with
  | idle idle =>
      rw [simulate_of_none counted, counted]
      exact .idle (idle.concat (by simp))
  | underWay way =>
      have more := way.append [(.downloadStatus model, reply)] (by simp)
      rw [List.map_singleton, List.count_singleton_self] at more
      rw [simulate_of_some counted, Keyed.get?_set_self]
      exact .underWay more

theorem tracks_answer (h : Tracks model answers (b.simulated.get? model))
    (free : b.Unscripted model) (c : Call) :
    Tracks model (answers ++ [(c, (b.answer c).1)]) ((b.answer c).2.simulated.get? model) := by
  by_cases about : c.model? = some model
  · cases c with
    | startDownload name =>
        obtain rfl := Option.some.inj about
        exact tracks_start h
    | downloadStatus name =>
        obtain rfl := Option.some.inj about
        rw [answer, free.nextStatus_eq]
        exact tracks_simulate h _
    | removeModel name =>
        obtain rfl := Option.some.inj about
        rw [show (b.answer (.removeModel name)).2.simulated.get? name = none from
          Keyed.get?_erase_self _ _]
        exact .idle (idle_of_removed _ _ _)
    | _ => cases about
  · have apart {d : Call} (named : d.model? = some model) : c ≠ d := fun same =>
      about (same ▸ named)
    rw [simulated_answer_of_ne about]
    exact h.aside (fun text same => apart rfl (congrArg Prod.fst same)) (apart rfl) (apart rfl)

theorem tracks_after (h : Tracks model answers (b.simulated.get? model))
    (free : b.Unscripted model) (turns : List Turn) :
    Tracks model (answers ++ b.answers turns) ((b.after turns).simulated.get? model) := by
  induction turns generalizing b answers with
  | nil => simpa [InMemory.answers] using h
  | cons turn turns ih =>
      cases turn with
      | received c => exact ih h (free.take (.received c))
      | answered c =>
          have rest := ih (tracks_answer h free c) (free.take (.answered c))
          rwa [List.append_assoc] at rest

theorem Unscripted.after (free : b.Unscripted model) (turns : List Turn) :
    (b.after turns).Unscripted model := by
  induction turns generalizing b with
  | nil => exact free
  | cons turn turns ih => exact ih (free.take turn)

/-! ## What is told about a download -/

def statusAfter (b : InMemory) (model : String) (turns : List Turn) : Reply :=
  ((b.after turns).answer (.downloadStatus model)).1

/-- While the product fits, a download moves on by twenty points a status call up to a hundred,
and completes there. -/
theorem report_of_lt (model : String) (few : 20 * polls < 2 ^ 32) :
    report model polls =
      .ok (statusPayload model (.ofNat (min (20 * polls) 100)) (decide (5 ≤ polls))) := by
  have fits : 20 * polls % 2 ^ 32 = 20 * polls := Nat.mod_eq_of_lt few
  have done : 100 ≤ 20 * polls ↔ 5 ≤ polls := by omega
  simp only [report, fits, done]

/-- What a backend tells of a model without a script, whatever happens at it. -/
structure Simulates (b : InMemory) (model : String) (turns : List Turn) : Prop where
  /-- The model is being downloaded or it is not. -/
  either : Idle model (b.answers turns) ∨ ∃ polls, UnderWay model (b.answers turns) polls
  idle : Idle model (b.answers turns) → b.statusAfter model turns = notUnderWay
  underWay : ∀ polls, UnderWay model (b.answers turns) polls →
    b.statusAfter model turns = report model polls
  /-- While the product fits, the points go up to a hundred and stay there. -/
  early : ∀ polls, 20 * polls < 2 ^ 32 → UnderWay model (b.answers turns) polls →
    b.statusAfter model turns =
      .ok (statusPayload model (.ofNat (min (20 * polls) 100)) (decide (5 ≤ polls)))
  /-- A download lasts until its removal, and only status calls for the model count. -/
  lasts : ∀ earlier later polls, turns = earlier ++ later →
    UnderWay model (b.answers earlier) polls → .answered (.removeModel model) ∉ later →
    UnderWay model (b.answers turns) (polls + later.count (.answered (.downloadStatus model)))

variable {turns : List Turn} {count : Option UInt32}

theorem UnderWay.later {earlier later : List Turn}
    (h : UnderWay model (b.answers earlier) polls)
    (kept : .answered (.removeModel model) ∉ later) :
    UnderWay model (b.answers (earlier ++ later))
      (polls + later.count (.answered (.downloadStatus model))) := by
  rw [answers_append, ← count_answered, ← map_fst_answers (b.after earlier)]
  apply h.append _
  rwa [map_fst_answers, mem_answered]

theorem Tracks.idle_or_underWay (h : Tracks model answers count) :
    Idle model answers ∨ ∃ polls, UnderWay model answers polls := by
  cases h with
  | idle idle => exact .inl idle
  | underWay way => exact .inr ⟨_, way⟩

theorem Tracks.eq_none (h : Tracks model answers count) (idle : Idle model answers) :
    count = none := by
  cases h with
  | idle => rfl
  | underWay way => exact absurd way idle.not_underWay

theorem Tracks.eq_some (h : Tracks model answers count) (way : UnderWay model answers polls) :
    count = some (.ofNat polls) := by
  cases h with
  | idle idle => exact absurd way idle.not_underWay
  | underWay way' => rw [way.unique way']

section

variable (free : b.Unscripted model) (new : b.simulated.get? model = none)
include free new

theorem tracks_of_new (turns : List Turn) :
    Tracks model (b.answers turns) ((b.after turns).simulated.get? model) := by
  have start : Tracks model [] (b.simulated.get? model) := by
    rw [new]
    exact .idle (idle_nil model)
  exact tracks_after start free turns

theorem statusAfter_of_idle (idle : Idle model (b.answers turns)) :
    b.statusAfter model turns = notUnderWay := by
  have nothing := (tracks_of_new free new turns).eq_none idle
  rw [statusAfter, answer, (free.after turns).nextStatus_eq, simulate_of_none nothing]

theorem statusAfter_of_underWay (way : UnderWay model (b.answers turns) polls) :
    b.statusAfter model turns = report model polls := by
  have counted := (tracks_of_new free new turns).eq_some way
  rw [statusAfter, answer, (free.after turns).nextStatus_eq, simulate_of_some counted]

/-- What a new backend tells of a model goes by the calls answered so far and by nothing else. -/
theorem simulation_follows_calls (turns : List Turn) : b.Simulates model turns where
  either := (tracks_of_new free new turns).idle_or_underWay
  idle := statusAfter_of_idle free new
  underWay _ := statusAfter_of_underWay free new
  early _ few way := (statusAfter_of_underWay free new way).trans (report_of_lt model few)
  lasts := by
    rintro earlier later polls rfl way kept
    exact way.later kept

end

/-- A second start and a call for another model do not count. -/
theorem simulation_follows_calls_of_phi :
    let turns := inARow [.startDownload "phi", .downloadStatus "phi", .startDownload "phi",
      .downloadStatus "llava", .downloadStatus "phi"]
    empty.Unscripted "phi" ∧ empty.simulated.get? "phi" = none ∧ empty.Simulates "phi" turns ∧
      empty.statusAfter "phi" turns = .ok (statusPayload "phi" (.ofNat 40) false) := by
  intro turns
  have free : empty.Unscripted "phi" := nofun
  have simulates := simulation_follows_calls free rfl turns
  have begun : UnderWay "phi" (empty.answers (inARow [.startDownload "phi"])) 0 :=
    (idle_nil "phi").begin _
  have way := simulates.lasts (inARow [.startDownload "phi"]) _ 0 rfl begun (by decide)
  exact ⟨free, rfl, simulates, simulates.early 2 (by decide) way⟩

theorem underWay_of_replicate (model : String) (polls : Nat) :
    UnderWay model
      (empty.answers
        (inARow (.startDownload model :: List.replicate polls (.downloadStatus model))))
      polls := by
  have begun : UnderWay model (empty.answers (inARow [.startDownload model])) 0 :=
    (idle_nil model).begin _
  have kept : .answered (.removeModel model) ∉
      inARow (List.replicate polls (.downloadStatus model)) := by
    rw [← mem_answered, answered_inARow]
    simp
  have way := begun.later kept
  rwa [← count_answered, answered_inARow, List.count_replicate_self, Nat.zero_add] at way

/-- When the product does not fit in 32 bits any more, a download that was complete has four points
of a hundred. -/
theorem simulation_starts_over :
    let turns := inARow
      (.startDownload "phi" :: List.replicate 214748365 (.downloadStatus "phi"))
    UnderWay "phi" (empty.answers turns) 214748365 ∧
      empty.statusAfter "phi" turns = .ok (statusPayload "phi" (.ofNat 4) false) ∧
      statusPayload "phi" (.ofNat 4) false ≠
        statusPayload "phi" (.ofNat (min (20 * 214748365) 100)) (decide (5 ≤ 214748365)) := by
  intro turns
  have way : UnderWay "phi" (empty.answers turns) 214748365 := underWay_of_replicate "phi" _
  have free : empty.Unscripted "phi" := nofun
  refine ⟨way, ?_, by decide +kernel⟩
  rw [statusAfter_of_underWay free rfl way]
  rfl

end InMemory

end ModelDepot
