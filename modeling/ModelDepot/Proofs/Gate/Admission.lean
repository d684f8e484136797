import ModelDepot.Proofs.Gate.Turns
import Mathlib.Data.List.Induction

/-! # A gate admits one caller at a time

What a gate answers is told by what has happened to it. As long as callers finish from inside only,
never two of them are inside, and behind a stop nobody comes in and nobody's call counts any more.
-/

namespace ModelDepot.PollGate

variable {κ : Type} {g : PollGate} {past : List (Turn κ)} {t : Turn κ} {who : κ}

/-- The gate agrees with what has happened. It is idle while nobody is inside and in flight while
somebody is, and a stop leaves whoever is inside there. -/
inductive Fits (past : List (Turn κ)) : PollGate → Prop where
  | idle : ¬ Closed past → (∀ who, ¬ Inside who past) → Alternates (passes past) none →
      Fits past .idle
  | inFlight (who : κ) : ¬ Closed past → (∀ other, Inside other past ↔ other = who) →
      Alternates (passes past) (some who) → Fits past .inFlight
  | stopped (last : Option κ) : Closed past →
      (∀ who other, Inside who past → Inside other past → who = other) →
      Alternates (passes past) last → Fits past .stopped

theorem fits_nil : Fits ([] : List (Turn κ)) .idle :=
  .idle (by simp [Closed]) not_inside_nil .nil

namespace Fits

theorem quiet (h : Fits past g) (noPass : t.isPass = false)
    (noFinish : ∀ who, t.request ≠ .finish who) (noStop : t.request ≠ .stop) :
    Fits (past ++ [t]) g := by
  have inside (who : κ) : Inside who (past ++ [t]) ↔ Inside who past := by
    rw [inside_concat_iff]
    constructor
    · rintro (rfl | ⟨inside, -⟩)
      · cases noPass
      · exact inside
    · exact fun inside => .inr ⟨inside, noFinish who⟩
  have closed : Closed (past ++ [t]) ↔ Closed past := by
    rw [closed_concat_iff, or_iff_left noStop]
  have same : passes (past ++ [t]) = passes past := by simp [passes_concat, noPass]
  cases h with
  | idle isOpen empty alternates =>
      refine .idle (closed.not.2 isOpen) (fun who => (inside who).not.2 (empty who)) ?_
      rwa [same]
  | inFlight who isOpen only alternates =>
      refine .inFlight who (closed.not.2 isOpen) (fun other => (inside other).trans (only other)) ?_
      rwa [same]
  | stopped last isClosed alone alternates =>
      refine .stopped last (closed.2 isClosed) (fun who other => ?_) (by rwa [same])
      rw [inside, inside]
      exact alone who other

theorem begin (h : Fits past .idle) (who : κ) :
    Fits (past ++ [⟨.begin who, true⟩]) .inFlight := by
  cases h with
  | idle isOpen empty alternates =>
      refine .inFlight who ?_ (fun other => ?_) ?_
      · simpa [closed_concat_iff] using isOpen
      · simp [inside_concat_iff, empty, eq_comm]
      · simpa [passes_concat, Turn.isPass] using alternates.begin who

theorem finish (h : Fits past .inFlight) (inside : Inside who past) :
    Fits (past ++ [⟨.finish who, true⟩]) .idle := by
  cases h with
  | inFlight caller isOpen only alternates =>
      obtain rfl := (only who).1 inside
      refine .idle ?_ (fun other => ?_) ?_
      · simpa [closed_concat_iff] using isOpen
      · simp [inside_concat_iff, only, eq_comm]
      · simpa [passes_concat, Turn.isPass] using alternates.finish

theorem discard (h : Fits past .stopped) (who : κ) :
    Fits (past ++ [⟨.finish who, false⟩]) .stopped := by
  cases h with
  | stopped last isClosed alone alternates =>
      refine .stopped last (closed_concat_iff.2 (.inl isClosed)) (fun one other => ?_) ?_
      · simp only [inside_concat_iff, Turn.mk.injEq, reduceCtorEq, false_and, false_or]
        rintro ⟨oneInside, -⟩ ⟨otherInside, -⟩
        exact alone one other oneInside otherInside
      · simpa [passes_concat, Turn.isPass] using alternates

/-- At no moment are two callers inside. -/
theorem alone (h : Fits past g) {other : κ} (inside : Inside who past)
    (otherInside : Inside other past) : who = other := by
  cases h with
  | idle _ empty _ => exact absurd inside (empty who)
  | inFlight caller _ only _ => rw [(only who).1 inside, (only other).1 otherInside]
  | stopped _ _ alone _ => exact alone who other inside otherInside

theorem alternates (h : Fits past g) : ∃ last, Alternates (passes past) last := by
  cases h with
  | idle _ _ alternates => exact ⟨_, alternates⟩
  | inFlight _ _ _ alternates => exact ⟨_, alternates⟩
  | stopped _ _ _ alternates => exact ⟨_, alternates⟩

theorem stop (h : Fits past g) (answer : Bool) : Fits (past ++ [⟨.stop, answer⟩]) .stopped := by
  obtain ⟨last, alternates⟩ := h.alternates
  refine .stopped last (closed_concat_iff.2 (.inr rfl)) (fun who other => ?_) ?_
  · simp only [inside_concat_iff, Turn.mk.injEq, reduceCtorEq, false_and, false_or]
    rintro ⟨inside, -⟩ ⟨otherInside, -⟩
    exact h.alone inside otherInside
  · simpa [passes_concat, Turn.isPass] using alternates

/-- Every request keeps the gate in agreement, if a caller finishes from inside. -/
theorem ask (h : Fits past g) (r : Request κ)
    (fromInside : ∀ who, r = .finish who → Inside who past) :
    Fits (past ++ [⟨r, (g.ask r).1⟩]) (g.ask r).2 := by
  cases r with
  | begin who =>
      cases g with
      | idle => exact h.begin who
      | inFlight | stopped => exact h.quiet rfl (by simp) (by simp)
  | finish who =>
      have inside := fromInside who rfl
      cases g with
      | idle =>
          cases h with
          | idle _ empty _ => exact absurd inside (empty who)
      | inFlight => exact h.finish inside
      | stopped => exact h.discard who
  | stop => exact h.stop _
  | isStopped | isInFlight => exact h.quiet rfl (by simp) (by simp)

theorem eq_stopped_iff (h : Fits past g) : g = .stopped ↔ Closed past := by
  cases h with
  | idle isOpen _ _ => simpa using isOpen
  | inFlight _ isOpen _ _ => simpa using isOpen
  | stopped _ isClosed _ _ => simpa using isClosed

theorem eq_inFlight_iff (h : Fits past g) :
    g = .inFlight ↔ ¬ Closed past ∧ ∃ who, Inside who past := by
  cases h with
  | idle _ empty _ => simp [empty]
  | inFlight who isOpen only _ => simp [isOpen, only]
  | stopped _ isClosed _ _ => simp [isClosed]

theorem eq_idle_iff (h : Fits past g) :
    g = .idle ↔ ¬ Closed past ∧ ∀ who, ¬ Inside who past := by
  cases h with
  | idle isOpen empty _ => simp [isOpen, empty]
  | inFlight who _ only _ => simp [only]
  | stopped _ isClosed _ _ => simp [isClosed]

end Fits

theorem fits_turns (requests : List (Request κ)) (orderly : Orderly (idle.turns requests)) :
    Fits (idle.turns requests) (idle.after requests) := by
  -- the last request is judged by all that came before it
  induction requests using List.reverseRecOn with
  | nil => exact fits_nil
  | append_singleton requests r ih =>
      rw [turns_concat] at orderly ⊢
      rw [after_concat]
      obtain ⟨earlier, fromInside⟩ := orderly_concat_iff.1 orderly
      exact (ih earlier).ask r fromInside

/-! ## What a gate answers -/

/-- The answer goes by what has happened before. -/
def Right (past : List (Turn κ)) (t : Turn κ) : Prop :=
  match t.request with
  | .begin _ => t.answer = true ↔ ¬ Closed past ∧ ∀ who, ¬ Inside who past
  | .finish _ => t.answer = true ↔ ¬ Closed past
  | .stop | .isInFlight => t.answer = true ↔ ¬ Closed past ∧ ∃ who, Inside who past
  | .isStopped => t.answer = true ↔ Closed past

theorem Fits.right (h : Fits past g) {r : Request κ}
    (fromInside : ∀ who, r = .finish who → Inside who past) : Right past ⟨r, (g.ask r).1⟩ := by
  cases r with
  | begin who => exact begin_eq_true_iff.trans h.eq_idle_iff
  | finish who =>
      have inside : ∃ who, Inside who past := ⟨who, fromInside who rfl⟩
      exact finish_eq_true_iff.trans (h.eq_inFlight_iff.trans (and_iff_left inside))
  | stop => exact stop_eq_true_iff.trans h.eq_inFlight_iff
  | isStopped => exact isStopped_iff.trans h.eq_stopped_iff
  | isInFlight => exact isInFlight_iff.trans h.eq_inFlight_iff

theorem Right.closed (right : Right past t) (closed : Closed past) :
    t.isPass = false ∧ (t.request = .isStopped → t.answer = true) := by
  obtain ⟨request, answer⟩ := t
  cases request with
  | begin who | finish who => simpa [Right, Turn.isPass, closed] using right
  | stop | isInFlight => simp [Turn.isPass]
  | isStopped => simpa [Right, Turn.isPass, closed] using right

theorem countP_cutsShort_eq_zero (isOpen : ¬ Closed past) : past.countP Turn.cutsShort = 0 := by
  refine List.countP_eq_zero.2 fun t ht cuts => isOpen ⟨t, ht, ?_⟩
  obtain ⟨request, answer⟩ := t
  cases request <;> simp_all [Turn.cutsShort]

theorem countP_cutsShort_le_one {history : List (Turn κ)}
    (right : ∀ past t rest, history = past ++ t :: rest → Right past t) :
    history.countP Turn.cutsShort ≤ 1 := by
  induction history using List.reverseRecOn with
  | nil => exact Nat.zero_le 1
  | append_singleton history t ih =>
      have earlier := ih fun past s rest split => right past s (rest ++ [t]) (by simp [split])
      rw [List.countP_append, List.countP_singleton]
      split
      · next cuts =>
          have last := right history t [] rfl
          obtain ⟨request, answer⟩ := t
          cases request with
          | stop =>
              -- a stop that has met a call is the first one, so none before it has
              have isOpen := (last.1 cuts).1
              exact Nat.le_of_eq (by rw [countP_cutsShort_eq_zero isOpen])
          | _ => simp [Turn.cutsShort] at cuts
      · exact earlier

theorem fits_of_orderly {requests : List (Request κ)} {rest : List (Turn κ)}
    (orderly : Orderly (idle.turns requests)) (split : idle.turns requests = past ++ rest) :
    ∃ g : PollGate, Fits past g ∧ ∃ later, rest = g.turns later := by
  obtain ⟨earlier, later, -, rfl, rfl⟩ := exists_of_turns_eq split
  rw [split] at orderly
  exact ⟨_, fits_turns earlier orderly.earlier, later, rfl⟩

theorem right_of_orderly {requests : List (Request κ)} {rest : List (Turn κ)}
    (orderly : Orderly (idle.turns requests)) (split : idle.turns requests = past ++ t :: rest) :
    Right past t := by
  obtain ⟨g, fits, later, turns⟩ := fits_of_orderly orderly split
  cases later with
  | nil => simp [PollGate.turns] at turns
  | cons r later =>
      obtain ⟨rfl, -⟩ := List.cons.inj turns
      refine fits.right fun who finishes => ?_
      subst finishes
      exact orderly past who _ rest split

/-- One caller at a time, until the first stop closes the gate for good. -/
structure AdmitsOne (history : List (Turn κ)) : Prop where
  /-- At every moment at most one caller is inside. -/
  alone : ∀ past rest, history = past ++ rest →
    ∀ who other, Inside who past → Inside other past → who = other
  /-- Begins and finishes that succeed come by turns. -/
  alternates : ∃ last, Alternates (passes history) last
  /-- From the first stop on no begin and no finish succeeds, and the gate is seen stopped. -/
  closed : ∀ past t rest, history = past ++ t :: rest → Closed past →
    t.isPass = false ∧ (t.request = .isStopped → t.answer = true)
  /-- A stop is told of a call in flight when it is the first stop and somebody is inside. -/
  stops : ∀ past answer rest, history = past ++ ⟨.stop, answer⟩ :: rest →
    (answer = true ↔ ¬ Closed past ∧ ∃ who, Inside who past)
  /-- No more than one stop is told of a call in flight. -/
  once : history.countP Turn.cutsShort ≤ 1
  /-- Every answer goes by what has happened before. -/
  answers : ∀ past t rest, history = past ++ t :: rest → Right past t

/-- Whatever callers ask of a new gate, in any order, it admits one of them at a time, as long as
each of them finishes from inside only. -/
theorem admits_one_caller_at_a_time (requests : List (Request κ))
    (orderly : Orderly (idle.turns requests)) : AdmitsOne (idle.turns requests) where
  alone past rest split who other inside otherInside := by
    obtain ⟨g, fits, -⟩ := fits_of_orderly orderly split
    exact fits.alone inside otherInside
  alternates := (fits_turns requests orderly).alternates
  closed past t rest split isClosed := (right_of_orderly orderly split).closed isClosed
  stops past answer rest split := right_of_orderly orderly split
  once := countP_cutsShort_le_one fun past t rest => right_of_orderly orderly
  answers past t rest := right_of_orderly orderly

/-- The second caller is refused while the first one is inside, and comes in behind it. A stop meets
its call, whose end fails, and a second stop meets nothing. -/
theorem admits_one_caller_at_a_time_of_two :
    let requests : List (Request Nat) :=
      [.begin 1, .begin 2, .finish 1, .begin 2, .stop, .finish 2, .isStopped, .stop, .begin 1]
    Orderly (idle.turns requests) ∧ AdmitsOne (idle.turns requests) ∧
      (idle.turns requests).map (·.answer) =
        [true, false, true, true, true, false, true, false, false] := by
  intro requests
  have orderly : Orderly (idle.turns requests) := by
    rw [show idle.turns requests =
      [] ++ [⟨.begin 1, true⟩] ++ [⟨.begin 2, false⟩] ++ [⟨.finish 1, true⟩] ++
        [⟨.begin 2, true⟩] ++ [⟨.stop, true⟩] ++ [⟨.finish 2, false⟩] ++
        [⟨.isStopped, true⟩] ++ [⟨.stop, false⟩] ++ [⟨.begin 1, false⟩] from rfl]
    simp only [orderly_concat_iff, inside_concat_iff]
    simp [orderly_nil]
  exact ⟨orderly, admits_one_caller_at_a_time requests orderly, rfl⟩

end ModelDepot.PollGate
