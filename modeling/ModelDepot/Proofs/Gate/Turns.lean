import ModelDepot.Download.Gate
import ModelDepot.Proofs.Lists

/-! # What is asked of a shared gate

Any number of callers may share a gate. Each asks it to begin a call and to finish the call it has
begun, and anyone may stop the gate or look at it. A request is answered at once, so whatever the
callers do at the same time is one list of requests, in the order in which the gate answers them.
-/

namespace ModelDepot.PollGate

variable {κ : Type}

inductive Request (κ : Type) where
  /-- A caller wants to begin a call. -/
  | begin (who : κ)
  /-- A caller wants to finish its call. -/
  | finish (who : κ)
  | stop
  | isStopped
  | isInFlight
  deriving DecidableEq, Repr

def ask (g : PollGate) : Request κ → Bool × PollGate
  | .begin _ => g.begin
  | .finish _ => g.finish
  | .stop => g.stop
  | .isStopped => (g.isStopped, g)
  | .isInFlight => (g.isInFlight, g)

structure Turn (κ : Type) where
  request : Request κ
  answer : Bool
  deriving DecidableEq, Repr

def turns (g : PollGate) : List (Request κ) → List (Turn κ)
  | [] => []
  | r :: rest => ⟨r, (g.ask r).1⟩ :: (g.ask r).2.turns rest

def after (g : PollGate) (requests : List (Request κ)) : PollGate :=
  requests.foldl (fun g r => (g.ask r).2) g

/-! ## What has happened -/

/-- A caller is inside: a begin of its own has succeeded, and it has not asked to finish since. -/
def Inside (who : κ) (past : List (Turn κ)) : Prop :=
  ∃ before since, past = before ++ ⟨.begin who, true⟩ :: since ∧
    ∀ t ∈ since, t.request ≠ .finish who

def Closed (past : List (Turn κ)) : Prop :=
  ∃ t ∈ past, t.request = .stop

/-- Callers ask to finish from inside only. -/
def Orderly (turns : List (Turn κ)) : Prop :=
  ∀ past who answer rest, turns = past ++ ⟨.finish who, answer⟩ :: rest → Inside who past

namespace Turn

/-- A begin or a finish that succeeds. -/
def isPass : Turn κ → Bool
  | ⟨.begin _, answer⟩ => answer
  | ⟨.finish _, answer⟩ => answer
  | _ => false

/-- A stop that has met a call in flight. -/
def cutsShort : Turn κ → Bool
  | ⟨.stop, answer⟩ => answer
  | _ => false

end Turn

def passes (past : List (Turn κ)) : List (Request κ) :=
  (past.filter Turn.isPass).map (·.request)

/-- Begins and finishes by turns, a begin first, each finish by the caller that has begun. The last
begin may have no finish yet: then its caller is noted. -/
inductive Alternates : List (Request κ) → Option κ → Prop where
  | nil : Alternates [] none
  | begin {calls} (who : κ) : Alternates calls none → Alternates (calls ++ [.begin who]) (some who)
  | finish {calls who} : Alternates calls (some who) → Alternates (calls ++ [.finish who]) none

section

variable {g : PollGate} {past rest : List (Turn κ)} {t : Turn κ} {who other : κ}

theorem turns_append (g : PollGate) (requests more : List (Request κ)) :
    g.turns (requests ++ more) = g.turns requests ++ (g.after requests).turns more := by
  induction requests generalizing g with
  | nil => rfl
  | cons r requests ih => exact congrArg (_ :: ·) (ih (g.ask r).2)

theorem turns_concat (g : PollGate) (requests : List (Request κ)) (r : Request κ) :
    g.turns (requests ++ [r]) = g.turns requests ++ [⟨r, ((g.after requests).ask r).1⟩] :=
  turns_append g requests [r]

theorem after_concat (g : PollGate) (requests : List (Request κ)) (r : Request κ) :
    g.after (requests ++ [r]) = ((g.after requests).ask r).2 := by
  simp [after]

theorem exists_of_turns_eq {requests : List (Request κ)} (split : g.turns requests = past ++ rest) :
    ∃ earlier later, requests = earlier ++ later ∧ past = g.turns earlier ∧
      rest = (g.after earlier).turns later := by
  induction past generalizing g requests with
  | nil => exact ⟨[], requests, rfl, rfl, split.symm⟩
  | cons t past ih =>
      cases requests with
      | nil => simp [turns] at split
      | cons r requests =>
          obtain ⟨rfl, remaining⟩ := List.cons.inj split
          obtain ⟨earlier, later, rfl, rfl, rfl⟩ := ih remaining
          exact ⟨r :: earlier, later, rfl, rfl, rfl⟩

theorem not_inside_nil (who : κ) : ¬ Inside who [] := by
  rintro ⟨before, since, split, -⟩
  simp at split

theorem inside_concat_iff :
    Inside who (past ++ [t]) ↔
      t = ⟨.begin who, true⟩ ∨ Inside who past ∧ t.request ≠ .finish who := by
  constructor
  · rintro ⟨before, since, split, stays⟩
    rcases concat_eq_split_iff.1 split with ⟨rfl, same, rfl⟩ | ⟨between, rfl, rfl⟩
    · exact .inl same
    · have stay : t.request ≠ .finish who := stays t (by simp)
      exact .inr ⟨⟨before, between, rfl, fun s hs => stays s (List.mem_append_left _ hs)⟩, stay⟩
  · rintro (rfl | ⟨⟨before, since, rfl, stays⟩, stay⟩)
    · exact ⟨past, [], rfl, by simp⟩
    · refine ⟨before, since ++ [t], by simp, fun s hs => ?_⟩
      rcases List.mem_append.1 hs with earlier | last
      · exact stays s earlier
      · rwa [List.mem_singleton.1 last]

theorem closed_concat_iff : Closed (past ++ [t]) ↔ Closed past ∨ t.request = .stop := by
  simp only [Closed, List.mem_append, List.mem_singleton]
  constructor
  · rintro ⟨s, earlier | rfl, stop⟩
    · exact .inl ⟨s, earlier, stop⟩
    · exact .inr stop
  · rintro (⟨s, earlier, stop⟩ | stop)
    · exact ⟨s, .inl earlier, stop⟩
    · exact ⟨t, .inr rfl, stop⟩

theorem passes_concat :
    passes (past ++ [t]) = if t.isPass then passes past ++ [t.request] else passes past := by
  unfold passes
  cases h : t.isPass <;> simp [h]

theorem orderly_nil : Orderly ([] : List (Turn κ)) := by
  intro past who answer rest split
  simp at split

theorem Orderly.earlier (orderly : Orderly (past ++ rest)) : Orderly past := by
  rintro earlier who answer later rfl
  exact orderly earlier who answer (later ++ rest) (by simp)

theorem orderly_concat_iff :
    Orderly (past ++ [t]) ↔ Orderly past ∧ ∀ who, t.request = .finish who → Inside who past := by
  constructor
  · intro orderly
    refine ⟨orderly.earlier, fun who finishes => ?_⟩
    obtain ⟨request, answer⟩ := t
    obtain rfl : request = .finish who := finishes
    exact orderly past who answer [] rfl
  · rintro ⟨orderly, last⟩ earlier who answer later split
    rcases concat_eq_split_iff.1 split with ⟨rfl, rfl, rfl⟩ | ⟨between, rfl, rfl⟩
    · exact last who rfl
    · exact orderly earlier who answer between rfl

end

end ModelDepot.PollGate
