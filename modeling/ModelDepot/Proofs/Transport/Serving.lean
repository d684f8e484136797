import ModelDepot.Transport.InMemory

/-! # What happens at a backend in memory

A call is noted when it comes in and answered when its time has passed. Calls may overlap, so they
may be answered in another order than they came in. Calls made one after the other are the case in
which every call is answered before the next one comes in.
-/

namespace ModelDepot.InMemory

/-- What happens at the backend at one moment. -/
inductive Turn where
  /-- A call comes in. -/
  | received (c : Call)
  /-- A call is answered. -/
  | answered (c : Call)
  deriving DecidableEq, Repr

def Turn.received? : Turn → Option Call
  | received c => some c
  | answered _ => none

def Turn.answered? : Turn → Option Call
  | received _ => none
  | answered c => some c

def inARow (calls : List Call) : List Turn :=
  calls.flatMap fun c => [.received c, .answered c]

def note (b : InMemory) (c : Call) : InMemory :=
  { b with calls := b.calls ++ [c] }

def take (b : InMemory) : Turn → InMemory
  | .received c => b.note c
  | .answered c => (b.answer c).2

def after (b : InMemory) (turns : List Turn) : InMemory :=
  turns.foldl take b

def answers (b : InMemory) : List Turn → List (Call × Reply)
  | [] => []
  | .received c :: rest => (b.note c).answers rest
  | .answered c :: rest => (c, (b.answer c).1) :: (b.answer c).2.answers rest

def repliesTo (b : InMemory) (c : Call) (turns : List Turn) : List Reply :=
  ((b.answers turns).filter fun a => a.1 == c).map (·.2)

variable {b : InMemory} {c : Call} {model : String}

@[simp] theorem after_nil (b : InMemory) : b.after [] = b :=
  rfl

@[simp] theorem after_cons (b : InMemory) (turn : Turn) (turns : List Turn) :
    b.after (turn :: turns) = (b.take turn).after turns :=
  rfl

theorem answers_append (b : InMemory) (turns later : List Turn) :
    b.answers (turns ++ later) = b.answers turns ++ (b.after turns).answers later := by
  induction turns generalizing b with
  | nil => rfl
  | cons turn turns ih =>
      cases turn with
      | received c => exact ih (b.note c)
      | answered c => exact congrArg ((c, (b.answer c).1) :: ·) (ih (b.answer c).2)

theorem map_fst_answers (b : InMemory) (turns : List Turn) :
    (b.answers turns).map (·.1) = turns.filterMap Turn.answered? := by
  induction turns generalizing b with
  | nil => rfl
  | cons turn turns ih =>
      cases turn with
      | received c => exact ih (b.note c)
      | answered c => exact congrArg (c :: ·) (ih (b.answer c).2)

theorem repliesTo_answered_self (b : InMemory) (c : Call) (turns : List Turn) :
    b.repliesTo c (.answered c :: turns) =
      (b.answer c).1 :: (b.answer c).2.repliesTo c turns := by
  simp [repliesTo, answers]

theorem repliesTo_cons_of_ne {turn : Turn} (h : turn ≠ .answered c) (turns : List Turn) :
    b.repliesTo c (turn :: turns) = (b.take turn).repliesTo c turns := by
  cases turn with
  | received other => rfl
  | answered other =>
      have apart : other ≠ c := fun same => h (congrArg Turn.answered same)
      simp [repliesTo, answers, take, apart]

theorem answered_inARow (calls : List Call) :
    (inARow calls).filterMap Turn.answered? = calls := by
  induction calls with
  | nil => rfl
  | cons c calls ih => exact congrArg (c :: ·) ih

theorem after_inARow (b : InMemory) (calls : List Call) :
    b.after (inARow calls) = calls.foldl (fun b c => (b.call c).2) b := by
  induction calls generalizing b with
  | nil => rfl
  | cons c calls ih => exact ih (b.call c).2

/-! ## What a call leaves alone -/

theorem calls_simulate (b : InMemory) (model : String) :
    (b.simulate model).2.calls = b.calls := by
  unfold simulate
  split <;> rfl

theorem scripts_simulate (b : InMemory) (model : String) :
    (b.simulate model).2.scripts = b.scripts := by
  unfold simulate
  split <;> rfl

theorem calls_answer (b : InMemory) (c : Call) : (b.answer c).2.calls = b.calls := by
  cases c with
  | startDownload model =>
      simp only [answer, start]
      split
      · rfl
      · split <;> rfl
  | downloadStatus model =>
      simp only [answer, nextStatus]
      split
      · exact calls_simulate b model
      · split
        · rfl
        · exact calls_simulate b model
  | _ => rfl

theorem scripts_answer_of_ne (h : c ≠ .downloadStatus model) :
    (b.answer c).2.scripts.get? model = b.scripts.get? model := by
  cases c with
  | startDownload other =>
      simp only [answer, start]
      split
      · rfl
      · split <;> rfl
  | downloadStatus other =>
      have apart : model ≠ other := fun same => h (congrArg Call.downloadStatus same.symm)
      simp only [answer, nextStatus]
      split
      · rw [scripts_simulate]
      · split
        · exact Keyed.get?_set_of_ne _ _ apart
        · rw [scripts_simulate]
  | _ => rfl

theorem scripts_take_of_ne {turn : Turn} (h : turn ≠ .answered (.downloadStatus model)) :
    (b.take turn).scripts.get? model = b.scripts.get? model := by
  cases turn with
  | received c => rfl
  | answered c => exact scripts_answer_of_ne fun same => h (congrArg Turn.answered same)

/-! ## What is counted -/

theorem calls_after (b : InMemory) (turns : List Turn) :
    (b.after turns).calls = b.calls ++ turns.filterMap Turn.received? := by
  induction turns generalizing b with
  | nil => exact (List.append_nil _).symm
  | cons turn turns ih =>
      rw [after_cons, ih]
      cases turn with
      | received c => exact List.append_assoc _ _ _
      | answered c => exact congrArg (· ++ _) (calls_answer b c)

theorem count_received (c : Call) (turns : List Turn) :
    (turns.filterMap Turn.received?).count c = turns.count (.received c) := by
  rw [List.count_filterMap, List.count_eq_countP]
  congr 1
  funext turn
  cases turn <;> simp [Turn.received?, Bool.beq_eq_decide_eq]

theorem count_answered (c : Call) (turns : List Turn) :
    (turns.filterMap Turn.answered?).count c = turns.count (.answered c) := by
  rw [List.count_filterMap, List.count_eq_countP]
  congr 1
  funext turn
  cases turn <;> simp [Turn.answered?, Bool.beq_eq_decide_eq]

theorem mem_answered {turns : List Turn} :
    c ∈ turns.filterMap Turn.answered? ↔ .answered c ∈ turns := by
  rw [← List.count_pos_iff, count_answered, List.count_pos_iff]

theorem statusCalls_eq_count (b : InMemory) (model : String) :
    b.statusCalls model = b.calls.count (.downloadStatus model) :=
  rfl

end ModelDepot.InMemory
