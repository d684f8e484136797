import ModelDepot.Proofs.Gate.Admission
import ModelDepot.Proofs.Poller.Standing

/-! # A poller at its gate

A poller is the only caller of its gate; the stops come from whoever holds a handle. It asks to
begin before it makes a status call and to finish when the call is answered, so whatever happens to
it, it finishes from inside only.
-/

namespace ModelDepot

open PollGate (Request Inside Orderly)

namespace Poller

variable {p p' : Poller} {now : Nat} {active active' : ActiveDownloads}
  {told : Option DownloadEvent}

/-- What a poller asks of its gate when it goes on by itself. -/
def gateRequest? (p : Poller) : Option (Request Unit) :=
  match p.stage with
  | .entering | .looking | .napping _ => some .isStopped
  | .beginning => some (.begin ())
  | .received _ => some (.finish ())
  | _ => none

/-- What a request makes of the gate and of the status call in flight. -/
inductive Heeds (p p' : Poller) : Option (Request Unit) → Prop where
  | none : p'.gate = p.gate → p'.stage.isInFlight = p.stage.isInFlight → Heeds p p' none
  | look : p'.gate = p.gate → p'.stage.isInFlight = p.stage.isInFlight →
      Heeds p p' (some .isStopped)
  | begin : p'.gate = p.gate.begin.2 → p.stage.isInFlight = false →
      p'.stage.isInFlight = p.gate.begin.1 → Heeds p p' (some (.begin ()))
  | finish : p'.gate = p.gate.finish.2 → p.stage.isInFlight = true →
      p'.stage.isInFlight = false → Heeds p p' (some (.finish ()))
  | stop : p'.gate = p.gate.stop.2 → p'.stage.isInFlight = p.stage.isInFlight →
      Heeds p p' (some .stop)

theorem heeds_moves (hm : Moves now active p p' active' told) : p.Heeds p' p.gateRequest? := by
  cases hm with
  | enter hs | enterStopped hs | lookStopped hs | look hs | wake hs =>
      rw [gateRequest?, hs]
      exact .look rfl (by rw [hs]; rfl)
  | begin hs hg =>
      rw [gateRequest?, hs]
      exact .begin (by rw [hg]; rfl) (by rw [hs]; rfl) (by rw [hg]; rfl)
  | beginRefused hs hg =>
      rw [gateRequest?, hs]
      have refused := PollGate.begin_of_ne_idle hg
      exact .begin (by rw [refused]) (by rw [hs]; rfl) (by rw [refused]; rfl)
  | finish hs hg =>
      rw [gateRequest?, hs]
      exact .finish (by rw [hg]; rfl) (by rw [hs]; rfl) rfl
  | discard hs hg =>
      rw [gateRequest?, hs]
      have refused := PollGate.finish_of_ne_inFlight hg
      exact .finish (by rw [refused]) (by rw [hs]; rfl) rfl
  | _ =>
      simp only [gateRequest?, *]
      exact .none (by simp) (by simp [Stage.isInFlight, *])

theorem heeds_go (p : Poller) (now : Nat) (active : ActiveDownloads) :
    p.Heeds (p.go now active) p.gateRequest? := by
  rcases next_cases p now active with
    ⟨p', active', told, hm⟩ | ⟨c, hc, hn⟩ | ⟨instant, hs, -, -, hn⟩ | ⟨resting, hn⟩
  · rw [go_of_moves hm]
    exact heeds_moves hm
  · have still : p.go now active = p := by rw [go, hn]
    have unasked : p.gateRequest? = none := by
      cases hs : p.stage <;> simp [call?, hs] at hc <;> simp [gateRequest?, hs]
    rw [still, unasked]
    exact .none rfl rfl
  · have still : p.go now active = p := by rw [go, hn]
    rw [still, gateRequest?, hs]
    exact .look rfl rfl
  · have still : p.go now active = p := by rw [go, hn]
    have unasked : p.gateRequest? = none := by
      rcases resting with hs | hs | ⟨hs, -⟩ <;> rw [gateRequest?, hs]
    rw [still, unasked]
    exact .none rfl rfl

end Poller

namespace Life

def gateRequest? (l : Life) : Act → Option (Request Unit)
  | .go _ _ => l.poller.gateRequest?
  | .close => if l.stopping = 0 then none else some .stop
  | _ => none

/-- What is asked of the gate in the course of some acts. -/
def gateRequests : Life → List Act → List (Request Unit)
  | _, [] => []
  | l, a :: rest => (l.gateRequest? a).toList ++ (l.after a).gateRequests rest

theorem gateRequests_concat (l : Life) (acts : List Act) (a : Act) :
    l.gateRequests (acts ++ [a]) =
      l.gateRequests acts ++ ((l.afterAll acts).gateRequest? a).toList := by
  induction acts generalizing l with
  | nil => simp [gateRequests]
  | cons b acts ih => simp [gateRequests, ih]

theorem heeds_after (l : Life) (a : Act) :
    l.poller.Heeds (l.after a).poller (l.gateRequest? a) := by
  cases a with
  | go now active => exact Poller.heeds_go l.poller now active
  | start =>
      simp only [after, Poller.requestStart, gateRequest?]
      split
      · next hs => exact .none rfl (by rw [hs]; rfl)
      · exact .none rfl rfl
  | run =>
      simp only [after, Poller.requestRun, Poller.requestStart, gateRequest?]
      split
      · next hs => exact .none rfl (by rw [hs]; rfl)
      · exact .none rfl rfl
  | answer reply =>
      simp only [after, Poller.receive, gateRequest?]
      split
      · next hs => exact .none rfl (by rw [hs]; rfl)
      · next hs => exact .none rfl (by rw [hs]; rfl)
      · exact .none rfl rfl
  | look =>
      simp only [after, gateRequest?]
      split <;> exact .none rfl rfl
  | close =>
      obtain ⟨poller, stopping⟩ := l
      cases stopping with
      | zero => exact .none rfl rfl
      | succ n => exact .stop rfl rfl

/-- What was asked of a gate has led it to where the poller finds it, and a status call is in flight
while the poller is inside. -/
structure AtGate (p : Poller) (requests : List (Request Unit)) : Prop where
  gate : p.gate = PollGate.idle.after requests
  orderly : Orderly (PollGate.idle.turns requests)
  inside : Inside () (PollGate.idle.turns requests) ↔ p.stage.isInFlight = true

namespace AtGate

variable {p p' : Poller} {requests : List (Request Unit)} {r : Request Unit}

theorem ask (h : AtGate p requests) (gate : p'.gate = (p.gate.ask r).2)
    (fromInside : r = .finish () → p.stage.isInFlight = true)
    (inside : p'.stage.isInFlight = true ↔
      r = .begin () ∧ (p.gate.ask r).1 = true ∨ p.stage.isInFlight = true ∧ r ≠ .finish ()) :
    AtGate p' (requests ++ [r]) where
  gate := by rw [gate, h.gate, PollGate.after_concat]
  orderly := by
    rw [PollGate.turns_concat, PollGate.orderly_concat_iff]
    exact ⟨h.orderly, fun _ finishes => h.inside.2 (fromInside finishes)⟩
  inside := by
    rw [PollGate.turns_concat, PollGate.inside_concat_iff, h.inside, inside, h.gate,
      PollGate.Turn.mk.injEq]

theorem heeds {asked : Option (Request Unit)} (h : AtGate p requests) (heeds : p.Heeds p' asked) :
    AtGate p' (requests ++ asked.toList) := by
  cases heeds with
  | none gate same =>
      rw [Option.toList_none, List.append_nil]
      exact ⟨gate.trans h.gate, h.orderly, by rw [same, h.inside]⟩
  | look gate same => exact h.ask gate (by simp) (by simp [same])
  | begin gate outside inFlight =>
      exact h.ask gate (by simp) (by simp [outside, inFlight, PollGate.ask])
  | finish gate inside outside => exact h.ask gate (fun _ => inside) (by simp [outside])
  | stop gate same => exact h.ask gate (by simp) (by simp [same])

end AtGate

/-- Whatever happens to a poller, it asks its gate to finish from inside only, and it is inside as
long as its status call is in flight. -/
theorem atGate_afterAll (model : String) (config : PollerConfig) (acts : List Act) :
    AtGate ((fresh model config).afterAll acts).poller
      ((fresh model config).gateRequests acts) := by
  induction acts using List.reverseRecOn with
  | nil =>
      exact ⟨rfl, PollGate.orderly_nil,
        iff_of_false (PollGate.not_inside_nil ()) Bool.false_ne_true⟩
  | append_singleton acts a ih =>
      rw [gateRequests_concat, afterAll_append]
      exact ih.heeds (heeds_after _ a)

end Life

end ModelDepot
