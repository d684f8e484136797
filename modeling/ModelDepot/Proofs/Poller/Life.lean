import ModelDepot.Proofs.Poller.Moves

/-! # The life of a poller

All that may happen to a poller, in any order: its owner asks for the start and for the run, it goes
on by itself, its calls are answered, and whoever holds a handle stops it. A stop has two parts. It
looks where the poller stands, and unless that is the end it closes the gate; anything may happen
between the two.
-/

namespace ModelDepot

/-- One thing that may happen in the life of a poller. -/
inductive Act where
  /-- The owner asks for the start. -/
  | start
  /-- The owner asks for the run. -/
  | run
  /-- The poller goes on by itself, at an instant and with the names that are held then. -/
  | go (now : Nat) (active : ActiveDownloads)
  /-- The call that the poller is making is answered. -/
  | answer (reply : Reply)
  /-- A stop looks where the poller stands. -/
  | look
  /-- A stop that has found the poller going closes its gate. -/
  | close

namespace Poller

/-- The poller after it went on by itself. A poller that makes a call, naps or rests stays as it
is. -/
def go (p : Poller) (now : Nat) (active : ActiveDownloads) : Poller :=
  match p.next now active with
  | .step p' _ _ => p'
  | _ => p

def tells (p : Poller) (now : Nat) (active : ActiveDownloads) : List DownloadEvent :=
  match p.next now active with
  | .step _ _ told => told.toList
  | _ => []

/-- All that one act can make of a poller. -/
inductive Changes (p : Poller) : Poller → Prop where
  | none : Changes p p
  | start : p.stage = .idle → Changes p { p with stage := .entering }
  | startRun : p.stage = .idle → Changes p { p with stage := .entering, isRunning := true }
  | run : p.stage ≠ .idle → Changes p { p with isRunning := true }
  | move {now active p' active' told} : Moves now active p p' active' told → Changes p p'
  | startAnswered (reply) : p.stage = .requesting → Changes p { p with stage := .answered reply }
  | statusAnswered (reply) : p.stage = .calling → Changes p { p with stage := .received reply }
  | halt : Changes p p.halt

variable {p p' : Poller} {now : Nat} {active active' : ActiveDownloads}

theorem go_cases (p : Poller) (now : Nat) (active : ActiveDownloads) :
    (∃ active' told, Moves now active p (p.go now active) active' told ∧
      p.tells now active = told.toList) ∨
    (p.go now active = p ∧ p.tells now active = []) := by
  cases hn : p.next now active with
  | step p' active' told =>
      refine .inl ⟨active', told, ?_, by simp [tells, hn]⟩
      simpa [go, hn] using next_eq_step_iff.1 hn
  | call c => exact .inr (by simp [go, tells, hn])
  | sleep instant => exact .inr (by simp [go, tells, hn])
  | rest => exact .inr (by simp [go, tells, hn])

theorem go_of_moves {told} (h : Moves now active p p' active' told) : p.go now active = p' := by
  simp [go, next_of_moves h]

theorem changes_requestStart (p : Poller) : Changes p p.requestStart := by
  unfold requestStart
  split
  · next hs => exact .start hs
  · exact .none

theorem changes_requestRun (p : Poller) : Changes p p.requestRun := by
  unfold requestRun requestStart
  split
  · next hs => exact .startRun hs
  · next hs => exact .run hs

theorem changes_receive (p : Poller) (reply : Reply) : Changes p (p.receive reply) := by
  unfold receive
  split
  · next hs => exact .startAnswered _ hs
  · next hs => exact .statusAnswered _ hs
  · exact .none

theorem changes_go (p : Poller) (now : Nat) (active : ActiveDownloads) :
    Changes p (p.go now active) := by
  rcases go_cases p now active with ⟨_, _, hm, _⟩ | ⟨hp, _⟩
  · exact .move hm
  · rw [hp]
    exact .none

end Poller

/-- A poller, and the stops that have found it going and have not closed its gate yet. -/
structure Life where
  poller : Poller
  stopping : Nat

/-- One act seen from outside: the poller right before and right after it, what the poller told and
the call that was answered. -/
structure Passage where
  was : Poller
  now : Poller
  told : List DownloadEvent
  call : Option Call

namespace Life

def fresh (model : String) (config : PollerConfig) : Life :=
  ⟨.new model config, 0⟩

def after (l : Life) : Act → Life
  | .start => { l with poller := l.poller.requestStart }
  | .run => { l with poller := l.poller.requestRun }
  | .go now active => { l with poller := l.poller.go now active }
  | .answer reply => { l with poller := l.poller.receive reply }
  | .look => if l.poller.state.isTerminal then l else { l with stopping := l.stopping + 1 }
  | .close =>
    match l.stopping with
    | 0 => l
    | n + 1 => ⟨l.poller.halt, n⟩

def afterAll (l : Life) (acts : List Act) : Life :=
  acts.foldl after l

def passage (l : Life) (a : Act) : Passage where
  was := l.poller
  now := (l.after a).poller
  told := match a with
    | .go now active => l.poller.tells now active
    | _ => []
  call := match a with
    | .answer _ => l.poller.call?
    | _ => none

def passages : Life → List Act → List Passage
  | _, [] => []
  | l, a :: rest => l.passage a :: (l.after a).passages rest

def told (l : Life) (acts : List Act) : List DownloadEvent :=
  (l.passages acts).flatMap (·.told)

def calls (l : Life) (acts : List Act) : List Call :=
  (l.passages acts).filterMap (·.call)

variable {l : Life}

@[simp] theorem afterAll_nil : l.afterAll [] = l := rfl

@[simp] theorem afterAll_cons (a : Act) (acts : List Act) :
    l.afterAll (a :: acts) = (l.after a).afterAll acts := rfl

theorem afterAll_append (acts more : List Act) :
    l.afterAll (acts ++ more) = (l.afterAll acts).afterAll more :=
  List.foldl_append

theorem passages_append (acts more : List Act) :
    l.passages (acts ++ more) = l.passages acts ++ (l.afterAll acts).passages more := by
  induction acts generalizing l with
  | nil => rfl
  | cons a acts ih => simp only [List.cons_append, passages, ih, afterAll_cons]

theorem told_cons (a : Act) (acts : List Act) :
    l.told (a :: acts) = (l.passage a).told ++ (l.after a).told acts := rfl

theorem told_append (acts more : List Act) :
    l.told (acts ++ more) = l.told acts ++ (l.afterAll acts).told more := by
  rw [told, passages_append, List.flatMap_append]
  rfl

theorem after_look_close (p : Poller) :
    (((⟨p, 0⟩ : Life).after .look).after .close).poller = p.stop := by
  cases h : p.state.isTerminal <;> simp [after, Poller.stop, h]

theorem changes_after (l : Life) (a : Act) : l.poller.Changes (l.after a).poller := by
  cases a with
  | start => exact Poller.changes_requestStart _
  | run => exact Poller.changes_requestRun _
  | go now active => exact Poller.changes_go _ _ _
  | answer reply => exact Poller.changes_receive _ _
  | look =>
      simp only [after]
      split <;> exact .none
  | close =>
      simp only [after]
      split
      · exact .none
      · exact .halt

theorem afterAll_of_after {P : Poller → Prop} {acts : List Act}
    (kept : ∀ l : Life, ∀ a ∈ acts, P l.poller → P (l.after a).poller) (h : P l.poller) :
    P (l.afterAll acts).poller := by
  induction acts generalizing l with
  | nil => exact h
  | cons a acts ih =>
      have later := fun l b hb => kept l b (List.mem_cons_of_mem a hb)
      exact ih later (kept l a List.mem_cons_self h)

theorem afterAll_of_changes {P : Poller → Prop}
    (kept : ∀ {p p'}, Poller.Changes p p' → P p → P p') (h : P l.poller) (acts : List Act) :
    P (l.afterAll acts).poller :=
  afterAll_of_after (fun l a _ => kept (changes_after l a)) h

/-- Every passage is one act on a poller that an earlier part of the life has led to. -/
theorem mem_passages_iff {t : Passage} {acts : List Act} :
    t ∈ l.passages acts ↔
      ∃ before a later, acts = before ++ a :: later ∧ t = (l.afterAll before).passage a := by
  induction acts generalizing l with
  | nil => simp [passages]
  | cons b acts ih =>
      simp only [passages, List.mem_cons, ih]
      constructor
      · rintro (rfl | ⟨before, a, later, rfl, rfl⟩)
        · exact ⟨[], b, acts, rfl, rfl⟩
        · exact ⟨b :: before, a, later, rfl, rfl⟩
      · rintro ⟨before, a, later, hacts, rfl⟩
        cases before with
        | nil =>
            cases hacts
            exact .inl rfl
        | cons c before =>
            cases hacts
            exact .inr ⟨before, a, later, rfl, rfl⟩

end Life

end ModelDepot
