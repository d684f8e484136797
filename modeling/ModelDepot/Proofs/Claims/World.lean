import ModelDepot.Proofs.Poller.Stopping

/-! # One client and all who claim names from it

Any number of pollers and of direct holders share the names of one client. They come and go, and do
what they do in any order.
-/

namespace ModelDepot

/-- One who may hold a name. -/
inductive Claimant where
  | poller (p : Poller)
  /-- Someone who has claimed a name without a poller. -/
  | holder (name : String)
  /-- Dropped. -/
  | gone

/-- What is done to a claimant. Its calls take no time here but that of their answer. -/
inductive Deed where
  | start
  | run
  | go (now : Nat)
  | answer (reply : Reply)
  /-- The gate is closed. -/
  | halt
  | drop

inductive WorldAct where
  /-- A poller is made. -/
  | add (model : String) (config : PollerConfig)
  /-- A name is claimed directly. -/
  | claim (name : String)
  /-- Something is done to the claimant in place `i`. -/
  | at (i : Nat) (d : Deed)

/-- The names that are held, and the claimants in the order in which they came. -/
structure World where
  active : ActiveDownloads
  claimants : List Claimant

/-- The names that are held after a poller went on by itself. -/
def Poller.leaves (p : Poller) (now : Nat) (active : ActiveDownloads) : ActiveDownloads :=
  match p.next now active with
  | .step _ active' _ => active'
  | _ => active

namespace Claimant

def held? : Claimant → Option String
  | poller p => if p.holdsName then some p.model else none
  | holder name => some name
  | gone => none

def call? : Claimant → Option Call
  | poller p => p.call?
  | _ => none

/-- The claimant and the held names after a deed. -/
def after (c : Claimant) (active : ActiveDownloads) (d : Deed) : Claimant × ActiveDownloads :=
  match c, d with
  | poller p, .start => (poller p.requestStart, active)
  | poller p, .run => (poller p.requestRun, active)
  | poller p, .go now => (poller (p.go now active), p.leaves now active)
  | poller p, .answer reply => (poller (p.receive reply), active)
  | poller p, .halt => (poller p.halt, active)
  | poller p, .drop => (gone, p.drop active)
  | holder name, .drop => (gone, active.release name)
  | c, _ => (c, active)

end Claimant

namespace World

def fresh : World :=
  ⟨Client.fresh.active, []⟩

def after (w : World) : WorldAct → World
  | .add model config => { w with claimants := w.claimants ++ [.poller (.new model config)] }
  | .claim name =>
    match w.active.claim name with
    | some active => ⟨active, w.claimants ++ [.holder name]⟩
    | none => w
  | .at i d =>
    match w.claimants[i]? with
    | some c => ⟨(c.after w.active d).2, w.claimants.set i (c.after w.active d).1⟩
    | none => w

def afterAll (w : World) (acts : List WorldAct) : World :=
  acts.foldl after w

/-- The name that the claimant in place `i` holds. -/
def held? (w : World) (i : Nat) : Option String :=
  w.claimants[i]?.bind Claimant.held?

end World

namespace Poller

variable {p p' : Poller} {now : Nat} {active active' : ActiveDownloads}
  {told : Option DownloadEvent}

theorem names_moves (sound : p.Sound) (hm : Moves now active p p' active' told) :
    (active' = active ∧ p'.holdsName = p.holdsName) ∨
    (p.stage = .claiming ∧ active.claim p.model = some active' ∧ p.holdsName = false ∧
      p'.holdsName = true) ∨
    (∃ activity outcome, p.stage = .releasing activity outcome ∧ active' = active.release p.model ∧
      p.holdsName = true ∧ p'.holdsName = false) := by
  have hn := sound.name
  cases hm with
  | claim hs hc => exact .inr (.inl ⟨hs, hc, by simpa [NameFits, hs] using hn, rfl⟩)
  | @release activity outcome hs =>
      cases held : p.holdsName
      · exact .inl (by simp)
      · exact .inr (.inr ⟨activity, outcome, hs, by simp, rfl, rfl⟩)
  | request hs | acknowledged hs | conclude hs => exact .inl (by simp)
  | _ => exact .inl ⟨rfl, rfl⟩

theorem leaves_of_moves (hm : Moves now active p p' active' told) :
    p.leaves now active = active' := by
  simp [leaves, next_of_moves hm]

theorem names_go (sound : p.Sound) (now : Nat) (active : ActiveDownloads) :
    (p.leaves now active = active ∧ (p.go now active).holdsName = p.holdsName) ∨
    (p.stage = .claiming ∧ active.claim p.model = some (p.leaves now active) ∧
      p.holdsName = false ∧ (p.go now active).holdsName = true) ∨
    (∃ activity outcome, p.stage = .releasing activity outcome ∧
      p.leaves now active = active.release p.model ∧ p.holdsName = true ∧
      (p.go now active).holdsName = false) := by
  cases hn : p.next now active with
  | step p' active' told =>
      have hm := next_eq_step_iff.1 hn
      rw [go_of_moves hm, leaves_of_moves hm]
      exact names_moves sound hm
  | call c => exact .inl (by simp [leaves, go, hn])
  | sleep instant => exact .inl (by simp [leaves, go, hn])
  | rest => exact .inl (by simp [leaves, go, hn])

end Poller

namespace Claimant

def Sound : Claimant → Prop
  | poller p => p.Sound
  | _ => True

variable {c : Claimant} {active : ActiveDownloads} {d : Deed}

/-- A deed is a change of the poller, the drop of a claimant, or nothing at all. -/
theorem after_cases (c : Claimant) (active : ActiveDownloads) (d : Deed) :
    (∃ p p', c = poller p ∧ p.Changes p' ∧ (c.after active d).1 = poller p') ∨
    (d = .drop ∧ (c.after active d).1 = gone) ∨ (c.after active d).1 = c := by
  cases c with
  | poller p =>
      cases d with
      | start => exact .inl ⟨p, _, rfl, Poller.changes_requestStart p, rfl⟩
      | run => exact .inl ⟨p, _, rfl, Poller.changes_requestRun p, rfl⟩
      | go now => exact .inl ⟨p, _, rfl, Poller.changes_go p now active, rfl⟩
      | answer reply => exact .inl ⟨p, _, rfl, Poller.changes_receive p reply, rfl⟩
      | halt => exact .inl ⟨p, _, rfl, .halt, rfl⟩
      | drop => exact .inr (.inl ⟨rfl, rfl⟩)
  | holder name =>
      cases d with
      | drop => exact .inr (.inl ⟨rfl, rfl⟩)
      | _ => exact .inr (.inr rfl)
  | gone => cases d <;> exact .inr (.inr rfl)

theorem after_of_changes {P : Claimant → Prop} (dropped : P gone)
    (kept : ∀ {p p'}, Poller.Changes p p' → P (poller p) → P (poller p')) (h : P c) :
    P (c.after active d).1 := by
  rcases after_cases c active d with ⟨p, p', rfl, hc, hp⟩ | ⟨_, hg⟩ | hk
  · rw [hp]
    exact kept hc h
  · rw [hg]
    exact dropped
  · rw [hk]
    exact h

/-- A deed takes a name, gives one back, or leaves the names and what the claimant holds. -/
inductive Handles (c : Claimant) (active : ActiveDownloads) (d : Deed) : Prop where
  | keeps : (c.after active d).2 = active → (c.after active d).1.held? = c.held? →
      Handles c active d
  | takes {p now} : c = .poller p → d = .go now → p.stage = .claiming → c.held? = none →
      active.claim p.model = some (c.after active d).2 →
      (c.after active d).1.held? = some p.model → Handles c active d
  | concludes {p now activity outcome} : c = .poller p → d = .go now →
      p.stage = .releasing activity outcome → c.held? = some p.model →
      (c.after active d).2 = active.release p.model → (c.after active d).1.held? = none →
      Handles c active d
  | drops (name) : d = .drop → c.held? = some name →
      (c.after active d).2 = active.release name → (c.after active d).1.held? = none →
      Handles c active d

theorem handles (h : c.Sound) (active : ActiveDownloads) (d : Deed) : Handles c active d := by
  cases c with
  | gone => cases d <;> exact .keeps rfl rfl
  | holder name =>
      cases d with
      | drop => exact .drops name rfl rfl rfl rfl
      | _ => exact .keeps rfl rfl
  | poller p =>
      have same : ∀ {p'}, p.Changes p' → p'.holdsName = p.holdsName →
          (poller p').held? = (poller p).held? := by
        intro p' hc hn
        simp only [held?, hn, Poller.model_changes hc]
      cases d with
      | start =>
          refine .keeps rfl (same (Poller.changes_requestStart p) ?_)
          unfold Poller.requestStart
          split <;> rfl
      | run =>
          refine .keeps rfl (same (Poller.changes_requestRun p) ?_)
          unfold Poller.requestRun Poller.requestStart
          split <;> rfl
      | answer reply =>
          refine .keeps rfl (same (Poller.changes_receive p reply) ?_)
          unfold Poller.receive
          split <;> rfl
      | halt => exact .keeps rfl (same .halt rfl)
      | drop =>
          cases held : p.holdsName
          · exact .keeps (by simp [after, Poller.drop, held]) (by simp [after, held?, held])
          · exact .drops p.model rfl (by simp [held?, held])
              (by simp [after, Poller.drop, held]) rfl
      | go now =>
          have named : (p.go now active).model = p.model :=
            Poller.model_changes (Poller.changes_go p now active)
          rcases Poller.names_go h now active with ⟨hl, hh⟩ | ⟨hs, hc, hf, ht⟩ |
            ⟨activity, outcome, hs, hl, ht, hf⟩
          · exact .keeps hl (same (Poller.changes_go p now active) hh)
          · exact .takes rfl rfl hs (by simp [held?, hf]) hc (by simp [after, held?, ht, named])
          · exact .concludes rfl rfl hs (by simp [held?, ht]) hl (by simp [after, held?, hf])

end Claimant

theorem World.claimants_after {w : World} {i : Nat} {c : Claimant} (hi : w.claimants[i]? = some c)
    (a : WorldAct) :
    (w.after a).claimants[i]? = some c ∨
    ∃ d, a = .at i d ∧ (w.after a).claimants[i]? = some (c.after w.active d).1 := by
  have inside : i < w.claimants.length := (List.getElem?_eq_some_iff.1 hi).1
  cases a with
  | add model config => exact .inl (by rw [after, List.getElem?_append_left inside, hi])
  | claim name =>
      refine .inl ?_
      simp only [after]
      split
      · rw [List.getElem?_append_left inside, hi]
      · exact hi
  | «at» j d =>
      by_cases hij : j = i
      · subst hij
        refine .inr ⟨d, rfl, ?_⟩
        simp only [after, hi, List.getElem?_set_self inside]
      · refine .inl ?_
        simp only [after]
        split
        · rw [List.getElem?_set_ne hij, hi]
        · exact hi

end ModelDepot
