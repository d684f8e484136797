import ModelDepot.Proofs.Batch.StartsFirst
import ModelDepot.Proofs.Poller.Runs

/-! # Ventures over a transport

In a venture anything may be replied to a call. Here a transport answers the calls, nobody else
takes part, and whatever a member does in a scene is an event.
-/

namespace ModelDepot.Batch

/-! ## Calls that are answered by a transport -/

/-- The event is one of the batch itself, and no answer to a call. -/
def Event.isQuiet : Event → Bool
  | .proceed | .go _ _ | .hear _ => true
  | _ => false

/-- The transport answers the calls of a venture in which nobody else takes part, and is left with
what they make of it. -/
inductive Served {τ : Type} [Transport τ] : τ → Venture → List Event → τ → Prop where
  | done {t v} : Served t v [] t
  | quiet {t v e events t'} : e.isQuiet = true → Served t (v.after e) events t' →
      Served t v (e :: events) t'
  | answer {t v i c events t'} : v.call? i = some c →
      Served (Transport.call t c).2 (v.after (.answer i (Transport.call t c).1.reply)) events t' →
      Served t v (.answer i (Transport.call t c).1.reply :: events) t'

section Transport

variable {τ : Type} [Transport τ] {t t' t'' : τ} {v : Venture} {e : Event}
  {events more : List Event}

/-- What some calls, one after the other, make of a transport. -/
def carry (t : τ) (calls : List Call) : τ :=
  calls.foldl (fun t c => (Transport.call t c).2) t

theorem Served.append (h : Served t v events t') (later : Served t' (v.afterAll events) more t'') :
    Served t v (events ++ more) t'' := by
  induction h with
  | done => exact later
  | quiet quiet _ ih => exact .quiet quiet (ih later)
  | answer calls _ ih => exact .answer calls (ih later)

theorem served_replicate (quiet : e.isQuiet = true) (n : Nat) :
    Served t v (List.replicate n e) t := by
  induction n generalizing v with
  | zero => exact .done
  | succ n ih => exact .quiet quiet ih

theorem Served.mem (h : Served t v events t') (he : e ∈ events) :
    e.isQuiet = true ∨ ∃ i reply, e = .answer i reply := by
  induction h with
  | done => cases he
  | quiet quiet _ ih =>
      rcases List.mem_cons.1 he with rfl | later
      · exact .inl quiet
      · exact ih later
  | answer _ _ ih =>
      rcases List.mem_cons.1 he with rfl | later
      · exact .inr ⟨_, _, rfl⟩
      · exact ih later

theorem answered_of_quiet (v : Venture) (quiet : e.isQuiet = true) :
    (v.notes e).filterMap Note.answered? = [] := by
  cases e with
  | go i now =>
      cases hi : v.poller? i with
      | none => simp [Venture.notes, hi]
      | some p =>
          rw [Venture.notes, hi, Option.elim_some, callBegun]
          split <;> simp [Note.answered?, List.filterMap_map]
  | proceed | hear _ => rfl
  | _ => cases quiet

theorem Served.carries (h : Served t v events t') :
    ∃ log, (v.afterAll events).log = v.log ++ log ∧
      t' = carry t (log.filterMap Note.answered?) := by
  induction h with
  | @done t v => exact ⟨[], (List.append_nil _).symm, rfl⟩
  | @quiet t v e events t' quiet _ ih =>
      obtain ⟨log, all, carried⟩ := ih
      refine ⟨v.notes e ++ log, all.trans (List.append_assoc ..), ?_⟩
      rw [List.filterMap_append, answered_of_quiet v quiet, carried]
      rfl
  | @answer t v i c events t' calls _ ih =>
      obtain ⟨log, all, carried⟩ := ih
      obtain ⟨p, hi, hc⟩ := Venture.exists_of_call? calls
      refine ⟨.answered c :: log, all.trans ?_, ?_⟩
      · simp [Venture.after, Venture.notes, hi, hc]
      · rw [carried]
        rfl

end Transport

variable {τ : Type} [Transport τ] {t t' t'' : τ} {s : Scene τ} {v v' : Venture} {i : Nat}
  {m m' : Member} {e : Event} {events more : List Event} {names : List String}

/-! ## One member goes on -/

/-- Between two ventures only the member in place `i` has gone on. -/
structure GoesOn (i : Nat) (m' : Member) (v v' : Venture) : Prop where
  company : v'.company = ⟨v.company.members.set i m', v.company.heard⟩
  phase : v'.phase = v.phase

/-- By some events the member in place `i` becomes `m'`: its poller comes to be `p`, it tells some
events, and the names in `active` are held then. -/
structure ComesTo (v : Venture) (i : Nat) (m : Member) (events : List Event) (p : Poller)
    (active : ActiveDownloads) (told : List DownloadEvent) (m' : Member) : Prop where
  goesOn : GoesOn i m' v (v.afterAll events)
  active : (v.afterAll events).active = active
  poller : m'.poller = p
  unheard : m'.unheard = m.unheard ++ told

/-- What a member does in a scene, as events of a venture. -/
structure Plays (v : Venture) (i : Nat) (m : Member) (s : Scene τ) (a : Scene.Advance τ)
    (events : List Event) (m' : Member) : Prop
    extends ComesTo v i m events a.poller a.scene.client.active a.told m' where
  served : Served s.transport v events a.scene.transport

theorem company_of_acts {a : Act} (acts : v.happening e = some (.act i a))
    (hi : v.company.members[i]? = some m) :
    (v.after e).company = ⟨v.company.members.set i (m.after a), v.company.heard⟩ := by
  simp [Venture.after, acts, Company.after, hi]

theorem goesOn_refl (hi : v.company.members[i]? = some m) : GoesOn i m v v := by
  obtain ⟨inside, rfl⟩ := List.getElem?_eq_some_iff.1 hi
  refine ⟨?_, rfl⟩
  rw [List.set_getElem_self]

theorem GoesOn.trans {m'' : Member} {v'' : Venture} (h : GoesOn i m' v v')
    (later : GoesOn i m'' v' v'') : GoesOn i m'' v v'' := by
  refine ⟨?_, later.phase.trans h.phase⟩
  rw [later.company, h.company, List.set_set]

theorem poller?_of_member (hi : v.company.members[i]? = some m) : v.poller? i = some m.poller :=
  Venture.poller?_eq_some_iff.2 ⟨m, hi, rfl⟩

section ComesTo

variable {p p' : Poller} {active active' : ActiveDownloads} {told later : List DownloadEvent}
  {m'' : Member}

theorem comesTo_refl (hi : v.company.members[i]? = some m) :
    ComesTo v i m [] m.poller v.active [] m :=
  ⟨goesOn_refl hi, rfl, rfl, (List.append_nil _).symm⟩

theorem comesTo_go {now : Nat} {told : Option DownloadEvent}
    (hi : v.company.members[i]? = some m)
    (hn : m.poller.next now v.active = .step p active told) :
    ComesTo v i m [.go i now] p active told.toList (m.after (.go now v.active)) := by
  have hp := poller?_of_member hi
  have next : m.life.poller.next now v.active = .step p active told := hn
  refine ⟨⟨company_of_acts rfl hi, rfl⟩, ?_, ?_, ?_⟩
  · simp [Venture.afterAll, Venture.after, Venture.activeAfter, hp, Poller.leaves, hn]
  · simp [Member.after, Member.poller, Life.after, Poller.go, next]
  · simp [Member.after, Life.passage, Poller.tells, next]

theorem comesTo_answer (hi : v.company.members[i]? = some m) (reply : Reply) :
    ComesTo v i m [.answer i reply] (m.poller.receive reply) v.active []
      (m.after (.answer reply)) :=
  ⟨⟨company_of_acts rfl hi, rfl⟩, rfl, rfl, rfl⟩

theorem ComesTo.trans (h : ComesTo v i m events p active told m')
    (h' : ComesTo (v.afterAll events) i m' more p' active' later m'') :
    ComesTo v i m (events ++ more) p' active' (told ++ later) m'' where
  goesOn := by
    rw [Venture.afterAll_append]
    exact h.goesOn.trans h'.goesOn
  active := by
    rw [Venture.afterAll_append]
    exact h'.active
  poller := h'.poller
  unheard := by rw [h'.unheard, h.unheard, List.append_assoc]

theorem ComesTo.placed (h : ComesTo v i m events p active told m')
    (hi : v.company.members[i]? = some m) :
    (v.afterAll events).company.members[i]? = some m' := by
  rw [h.goesOn.company, List.getElem?_set_self (List.getElem?_eq_some_iff.1 hi).1]

end ComesTo

section Plays

variable (hi : v.company.members[i]? = some m) (agree : v.active = s.client.active)
include hi agree

theorem plays_nothing (now : Nat) : Plays v i m s ⟨{ s with now }, m.poller, []⟩ [] m where
  toComesTo := agree ▸ comesTo_refl hi
  served := .done

theorem exists_plays_of_advance {a : Scene.Advance τ} (h : s.advance m.poller = some a) :
    ∃ events m', Plays v i m s a events m' := by
  simp only [Scene.advance] at h
  cases hn : m.poller.next s.now s.client.active with
  | step p active told =>
      simp only [hn, Option.some.injEq] at h
      subst h
      rw [← agree] at hn
      exact ⟨_, _, comesTo_go hi hn, .quiet rfl .done⟩
  | call c =>
      simp only [hn, Option.some.injEq] at h
      subst h
      refine ⟨_, _, agree ▸ comesTo_answer hi (s.call c).1, .answer ?_ .done⟩
      rw [Venture.call?, poller?_of_member hi]
      exact Poller.next_eq_call_iff.1 hn
  | sleep wake =>
      simp only [hn, Option.some.injEq] at h
      subst h
      exact ⟨[], m, plays_nothing hi agree _⟩
  | rest => simp [hn] at h

end Plays

theorem Plays.trans {a b : Scene.Advance τ} {m'' : Member} (h : Plays v i m s a events m')
    (later : Plays (v.afterAll events) i m' a.scene b more m'') :
    Plays v i m s { b with told := a.told ++ b.told } (events ++ more) m'' :=
  ⟨h.toComesTo.trans later.toComesTo, h.served.append later.served⟩

theorem exists_plays (held : Poller → Bool) (fuel : Nat) (hi : v.company.members[i]? = some m)
    (agree : v.active = s.client.active) :
    ∃ events m', Plays v i m s (s.advanceUntil held fuel m.poller) events m' := by
  induction fuel generalizing s v m with
  | zero => exact ⟨[], m, plays_nothing hi agree s.now⟩
  | succ fuel ih =>
      rw [Scene.advanceUntil]
      split
      · exact ⟨[], m, plays_nothing hi agree s.now⟩
      · split
        · exact ⟨[], m, plays_nothing hi agree s.now⟩
        · next a ha =>
            obtain ⟨events, m', first⟩ := exists_plays_of_advance hi agree ha
            obtain ⟨more, m'', later⟩ := ih (s := a.scene) (first.placed hi) first.active
            rw [first.poller] at later
            exact ⟨events ++ more, m'', first.trans later⟩

end ModelDepot.Batch
