import ModelDepot.Proofs.Poller.Novelty
import ModelDepot.Proofs.Poller.Script

/-! # What shows of a download

The outcome, the events and the number of status calls of a poller that is left alone are those of
its script. Two of them with one script agree as far as both have come.
-/

namespace ModelDepot

open StatusResult

/-- What shows of a download: the outcome with which it has ended, the events, and the number of
status calls that were made. -/
structure Account where
  outcome : Option DownloadOutcome
  events : List DownloadEvent
  polls : Nat

namespace Account

/-- The accounts that a script allows, from the first to the last. -/
inductive Of (s : Script) (model : String) : Account → Prop where
  | early : Of s model ⟨none, [], 0⟩
  | going {k polls} : s.IsOpenTo model k → polls ≤ k + 1 →
      Of s model ⟨none, (readings (s.results model k)).map (.progress model), polls⟩
  | settled {outcome n values} : s.Ends model outcome n values →
      Of s model ⟨none, values.map (.progress model), n⟩
  | ended {outcome n values} : s.Ends model outcome n values →
      Of s model ⟨some outcome, values.map (.progress model) ++ [.finished model outcome], n⟩

/-- Neither account contradicts the other, and if one of them is complete the other is a beginning
of it. -/
structure Agree (a b : Account) : Prop where
  events : a.events <+: b.events ∨ b.events <+: a.events
  left : a.outcome.isSome = true → b.events <+: a.events ∧ b.polls ≤ a.polls
  right : b.outcome.isSome = true → a.events <+: b.events ∧ a.polls ≤ b.polls
  both : a.outcome.isSome = true → b.outcome.isSome = true → a = b

variable {s : Script} {model : String} {a b : Account}

theorem Of.of_ended (ha : Of s model a) (hb : Of s model b) (complete : a.outcome.isSome = true) :
    b.events <+: a.events ∧ b.polls ≤ a.polls ∧ (b.outcome.isSome = true → a = b) := by
  cases ha with
  | early | going | settled => cases complete
  | @ended outcome n values ends =>
      cases hb with
      | early => exact ⟨List.nil_prefix, Nat.zero_le _, nofun⟩
      | @going k polls isOpen le =>
          obtain ⟨less, part⟩ := ends.of_isOpenTo isOpen
          refine ⟨?_, Nat.le_trans le less, nofun⟩
          exact (part.map _).trans (List.prefix_append _ _)
      | settled ends' =>
          obtain ⟨rfl, rfl, rfl⟩ := ends.unique ends'
          exact ⟨List.prefix_append _ _, Nat.le_refl _, nofun⟩
      | ended ends' =>
          obtain ⟨rfl, rfl, rfl⟩ := ends.unique ends'
          exact ⟨List.prefix_rfl, Nat.le_refl _, fun _ => rfl⟩

/-- Two accounts that are not complete have told the same as far as both have come. -/
theorem Of.comparable (ha : Of s model a) (hb : Of s model b) :
    a.events <+: b.events ∨ b.events <+: a.events := by
  by_cases left : a.outcome.isSome = true
  · exact .inr (ha.of_ended hb left).1
  by_cases right : b.outcome.isSome = true
  · exact .inl (hb.of_ended ha right).1
  cases ha with
  | early => exact .inl List.nil_prefix
  | ended => exact absurd rfl left
  | @going k _ isOpen _ =>
      cases hb with
      | early => exact .inr List.nil_prefix
      | ended => exact absurd rfl right
      | settled ends => exact .inl ((ends.of_isOpenTo isOpen).2.map _)
      | @going j _ _ _ =>
          rcases Nat.le_total k j with le | le
          · exact .inl ((s.readings_prefix model le).map _)
          · exact .inr ((s.readings_prefix model le).map _)
  | settled ends =>
      cases hb with
      | early => exact .inr List.nil_prefix
      | ended => exact absurd rfl right
      | going isOpen _ => exact .inr ((ends.of_isOpenTo isOpen).2.map _)
      | settled ends' =>
          obtain ⟨-, -, rfl⟩ := ends.unique ends'
          exact .inl List.prefix_rfl

theorem Of.agree (ha : Of s model a) (hb : Of s model b) : Agree a b where
  events := ha.comparable hb
  left complete := ⟨(ha.of_ended hb complete).1, (ha.of_ended hb complete).2.1⟩
  right complete := ⟨(hb.of_ended ha complete).1, (hb.of_ended ha complete).2.1⟩
  both left right := (ha.of_ended hb left).2.2 right

theorem Of.exists_ends (h : Of s model a) (complete : a.outcome.isSome = true) :
    ∃ outcome values, s.Ends model outcome a.polls values := by
  cases h with
  | early | going | settled => cases complete
  | ended ends => exact ⟨_, _, ends⟩

end Account

namespace Poller

def ending (p : Poller) : Option DownloadOutcome :=
  match p.stage with
  | .ended => p.outcome
  | _ => none

variable {s : Script} {p : Poller} {asked : Nat} {events : List DownloadEvent}

theorem Follows.account (h : p.Follows s asked) (sound : p.Sound) (told : p.HasTold events)
    (values : events.filterMap DownloadEvent.progress? = p.told.reverse) :
    Account.Of s p.model ⟨p.ending, events, asked + p.stage.isCalling.toNat⟩ := by
  have ho := sound.outcome
  cases hk : p.known with
  | some outcome =>
      have ends := (follows_iff_of_known hk).1 h
      cases hs : p.stage with
      | ended =>
          obtain ⟨story, model, noted, rfl⟩ : ∃ story : Batch.Story, story.model = p.model ∧
              p.outcome = some story.outcome ∧ events = story.events := by
            simpa [HasTold, hs] using told
          obtain rfl : story.outcome = outcome := by
            simpa [known, hs, Stage.pending?, noted] using hk
          have read : story.values = p.told.reverse := by
            have each : DownloadEvent.progress? ∘ DownloadEvent.progress story.model = some := rfl
            rw [← values, Batch.Story.events, List.filterMap_append, List.filterMap_map, each,
              List.filterMap_some]
            exact (List.append_nil _).symm
          rw [← read] at ends
          simpa [ending, hs, noted, Stage.isCalling, Batch.Story.events, model] using
            Account.Of.ended ends
      | _ =>
          obtain rfl : events = p.told.reverse.map (.progress p.model) := by
            simpa [HasTold, hs] using told
          first
            | simpa [ending, hs, Stage.isCalling] using Account.Of.settled ends
            | simp_all [known, Stage.pending?, OutcomeFits]
  | none =>
      cases hs : p.stage with
      | ended => simp_all [known, Stage.pending?, OutcomeFits]
      | received r | accepted r =>
          obtain rfl : events = p.told.reverse.map (.progress p.model) := by
            simpa [HasTold, hs] using told
          simp only [Follows, hk, hs] at h
          obtain ⟨k, rfl, -, isOpen, read⟩ := h
          simpa [ending, hs, Stage.isCalling, read] using Account.Of.going isOpen (Nat.le_refl _)
      | started | looking | timing | beginning | calling | tiring | napping _ =>
          obtain rfl : events = p.told.reverse.map (.progress p.model) := by
            simpa [HasTold, hs] using told
          simp only [Follows, hk, hs] at h
          obtain ⟨isOpen, read⟩ := h
          rw [read]
          simp only [ending, hs]
          exact .going isOpen (by simp [Stage.isCalling])
      | _ =>
          obtain rfl : events = p.told.reverse.map (.progress p.model) := by
            simpa [HasTold, hs] using told
          simp_all [Follows, known, Stage.pending?, ending, Stage.isCalling, Account.Of.early]

/-- An act comes in from outside: a stop, a deadline that is found to have come, or a claim to a
name that is held. -/
def isDisturbedBy (p : Poller) : Act → Bool
  | .close => true
  | .go now active =>
    (p.stage matches .timing) && p.isExpired now ||
      (p.stage matches .claiming) && active.contains p.model
  | _ => false

theorem calm_of_undisturbed {now : Nat} {active : ActiveDownloads}
    (isOpen : p.gate.isStopped = false)
    (undisturbed : p.isDisturbedBy (.go now active) = false) : p.Calm now active := by
  refine ⟨isOpen, fun checks => ?_, fun claims held => ?_⟩
  · simpa [isDisturbedBy, checks] using undisturbed
  · simp [isDisturbedBy, claims, ActiveDownloads.contains, held] at undisturbed

end Poller

/-! ## A poller by itself -/

namespace Life

variable {s : Script} {l : Life} {acts : List Act} {asked : Nat}

/-- The calls of the poller are answered by the script, of which so much is over. -/
def isFedBy (s : Script) : Nat → Life → List Act → Bool
  | _, _, [] => true
  | asked, l, a :: acts =>
    s.answers asked l.poller a &&
      isFedBy s (asked + (l.passage a).answersStatus.toNat) (l.after a) acts

def isUndisturbed : Life → List Act → Bool
  | _, [] => true
  | l, a :: acts => !l.poller.isDisturbedBy a && isUndisturbed (l.after a) acts

def account (l : Life) (acts : List Act) : Account :=
  ⟨(l.afterAll acts).poller.ending, l.told acts, l.begun acts⟩

theorem isCalling_after (l : Life) (a : Act) :
    l.poller.stage.isCalling.toNat + (l.poller.beginsCall (l.after a).poller).toNat =
      (l.after a).poller.stage.isCalling.toNat + (l.passage a).answersStatus.toNat := by
  cases a with
  | go now active =>
      rcases Poller.go_cases l.poller now active with ⟨_, _, hm, -⟩ | ⟨same, -⟩
      · simp only [after, passage, Passage.answersStatus]
        generalize l.poller.go now active = p at hm
        cases hm <;> simp_all [Poller.beginsCall, Stage.isBeginning, Stage.isCalling]
      · cases hs : l.poller.stage <;>
          simp [after, passage, Passage.answersStatus, same, Poller.beginsCall, Stage.isBeginning,
            Stage.isCalling, hs]
  | answer reply =>
      cases hs : l.poller.stage <;>
        simp [after, passage, Passage.answersStatus, Poller.receive, Poller.call?,
          Poller.beginsCall, Stage.isBeginning, Stage.isCalling, hs]
  | start | run =>
      cases hs : l.poller.stage <;>
        simp [after, passage, Passage.answersStatus, Poller.requestRun, Poller.requestStart,
          Poller.beginsCall, Stage.isBeginning, Stage.isCalling, hs]
  | look | close =>
      cases hs : l.poller.stage <;> simp only [after] <;> split <;>
        simp [passage, Passage.answersStatus, Poller.beginsCall, Poller.halt, Stage.isBeginning,
          Stage.isCalling, hs]

/-- A poller that nobody disturbs follows its script to where it has come. -/
theorem follows_of_undisturbed (sound : l.poller.Sound) (follows : l.poller.Follows s asked)
    (isOpen : l.poller.gate.isStopped = false) (undisturbed : l.isUndisturbed acts = true)
    (fed : isFedBy s asked l acts = true) :
    ∃ more, (l.afterAll acts).poller.Follows s (asked + more) ∧
      l.poller.stage.isCalling.toNat + l.begun acts =
        (l.afterAll acts).poller.stage.isCalling.toNat + more := by
  induction acts generalizing l asked with
  | nil => exact ⟨0, follows, rfl⟩
  | cons a acts ih =>
      simp only [isUndisturbed, isFedBy, Bool.and_eq_true, Bool.not_eq_true'] at undisturbed fed
      have kept : a ≠ .close := by
        rintro rfl
        simp [Poller.isDisturbedBy] at undisturbed
      have next : (l.after a).poller.Follows s (asked + (l.passage a).answersStatus.toNat) := by
        refine follows_after sound ?_ fed.1 follows
        rintro now active rfl
        exact Poller.calm_of_undisturbed isOpen undisturbed.1
      obtain ⟨more, later, counts⟩ := ih (sound.changes (changes_after l a)) next
        (by rw [isStopped_after kept, isOpen]) undisturbed.2 fed.2
      refine ⟨(l.passage a).answersStatus.toNat + more, by rwa [← Nat.add_assoc], ?_⟩
      have first := isCalling_after l a
      rw [begun_cons, afterAll_cons]
      omega

theorem account_of_undisturbed {model : String} {config : PollerConfig}
    (undisturbed : (fresh model config).isUndisturbed acts = true)
    (fed : isFedBy s 0 (fresh model config) acts = true) :
    Account.Of s model ((fresh model config).account acts) := by
  have first := Poller.sound_new model config
  obtain ⟨asked, follows, counts⟩ := follows_of_undisturbed first
    (Poller.follows_new s model config) rfl undisturbed fed
  have begun : (fresh model config).begun acts =
      0 + asked + ((fresh model config).afterAll acts).poller.stage.isCalling.toNat := by
    have idle : (fresh model config).poller.stage.isCalling.toNat = 0 := rfl
    omega
  have silent : (fresh model config).poller.HasTold [] := rfl
  have told := hasTold_afterAll first silent acts
  have values : ((fresh model config).told acts).filterMap DownloadEvent.progress? =
      ((fresh model config).afterAll acts).poller.told.reverse := by
    rw [told_afterAll, fresh, Poller.new, List.append_nil, List.reverse_reverse]
    rfl
  have account := follows.account (sound_fresh model config acts) told values
  rw [model_afterAll, ← begun] at account
  exact account

end Life

/-! ## To the end of the script -/

namespace Poller

/-- The act brings the poller nearer to its end. A poller that makes a call waits for the answer,
and one that naps for the end of the nap. -/
def isHelpedBy (p : Poller) : Act → Bool
  | .go now _ =>
    match p.stage with
    | .requesting | .calling => false
    | .napping wake => wake ≤ now
    | _ => true
  | .answer _ => p.call?.isSome
  | _ => false

/-- What a poller has before it when its script ends with the status call `n` and so many of them
are answered. -/
def toGo (p : Poller) (n asked : Nat) : Nat :=
  (n - asked) * 20 + p.stage.ahead

variable {p p' : Poller} {now n asked : Nat} {active active' : ActiveDownloads}
  {told : Option DownloadEvent}

theorem toGo_le (p : Poller) (n asked : Nat) : p.toGo n asked ≤ 20 * n + 16 := by
  have ahead : p.stage.ahead ≤ 16 := by cases p.stage <;> simp [Stage.ahead]
  simp only [toGo]
  omega

theorem ahead_lt_of_launched (launched : p.stage.isLaunched = true)
    (hm : Moves now active p p' active' told) : p'.stage.ahead < p.stage.ahead := by
  cases hm with
  | @recordStart outcome hs => simp [hs, Stage.isLaunched, Stage.isEarly] at launched
  | _ => simp_all [Stage.ahead, Stage.isLaunched, Stage.isEarly]

theorem ended_of_toGo (launched : p.stage.isLaunched = true) (h : p.toGo n asked = 0) :
    p.stage = .ended := by
  have ahead : p.stage.ahead = 0 := by
    simp only [toGo] at h
    omega
  cases hs : p.stage <;> simp_all [Stage.ahead, Stage.isLaunched, Stage.isEarly]

end Poller

namespace Life

variable {s : Script} {l : Life} {asked n : Nat} {outcome : DownloadOutcome}
  {values : List Binary64}

theorem toGo_after (launched : l.poller.stage.isLaunched = true) (underway : l.poller.Underway)
    (unknown : ∀ c, l.poller.call? = some c → l.poller.known = none)
    (follows : l.poller.Follows s asked) (ends : s.Ends l.poller.model outcome n values) (a : Act) :
    l.poller.stage = .ended ∨
      (l.after a).poller.toGo n (asked + (l.passage a).answersStatus.toNat) +
        (l.poller.isHelpedBy a).toNat ≤ l.poller.toGo n asked := by
  have quiet (stays : (l.after a).poller.stage = l.poller.stage)
      (none : (l.passage a).answersStatus = false) (helped : l.poller.isHelpedBy a = false) :
      (l.after a).poller.toGo n (asked + (l.passage a).answersStatus.toNat) +
        (l.poller.isHelpedBy a).toNat ≤ l.poller.toGo n asked := by
    simp [Poller.toGo, stays, none, helped]
  cases a with
  | go now active =>
      rcases l.poller.next_cases now active with ⟨p', _, _, hm⟩ | ⟨c, hc, hn⟩ |
        ⟨wake, hs, -, early, hn⟩ | ⟨resting, -⟩
      · refine .inr ?_
        have nearer := Poller.ahead_lt_of_launched launched hm
        have helped := (l.poller.isHelpedBy (.go now active)).toNat_le
        simp only [after, passage, Passage.answersStatus, Poller.toGo, Poller.go_of_moves hm]
        simp only [Bool.toNat_false]
        omega
      · refine .inr (quiet ?_ rfl ?_)
        · simp [after, Poller.go, hn]
        · cases hs : l.poller.stage <;> simp_all [Poller.call?, Poller.isHelpedBy]
      · refine .inr (quiet ?_ rfl ?_)
        · simp [after, Poller.go, hn]
        · simp [Poller.isHelpedBy, hs, Nat.not_le.2 early]
      · rcases resting with hs | hs | ⟨-, waits⟩
        · exact absurd hs underway.2
        · exact .inl hs
        · rw [underway.1] at waits
          cases waits
  | answer reply =>
      refine .inr ?_
      cases hc : l.poller.call? with
      | none =>
          have same : l.poller.receive reply = l.poller := by
            cases hs : l.poller.stage <;> simp_all [Poller.call?, Poller.receive]
          exact quiet (by simp [after, same]) (by simp [passage, Passage.answersStatus, hc])
            (by simp [Poller.isHelpedBy, hc])
      | some c =>
          have calling : l.poller.stage = .calling := by
            cases hs : l.poller.stage <;>
              simp_all [Poller.call?, Stage.isLaunched, Stage.isEarly]
          have isOpen : s.IsOpenTo l.poller.model asked := by
            simp only [Poller.Follows, unknown c hc, calling] at follows
            exact follows.1
          have less := (ends.of_isOpenTo isOpen).1
          simp only [after, passage, Passage.answersStatus, Poller.toGo, Poller.receive,
            Poller.isHelpedBy, Poller.call?, calling, Stage.ahead, Bool.toNat_true]
          simp only [Option.isSome_some, Bool.toNat_true]
          omega
  | start | run =>
      refine .inr (quiet ?_ rfl rfl)
      cases hs : l.poller.stage with
      | idle => exact absurd hs underway.2
      | _ => simp [after, Poller.requestRun, Poller.requestStart, hs]
  | look | close =>
      refine .inr (quiet ?_ rfl rfl)
      simp only [after]
      split <;> rfl

end Life

end ModelDepot
