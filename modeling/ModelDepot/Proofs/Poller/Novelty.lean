import Mathlib.Data.List.Dedup
import Mathlib.Data.List.Pairwise
import Mathlib.Data.List.Perm.Subperm
import ModelDepot.Proofs.Poller.Reading

/-! # What is new in a progress

A poller tells a progress unless it has told the same bits before. As numbers the told values differ
too, but for one case: zero is told once with each sign. So there may be one more event than there
are numbers among the values that were read.
-/

namespace ModelDepot

namespace Binary64

def distinct (xs : List Binary64) : Nat :=
  (xs.map rank).dedup.length

/-- Among values that do not show zero with both signs, different bits are different numbers. -/
theorem length_le_distinct {xs ys : List Binary64} (nodup : xs.Nodup) (sub : xs ⊆ ys)
    (oneZero : ¬ (zero ∈ xs ∧ negZero ∈ xs)) : xs.length ≤ distinct ys := by
  have differ : (xs.map rank).Nodup := by
    refine nodup.map_on fun x hx y hy same => ?_
    rcases eq_or_zeros_of_rank_eq same with equal | ⟨hx', hy'⟩
    · exact equal
    rcases eq_zero_or_negZero hx' with rfl | rfl <;> rcases eq_zero_or_negZero hy' with rfl | rfl
    · rfl
    · exact absurd ⟨hx, hy⟩ oneZero
    · exact absurd ⟨hy, hx⟩ oneZero
    · rfl
  have within : xs.map rank ⊆ (ys.map rank).dedup := fun r hr =>
    List.mem_dedup.2 (List.map_subset rank sub hr)
  simpa [distinct] using (differ.subperm within).length_le

/-- The second sign of zero makes for one more value at the most. -/
theorem length_le_distinct_succ {xs ys : List Binary64} (nodup : xs.Nodup) (sub : xs ⊆ ys) :
    xs.length ≤ distinct ys + 1 := by
  have one : (xs.erase negZero).length ≤ distinct ys :=
    length_le_distinct (nodup.erase negZero) (List.Subset.trans List.erase_subset sub)
      fun both => nodup.not_mem_erase both.2
  have erased := List.length_erase (a := negZero) (l := xs)
  split at erased <;> omega

/-- Values with different bits differ as numbers exactly if they do not show zero with both
signs. -/
theorem pairwise_differ_iff {xs : List Binary64} (nodup : xs.Nodup) :
    xs.Pairwise (fun v w => v.eqNumber w = false) ↔ ¬ (zero ∈ xs ∧ negZero ∈ xs) := by
  constructor
  · rintro differ ⟨positive, negative⟩
    have symmetric : Std.Symm fun v w : Binary64 => v.eqNumber w = false :=
      ⟨fun v w h => by rwa [eqNumber_comm]⟩
    have equal : zero.eqNumber negZero = true := by decide
    rw [differ.forall positive negative (by decide)] at equal
    cases equal
  · intro oneZero
    refine nodup.imp_of_mem fun {v w} hv hw different => ?_
    rw [← Bool.not_eq_true]
    intro same
    rcases zeros_of_eqNumber same different with ⟨rfl, rfl⟩ | ⟨rfl, rfl⟩
    · exact oneZero ⟨hv, hw⟩
    · exact oneZero ⟨hw, hv⟩

end Binary64

def DownloadEvent.progress? : DownloadEvent → Option Binary64
  | .progress _ value => some value
  | .finished _ _ => none

namespace Life

variable {l : Life} {acts : List Act}

def values (l : Life) (acts : List Act) : List Binary64 :=
  (l.told acts).filterMap DownloadEvent.progress?

theorem told_after (l : Life) (a : Act) :
    (l.after a).poller.told =
      ((l.passage a).told.filterMap DownloadEvent.progress?).reverse ++ l.poller.told := by
  cases still : a.now? with
  | none =>
      rw [told_of_still still]
      cases a with
      | go now active => cases still
      | _ => rfl
  | some now =>
      cases a with
      | go now active =>
          rcases Poller.go_cases l.poller now active with ⟨active', told, hm, ht⟩ | ⟨hp, ht⟩
          · simp only [after, passage, ht]
            generalize l.poller.go now active = p' at hm
            cases hm <;> simp [DownloadEvent.progress?]
          · simp only [after, passage, hp, ht]
            rfl
      | _ => cases still

theorem told_afterAll (l : Life) (acts : List Act) :
    (l.afterAll acts).poller.told = (l.values acts).reverse ++ l.poller.told := by
  induction acts generalizing l with
  | nil => rfl
  | cons a acts ih =>
      have first : l.values (a :: acts) =
          (l.passage a).told.filterMap DownloadEvent.progress? ++ (l.after a).values acts :=
        List.filterMap_append
      rw [afterAll_cons, ih, told_after, first, List.reverse_append, List.append_assoc]

theorem nodup_told (acts : List Act) (h : l.poller.told.Nodup) :
    (l.afterAll acts).poller.told.Nodup := by
  refine afterAll_of_changes (P := fun p => p.told.Nodup) (fun hc hp => ?_) h acts
  cases hc with
  | move hm =>
      cases hm with
      | tell _ _ new => exact List.nodup_cons.2 ⟨new, hp⟩
      | request | acknowledged | conclude => simpa using hp
      | _ => exact hp
  | _ => exact hp

end Life

/-- How new the values are that a poller tells. -/
structure Life.TellsNews (l : Life) (acts : List Act) : Prop where
  /-- They are among those that the status replies hold. -/
  read : l.values acts ⊆ l.observed acts
  /-- Those are percentages. -/
  percent : ∀ v ∈ l.observed acts, v.IsPercent
  /-- They are different numbers unless zero is told with both signs. -/
  differ : (l.values acts).Pairwise (fun v w => v.eqNumber w = false) ↔
    ¬ (.zero ∈ l.values acts ∧ .negZero ∈ l.values acts)
  /-- There is at most one more of them than there are numbers that the replies hold. -/
  few : (l.values acts).length ≤ Binary64.distinct (l.observed acts) + 1
  /-- There is none more if the replies do not hold zero with both signs. -/
  fewer : ¬ (.zero ∈ l.observed acts ∧ .negZero ∈ l.observed acts) →
    (l.values acts).length ≤ Binary64.distinct (l.observed acts)

/-- Whatever the replies to a poller hold and whatever else happens to it, it tells news: the values
of its progress events differ as numbers, but for the two zeros. -/
theorem told_values_are_news (model : String) (config : PollerConfig) (acts : List Act) :
    (Life.fresh model config).TellsNews acts := by
  have told := Life.told_afterAll (Life.fresh model config) acts
  have reads := (Life.readsOnly_afterAll (l := Life.fresh model config)
    (Poller.sound_new model config) (Poller.readsOnly_new _ model config) acts fun _ hv => hv).told
  have nodup := Life.nodup_told (l := Life.fresh model config) acts List.nodup_nil
  have silent : (Life.fresh model config).poller.told = [] := rfl
  rw [told, silent, List.append_nil] at reads nodup
  rw [List.nodup_reverse] at nodup
  have read : (Life.fresh model config).values acts ⊆ (Life.fresh model config).observed acts :=
    fun v hv => reads v (List.mem_reverse.2 hv)
  exact
    { read
      percent := fun _ => Life.isPercent_of_observed
      differ := Binary64.pairwise_differ_iff nodup
      few := Binary64.length_le_distinct_succ nodup read
      fewer := fun oneZero => Binary64.length_le_distinct nodup read
        fun both => oneZero ⟨read both.1, read both.2⟩ }

/-- Zero is read with both signs and told twice, though it is one number. -/
theorem zero_is_told_twice :
    let l := Life.fresh "phi" ⟨.ofMillis 500, .ofSeconds 300⟩
    let acts : List Act := [.run, .go 0 .none, .go 0 .none, .go 0 .none, .answer (.ok "\x7b\x7d"),
      .go 0 .none, .go 0 .none, .go 0 .none, .go 0 .none, .go 0 .none,
      .answer (.ok "\x7b\"progress\":0\x7d"), .go 0 .none, .go 0 .none, .go 0 .none,
      .go 500000000 .none, .go 500000000 .none, .go 500000000 .none, .go 500000000 .none,
      .answer (.ok "\x7b\"progress\":-0.0\x7d"), .go 500000000 .none, .go 500000000 .none]
    l.values acts = [.zero, .negZero] ∧ Binary64.zero.eqNumber .negZero = true ∧
    Binary64.distinct (l.observed acts) = 1 := by
  decide +kernel

end ModelDepot
