import ModelDepot.Console.Arguments
import ModelDepot.Proofs.Poller.Ending

/-! # Pollers under a loaded configuration

Every way to load a configuration ends with the check that there is a poll interval, and the
settings of a command line leave the interval alone. So no poller asks without a pause, and every
poller has an end.
-/

namespace ModelDepot

namespace Config

/-- The configurations that the program works with: loaded from the text of a file or from all
sources, and with the settings of command lines put before them. -/
inductive IsLoaded : Config → Prop where
  | ofToml {text : String} {c : Config} : ofToml text = .ok c → IsLoaded c
  | load {env : Environment} {file : String → FileContent} {c : Config} :
      load env file = .ok c → IsLoaded c
  | configure {c : Config} (i : Console.Invocation) : IsLoaded c → IsLoaded (i.configure c)

theorem problem?_eq_none_iff {c : Config} :
    c.problem? = none ↔
      c.downloads.pollIntervalMillis ≠ 0 ∧ Text.isBlankText c.transport.endpoint = false := by
  unfold problem?
  split <;> simp_all

theorem problem?_of_validate {c c' : Config} (h : c.validate = .ok c') : c'.problem? = none := by
  cases hp : c.problem? with
  | some e => simp [validate, hp] at h
  | none =>
      simp only [validate, hp, Option.elim_none, Except.ok.injEq] at h
      rwa [← h]

theorem problem?_of_ofToml {text : String} {c : Config} (h : ofToml text = .ok c) :
    c.problem? = none := by
  unfold ofToml at h
  split at h
  · cases h
  · split at h
    · cases h
    · exact problem?_of_validate h

theorem Checked.result_eq_ok_iff {k : Checked} {c : Config} :
    k.result = .ok c ↔ k.problem = none ∧ k.config = c := by
  cases hp : k.problem <;> simp [result, hp]

theorem problem?_of_applyOverrides {c c' : Config} {lookup : String → Option String}
    (h : (c.applyOverrides lookup).result = .ok c') : c'.problem? = none := by
  obtain ⟨sound, rfl⟩ := Checked.result_eq_ok_iff.1 h
  exact (Option.or_eq_none_iff.1 sound).2

theorem problem?_of_load {env : Environment} {file : String → FileContent} {c : Config}
    (h : load env file = .ok c) : c.problem? = none := by
  simp only [load] at h
  split at h
  · cases h
  · exact problem?_of_applyOverrides h

@[simp] theorem configure_pollIntervalMillis (i : Console.Invocation) (c : Config) :
    (i.configure c).downloads.pollIntervalMillis = c.downloads.pollIntervalMillis := by
  cases he : i.endpoint <;> cases hl : i.library <;> cases ht : i.timeout <;>
    simp [Console.Invocation.configure, he, hl, ht, withEndpoint, withLibrary, withTimeout]

theorem IsLoaded.pollIntervalMillis_ne_zero {c : Config} (h : c.IsLoaded) :
    c.downloads.pollIntervalMillis ≠ 0 := by
  induction h with
  | ofToml h => exact (problem?_eq_none_iff.1 (problem?_of_ofToml h)).1
  | load h => exact (problem?_eq_none_iff.1 (problem?_of_load h)).1
  | configure i _ ih => rwa [configure_pollIntervalMillis]

theorem IsLoaded.interval_pos {c : Config} (h : c.IsLoaded) :
    0 < c.downloads.poller.interval.nanos := by
  have nonzero : c.downloads.pollIntervalMillis.toNat ≠ 0 := fun zero =>
    h.pollIntervalMillis_ne_zero (UInt64.toNat_inj.1 zero)
  exact Nat.mul_pos (Nat.pos_of_ne_zero nonzero) (by decide)

end Config

structure Life.ComesToEnd (l : Life) (h : History) : Prop where
  /-- From some time on it is over, with an outcome that stays. -/
  ends : ∃ n outcome, ∀ m, n ≤ m → (l.through (h.first m)).poller.stage = .ended ∧
    (l.through (h.first m)).poller.outcome = some outcome
  /-- There are at most as many status calls as intervals in the timeout, a last one begun counted
  in full. -/
  few : ∀ n, l.begun (h.first n).acts ≤
    l.poller.config.timeout.nanos ⌈/⌉ l.poller.config.interval.nanos
  /-- There is an interval. -/
  unhurried : 0 < l.poller.config.interval.nanos
  /-- Each nap takes time. -/
  naps : ∀ n wake, (l.through (h.first n)).poller.stage ≠ .napping wake →
    (l.through (h.first (n + 1))).poller.stage = .napping wake → (h n).instant < wake

/-- Under a loaded configuration an attended poller whose deadline can be told comes to its end,
whatever the replies are. -/
theorem loaded_poller_ends {model : String} {c : Config} {h : History} (loaded : c.IsLoaded)
    (attended : (Life.fresh model c.downloads.poller).IsAttended h)
    (near : ∀ n s, ((Life.fresh model c.downloads.poller).through (h.first n)).poller.startedAt =
      some s → s + c.downloads.poller.timeout.nanos < endOfTime) :
    (Life.fresh model c.downloads.poller).ComesToEnd h := by
  have positive := loaded.interval_pos
  have few := fun n => begun_le_ceilDiv positive (attended.onClock n) (near n)
  refine ⟨Life.ends_of_isAttended (Poller.sound_new model _) attended few, few, positive, ?_⟩
  intro n wake awake nap
  rw [Life.through_first_succ] at nap
  refine Life.lt_of_napping ?_ awake nap
  rw [Life.config_through]
  exact positive

def History.byTurns (reply : Reply) : History
  | 0 => .others 0 .run
  | n + 1 =>
    if n % 2 = 0 then .go ((n + 1) * 100000000) .none
    else .others ((n + 1) * 100000000) (.answer reply)

theorem History.byTurns_instant (reply : Reply) (n : Nat) :
    (byTurns reply n).instant = n * 100000000 := by
  cases n with
  | zero => rfl
  | succ n =>
      simp only [byTurns]
      split <;> rfl

theorem History.isAttended_byTurns (l : Life) (reply : Reply) : l.IsAttended (byTurns reply) where
  clock n := by
    rw [byTurns_instant, byTurns_instant]
    omega
  runs := ⟨0, rfl⟩
  goesOn n := ⟨2 * n + 1, by omega, by simp [byTurns, Dated.go, Act.now?]⟩
  answers n _ := ⟨2 * n + 2, reply, by omega, by simp [byTurns, Dated.others, Nat.add_mod]⟩
  naps n wake _ := by
    refine ⟨2 * (n + wake) + 1, by omega, by simp [byTurns, Dated.go, Act.now?], ?_⟩
    rw [byTurns_instant]
    omega

/-- Under the settings of an empty file and a timeout of one second a poller ends that is told of
the same progress for ever. -/
theorem loaded_poller_ends_with_one_reading :
    let c := (⟨none, none, some 1, .health⟩ : Console.Invocation).configure .defaults
    let l := Life.fresh "phi" c.downloads.poller
    let h := History.byTurns (.ok "\x7b\"progress\":25\x7d")
    l.ComesToEnd h ∧ l.poller.config.timeout.nanos ⌈/⌉ l.poller.config.interval.nanos = 2 := by
  intro c l h
  have loaded : c.IsLoaded := by
    have read : (Config.ofToml "").toOption = some .defaults := by decide +kernel
    have parsed : Config.ofToml "" = .ok .defaults := by
      cases hr : Config.ofToml "" <;> simp_all [Except.toOption]
    exact .configure _ (.ofToml parsed)
  refine ⟨loaded_poller_ends loaded (History.isAttended_byTurns l _) ?_, ?_⟩
  · intro n s hs
    match n with
    | 0 | 1 => cases hs
    | n + 2 =>
        -- the second act of the history is the start, a tenth of a second after the first
        have entered : (l.through (h.first 2)).poller.stage.hasEntered = true := by decide +kernel
        have noted : (l.through (h.first 2)).poller.startedAt = some 100000000 := by
          decide +kernel
        rw [Life.startedAt_of_entered (Nat.le_add_left 2 n) entered, noted] at hs
        cases hs
        decide
  · rw [Nat.ceilDiv_eq_add_pred_div]
    decide

end ModelDepot
