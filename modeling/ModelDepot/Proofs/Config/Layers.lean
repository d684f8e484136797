import ModelDepot.Proofs.Config.Loaded
import ModelDepot.Proofs.Number.Words

/-! # Layers of settings

A setting of the command line goes before one of the environment, and that before one of the file.
The variables are taken up in a fixed order: the first that cannot be read ends it, and what was
taken up before stays. Whatever comes of a file or of the variables has a poll interval and an
endpoint.
-/

namespace ModelDepot.Config

/-- The program can work with the settings. -/
structure IsSound (c : Config) : Prop where
  interval : c.downloads.pollIntervalMillis ≠ 0
  endpoint : Text.isBlankText c.transport.endpoint = false

variable {c : Config} {lookup : String → Option String} {k : Checked} {interval timeout : UInt64}
  {name value : String} {old new : UInt64}

theorem isSound_iff : c.IsSound ↔ c.problem? = none := by
  rw [problem?_eq_none_iff]
  exact ⟨fun h => ⟨h.interval, h.endpoint⟩, fun h => ⟨h.1, h.2⟩⟩

/-! ## Variables -/

/-- What a number comes to under a variable: the number that it spells, blanks around it aside, or
what it was if the variable is not set. -/
inductive Takes (lookup : String → Option String) (name : String) (old : UInt64) :
    UInt64 → Prop where
  | unset : lookup name = none → Takes lookup name old old
  | number {value : String} {n : UInt64} : lookup name = some value →
      Spells (Text.trim value) n → Takes lookup name old n

/-- The variable is set, but to no number. -/
def Garbles (lookup : String → Option String) (name value : String) : Prop :=
  lookup name = some value ∧ ∀ n, ¬ Spells (Text.trim value) n

/-- The settings with the endpoint and the library of the variables and with given numbers. -/
def overlaid (c : Config) (lookup : String → Option String) (interval timeout : UInt64) :
    Config where
  transport := { c.transport with
    endpoint := (lookup "KCRIFF_ENDPOINT").getD c.transport.endpoint
    libraryPaths := (lookup "KCRIFF_LIBRARY").toList ++ c.transport.libraryPaths }
  downloads := ⟨interval, timeout⟩

/-- How the variables are applied. The conditions of any two rules exclude each other. -/
inductive Applies (c : Config) (lookup : String → Option String) : Checked → Prop where
  /-- The interval cannot be read; both numbers stay as they were. -/
  | badInterval {value : String} : Garbles lookup "KCRIFF_POLL_INTERVAL_MS" value →
      Applies c lookup
        ⟨c.overlaid lookup c.downloads.pollIntervalMillis c.downloads.timeoutSecs,
          some (.invalidValue "KCRIFF_POLL_INTERVAL_MS" value)⟩
  /-- The timeout cannot be read; only the interval is taken up. -/
  | badTimeout {value : String} {interval : UInt64} :
      Takes lookup "KCRIFF_POLL_INTERVAL_MS" c.downloads.pollIntervalMillis interval →
      Garbles lookup "KCRIFF_DOWNLOAD_TIMEOUT_SECS" value →
      Applies c lookup
        ⟨c.overlaid lookup interval c.downloads.timeoutSecs,
          some (.invalidValue "KCRIFF_DOWNLOAD_TIMEOUT_SECS" value)⟩
  /-- All is taken up, and there is no interval. -/
  | noInterval {timeout : UInt64} :
      Takes lookup "KCRIFF_POLL_INTERVAL_MS" c.downloads.pollIntervalMillis 0 →
      Takes lookup "KCRIFF_DOWNLOAD_TIMEOUT_SECS" c.downloads.timeoutSecs timeout →
      Applies c lookup
        ⟨c.overlaid lookup 0 timeout, some (.invalidValue "downloads.poll_interval_ms" "0")⟩
  /-- All is taken up, and there is an interval but no endpoint. -/
  | noEndpoint {interval timeout : UInt64} :
      Takes lookup "KCRIFF_POLL_INTERVAL_MS" c.downloads.pollIntervalMillis interval →
      Takes lookup "KCRIFF_DOWNLOAD_TIMEOUT_SECS" c.downloads.timeoutSecs timeout →
      interval ≠ 0 →
      Text.isBlankText (c.overlaid lookup interval timeout).transport.endpoint = true →
      Applies c lookup
        ⟨c.overlaid lookup interval timeout, some (.invalidValue "transport.endpoint"
          (c.overlaid lookup interval timeout).transport.endpoint)⟩
  /-- All is taken up, and nothing is wrong. -/
  | sound {interval timeout : UInt64} :
      Takes lookup "KCRIFF_POLL_INTERVAL_MS" c.downloads.pollIntervalMillis interval →
      Takes lookup "KCRIFF_DOWNLOAD_TIMEOUT_SECS" c.downloads.timeoutSecs timeout →
      (c.overlaid lookup interval timeout).IsSound →
      Applies c lookup ⟨c.overlaid lookup interval timeout, none⟩

theorem takes_or_garbles (lookup : String → Option String) (name : String) (old : UInt64) :
    (∃ new, Takes lookup name old new) ∨ ∃ value, Garbles lookup name value := by
  cases set : lookup name with
  | none => exact .inl ⟨old, .unset set⟩
  | some value =>
      by_cases spelled : ∃ n, Spells (Text.trim value) n
      · obtain ⟨n, spelled⟩ := spelled
        exact .inl ⟨n, .number set spelled⟩
      · exact .inr ⟨value, set, not_exists.1 spelled⟩

theorem Checked.number_of_takes {change : Config → UInt64 → Config} (clean : k.problem = none)
    (takes : Takes lookup name old new) (same : change k.config old = k.config) :
    k.number lookup name change = ⟨change k.config new, none⟩ := by
  obtain ⟨config, problem⟩ := k
  obtain rfl : problem = none := clean
  cases takes with
  | unset absent => simp only [number, absent, same]
  | number set spelled => simp only [number, set, wordOf_of_spells spelled]

theorem Checked.number_of_garbles {change : Config → UInt64 → Config} (clean : k.problem = none)
    (garbles : Garbles lookup name value) :
    k.number lookup name change = ⟨k.config, some (.invalidValue name value)⟩ := by
  obtain ⟨set, garbled⟩ := garbles
  simp only [number, clean, set, wordOf_of_garbled garbled]

theorem Checked.number_of_problem {change : Config → UInt64 → Config} {e : ConfigError}
    (spoilt : k.problem = some e) : k.number lookup name change = k := by
  simp only [number, spoilt]

/-- The texts are taken up before the numbers. -/
theorem applyOverrides_eq (c : Config) (lookup : String → Option String) :
    c.applyOverrides lookup =
      let k := ((Checked.mk (c.overlaid lookup c.downloads.pollIntervalMillis
        c.downloads.timeoutSecs) none).number lookup "KCRIFF_POLL_INTERVAL_MS"
          withPollInterval).number lookup "KCRIFF_DOWNLOAD_TIMEOUT_SECS" withTimeout
      { k with problem := k.problem.or k.config.problem? } := by
  have texts : (lookup "KCRIFF_LIBRARY").elim
      ((lookup "KCRIFF_ENDPOINT").elim c c.withEndpoint)
      ((lookup "KCRIFF_ENDPOINT").elim c c.withEndpoint).withLibrary =
        c.overlaid lookup c.downloads.pollIntervalMillis c.downloads.timeoutSecs := by
    rw [overlaid]
    cases lookup "KCRIFF_ENDPOINT" <;> cases lookup "KCRIFF_LIBRARY" <;> rfl
  rw [applyOverrides, ← texts]

theorem applyOverrides_of_applies (h : Applies c lookup k) : c.applyOverrides lookup = k := by
  rw [applyOverrides_eq]
  cases h with
  | badInterval garbles =>
      rw [Checked.number_of_garbles rfl garbles, Checked.number_of_problem rfl]
      rfl
  | badTimeout takes garbles =>
      rw [Checked.number_of_takes rfl takes rfl, Checked.number_of_garbles rfl garbles]
      rfl
  | noInterval takes takes' =>
      rw [Checked.number_of_takes rfl takes rfl, Checked.number_of_takes rfl takes' rfl]
      rfl
  | @noEndpoint interval timeout takes takes' filled blank =>
      rw [Checked.number_of_takes rfl takes rfl, Checked.number_of_takes rfl takes' rfl]
      have found : (c.overlaid lookup interval timeout).problem? =
          some (.invalidValue "transport.endpoint"
            (c.overlaid lookup interval timeout).transport.endpoint) :=
        (if_neg filled).trans (if_pos blank)
      exact congrArg (Checked.mk _) found
  | sound takes takes' sound =>
      rw [Checked.number_of_takes rfl takes rfl, Checked.number_of_takes rfl takes' rfl]
      exact congrArg (Checked.mk _) (isSound_iff.1 sound)

theorem exists_applies (c : Config) (lookup : String → Option String) :
    ∃ k, Applies c lookup k := by
  obtain ⟨interval, takes⟩ | ⟨value, garbles⟩ := takes_or_garbles lookup
    "KCRIFF_POLL_INTERVAL_MS" c.downloads.pollIntervalMillis
  · obtain ⟨timeout, takes'⟩ | ⟨value, garbles⟩ := takes_or_garbles lookup
      "KCRIFF_DOWNLOAD_TIMEOUT_SECS" c.downloads.timeoutSecs
    · by_cases none : interval = 0
      · exact ⟨_, .noInterval (none ▸ takes) takes'⟩
      · cases blank :
            Text.isBlankText (c.overlaid lookup interval timeout).transport.endpoint with
        | true => exact ⟨_, .noEndpoint takes takes' none blank⟩
        | false => exact ⟨_, .sound takes takes' ⟨none, blank⟩⟩
    · exact ⟨_, .badTimeout takes garbles⟩
  · exact ⟨_, .badInterval garbles⟩

theorem applyOverrides_eq_iff : c.applyOverrides lookup = k ↔ Applies c lookup k := by
  constructor
  · rintro rfl
    obtain ⟨k, applies⟩ := exists_applies c lookup
    rwa [applyOverrides_of_applies applies]
  · exact applyOverrides_of_applies

theorem result_eq_ok_iff {c' : Config} :
    (c.applyOverrides lookup).result = .ok c' ↔ ∃ interval timeout,
      Takes lookup "KCRIFF_POLL_INTERVAL_MS" c.downloads.pollIntervalMillis interval ∧
      Takes lookup "KCRIFF_DOWNLOAD_TIMEOUT_SECS" c.downloads.timeoutSecs timeout ∧
      (c.overlaid lookup interval timeout).IsSound ∧ c' = c.overlaid lookup interval timeout := by
  rw [Checked.result_eq_ok_iff]
  constructor
  · intro h
    have applies : Applies c lookup ⟨c', none⟩ := by
      rw [← applyOverrides_eq_iff, ← h.1, ← h.2]
    cases applies with
    | sound takes takes' sound => exact ⟨_, _, takes, takes', sound, rfl⟩
  · rintro ⟨interval, timeout, takes, takes', sound, rfl⟩
    rw [applyOverrides_of_applies (.sound takes takes' sound)]
    exact ⟨rfl, rfl⟩

/-! ## Files -/

theorem ofToml_of_read {text : String} {v : Toml.Value} (parsed : Toml.read text = some v)
    (read : Config.read .ignored v.toJson = .ok c) : ofToml text = c.validate := by
  simp only [ofToml, parsed, read]

theorem validate_eq_ok_iff {c' : Config} : c.validate = .ok c' ↔ c.IsSound ∧ c' = c := by
  rw [isSound_iff, validate]
  cases c.problem? with
  | none => simp [eq_comm]
  | some e => simp

theorem exists_validate_error_iff : (∃ e, c.validate = .error e) ↔ ¬ c.IsSound := by
  rw [isSound_iff, validate]
  cases c.problem? with
  | none => simp
  | some e => simp

/-! ## All layers -/

/-- What is made of settings, of variables and of a command line. -/
structure Layered (c : Config) (lookup : String → Option String) (i : Console.Invocation) :
    Prop where
  /-- What the variables do in each case, also where they fail. -/
  applies : ∀ k, c.applyOverrides lookup = k ↔ Applies c lookup k
  /-- They are accepted where both numbers can be read and the result is sound. -/
  accepted : (∃ c', (c.applyOverrides lookup).result = .ok c') ↔ ∃ interval timeout,
    Takes lookup "KCRIFF_POLL_INTERVAL_MS" c.downloads.pollIntervalMillis interval ∧
    Takes lookup "KCRIFF_DOWNLOAD_TIMEOUT_SECS" c.downloads.timeoutSecs timeout ∧
    (c.overlaid lookup interval timeout).IsSound
  sound : ∀ c', (c.applyOverrides lookup).result = .ok c' → c'.IsSound
  /-- Where every setting comes from in the end. -/
  settings : ∀ c', (c.applyOverrides lookup).result = .ok c' → ∃ interval timeout,
    Takes lookup "KCRIFF_POLL_INTERVAL_MS" c.downloads.pollIntervalMillis interval ∧
    Takes lookup "KCRIFF_DOWNLOAD_TIMEOUT_SECS" c.downloads.timeoutSecs timeout ∧
    i.configure c' = {
      transport := { c.transport with
        endpoint := (i.endpoint.or (lookup "KCRIFF_ENDPOINT")).getD c.transport.endpoint
        libraryPaths :=
          i.library.toList ++ (lookup "KCRIFF_LIBRARY").toList ++ c.transport.libraryPaths }
      downloads := ⟨interval, i.timeout.getD timeout⟩ }

theorem configure_overlaid (i : Console.Invocation) :
    i.configure (c.overlaid lookup interval timeout) = {
      transport := { c.transport with
        endpoint := (i.endpoint.or (lookup "KCRIFF_ENDPOINT")).getD c.transport.endpoint
        libraryPaths :=
          i.library.toList ++ (lookup "KCRIFF_LIBRARY").toList ++ c.transport.libraryPaths }
      downloads := ⟨interval, i.timeout.getD timeout⟩ } := by
  obtain ⟨endpoint, library, limit, command⟩ := i
  rw [overlaid]
  cases endpoint <;> cases library <;> cases limit <;> rfl

/-- A file and the variables give only sound settings. A file that can be read as settings is
refused exactly if they are not sound; the variables go before the file and the command line goes
before both. -/
theorem settings_are_layered (c : Config) (lookup : String → Option String)
    (i : Console.Invocation) :
    Layered c lookup i ∧ (∀ text c', ofToml text = .ok c' → c'.IsSound) ∧
    ∀ text v, Toml.read text = some v → Config.read .ignored v.toJson = .ok c →
      ((∃ e, ofToml text = .error e) ↔ ¬ c.IsSound) ∧
      ∀ c', ofToml text = .ok c' ↔ c.IsSound ∧ c' = c := by
  refine ⟨⟨fun k => applyOverrides_eq_iff, ?_, ?_, ?_⟩, ?_, ?_⟩
  · simp only [result_eq_ok_iff]
    constructor
    · rintro ⟨c', interval, timeout, takes, takes', sound, -⟩
      exact ⟨interval, timeout, takes, takes', sound⟩
    · rintro ⟨interval, timeout, takes, takes', sound⟩
      exact ⟨_, interval, timeout, takes, takes', sound, rfl⟩
  · intro c' accepted
    exact isSound_iff.2 (problem?_of_applyOverrides accepted)
  · intro c' accepted
    obtain ⟨interval, timeout, takes, takes', -, rfl⟩ := result_eq_ok_iff.1 accepted
    exact ⟨interval, timeout, takes, takes', configure_overlaid i⟩
  · intro text c' read
    exact isSound_iff.2 (problem?_of_ofToml read)
  · intro text v parsed read
    rw [ofToml_of_read parsed read]
    exact ⟨exists_validate_error_iff, fun c' => validate_eq_ok_iff⟩

end ModelDepot.Config
