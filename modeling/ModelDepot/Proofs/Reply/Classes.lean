import ModelDepot.Payload
import ModelDepot.Proofs.Reply.Members
import ModelDepot.Proofs.Reply.Trimming

/-! # What a reply is taken for

A poller gives up on an error of the backend and rides a garbled reply out, so what a reply is
taken for matters more than what is wrong with it. One rule holds for every decoder: the reply is
trimmed, and only an object whose `error` says something is an error of the backend.
-/

namespace ModelDepot.Payload

/-- A value as an error message: a text as it stands, unless it is blank, and anything else but null
as compact JSON. -/
inductive Says : Json → String → Prop where
  | text {s : String} : Text.isBlankText s = false → Says (.string s) s
  | other {v : Json} : v ≠ .null → (∀ s, v ≠ .string s) → Says v v.text

/-- The text is an object that reports an error. Of several errors the last counts. -/
def ReportsError (reply message : String) : Prop :=
  ∃ members v, Json.writtenMembers reply = some members ∧
    Json.lastValue "error" members = some v ∧ Says v message

/-- The reply does not have the expected form. -/
def IsGarbled {α : Type} (r : Except ClientError α) : Prop :=
  ∃ e, r = .error (.decode e)

/-- The reply was understood, or does not have the expected form. -/
def IsLocal {α : Type} (r : Except ClientError α) : Prop :=
  (∃ a, r = .ok a) ∨ IsGarbled r

@[simp] theorem isLocal_ok {α : Type} (a : α) : IsLocal (.ok a) :=
  .inl ⟨a, rfl⟩

@[simp] theorem isLocal_decode_error {α : Type} (e : DecodeError) :
    IsLocal (.error (.decode e) : Except ClientError α) :=
  .inr ⟨e, rfl⟩

theorem IsLocal.ne_remote {α : Type} {r : Except ClientError α} (h : IsLocal r) (message : String) :
    r ≠ .error (.remote message) := by
  obtain ⟨a, rfl⟩ | ⟨e, rfl⟩ := h
  · simp
  · simp

theorem IsLocal.isGarbled_iff {α : Type} {r : Except ClientError α} (h : IsLocal r) :
    IsGarbled r ↔ ¬ ∃ a, r = .ok a := by
  obtain ⟨a, rfl⟩ | ⟨e, rfl⟩ := h
  · simp [IsGarbled]
  · simp [IsGarbled]

/-- How a decoder sorts replies, `empty` being what it makes of one that holds nothing. -/
structure Sorts {α : Type} (decoder : String → Except ClientError α)
    (empty : Except ClientError α → Prop) : Prop where
  nothing : ∀ payload, Text.trim payload = "" → empty (decoder payload)
  noJson : ∀ payload, Text.trim payload ≠ "" → (∀ v, Json.read (Text.trim payload) ≠ .ok v) →
    IsGarbled (decoder payload)
  remote : ∀ payload message, decoder payload = .error (.remote message) ↔
    ReportsError (Text.trim payload) message
  rest : ∀ payload, (∀ message, ¬ ReportsError (Text.trim payload) message) →
    IsLocal (decoder payload)
  padded : ∀ before payload after, Text.isBlankText before = true → Text.isBlankText after = true →
    decoder (before ++ payload ++ after) = decoder payload

/-! ## The error of an object -/

theorem remoteError_eq_some_iff (v : Json) (message : String) :
    remoteError v = some message ↔ ∃ w, v.get? "error" = some w ∧ Says w message := by
  rw [remoteError]
  cases hw : v.get? "error" with
  | none => simp
  | some w =>
      simp only [Option.some.injEq, exists_eq_left']
      constructor
      · intro h
        cases w with
        | null => simp at h
        | string s =>
            cases hs : Text.isBlankText s with
            | true => simp [hs] at h
            | false =>
                obtain rfl : s = message := by simpa [hs] using h
                exact .text hs
        | _ =>
            obtain rfl : _ = message := Option.some.inj h
            exact .other nofun nofun
      · intro h
        cases h with
        | text hs => simp [hs]
        | other hnull hstring =>
            cases w with
            | null => exact absurd rfl hnull
            | string s => exact absurd rfl (hstring s)
            | _ => rfl

example : remoteError (.object [("error", .bool false)]) = some "false" := rfl

theorem reportsError_iff (s message : String) :
    ReportsError s message ↔ ∃ v, Json.read s = .ok v ∧ remoteError v = some message := by
  constructor
  · rintro ⟨members, w, hmembers, hw, hsays⟩
    refine ⟨_, (Json.read_eq_object_iff s _).2 ⟨members, hmembers, rfl⟩, ?_⟩
    rw [remoteError_eq_some_iff]
    exact ⟨w, by rw [Json.get?, Json.lookup_sortMembers, hw], hsays⟩
  · rintro ⟨v, hv, hmessage⟩
    obtain ⟨w, hw, hsays⟩ := (remoteError_eq_some_iff v message).1 hmessage
    cases v with
    | object ms =>
        obtain ⟨members, hmembers, rfl⟩ := (Json.read_eq_object_iff s ms).1 hv
        rw [Json.get?, Json.lookup_sortMembers] at hw
        exact ⟨members, w, hmembers, hw, hsays⟩
    | _ => simp [Json.get?] at hw

theorem not_reportsError_of_read {s : String} {v : Json} (hv : Json.read s = .ok v)
    (silent : remoteError v = none) (message : String) : ¬ ReportsError s message := by
  rw [reportsError_iff]
  rintro ⟨w, hw, reported⟩
  rw [hv] at hw
  cases hw
  rw [silent] at reported
  cases reported

theorem not_reportsError_empty (message : String) : ¬ ReportsError "" message := by
  rw [reportsError_iff]
  rintro ⟨v, hv, -⟩
  have hread : Json.read "" ≠ .ok v := nofun
  exact hread hv

/-! ## One decoder -/

section

variable {α : Type} (entity : String) (read : Json.Reader α)

theorem decode_of_error {payload message : String} (h : ReportsError (Text.trim payload) message) :
    decode entity read payload = .error (.remote message) := by
  obtain ⟨v, hv, hmessage⟩ := (reportsError_iff _ _).1 h
  have hsome : Text.trim payload ≠ "" := by
    intro hempty
    exact not_reportsError_empty message (hempty ▸ h)
  simp [decode, hsome, hv, hmessage]

theorem isLocal_decode {payload : String}
    (h : ∀ message, ¬ ReportsError (Text.trim payload) message) :
    IsLocal (decode entity read payload) := by
  simp only [reportsError_iff, not_exists, not_and] at h
  simp only [decode]
  split
  · exact .inr ⟨_, rfl⟩
  · split
    · exact .inr ⟨_, rfl⟩
    · rename_i v hv
      have hnone : remoteError v = none := by
        rw [Option.eq_none_iff_forall_ne_some]
        exact fun message => h message v hv
      rw [hnone]
      cases read v with
      | ok a => exact .inl ⟨a, rfl⟩
      | error e => exact .inr ⟨_, rfl⟩

end

/-- What a decoder makes of the value that a reply is. -/
def judge {α : Type} (entity : String) (read : Json.Reader α) (v : Json) : Except ClientError α :=
  match remoteError v with
  | some message => .error (.remote message)
  | none =>
    match read v with
    | .ok a => .ok a
    | .error e => .error (.decode ⟨entity, e.message⟩)

section Judging

variable {α : Type} {entity payload : String} {read : Json.Reader α} {v : Json} {a : α}

theorem decode_eq_judge (hv : Json.read (Text.trim payload) = .ok v) :
    decode entity read payload = judge entity read v := by
  have some : Text.trim payload ≠ "" := by
    intro empty
    rw [empty] at hv
    cases hv
  simp only [decode, String.isEmpty_iff, some, hv, judge]
  rfl

theorem judge_eq_ok_iff :
    judge entity read v = .ok a ↔ remoteError v = none ∧ read v = .ok a := by
  rw [judge]
  cases remoteError v with
  | some message => simp
  | none => cases read v <;> simp

theorem judge_of_error {e : Json.ShapeError} (quiet : remoteError v = none)
    (h : read v = .error e) : judge entity read v = .error (.decode ⟨entity, e.message⟩) := by
  rw [judge, quiet, h]

end Judging

theorem sorts_decode {α : Type} (entity : String) (read : Json.Reader α) :
    Sorts (decode entity read) IsGarbled where
  nothing payload h := ⟨⟨entity, "empty reply"⟩, by simp [decode, h]⟩
  noJson payload h hjson := by
    cases hread : Json.read (Text.trim payload) with
    | ok v => exact absurd hread (hjson v)
    | error message => exact ⟨⟨entity, message⟩, by simp [decode, h, hread]⟩
  remote payload message := by
    constructor
    · intro h
      by_contra hnone
      by_cases hother : ∃ other, ReportsError (Text.trim payload) other
      · obtain ⟨other, hother⟩ := hother
        rw [decode_of_error entity read hother, Except.error.injEq, ClientError.remote.injEq] at h
        exact hnone (h ▸ hother)
      · exact (isLocal_decode entity read (not_exists.1 hother)).ne_remote message h
    · exact decode_of_error entity read
  rest payload := isLocal_decode entity read
  padded before payload after hb ha := by
    simp only [decode, Text.trim_padded hb ha]

/-! ## The five decoders -/

/-- A decoder that carries on from another one: it passes its errors on and may refuse what the
other understood, but makes no error of the backend of it. -/
theorem Sorts.carryOn {α β : Type} {decoder : String → Except ClientError α}
    (h : Sorts decoder IsGarbled) {onward : String → Except ClientError β}
    (herror : ∀ payload e, decoder payload = .error e → onward payload = .error e)
    (hok : ∀ payload a, decoder payload = .ok a → IsLocal (onward payload))
    (hsame : ∀ payload other, decoder payload = decoder other → onward payload = onward other) :
    Sorts onward IsGarbled where
  nothing payload hp := by
    obtain ⟨e, he⟩ := h.nothing payload hp
    exact ⟨e, herror payload _ he⟩
  noJson payload hp hjson := by
    obtain ⟨e, he⟩ := h.noJson payload hp hjson
    exact ⟨e, herror payload _ he⟩
  remote payload message := by
    rw [← h.remote payload message]
    constructor
    · intro honward
      cases hd : decoder payload with
      | error e =>
          rw [herror payload e hd, Except.error.injEq] at honward
          rw [honward]
      | ok a => exact absurd honward ((hok payload a hd).ne_remote message)
    · exact herror payload _
  rest payload hp := by
    obtain ⟨a, ha⟩ | ⟨e, he⟩ := h.rest payload hp
    · exact hok payload a ha
    · exact .inr ⟨e, herror payload _ he⟩
  padded before payload after hb ha := hsame _ _ (h.padded before payload after hb ha)

theorem StatusReply.isLocal_state (r : StatusReply) : IsLocal r.state := by
  rw [StatusReply.state]
  cases Text.nonBlank r.status with
  | none =>
      simp only []
      split
      · simp
      · split <;> simp
  | some s =>
      cases hword : DownloadState.ofWord? s with
      | none => simp [hword]
      | some state => simp [hword]

theorem sorts_downloadStatus (requested : String) : Sorts (downloadStatus requested) IsGarbled := by
  apply (sorts_decode statusEntity readStatus).carryOn
  · intro payload e he
    simp [downloadStatus, he]
  · intro payload r hr
    obtain ⟨state, hstate⟩ | ⟨e, hstate⟩ := r.isLocal_state
    · by_cases hfinite : r.progress.isFinite = true
      · simp [downloadStatus, hr, hstate, hfinite]
      · simp [downloadStatus, hr, hstate, hfinite]
    · simp [downloadStatus, hr, hstate]
  · intro payload other hsame
    simp only [downloadStatus, hsame]

/-- An empty reply lists no models. Apart from that a listing is sorted like any other reply. -/
theorem sorts_models : Sorts models (· = .ok []) where
  nothing payload hp := by
    rw [Text.trim_eq_empty_iff] at hp
    simp [models, hp]
  noJson payload hp hjson := by
    rw [models, if_neg (mt (Text.trim_eq_empty_iff payload).2 hp)]
    exact (sorts_decode "model list" readListing).noJson payload hp hjson
  remote payload message := by
    by_cases hblank : Text.isBlankText payload = true
    · rw [(Text.trim_eq_empty_iff payload).2 hblank, models, if_pos hblank]
      simp [not_reportsError_empty]
    · rw [models, if_neg hblank]
      exact (sorts_decode "model list" readListing).remote payload message
  rest payload hp := by
    rw [models]
    split
    · exact .inl ⟨[], rfl⟩
    · exact (sorts_decode "model list" readListing).rest payload hp
  padded before payload after hb ha := by
    have hsame := (sorts_decode "model list" readListing).padded before payload after hb ha
    have hblank : Text.isBlankText (before ++ payload ++ after) = Text.isBlankText payload := by
      rw [Bool.eq_iff_iff, ← Text.trim_eq_empty_iff, ← Text.trim_eq_empty_iff,
        Text.trim_padded hb ha]
    rw [models, models, hblank, hsame]

/-- What a reply is taken for is the same for all five decoders, whatever else it holds: only an
empty listing is no fault. -/
theorem sorts_replies (requested entity : String) :
    Sorts models (· = .ok []) ∧ Sorts (downloadStatus requested) IsGarbled ∧
      Sorts health IsGarbled ∧ Sorts updateInfo IsGarbled ∧
      Sorts (acknowledgement entity) IsGarbled :=
  ⟨sorts_models, sorts_downloadStatus requested, sorts_decode "health status" readHealth,
    sorts_decode "update info" readUpdate, sorts_decode entity Acknowledgement.read⟩

end ModelDepot.Payload
