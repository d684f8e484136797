import ModelDepot.Proofs.Json.Positional
import ModelDepot.Proofs.Reply.Statuses

/-! # Replies that are no objects

A reply that is a text, a number, a flag or null is garbled for every decoder. An array is not
always: the decoders read their records from an array as well, item by item, so an array passes
whose items fit the fields in their order. It is never an error of the backend.
-/

namespace ModelDepot

namespace Json

def IsTextOrNull (v : Json) : Prop :=
  v = .null ∨ ∃ s, v = .string s

def IsCountOrNull (v : Json) : Prop :=
  v = .null ∨ ∃ n < UInt64.size, v = .nat n

end Json

namespace Payload

open Json

/-- The items pass for the fields of a status. -/
structure ListsStatus (items : List Json) : Prop where
  few : items.length ≤ 6
  modelName : ∀ v ∈ items[0]?, v.IsTextOrNull
  progress : ∀ v ∈ items[1]?, ∃ n, v = .number n
  completed : ∀ v ∈ items[2]?, ∃ b, v = .bool b
  status : ∀ v ∈ items[3]?, v = .null ∨ ∃ s, v = .string s ∧
    (Text.isBlankText s = true ∨ ∃ state : DownloadState, (Text.trim s).toLower ∈ state.spellings)
  downloadedBytes : ∀ v ∈ items[4]?, v.IsCountOrNull
  totalBytes : ∀ v ∈ items[5]?, v.IsCountOrNull

/-- The items pass for the fields of a health check's answer. -/
structure ListsHealth (items : List Json) : Prop where
  few : items.length ≤ 3
  status : ∃ v ∈ items[0]?, ∃ s, v = .string s
  version : ∀ v ∈ items[1]?, v.IsTextOrNull
  name : ∀ v ∈ items[2]?, v.IsTextOrNull

/-- The items pass for the fields of an answer about updates. -/
structure ListsUpdate (items : List Json) : Prop where
  few : items.length ≤ 5
  available : ∀ v ∈ items[0]?, ∃ b, v = .bool b
  currentVersion : ∀ v ∈ items[1]?, v.IsTextOrNull
  newVersion : ∀ v ∈ items[2]?, v.IsTextOrNull
  releaseNotes : ∀ v ∈ items[3]?, v.IsTextOrNull
  downloadUrl : ∀ v ∈ items[4]?, v.IsTextOrNull

/-- The items pass for the fields of an acknowledgement, none of which an array may leave out. -/
structure ListsAcknowledgement (items : List Json) : Prop where
  few : items.length ≤ 5
  status : ∃ v ∈ items[0]?, v.IsTextOrNull
  message : ∃ v ∈ items[1]?, v.IsTextOrNull
  model : ∃ v ∈ items[2]?, v.IsTextOrNull
  fromVersion : ∃ v ∈ items[3]?, v.IsTextOrNull
  toVersion : ∃ v ∈ items[4]?, v.IsTextOrNull

section Readers

variable {items : List Json}

theorem isOk_health_array_iff : (∃ h, readHealth (.array items) = .ok h) ↔ ListsHealth items := by
  apply Reader.isOk_record_array_iff.trans
  simp only [Fields.Admits, Field.exists_takes_required_iff, Field.exists_takes_lenient_iff,
    Reader.reads_option_iff, Reader.reads_string_iff]
  constructor
  · rintro ⟨⟨status, version, name, -⟩, few⟩
    exact ⟨few, status, version, name⟩
  · rintro ⟨few, status, version, name⟩
    exact ⟨⟨status, version, name, trivial⟩, few⟩

theorem isOk_update_array_iff : (∃ u, readUpdate (.array items) = .ok u) ↔ ListsUpdate items := by
  apply Reader.isOk_record_array_iff.trans
  simp only [Fields.Admits, Field.takes_alsoNamed, Field.exists_takes_default_iff,
    Field.exists_takes_lenient_iff, Reader.reads_option_iff, Reader.reads_string_iff,
    Reader.reads_bool_iff]
  constructor
  · rintro ⟨⟨available, current, new, notes, url, -⟩, few⟩
    exact ⟨few, available, current, new, notes, url⟩
  · rintro ⟨few, available, current, new, notes, url⟩
    exact ⟨⟨available, current, new, notes, url, trivial⟩, few⟩

theorem isOk_acknowledgement_array_iff :
    (∃ a, Acknowledgement.read (.array items) = .ok a) ↔ ListsAcknowledgement items := by
  apply Reader.isOk_record_array_iff.trans
  simp only [Fields.Admits, Field.exists_takes_optional_iff, Reader.reads_option_iff,
    Reader.reads_string_iff]
  constructor
  · rintro ⟨⟨status, message, model, old, new, -⟩, few⟩
    exact ⟨few, status, message, model, old, new⟩
  · rintro ⟨few, status, message, model, old, new⟩
    exact ⟨⟨status, message, model, old, new, trivial⟩, few⟩

/-- A status that an array passes for, its word apart. -/
theorem isOk_status_array_iff :
    (∃ r, readStatus (.array items) = .ok r) ↔ items.length ≤ 6 ∧
      (∀ v ∈ items[0]?, v.IsTextOrNull) ∧ (∀ v ∈ items[1]?, ∃ n, v = .number n) ∧
      (∀ v ∈ items[2]?, ∃ b, v = .bool b) ∧ (∀ v ∈ items[3]?, v.IsTextOrNull) ∧
      (∀ v ∈ items[4]?, v.IsCountOrNull) ∧ ∀ v ∈ items[5]?, v.IsCountOrNull := by
  apply Reader.isOk_record_array_iff.trans
  simp only [Fields.Admits, Field.takes_alsoNamed, Field.exists_takes_default_iff,
    Field.exists_takes_lenient_iff, Reader.reads_option_iff, Reader.reads_string_iff,
    Reader.reads_bool_iff, Reader.reads_float_iff, Reader.reads_u64_iff]
  constructor
  · rintro ⟨⟨name, progress, completed, status, downloaded, total, -⟩, few⟩
    exact ⟨few, name, progress, completed, status, downloaded, total⟩
  · rintro ⟨few, name, progress, completed, status, downloaded, total⟩
    exact ⟨⟨name, progress, completed, status, downloaded, total, trivial⟩, few⟩

theorem status_of_array {r : StatusReply} (h : readStatus (.array items) = .ok r) :
    (r.completed = true ↔ items[2]? = some (.bool true)) ∧
    ∀ s, r.status = some s ↔ items[3]? = some (.string s) := by
  obtain ⟨⟨_, _, completed, status, _⟩, ⟨⟨-, -, flag, word, -⟩, -⟩, rfl⟩ :=
    Reader.record_array_eq_ok_iff.1 h
  exact ⟨Field.eq_true_of_takes flag, Field.eq_some_of_takes word⟩

theorem health_of_array {h : HealthStatus} (given : readHealth (.array items) = .ok h) :
    h.isHealthy = true ↔
      ∃ s, items[0]? = some (.string s) ∧ (Text.trim s).toLower ∈ healthyWords := by
  obtain ⟨⟨status, _⟩, ⟨⟨word, -⟩, -⟩, rfl⟩ := Reader.record_array_eq_ok_iff.1 given
  have found := Field.takes_text_iff.1 word
  have healthy : (if healthyWords.contains (Text.trim status).toLower then HealthState.healthy
      else .unhealthy) = .healthy ↔ (Text.trim status).toLower ∈ healthyWords := by
    split <;> simp_all
  rw [HealthStatus.isHealthy, beq_iff_eq]
  constructor
  · intro h
    exact ⟨status, found, healthy.1 h⟩
  · rintro ⟨s, same, named⟩
    rw [found] at same
    cases same
    exact healthy.2 named

theorem update_of_array {u : UpdateInfo} (given : readUpdate (.array items) = .ok u) :
    u.available = true ↔ items[0]? = some (.bool true) := by
  obtain ⟨⟨available, _⟩, ⟨⟨flag, -⟩, -⟩, rfl⟩ := Reader.record_array_eq_ok_iff.1 given
  exact Field.eq_true_of_takes flag

end Readers

theorem StatusReply.isOk_state_iff {r : StatusReply} :
    (∃ state, r.state = .ok state) ↔ ∀ s, r.status = some s →
      Text.isBlankText s = true ∨
        ∃ state : DownloadState, (Text.trim s).toLower ∈ state.spellings := by
  constructor
  · rintro ⟨state, given⟩ s said
    cases blank : Text.isBlankText s with
    | true => exact .inl rfl
    | false =>
        have names : Text.nonBlank r.status = some s := by
          rw [said, Text.nonBlank, Option.filter_some, blank]
          rfl
        simp only [StatusReply.state, names] at given
        split at given
        · next found => exact .inr ⟨_, DownloadState.ofWord?_eq_some_iff.1 found⟩
        · cases given
  · intro known
    cases said : Text.nonBlank r.status with
    | none =>
        simp only [StatusReply.state, said]
        split
        · exact ⟨_, rfl⟩
        · split <;> exact ⟨_, rfl⟩
    | some s =>
        obtain ⟨given, filled⟩ := Option.filter_eq_some_iff.1 said
        rcases known s given with blank | ⟨state, named⟩
        · simp [blank] at filled
        · exact ⟨state, StatusReply.state_of_word given named⟩

theorem isOk_downloadStatus_iff_decode {requested payload : String} :
    (∃ status, downloadStatus requested payload = .ok status) ↔
      ∃ r, decode statusEntity readStatus payload = .ok r ∧ ∀ s, r.status = some s →
        Text.isBlankText s = true ∨
          ∃ state : DownloadState, (Text.trim s).toLower ∈ state.spellings := by
  simp only [downloadStatus_eq_ok_iff, ← StatusReply.isOk_state_iff]
  constructor
  · rintro ⟨_, r, state, decoded, hs, -⟩
    exact ⟨r, decoded, state, hs⟩
  · rintro ⟨r, decoded, state, hs⟩
    exact ⟨_, r, state, decoded, hs, rfl⟩

/-! ## Decoders -/

section Decoders

variable {payload : String} {v : Json}

theorem remoteError_of_no_object (shape : ∀ members, v ≠ .object members) :
    remoteError v = none := by
  cases v with
  | object members => exact absurd rfl (shape members)
  | _ => rfl

/-- Of a reply that is no object the reader makes what it makes of the value. -/
theorem decode_eq_ok_iff {α : Type} {entity : String} {read : Json.Reader α} {a : α}
    (hv : Json.read (Text.trim payload) = .ok v) (shape : ∀ members, v ≠ .object members) :
    decode entity read payload = .ok a ↔ read v = .ok a := by
  rw [decode_eq_judge hv, judge_eq_ok_iff]
  exact and_iff_right (remoteError_of_no_object shape)

theorem not_reportsError_of_no_object (hv : Json.read (Text.trim payload) = .ok v)
    (shape : ∀ members, v ≠ .object members) (message : String) :
    ¬ ReportsError (Text.trim payload) message :=
  not_reportsError_of_read hv (remoteError_of_no_object shape) message

end Decoders

/-- A reply passes if it is an array of the items that the decoder asks for, and is garbled
otherwise. -/
structure PassesAsArray {α : Type} (decoded : Except ClientError α) (v : Json)
    (Lists : List Json → Prop) : Prop where
  passes : (∃ a, decoded = .ok a) ↔ ∃ items, v = .array items ∧ Lists items
  garbled : IsGarbled decoded ↔ ¬ ∃ items, v = .array items ∧ Lists items

theorem IsLocal.passesAsArray {α : Type} {decoded : Except ClientError α} {v : Json}
    {Lists : List Json → Prop} (isLocal : IsLocal decoded)
    (h : (∃ a, decoded = .ok a) ↔ ∃ items, v = .array items ∧ Lists items) :
    PassesAsArray decoded v Lists := by
  constructor
  · exact h
  · rw [isLocal.isGarbled_iff, h]

section NoObject

variable {payload : String} {v : Json} (hv : Json.read (Text.trim payload) = .ok v)
  (shape : ∀ members, v ≠ .object members)
include hv shape

theorem passesAsArray_decode {α : Type} {αs : List Type} {type entity : String} {fs : Fields αs}
    {build : Row αs → α} {Lists : List Json → Prop}
    (lists : ∀ items, (∃ a, Reader.record αs type fs build (.array items) = .ok a) ↔ Lists items) :
    PassesAsArray (decode entity (Reader.record αs type fs build) payload) v Lists := by
  apply (isLocal_decode _ _ (not_reportsError_of_no_object hv shape)).passesAsArray
  simp only [decode_eq_ok_iff hv shape, Reader.isOk_record_iff shape, lists]

theorem isOk_downloadStatus_iff (requested : String) :
    (∃ status, downloadStatus requested payload = .ok status) ↔
      ∃ items, v = .array items ∧ ListsStatus items := by
  simp only [isOk_downloadStatus_iff_decode, decode_eq_ok_iff hv shape]
  constructor
  · rintro ⟨r, read, known⟩
    obtain ⟨items, rfl, -⟩ := (Reader.isOk_record_iff shape).1 ⟨r, read⟩
    obtain ⟨few, name, progress, completed, status, downloaded, total⟩ :=
      isOk_status_array_iff.1 ⟨r, read⟩
    refine ⟨items, rfl, few, name, progress, completed, ?_, downloaded, total⟩
    intro w here
    rcases status w here with null | ⟨s, rfl⟩
    · exact .inl null
    · exact .inr ⟨s, rfl, known s (((status_of_array read).2 s).2 here)⟩
  · rintro ⟨items, rfl, lists⟩
    have word : ∀ w ∈ items[3]?, w.IsTextOrNull := by
      intro w here
      exact (lists.status w here).imp_right fun ⟨s, same, _⟩ => ⟨s, same⟩
    obtain ⟨r, read⟩ := isOk_status_array_iff.2 ⟨lists.few, lists.modelName, lists.progress,
      lists.completed, word, lists.downloadedBytes, lists.totalBytes⟩
    refine ⟨r, read, fun s said => ?_⟩
    rcases lists.status _ (((status_of_array read).2 s).1 said) with null | ⟨t, same, named⟩
    · cases null
    · cases same
      exact named

end NoObject

/-- A reply that is no object is garbled for a decoder, unless it is an array whose items fit the
fields in their order. Such an array is taken at its word: for a completed download if its third
item is true, for a healthy backend if its first item is a word of one, for an update if its first
item is true. -/
theorem only_arrays_pass_for_objects {payload : String} {v : Json}
    (hv : Json.read (Text.trim payload) = .ok v) (shape : ∀ members, v ≠ .object members)
    (requested entity : String) :
    PassesAsArray (downloadStatus requested payload) v ListsStatus ∧
    PassesAsArray (health payload) v ListsHealth ∧
    PassesAsArray (updateInfo payload) v ListsUpdate ∧
    PassesAsArray (acknowledgement entity payload) v ListsAcknowledgement ∧
    ∀ items, v = .array items →
      (∀ status, downloadStatus requested payload = .ok status →
        (status.completed = true ↔ items[2]? = some (.bool true))) ∧
      (∀ h, health payload = .ok h → (h.isHealthy = true ↔
        ∃ s, items[0]? = some (.string s) ∧ (Text.trim s).toLower ∈ healthyWords)) ∧
      ∀ u, updateInfo payload = .ok u →
        (u.available = true ↔ items[0]? = some (.bool true)) := by
  have unreported := not_reportsError_of_no_object hv shape
  refine ⟨?_, passesAsArray_decode hv shape fun _ => isOk_health_array_iff,
    passesAsArray_decode hv shape fun _ => isOk_update_array_iff,
    passesAsArray_decode hv shape fun _ => isOk_acknowledgement_array_iff, ?_⟩
  · apply ((sorts_downloadStatus requested).rest payload unreported).passesAsArray
    exact isOk_downloadStatus_iff hv shape requested
  · rintro items rfl
    refine ⟨?_, ?_, ?_⟩
    · intro status given
      obtain ⟨r, state, read, -, rfl⟩ := downloadStatus_eq_ok_iff.1 given
      exact (status_of_array ((decode_eq_ok_iff hv shape).1 read)).1
    · intro h given
      exact health_of_array ((decode_eq_ok_iff hv shape).1 given)
    · intro u given
      exact update_of_array ((decode_eq_ok_iff hv shape).1 given)

theorem exists_items_of_matches {s : String}
    (h : ((Json.read s).toOption.any fun v => v matches .array _) = true) :
    ∃ items, Json.read s = .ok (.array items) := by
  cases hv : Json.read s with
  | error message => simp [hv, Except.toOption] at h
  | ok v =>
      cases v with
      | array items => exact ⟨items, rfl⟩
      | _ => simp [hv, Except.toOption] at h

/-- A completed download of three items has its flag at the end. -/
theorem only_arrays_pass_for_objects_with_flag :
    ∃ items, Json.read (Text.trim "[null,100,true]") = .ok (.array items) ∧
      items[2]? = some (.bool true) := by
  obtain ⟨items, hv⟩ := exists_items_of_matches
    (by decide +kernel : ((Json.read (Text.trim "[null,100,true]")).toOption.any _) = true)
  have given : downloadStatus "phi" "[null,100,true]" =
      .ok ⟨"phi", ⟨0x4059000000000000⟩, true, .completed, none, none, none⟩ :=
    eq_ok_of_toOption (by decide +kernel)
  obtain ⟨-, -, -, -, means⟩ := only_arrays_pass_for_objects hv nofun "phi" "acknowledgement"
  exact ⟨items, hv, ((means items rfl).1 _ given).1 rfl⟩

/-- Three items without a name are taken for a completed download, and no item at all for there
being no update. -/
theorem arrays_pass_for_answers :
    (∃ items, Json.read (Text.trim "[null,100,true]") = .ok (.array items)) ∧
    downloadStatus "phi" "[null,100,true]" =
      .ok ⟨"phi", ⟨0x4059000000000000⟩, true, .completed, none, none, none⟩ ∧
    (∃ items, Json.read (Text.trim "[]") = .ok (.array items)) ∧
    updateInfo "[]" = .ok ⟨false, none, none, none, none⟩ := by
  refine ⟨exists_items_of_matches ?_, eq_ok_of_toOption ?_, exists_items_of_matches ?_,
    eq_ok_of_toOption ?_⟩ <;> decide +kernel

end Payload

end ModelDepot
