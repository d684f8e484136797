import ModelDepot.Proofs.Json.Equality
import ModelDepot.Proofs.Json.Named
import ModelDepot.Proofs.Poller.Reading
import ModelDepot.Proofs.Reply.Arrays

/-! # What a status object means

A status that is an object is read member by member, each under its name or its other name. What
makes it unreadable, and what it is read as otherwise, depends on the values of these members alone.
-/

namespace ModelDepot

namespace Json

def Number.toBinary64 : Number → Binary64
  | .integer i => .ofInt i
  | .float x => x

theorem Reader.float_eq_ok_iff {v : Json} {x : Binary64} :
    Reader.float v = .ok x ↔ ∃ n, v = .number n ∧ n.toBinary64 = x := by
  cases v with
  | number n => cases n <;> simp [float, Number.toBinary64]
  | _ => simp [float, wrongType]

end Json

namespace Payload

open Json

/-- The object reports no error: its `error` is left out, null or blank. -/
def IsQuiet (members : List (String × Json)) : Prop :=
  ∀ v, lookup "error" members = some v →
    v = .null ∨ ∃ s, v = .string s ∧ Text.isBlankText s = true

theorem isQuiet_iff {members : List (String × Json)} :
    IsQuiet members ↔ remoteError (.object members) = none := by
  rw [Option.eq_none_iff_forall_ne_some]
  constructor
  · intro quiet message reported
    obtain ⟨v, found, meant⟩ := (remoteError_eq_some_iff _ message).1 reported
    rcases quiet v found with rfl | ⟨s, rfl, blank⟩
    · cases meant with
      | other null _ => exact null rfl
    · cases meant with
      | text filled => simp [blank] at filled
      | other _ text => exact text s rfl
  · intro unreported v found
    have silent : ∀ message, ¬ Says v message := fun message meant =>
      unreported message ((remoteError_eq_some_iff _ message).2 ⟨v, found, meant⟩)
    by_cases text : ∃ s, v = .string s
    · obtain ⟨s, rfl⟩ := text
      refine .inr ⟨s, rfl, ?_⟩
      rw [← Bool.not_eq_false]
      intro filled
      exact silent s (.text filled)
    · by_contra said
      exact silent _ (.other (fun null => said (.inl null)) fun s same => text ⟨s, same⟩)

/-! ## A status -/

/-- A text that names a state, or a blank one. -/
def IsStatusWord (s : String) : Prop :=
  Text.isBlankText s = true ∨ ∃ state : DownloadState, (Text.trim s).toLower ∈ state.spellings

/-- The members hold what a status may hold, the name of the model under one name at most. -/
structure HoldsStatus (members : List (String × Json)) : Prop where
  modelName : MayBe IsTextOrNull (values ["model_name", "model"] members)
  progress : MayBe (fun v => ∃ n, v = .number n) (values ["progress"] members)
  completed : MayBe (fun v => ∃ b, v = .bool b) (values ["completed"] members)
  status : MayBe (fun v => v = .null ∨ ∃ s, v = .string s ∧ IsStatusWord s)
    (values ["status"] members)
  downloadedBytes : MayBe IsCountOrNull (values ["downloaded_bytes"] members)
  totalBytes : MayBe IsCountOrNull (values ["total_bytes"] members)

def givenProgress (members : List (String × Json)) : Binary64 :=
  match values ["progress"] members with
  | [.number n] => n.toBinary64
  | _ => .zero

/-- The status is what the members say of the download of `requested`. -/
structure MeansStatus (requested : String) (members : List (String × Json))
    (status : DownloadStatus) : Prop where
  named : ∀ s, values ["model_name", "model"] members = [.string s] →
    Text.isBlankText s = false → status.modelName = s
  unnamed : (∀ s, values ["model_name", "model"] members = [.string s] →
    Text.isBlankText s = true) → status.modelName = requested
  progress : status.progress = (givenProgress members).clamp .zero (.ofNat 100)
  isPercent : status.progress.isFinite = true ∧ status.progress.IsPercent
  completed : status.completed = true ↔ values ["completed"] members = [.bool true]
  /-- A word that names a state decides. -/
  said : ∀ s state, values ["status"] members = [.string s] →
    (Text.trim s).toLower ∈ state.spellings → status.state = state
  /-- Without one the flag decides, then the progress. -/
  unsaid : (∀ s, values ["status"] members = [.string s] → Text.isBlankText s = true) →
    status.state =
      if status.completed then .completed
      else if Binary64.zero.lt (givenProgress members) then .downloading
      else .pending
  error : status.error = none
  downloadedBytes : ∀ n, status.downloadedBytes = some n ↔
    values ["downloaded_bytes"] members = [.nat n.toNat]
  totalBytes : ∀ n, status.totalBytes = some n ↔ values ["total_bytes"] members = [.nat n.toNat]

section Objects

variable {members : List (String × Json)} {r : StatusReply}

/-- What the fields of a status take from the members. -/
structure TakesStatus (members : List (String × Json)) (r : StatusReply) : Prop where
  modelName : ∀ s, r.modelName = some s ↔ values ["model_name", "model"] members = [.string s]
  progress : r.progress = givenProgress members
  completed : r.completed = true ↔ values ["completed"] members = [.bool true]
  status : ∀ s, r.status = some s ↔ values ["status"] members = [.string s]
  downloadedBytes : ∀ n, r.downloadedBytes = some n ↔
    values ["downloaded_bytes"] members = [.nat n.toNat]
  totalBytes : ∀ n, r.totalBytes = some n ↔ values ["total_bytes"] members = [.nat n.toNat]

theorem takesStatus_of_read (h : readStatus (.object members) = .ok r) : TakesStatus members r := by
  obtain ⟨⟨_, progress, completed, _, _, _, _⟩, ⟨name, number, flag, word, few, all, -⟩, rfl⟩ :=
    (Reader.record_object_eq_ok_iff (by decide)).1 h
  constructor
  · intro s
    exact Field.eq_some_of_takesFrom Reader.string_undoes (fun _ => nofun)
      (Field.takesFrom_alsoNamed.1 name) s
  · show progress = givenProgress members
    obtain ⟨none, given⟩ | ⟨v, one, given⟩ := number
    · have none : values ["progress"] members = [] := none
      rw [givenProgress, none]
      exact (Option.some.inj given).symm
    · obtain ⟨n, rfl, same⟩ := Reader.float_eq_ok_iff.1 given
      have one : values ["progress"] members = [.number n] := one
      rw [givenProgress, one]
      exact same.symm
  · have held : values ["completed"] members = [] ∧ completed = false ∨
        values ["completed"] members = [.bool completed] :=
      (Field.takesFrom_default_iff Reader.bool_undoes).1 flag
    show completed = true ↔ _
    grind
  · intro s
    exact Field.eq_some_of_takesFrom Reader.string_undoes (fun _ => nofun) word s
  · intro n
    exact Field.eq_some_of_takesFrom Reader.u64_undoes (fun _ => nofun) few n
  · intro n
    exact Field.eq_some_of_takesFrom Reader.u64_undoes (fun _ => nofun) all n

theorem isOk_status_object_iff :
    (∃ r, readStatus (.object members) = .ok r) ↔
      MayBe IsTextOrNull (values ["model_name", "model"] members) ∧
      MayBe (fun v => ∃ n, v = .number n) (values ["progress"] members) ∧
      MayBe (fun v => ∃ b, v = .bool b) (values ["completed"] members) ∧
      MayBe IsTextOrNull (values ["status"] members) ∧
      MayBe IsCountOrNull (values ["downloaded_bytes"] members) ∧
      MayBe IsCountOrNull (values ["total_bytes"] members) := by
  refine (Reader.isOk_record_object_iff (by decide)).trans ?_
  simp only [Fields.AllGiven, Field.Given, Field.takesFrom_alsoNamed,
    Field.exists_takesFrom_default_iff, Field.exists_takesFrom_lenient_iff, MayBe,
    Reader.reads_option_iff, Reader.reads_string_iff, Reader.reads_bool_iff,
    Reader.reads_float_iff, Reader.reads_u64_iff, and_true]
  exact Iff.rfl

theorem StatusReply.state_of_blank
    (blank : ∀ s, r.status = some s → Text.isBlankText s = true) :
    r.state = .ok (if r.completed then .completed
      else if Binary64.zero.lt r.progress then .downloading
      else .pending) := by
  have unsaid : Text.nonBlank r.status = none := by
    rw [Text.nonBlank, Option.filter_eq_none_iff]
    intro s said
    simp [blank s said]
  simp only [StatusReply.state, unsaid]
  split
  · rfl
  · split <;> rfl

theorem isFinite_clampPercent {x : Binary64} (finite : x.isFinite = true) :
    (clampPercent x).isFinite = true := by
  rw [clampPercent, Binary64.clamp]
  split
  · decide
  · split
    · decide +kernel
    · exact finite

theorem meansStatus_of_read {requested : String} {state : DownloadState}
    (takes : TakesStatus members r) (finite : r.progress.isFinite = true)
    (hs : r.state = .ok state) :
    MeansStatus requested members {
      modelName := (Text.nonBlank r.modelName).getD requested
      progress := clampPercent r.progress
      completed := r.completed
      state
      error := none
      downloadedBytes := r.downloadedBytes
      totalBytes := r.totalBytes } := by
  constructor
  · intro s given filled
    have said : Text.nonBlank r.modelName = some s := by
      rw [(takes.modelName s).2 given, Text.nonBlank, Option.filter_some, filled]
      rfl
    simp [said]
  · intro blank
    have unsaid : Text.nonBlank r.modelName = none := by
      rw [Text.nonBlank, Option.filter_eq_none_iff]
      intro s said
      simp [blank s ((takes.modelName s).1 said)]
    simp [unsaid]
  · rw [← takes.progress]
    rfl
  · exact ⟨isFinite_clampPercent finite, Binary64.isPercent_clampPercent finite⟩
  · exact takes.completed
  · intro s state' given named
    have known := StatusReply.state_of_word ((takes.status s).2 given) named
    rw [hs] at known
    exact Except.ok.inj known
  · intro blank
    have derived := StatusReply.state_of_blank fun s said => blank s ((takes.status s).1 said)
    rw [hs, takes.progress] at derived
    exact Except.ok.inj derived
  · rfl
  · exact takes.downloadedBytes
  · exact takes.totalBytes

end Objects

/-! ## An answer that no reply gets -/

/-- The text begins, but not with a `p`. -/
def beginsOtherwise (m : String) : Bool :=
  m.toList.head?.any (· != 'p')

theorem beginsOtherwise_append (m more : String) (h : beginsOtherwise m = true) :
    beginsOtherwise (m ++ more) = true := by
  rw [beginsOtherwise] at h ⊢
  rw [String.toList_append]
  cases found : m.toList with
  | nil => simp [found] at h
  | cons c cs => simpa [found] using h

theorem beginsOtherwise_of_read {s message : String} (h : Json.read s = .error message) :
    beginsOtherwise message = true := by
  simp only [Json.read] at h
  split at h
  · cases h
  · next e _ =>
      cases h
      have fault : beginsOtherwise e.fault.text = true := by
        cases e.fault <;> decide
      simp only [String.append_assoc]
      exact beginsOtherwise_append _ _ fault

theorem beginsOtherwise_message (e : ShapeError) : beginsOtherwise e.message = true := by
  have appended := beginsOtherwise_append
  cases e with
  | invalidType found expected =>
      exact appended _ _ (appended _ _ (appended "invalid type: " _ (by decide)))
  | invalidValue found expected =>
      exact appended _ _ (appended _ _ (appended "invalid value: " _ (by decide)))
  | missingField name => exact appended _ _ (appended "missing field `" _ (by decide))
  | duplicateField name => exact appended _ _ (appended "duplicate field `" _ (by decide))
  | unknownField name allowed =>
      exact appended _ _ (appended _ _ (appended "unknown field `" _ (by decide)))
  | unknownVariant name allowed =>
      exact appended _ _ (appended _ _ (appended "unknown variant `" _ (by decide)))
  | invalidLength n expected =>
      exact appended _ _ (appended _ _ (appended "invalid length " _ (by decide)))
  | noLayout type =>
      exact appended "data did not match any variant of untagged enum " _ (by decide)
  | durationOverflow => decide

theorem beginsOtherwise_of_decode {α : Type} {entity payload : String} {read : Json.Reader α}
    {e : DecodeError} (h : decode entity read payload = .error (.decode e)) :
    beginsOtherwise e.message = true := by
  simp only [decode] at h
  split at h
  · cases h
    show beginsOtherwise "empty reply" = true
    decide
  · split at h
    · next refused =>
        cases h
        exact beginsOtherwise_of_read refused
    · split at h
      · cases h
      · split at h
        · cases h
        · cases h
          exact beginsOtherwise_message _

theorem beginsOtherwise_of_state {r : StatusReply} {e : ClientError} (h : r.state = .error e) :
    ∃ refusal : DecodeError, e = .decode refusal ∧ beginsOtherwise refusal.message = true := by
  simp only [StatusReply.state] at h
  split at h
  · split at h
    · cases h
    · cases h
      exact ⟨_, rfl, beginsOtherwise_append "unknown status " _ (by decide)⟩
  · split at h
    · cases h
    · split at h <;> cases h

/-- No number of a reply is infinite or no number, so no status is refused for that. -/
theorem downloadStatus_ne_no_number (requested payload : String) :
    downloadStatus requested payload ≠
      .error (.decode ⟨statusEntity, "progress is not a number"⟩) := by
  -- Whatever refuses a status before, its wording does not begin like this one.
  have unlike : ∀ e : DecodeError, beginsOtherwise e.message = true →
      ClientError.decode e ≠ .decode ⟨statusEntity, "progress is not a number"⟩ := by
    rintro e begins ⟨⟩
    revert begins
    decide
  intro refused
  simp only [downloadStatus] at refused
  split at refused
  · next e given =>
      cases refused
      exact unlike _ (beginsOtherwise_of_decode given) rfl
  · next r given =>
      split at refused
      · next e unknown =>
          cases refused
          obtain ⟨refusal, same, begins⟩ := beginsOtherwise_of_state unknown
          exact unlike refusal begins same.symm
      · simp [isFinite_of_decode given] at refused

/-! ## Statuses -/

section Statuses

variable {payload : String} {members : List (String × Json)}
  (hv : Json.read (Text.trim payload) = .ok (.object members)) (quiet : IsQuiet members)
include hv quiet

/-- A decoder reads an object that reports no error, and refuses what it cannot read. -/
theorem decode_object_eq_ok_iff {α : Type} {entity : String} {read : Json.Reader α} {a : α} :
    decode entity read payload = .ok a ↔ read (.object members) = .ok a := by
  simp [decode_eq_judge hv, judge_eq_ok_iff, isQuiet_iff.1 quiet]

theorem isOk_downloadStatus_object_iff (requested : String) :
    (∃ status, downloadStatus requested payload = .ok status) ↔ HoldsStatus members := by
  simp only [isOk_downloadStatus_iff_decode, decode_object_eq_ok_iff hv quiet]
  constructor
  · rintro ⟨r, read, known⟩
    obtain ⟨name, progress, completed, word, few, all⟩ := isOk_status_object_iff.1 ⟨r, read⟩
    refine ⟨name, progress, completed, ?_, few, all⟩
    rcases word with none | ⟨v, one, null | ⟨s, rfl⟩⟩
    · exact .inl none
    · exact .inr ⟨v, one, .inl null⟩
    · have said := ((takesStatus_of_read read).status s).2 one
      exact .inr ⟨_, one, .inr ⟨s, rfl, known s said⟩⟩
  · intro holds
    have word : MayBe IsTextOrNull (values ["status"] members) := by
      rcases holds.status with none | ⟨v, one, null | ⟨s, text, -⟩⟩
      · exact .inl none
      · exact .inr ⟨v, one, .inl null⟩
      · exact .inr ⟨v, one, .inr ⟨s, text⟩⟩
    obtain ⟨r, read⟩ := isOk_status_object_iff.2 ⟨holds.modelName, holds.progress,
      holds.completed, word, holds.downloadedBytes, holds.totalBytes⟩
    refine ⟨r, read, fun s said => ?_⟩
    have one := ((takesStatus_of_read read).status s).1 said
    rcases holds.status with none | ⟨v, held, null | ⟨t, text, named⟩⟩
    · simp [none] at one
    · simp [held, null] at one
    · obtain rfl : t = s := by simpa [held, text] using one
      exact named

end Statuses

/-- A status object that reports no error is understood exactly if its members hold what they may,
and is garbled otherwise; what it means is settled member by member. That its progress is no number
is never the reason why a reply is refused. -/
theorem status_objects_mean_what_they_hold {payload : String} {members : List (String × Json)}
    (hv : Json.read (Text.trim payload) = .ok (.object members)) (quiet : IsQuiet members)
    (requested : String) :
    ((∃ status, downloadStatus requested payload = .ok status) ↔ HoldsStatus members) ∧
    (IsGarbled (downloadStatus requested payload) ↔ ¬ HoldsStatus members) ∧
    (∀ status, downloadStatus requested payload = .ok status →
      MeansStatus requested members status) ∧
    ∀ requested' other, downloadStatus requested' other ≠
      .error (.decode ⟨statusEntity, "progress is not a number"⟩) := by
  have passes := isOk_downloadStatus_object_iff hv quiet requested
  refine ⟨passes, ?_, ?_, downloadStatus_ne_no_number⟩
  · have isLocal := (sorts_downloadStatus requested).rest payload
      (not_reportsError_of_read hv (isQuiet_iff.1 quiet))
    rw [isLocal.isGarbled_iff, passes]
  · intro status given
    obtain ⟨r, state, decoded, hs, rfl⟩ := downloadStatus_eq_ok_iff.1 given
    have read := (decode_object_eq_ok_iff hv quiet).1 decoded
    exact meansStatus_of_read (takesStatus_of_read read) (isFinite_of_decode decoded) hs

/-- A status under the other name of its model, with a word for its state. -/
theorem status_objects_mean_what_they_hold_active :
    MeansStatus "mini"
      [("model", .string "phi"), ("progress", .nat 50),
        ("status", .string " In_Progress ")]
      ⟨"phi", ⟨0x4049000000000000⟩, false, .downloading, none, none, none⟩ := by
  have hv : Json.read (Text.trim
      "\x7b\"model\":\"phi\",\"progress\":50,\"status\":\" In_Progress \"\x7d") =
      .ok (.object [("model", .string "phi"), ("progress", .nat 50),
        ("status", .string " In_Progress ")]) := eq_ok_of_toOption (by decide +kernel)
  have given : downloadStatus "mini"
      "\x7b\"model\":\"phi\",\"progress\":50,\"status\":\" In_Progress \"\x7d" =
      .ok ⟨"phi", ⟨0x4049000000000000⟩, false, .downloading, none, none, none⟩ :=
    eq_ok_of_toOption (by decide +kernel)
  obtain ⟨-, -, means, -⟩ := status_objects_mean_what_they_hold hv nofun "mini"
  exact means _ given

end Payload

end ModelDepot
