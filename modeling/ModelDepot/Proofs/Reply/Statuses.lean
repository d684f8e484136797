import ModelDepot.Proofs.Json.Proper
import ModelDepot.Proofs.Reply.Classes

/-! # What a status reply says

A status may name its state with a word, and each state goes by a few of them, whatever their case
and the blanks around them. Only a word means that a download has failed: a status without one is
pending, downloading or completed.
-/

namespace ModelDepot

namespace DownloadState

theorem ofWord?_eq_some_iff {s : String} {state : DownloadState} :
    ofWord? s = some state ↔ (Text.trim s).toLower ∈ state.spellings := by
  simp only [ofWord?]
  generalize (Text.trim s).toLower = word
  constructor
  · intro h
    simpa using List.find?_some h
  · intro h
    cases state <;> simp only [spellings, List.mem_cons, List.not_mem_nil, or_false] at h <;>
      rcases h with rfl | rfl | rfl <;> decide

end DownloadState

theorem eq_ok_of_toOption {ε α : Type} {r : Except ε α} {a : α} (h : r.toOption = some a) :
    r = .ok a := by
  cases r with
  | error e => cases h
  | ok b =>
      cases h
      rfl

namespace Payload

/-- What is decoded from a reply was read from a proper value. -/
theorem yields_of_decode {α : Type} {entity payload : String} {read : Json.Reader α} {a : α}
    (h : decode entity read payload = .ok a) : read.Yields a := by
  simp only [decode] at h
  split at h
  · cases h
  · split at h
    · cases h
    · next v given =>
        split at h
        · cases h
        · split at h
          · next found =>
              cases h
              exact ⟨v, Json.isProper_of_read given, found⟩
          · cases h

theorem isFinite_of_decode {payload : String} {r : StatusReply}
    (h : decode statusEntity readStatus payload = .ok r) : r.progress.isFinite = true := by
  obtain ⟨⟨_, progress, _⟩, ⟨-, given, -⟩, rfl⟩ := (yields_of_decode h).of_record
  rcases given with read | absent
  · exact Json.Reader.isFinite_of_yields read
  · obtain rfl : Binary64.zero = progress := Option.some.inj absent
    exact (by decide : Binary64.zero.isFinite = true)

theorem isBlankText_of_word {s : String} {state : DownloadState}
    (named : (Text.trim s).toLower ∈ state.spellings) : Text.isBlankText s = false := by
  rw [Bool.eq_false_iff]
  intro blank
  rw [(Text.trim_eq_empty_iff s).2 blank] at named
  revert named
  cases state <;> decide +kernel

theorem StatusReply.state_of_word {r : StatusReply} {s : String} {state : DownloadState}
    (said : r.status = some s) (named : (Text.trim s).toLower ∈ state.spellings) :
    r.state = .ok state := by
  have known := DownloadState.ofWord?_eq_some_iff.2 named
  have names : Text.nonBlank r.status = some s := by
    rw [said, Text.nonBlank, Option.filter_some, isBlankText_of_word named]
    rfl
  simp only [StatusReply.state, names, known]

/-- Only a word says that a download has failed. -/
theorem StatusReply.word_of_state {r : StatusReply} {state : DownloadState}
    (failure : state = .failed ∨ state = .timeout) (h : r.state = .ok state) :
    ∃ s, r.status = some s ∧ (Text.trim s).toLower ∈ state.spellings := by
  rw [StatusReply.state] at h
  split at h
  · next s said =>
      have given : r.status = some s := by
        obtain ⟨given, -⟩ := Option.filter_eq_some_iff.1 said
        exact given
      split at h
      · next known =>
          cases h
          exact ⟨s, given, DownloadState.ofWord?_eq_some_iff.1 known⟩
      · cases h
  · split at h
    · cases h
      simp at failure
    · split at h <;> cases h <;> simp at failure

theorem downloadStatus_eq_ok_iff {requested payload : String} {status : DownloadStatus} :
    downloadStatus requested payload = .ok status ↔
      ∃ r state, decode statusEntity readStatus payload = .ok r ∧ r.state = .ok state ∧
        status = {
          modelName := (Text.nonBlank r.modelName).getD requested
          progress := clampPercent r.progress
          completed := r.completed
          state
          error := none
          downloadedBytes := r.downloadedBytes
          totalBytes := r.totalBytes } := by
  cases hr : decode statusEntity readStatus payload with
  | error e => simp [downloadStatus, hr]
  | ok r =>
      have finite := isFinite_of_decode hr
      cases hs : r.state with
      | error e => simp [downloadStatus, hr, hs]
      | ok state => simp [downloadStatus, hr, hs, finite, eq_comm]

/-! ## Failures -/

/-- The backend says that the download has failed: with an error, or with a word. -/
inductive TellsFailure (payload : String) : (message : String) → Prop where
  | error {message : String} : ReportsError (Text.trim payload) message →
      TellsFailure payload message
  | failed {r : StatusReply} {s : String} : decode statusEntity readStatus payload = .ok r →
      r.status = some s → (Text.trim s).toLower ∈ ["failed", "error", "cancelled"] →
      TellsFailure payload "backend reported status failed"
  | timeout {r : StatusReply} {s : String} : decode statusEntity readStatus payload = .ok r →
      r.status = some s → (Text.trim s).toLower ∈ ["timeout", "timed_out"] →
      TellsFailure payload "backend reported status timeout"

def isFlagged (payload : String) : Bool :=
  (decode statusEntity readStatus payload).toOption.any (·.completed)

inductive IsFailure : Except ClientError DownloadStatus → (message : String) → Prop where
  | error {message : String} : IsFailure (.error (.remote message)) message
  | status {status : DownloadStatus} : status.state = .failed ∨ status.state = .timeout →
      IsFailure (.ok status) ("backend reported status " ++ status.state.word)

theorem isFailure_iff {requested payload message : String} :
    IsFailure (downloadStatus requested payload) message ↔ TellsFailure payload message := by
  constructor
  · intro h
    generalize hd : downloadStatus requested payload = decoded at h
    cases h with
    | error => exact .error (((sorts_downloadStatus requested).remote payload message).1 hd)
    | @status status failure =>
        obtain ⟨r, state, given, hs, rfl⟩ := downloadStatus_eq_ok_iff.1 hd
        obtain ⟨s, said, named⟩ := StatusReply.word_of_state failure hs
        rcases failure with rfl | rfl
        · exact .failed given said named
        · exact .timeout given said named
  · intro h
    cases h with
    | error reports =>
        rw [((sorts_downloadStatus requested).remote payload message).2 reports]
        exact .error
    | @failed r s given said named =>
        have hs : r.state = .ok .failed := StatusReply.state_of_word said named
        rw [downloadStatus_eq_ok_iff.2 ⟨_, _, given, hs, rfl⟩]
        exact .status (.inl rfl)
    | @timeout r s given said named =>
        have hs : r.state = .ok .timeout := StatusReply.state_of_word said named
        rw [downloadStatus_eq_ok_iff.2 ⟨_, _, given, hs, rfl⟩]
        exact .status (.inr rfl)

theorem isFlagged_of_ok {requested payload : String} {status : DownloadStatus}
    (h : downloadStatus requested payload = .ok status) : isFlagged payload = status.completed := by
  obtain ⟨r, state, given, -, rfl⟩ := downloadStatus_eq_ok_iff.1 h
  simp [isFlagged, given, Except.toOption]

theorem isFlagged_of_remote {requested payload message : String}
    (h : downloadStatus requested payload = .error (.remote message)) :
    isFlagged payload = false := by
  have reports := ((sorts_downloadStatus requested).remote payload message).1 h
  rw [isFlagged, ((sorts_decode statusEntity readStatus).remote payload message).2 reports]
  rfl

end Payload

end ModelDepot
