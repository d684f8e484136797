import ModelDepot.Proofs.Json.Wholes
import ModelDepot.Proofs.Reply.Statuses
import ModelDepot.Transport.InMemory

/-! # Replies of the in-memory backend

What the in-memory backend writes, the client decodes: names and messages arrive character for
character, whatever they are made of, and only what is blank counts as left out.
-/

namespace ModelDepot

namespace Json

theorem trim_text_object (members : List (String × Json)) :
    Text.trim (object members).text = (object members).text := by
  have opening : Text.isBlank '{' = false := by decide
  have closing : Text.isBlank '}' = false := by decide
  rw [Text.trim, text, String.toList_ofList, chars]
  simp [Text.trimChars, opening, closing]

end Json

namespace Payload

/-- What a status payload of a whole number spells. -/
def statusValue (model : String) (p : Nat) (completed : Bool) : Json :=
  .object
    [("completed", .bool completed), ("model_name", .string model),
      ("progress", .number (.float (.ofNat p))),
      ("status", .string (if completed then "completed" else "downloading"))]

theorem read_statusPayload (model : String) {p : Nat} (small : 10 * p < 2 ^ 53)
    (completed : Bool) :
    Json.read (Text.trim (statusPayload model (.ofNat p) completed)) =
      .ok (statusValue model p completed) := by
  have finite : (Binary64.ofNat p).isFinite = true := Binary64.isFinite_ofNat (by omega)
  have value : statusPayload model (.ofNat p) completed = (statusValue model p completed).text := by
    rw [statusPayload, statusValue, Json.float, if_pos finite]
  rw [value, statusValue, Json.trim_text_object]
  apply Json.read_text
  refine .object ?_ ?_
  · simp only [List.forall_mem_cons]
    exact ⟨.bool _, .string _, .number (Json.readsBack_ofNat small), .string _,
      List.forall_mem_nil _⟩
  · show ["completed", "model_name", "progress", "status"].Pairwise (· < ·)
    decide

theorem read_errorPayload (e : String) :
    Json.read (Text.trim (errorPayload e)) = .ok (.object [("error", .string e)]) := by
  rw [errorPayload, Json.trim_text_object]
  apply Json.read_text
  refine .object ?_ ?_
  · simp only [List.forall_mem_cons]
    exact ⟨.string _, List.forall_mem_nil _⟩
  · exact List.pairwise_singleton _ _

theorem reportsError_errorPayload {e message : String} :
    ReportsError (Text.trim (errorPayload e)) message ↔
      Text.isBlankText e = false ∧ message = e := by
  rw [reportsError_iff, read_errorPayload]
  have error : remoteError (.object [("error", .string e)]) =
      if Text.isBlankText e then none else some e := rfl
  simp only [Except.ok.injEq, exists_eq_left', error]
  cases Text.isBlankText e <;> simp [eq_comm]

/-- An error that is written comes back as it is, and no error of a blank one. -/
def EchoesErrors {α : Type} (decoder : String → Except ClientError α) : Prop :=
  ∀ e message, decoder (errorPayload e) = .error (.remote message) ↔
    Text.isBlankText e = false ∧ message = e

theorem Sorts.echoesErrors {α : Type} {decoder : String → Except ClientError α}
    {empty : Except ClientError α → Prop} (h : Sorts decoder empty) : EchoesErrors decoder := by
  intro e message
  rw [h.remote, reportsError_errorPayload]

theorem decode_statusPayload (model : String) {p : Nat} (small : 10 * p < 2 ^ 53)
    (completed : Bool) :
    decode statusEntity readStatus (statusPayload model (.ofNat p) completed) =
      .ok {
        modelName := some model
        progress := .ofNat p
        completed
        status := some (if completed then "completed" else "downloading")
        downloadedBytes := none
        totalBytes := none } := by
  rw [decode_eq_judge (read_statusPayload model small completed), judge_eq_ok_iff]
  exact ⟨rfl, rfl⟩

/-- What the in-memory backend writes of a download is what the client reads, and so are its
errors, whichever of the five answers they stand for. -/
theorem payloads_are_echoed (requested entity : String) :
    (∀ model p completed, p ≤ 100 →
      downloadStatus requested (statusPayload model (.ofNat p) completed) =
        .ok {
          modelName := if Text.isBlankText model then requested else model
          progress := .ofNat p
          completed
          state := if completed then .completed else .downloading
          error := none
          downloadedBytes := none
          totalBytes := none }) ∧
      EchoesErrors models ∧ EchoesErrors (downloadStatus requested) ∧ EchoesErrors health ∧
      EchoesErrors updateInfo ∧ EchoesErrors (acknowledgement entity) := by
  refine ⟨?_, sorts_models.echoesErrors, (sorts_downloadStatus requested).echoesErrors,
    (sorts_decode "health status" readHealth).echoesErrors,
    (sorts_decode "update info" readUpdate).echoesErrors,
    (sorts_decode entity Acknowledgement.read).echoesErrors⟩
  intro model p completed percent
  rw [downloadStatus_eq_ok_iff]
  refine ⟨_, if completed then .completed else .downloading,
    decode_statusPayload model (by omega) completed, ?_, ?_⟩
  · cases completed with
    | true => exact StatusReply.state_of_word rfl (by decide +kernel)
    | false => exact StatusReply.state_of_word rfl (by decide +kernel)
  · have name : (Text.nonBlank (some model)).getD requested =
        if Text.isBlankText model then requested else model := by
      rw [Text.nonBlank, Option.filter_some]
      cases Text.isBlankText model <;> rfl
    have within : clampPercent (.ofNat p) = .ofNat p :=
      Binary64.clamp_ofNat percent (by decide)
    rw [name, within]

end Payload

end ModelDepot
