import Mathlib.Data.List.Permutation
import ModelDepot.Download.Outcome
import ModelDepot.Proofs.Json.Restoring

/-! # Forms of single records

What is written of models, readings and errors is restored, field by field. A field that is left
out when there is nothing to say is read as the value that says nothing.
-/

namespace ModelDepot

open Json Json.Reader

namespace Json

variable {α : Type} {key name : String} {v : Json} {value : Option Json}

@[simp] theorem mem_optMember : (key, v) ∈ optMember name value ↔ key = name ∧ value = some v := by
  cases value with
  | none => simp [optMember]
  | some w => simp [optMember, eq_comm]

@[simp] theorem mem_keys_append {members more : List (String × Json)} :
    key ∈ keys (members ++ more) ↔ key ∈ keys members ∨ key ∈ keys more := by
  simp [keys]

@[simp] theorem mem_keys_optMember : key ∈ keys (optMember name value) ↔
    key = name ∧ value.isSome = true := by
  cases value <;> simp [optMember, keys]

theorem keys_optMember_sublist (name : String) (value : Option Json) :
    (keys (optMember name value)).Sublist [name] := by
  cases value with
  | none => exact List.nil_sublist _
  | some w => exact .refl _

theorem keys_append_sublist {members more : List (String × Json)} {names others : List String}
    (h : (keys members).Sublist names) (h' : (keys more).Sublist others) :
    (keys (members ++ more)).Sublist (names ++ others) := by
  rw [keys, List.map_append]
  exact h.append h'

end Json

namespace Duration

theorem seconds_lt (d : Duration) : d.seconds < UInt64.size :=
  Nat.div_lt_of_lt_mul (by rw [Nat.mul_comm]; exact d.nanos_lt)

theorem subsecNanos_lt (d : Duration) : d.subsecNanos < nanosPerSecond :=
  Nat.mod_lt _ (by decide)

theorem ofParts_seconds (d : Duration) :
    ofParts (.ofNat d.seconds) (.ofNat d.subsecNanos) = .ok d := by
  have small : d.subsecNanos < UInt32.size := Nat.lt_trans d.subsecNanos_lt (by decide)
  have whole : d.seconds * nanosPerSecond + d.subsecNanos = d.nanos := by
    rw [Nat.mul_comm]
    exact Nat.div_add_mod d.nanos nanosPerSecond
  rw [ofParts, UInt64.toNat_ofNat_of_lt' d.seconds_lt, UInt32.toNat_ofNat_of_lt' small, whole,
    ofNanos?, dif_pos d.nanos_lt]
  rfl

theorem readParts_of_perm {s n : Json} {secs : UInt64} {nanos : UInt32}
    {members : List (String × Json)} (hs : u64 s = .ok secs) (hn : u32 n = .ok nanos)
    (perm : [("secs", s), ("nanos", n)].Perm members) :
    readParts none none members = ofParts secs nanos := by
  rcases List.pair_perm.1 perm with rfl | rfl
  · simp [readParts, hs, hn, bind, Except.bind]
  · simp [readParts, hs, hn, bind, Except.bind]

theorem restores_toJson (d : Duration) : Restores Duration.read d.toJson d := by
  intro j reordered
  obtain ⟨held, members', rfl, same, perm⟩ := reordered.exists_members
  have secs := u64_nat d.seconds_lt
  have nanos := u32_nat (Nat.lt_trans d.subsecNanos_lt (by decide))
  cases same with
  | cons first rest =>
      cases rest with
      | cons second none =>
          cases none
          obtain rfl : _ = Json.nat d.seconds := first.eq_number
          obtain rfl : _ = Json.nat d.subsecNanos := second.eq_number
          exact (readParts_of_perm secs nanos perm).trans d.ofParts_seconds

end Duration

theorem DownloadState.restores_word (s : DownloadState) :
    DownloadState.read.Restores (.string s.word) s := by
  cases s <;> exact restores_bare rfl

theorem HealthState.restores_word (s : HealthState) :
    HealthState.read.Restores (.string s.word) s := by
  cases s <;> exact restores_bare rfl

theorem Model.restores_toJson (m : Model) : Model.read.Restores m.toJson m := by
  refine restores_record ⟨m.name, m.description, m.sizeBytes, m.parameterCount, m.downloaded,
    m.recommended, m.tags, m.category, m.version, ()⟩ rfl ⟨rfl, by decide⟩ ?_
    ⟨?_, ?_, ?_, ?_, ?_, ?_, ?_, ?_, ?_, trivial⟩
  · exact keys_append_sublist (keys_append_sublist (keys_append_sublist (.refl _)
      (keys_optMember_sublist ..)) (keys_optMember_sublist ..)) (keys_optMember_sublist ..)
  · exact Field.fits_of_member (by simp) (restores_string m.name)
  · exact Field.fits_of_member (by simp) (restores_string m.description)
  · exact Field.fits_of_member (by simp) (restores_u64 m.sizeBytes)
  · exact Field.fits_of_member (by simp) (restores_u64 m.parameterCount)
  · exact Field.fits_of_member (by simp) (restores_bool m.downloaded)
  · exact Field.fits_of_member (by simp) (restores_bool m.recommended)
  · apply Field.fits_of_optMember
      (if m.tags.isEmpty then none else some (.array (m.tags.map .string))) (by simp)
    · intro v written
      split at written
      · cases written
      · cases written
        exact restores_list_map fun tag _ => restores_string tag
    · intro unwritten
      split at unwritten
      · next none => exact congrArg some (List.isEmpty_iff.1 none).symm
      · cases unwritten
  · exact Field.fits_lenient (by simp) restores_string fun _ => nofun
  · exact Field.fits_lenient (by simp) restores_string fun _ => nofun

theorem HealthStatus.restores_toJson (h : HealthStatus) :
    HealthStatus.read.Restores h.toJson h := by
  refine restores_record ⟨h.state, h.version, h.name, ()⟩ rfl ⟨rfl, by decide⟩ ?_
    ⟨?_, ?_, ?_, trivial⟩
  · exact keys_append_sublist (.refl _) (keys_optMember_sublist ..)
  · exact Field.fits_of_member (by simp) h.state.restores_word
  · exact Field.fits_of_member (by simp) (restores_optString h.version)
  · exact Field.fits_lenient (by simp) restores_string fun _ => nofun

theorem UpdateInfo.restores_toJson (u : UpdateInfo) : UpdateInfo.read.Restores u.toJson u := by
  refine restores_record ⟨u.available, u.currentVersion, u.newVersion, u.releaseNotes,
    u.downloadUrl, ()⟩ rfl ⟨rfl, by decide⟩ (.refl _) ⟨?_, ?_, ?_, ?_, ?_, trivial⟩
  · exact Field.fits_of_member (by simp) (restores_bool u.available)
  · exact Field.fits_of_member (by simp) (restores_optString u.currentVersion)
  · exact Field.fits_of_member (by simp) (restores_optString u.newVersion)
  · exact Field.fits_of_member (by simp) (restores_optString u.releaseNotes)
  · exact Field.fits_of_member (by simp) (restores_optString u.downloadUrl)

theorem Acknowledgement.restores_toJson (a : Acknowledgement) :
    Acknowledgement.read.Restores a.toJson a := by
  refine restores_record ⟨a.status, a.message, a.model, a.fromVersion, a.toVersion, ()⟩ rfl
    ⟨rfl, by decide⟩ (.refl _) ⟨?_, ?_, ?_, ?_, ?_, trivial⟩
  · exact Field.fits_of_member (by simp) (restores_optString a.status)
  · exact Field.fits_of_member (by simp) (restores_optString a.message)
  · exact Field.fits_of_member (by simp) (restores_optString a.model)
  · exact Field.fits_of_member (by simp) (restores_optString a.fromVersion)
  · exact Field.fits_of_member (by simp) (restores_optString a.toVersion)

theorem RequestError.restores_toJson (e : RequestError) :
    RequestError.read.Restores e.toJson e := by
  cases e with
  | network m => exact restores_holding rfl ((restores_string m).map network)
  | http status body =>
      refine restores_fields rfl ⟨status, body, ()⟩ rfl ⟨rfl, by decide⟩ (.refl _)
        ⟨?_, ?_, trivial⟩
      · exact Field.fits_of_member (by simp) (restores_u16 status)
      · exact Field.fits_of_member (by simp) (restores_string body)
  | binding m => exact restores_holding rfl ((restores_string m).map binding)
  | noReply entryPoint => exact restores_holding rfl ((restores_string entryPoint).map noReply)
  | timeout after => exact restores_holding rfl (after.restores_toJson.map timeout)

theorem FailureReason.restores_toJson (r : FailureReason) :
    FailureReason.read.Restores r.toJson r := by
  cases r with
  | rejected m => exact restores_holding rfl ((restores_string m).map rejected)
  | remote m => exact restores_holding rfl ((restores_string m).map remote)
  | alreadyActive => exact restores_bare rfl

theorem RejectedCandidate.restores_toJson (r : RejectedCandidate) :
    RejectedCandidate.read.Restores r.toJson r := by
  refine restores_record ⟨r.candidate, r.reason, ()⟩ rfl ⟨rfl, by decide⟩ (.refl _)
    ⟨?_, ?_, trivial⟩
  · exact Field.fits_of_member (by simp) (restores_string r.candidate)
  · exact Field.fits_of_member (by simp) (restores_string r.reason)

end ModelDepot
