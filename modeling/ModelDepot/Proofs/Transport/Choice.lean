import Mathlib.Data.List.Forall2
import ModelDepot.Proofs.Transport.Offering

/-! # Which backend is found

The first library that can be used is the backend, and nothing behind it is opened. Without one the
endpoint is the backend if it is an address of an HTTP service and, where it is to be probed, gives
an answer that can be read. Otherwise every candidate has been refused once and there is none.
-/

namespace ModelDepot

namespace Path

variable {paths kept : List String}

theorem pairwise_distinct (paths : List String) :
    (distinct paths).Pairwise fun p q => same p q = false := by
  have grows : ∀ kept : List String, kept.Pairwise (fun p q => same p q = false) →
      (paths.foldl (fun kept p => if kept.any (same p) then kept else kept ++ [p]) kept).Pairwise
        fun p q => same p q = false := by
    induction paths with
    | nil => exact fun _ h => h
    | cons p paths ih =>
        intro kept h
        apply ih
        dsimp only
        split
        · exact h
        · next fresh =>
            refine List.pairwise_append.2 ⟨h, List.pairwise_singleton _ _, fun q hq r hr => ?_⟩
            obtain rfl := List.mem_singleton.1 hr
            have differs : same r q = false := by
              simpa using fun hs => fresh (List.any_eq_true.2 ⟨q, hq, hs⟩)
            simpa only [same, Bool.beq_comm] using differs
  exact grows [] .nil

end Path

namespace Endpoint

theorem secure_of_readHttp {secure : Bool} {cs : List Char} {e : Endpoint}
    (h : readHttp secure cs = .ok e) : e.secure = secure := by
  simp only [readHttp, bind, Except.bind] at h
  split at h
  · cases h
  · cases h
    rfl

theorem scheme_of_read {s : String} {e : Endpoint} (h : read s = .ok e) :
    ∃ rest, splitScheme (cleaned s) = some (if e.secure then "https" else "http", rest) := by
  unfold read at h
  split at h
  · cases h
  · next rest hs => exact ⟨rest, by rw [hs, secure_of_readHttp h]; rfl⟩
  · next rest hs => exact ⟨rest, by rw [hs, secure_of_readHttp h]; rfl⟩
  · split at h <;> cases h

end Endpoint

/-- An answer over HTTP that the client can take: its status is a registered one, whatever it says,
and its body is text. -/
def Exchange.IsReadable : Exchange → Prop
  | .answered status body =>
    isRegistered status = true ∧ (String.fromUTF8? ⟨body.toArray⟩).isSome = true
  | .broken _ | .silent => False

theorem probeResult_response_iff {x : Exchange} {timeout : Duration} :
    probeResult (x.response timeout).reply = .ok () ↔ x.IsReadable := by
  cases x with
  | broken reason | silent => simp [Exchange.response, probeResult, Exchange.IsReadable]
  | answered status body =>
      simp only [Exchange.response, Reply.ofAnswer, Exchange.IsReadable]
      cases hr : isRegistered status with
      | false => simp [probeResult]
      | true =>
          cases ht : String.fromUTF8? ⟨body.toArray⟩ with
          | none => simp [probeResult]
          | some text => by_cases hs : 200 ≤ status ∧ status < 300 <;> simp [probeResult, hs]

namespace Surroundings

/-- A probe is sent, and what comes is an answer that can be read. -/
def Reaches (w : Surroundings) (c : TransportConfig) (endpoint : Endpoint) : Prop :=
  c.requestTimeout.nanos ≠ 0 ∧
    (w.service endpoint [] (endpoint.target .healthCheck)).IsReadable

/-- The libraries are refused one after the other, each for its own reason. -/
def Rejects (w : Surroundings) : List String → List RejectedCandidate → Prop :=
  List.Forall₂ fun path r => r.candidate = path ∧ w.Refuses path r.reason

/-- What a search among candidates finds. The conditions of any two rules exclude each other. -/
inductive Finds (w : Surroundings) (c : TransportConfig) (candidates : List String) :
    Connection → Prop where
  /-- The first library that can be used. -/
  | native {before path later library} (complete) : candidates = before ++ path :: later →
      (∀ p ∈ before, ¬ w.IsUsable p) → w.Holds path library →
      Finds w c candidates
        ⟨.ok (.native ⟨path, library, complete, []⟩), before ++ [path], []⟩
  /-- Without one, the endpoint, which is not to be probed. -/
  | unprobed {endpoint} : (∀ p ∈ candidates, ¬ w.IsUsable p) →
      Endpoint.read c.endpoint = .ok endpoint → c.probeEndpoint = false →
      Finds w c candidates ⟨.ok (.http (w.http c endpoint)), candidates, []⟩
  /-- The endpoint after a probe. -/
  | probed {endpoint} : (∀ p ∈ candidates, ¬ w.IsUsable p) →
      Endpoint.read c.endpoint = .ok endpoint → c.probeEndpoint = true → w.Reaches c endpoint →
      Finds w c candidates
        ⟨.ok (.http { w.http c endpoint with requests := [endpoint.target .healthCheck] }),
          candidates, [endpoint.target .healthCheck]⟩
  /-- Nothing: what is configured is no address of an HTTP service. -/
  | invalid {rejected fault} : (∀ p ∈ candidates, ¬ w.IsUsable p) →
      Endpoint.read c.endpoint = .error fault → w.Rejects candidates rejected →
      Finds w c candidates
        ⟨.error ⟨rejected, c.endpoint, Endpoint.invalidMessage c.endpoint fault⟩, candidates, []⟩
  /-- Nothing: the probe fails, if there is any time for it at all. -/
  | unreachable {rejected endpoint e} : (∀ p ∈ candidates, ¬ w.IsUsable p) →
      Endpoint.read c.endpoint = .ok endpoint → c.probeEndpoint = true →
      ¬ w.Reaches c endpoint → ((w.http c endpoint).call .healthCheck).1.reply = .error e →
      w.Rejects candidates rejected →
      Finds w c candidates
        ⟨.error ⟨rejected, c.endpoint, e.message⟩, candidates,
          if c.requestTimeout.nanos = 0 then [] else [endpoint.target .healthCheck]⟩

variable {w : Surroundings} {c : TransportConfig} {candidates : List String}
  {rejected : List RejectedCandidate} {endpoint : Endpoint}

/-! ## Candidates -/

theorem tryAll_of_rejects (h : w.Rejects candidates rejected) :
    w.tryAll candidates = ⟨candidates, rejected, none⟩ := by
  induction h with
  | nil => rfl
  | @cons path r paths rejected refused _ ih =>
      obtain ⟨rfl, refuses⟩ := refused
      obtain ⟨e, fails, reason⟩ := native_of_refuses refuses
      simp only [tryAll, fails, ih, reason]

theorem exists_rejects (h : ∀ p ∈ candidates, ¬ w.IsUsable p) :
    ∃ rejected, w.Rejects candidates rejected := by
  induction candidates with
  | nil => exact ⟨[], .nil⟩
  | cons path paths ih =>
      obtain ⟨reason, refuses⟩ := exists_refuses (h path List.mem_cons_self)
      obtain ⟨rejected, later⟩ := ih fun p hp => h p (List.mem_cons_of_mem path hp)
      exact ⟨⟨path, reason⟩ :: rejected, .cons ⟨rfl, refuses⟩ later⟩

theorem tryAll_of_holds {before : List String} {path : String} {library : Library}
    (complete : library.lacks = none) (h : ∀ p ∈ before, ¬ w.IsUsable p)
    (holds : w.Holds path library) (later : List String) :
    ∃ rejected, w.tryAll (before ++ path :: later) =
      ⟨before ++ [path], rejected, some ⟨path, library, complete, []⟩⟩ := by
  induction before with
  | nil =>
      obtain ⟨_, binds⟩ := native_of_holds holds
      exact ⟨[], by simp only [List.nil_append, tryAll, binds]⟩
  | cons p before ih =>
      obtain ⟨reason, refuses⟩ := exists_refuses (h p List.mem_cons_self)
      obtain ⟨e, fails, _⟩ := native_of_refuses refuses
      obtain ⟨rejected, later⟩ := ih fun q hq => h q (List.mem_cons_of_mem p hq)
      exact ⟨⟨p, e.message⟩ :: rejected, by simp only [List.cons_append, tryAll, fails, later]⟩

theorem exists_first (w : Surroundings) (candidates : List String) :
    (∃ before path later library, candidates = before ++ path :: later ∧
      (∀ p ∈ before, ¬ w.IsUsable p) ∧ w.Holds path library) ∨
    ∀ p ∈ candidates, ¬ w.IsUsable p := by
  induction candidates with
  | nil => exact .inr (List.forall_mem_nil _)
  | cons path paths ih =>
      by_cases usable : w.IsUsable path
      · obtain ⟨library, holds⟩ := usable
        exact .inl ⟨[], path, paths, library, rfl, List.forall_mem_nil _, holds⟩
      rcases ih with ⟨before, p, later, library, rfl, refused, holds⟩ | refused
      · exact .inl ⟨path :: before, p, later, library, rfl,
          List.forall_mem_cons.2 ⟨usable, refused⟩, holds⟩
      · exact .inr (List.forall_mem_cons.2 ⟨usable, refused⟩)

/-! ## The endpoint -/

theorem requests_call : ((w.http c endpoint).call .healthCheck).2 =
    { w.http c endpoint with
      requests := if c.requestTimeout.nanos = 0 then [] else [endpoint.target .healthCheck] } := by
  unfold Http.call
  split
  · next h => simp only [http] at h; simp [http, h]
  · next h => simp only [http] at h; simp [http, h]

theorem probeResult_call_iff :
    probeResult ((w.http c endpoint).call .healthCheck).1.reply = .ok () ↔
      w.Reaches c endpoint := by
  unfold Http.call Reaches
  split
  · next h =>
      simp only [http] at h
      simp [probeResult, h]
  · next h =>
      simp only [http] at h ⊢
      simp only [probeResult_response_iff, h, not_false_eq_true, true_and, ne_eq]

theorem over_probe (h : Http) : probe.over ⟨h, 0⟩ =
    (probeResult (h.call .healthCheck).1.reply,
      ⟨(h.call .healthCheck).2, 0 + (h.call .healthCheck).1.elapsed⟩) := by
  simp only [probe, Dialogue.over, Clocked.call, Transport.call]

theorem judge_probe {h : Http} {result : Except RequestError Unit} (attempts : Attempts)
    (comes : probeResult (h.call .healthCheck).1.reply = result) :
    c.judge attempts (probe.over ⟨h, 0⟩) =
      ⟨(result.mapError fun e => c.unavailable attempts.rejected e.message).map
          fun _ => .http (h.call .healthCheck).2,
        attempts.opened, (h.call .healthCheck).2.requests⟩ := by
  rw [over_probe, comes]
  generalize h.call .healthCheck = answered
  cases result <;> rfl

theorem connectHttp_of_probe {result : Except RequestError Unit} (attempts : Attempts)
    (reads : Endpoint.read c.endpoint = .ok endpoint) (probes : c.probeEndpoint = true)
    (comes : probeResult ((w.http c endpoint).call .healthCheck).1.reply = result) :
    w.connectHttp c attempts =
      ⟨(result.mapError fun e => c.unavailable attempts.rejected e.message).map
          fun _ => .http ((w.http c endpoint).call .healthCheck).2,
        attempts.opened, ((w.http c endpoint).call .healthCheck).2.requests⟩ := by
  simp only [connectHttp, reads, probes, if_true]
  exact judge_probe attempts comes

theorem connect_of_rejects {usual : List String}
    (h : w.Rejects (c.candidates usual) rejected) :
    w.connect c usual = w.connectHttp c ⟨c.candidates usual, rejected, none⟩ := by
  simp only [connect, tryAll_of_rejects h]

/-! ## The search -/

theorem connect_of_finds {usual : List String} {found : Connection}
    (h : w.Finds c (c.candidates usual) found) : w.connect c usual = found := by
  cases h with
  | @native before path later library complete split refused holds =>
      obtain ⟨rejected, tried⟩ := tryAll_of_holds complete refused holds later
      simp only [connect, split, tried]
  | unprobed refused reads unprobed =>
      obtain ⟨rejected, rejects⟩ := exists_rejects refused
      simp [connect_of_rejects rejects, connectHttp, reads, unprobed, http]
  | probed refused reads probes reaches =>
      obtain ⟨rejected, rejects⟩ := exists_rejects refused
      rw [connect_of_rejects rejects,
        connectHttp_of_probe _ reads probes (probeResult_call_iff.2 reaches), requests_call,
        if_neg reaches.1]
      rfl
  | invalid refused faulty rejects =>
      simp only [connect_of_rejects rejects, connectHttp, faulty, TransportConfig.unavailable]
  | @unreachable rejected endpoint e refused reads probes unreached fails rejects =>
      have failed : probeResult ((w.http c endpoint).call .healthCheck).1.reply = .error e := by
        have unanswered := mt probeResult_call_iff.1 unreached
        rw [fails] at unanswered ⊢
        cases e with
        | http status body => exact absurd rfl unanswered
        | _ => rfl
      rw [connect_of_rejects rejects, connectHttp_of_probe _ reads probes failed, requests_call]
      rfl

theorem exists_finds (w : Surroundings) (c : TransportConfig) (candidates : List String) :
    ∃ found, w.Finds c candidates found := by
  rcases exists_first w candidates with ⟨before, path, later, library, split, refused, holds⟩ |
    refused
  · exact ⟨_, .native (Library.lacks_eq_none_iff.2 holds.2) split refused holds⟩
  obtain ⟨rejected, rejects⟩ := exists_rejects refused
  cases reads : Endpoint.read c.endpoint with
  | error fault => exact ⟨_, .invalid refused reads rejects⟩
  | ok endpoint =>
      cases probes : c.probeEndpoint with
      | false => exact ⟨_, .unprobed refused reads probes⟩
      | true =>
          by_cases reaches : w.Reaches c endpoint
          · exact ⟨_, .probed refused reads probes reaches⟩
          · cases fails : ((w.http c endpoint).call .healthCheck).1.reply with
            | error e => exact ⟨_, .unreachable refused reads probes reaches fails rejects⟩
            | ok text =>
                have answered := probeResult_call_iff.1 (by rw [fails]; rfl)
                exact absurd answered reaches

/-- A search finds what the rules say and nothing else. No two of the candidates that it tries in
turn are the same path, and no endpoint is of another scheme than `http` and `https`. -/
theorem connect_finds (w : Surroundings) (c : TransportConfig) (usual : List String) :
    (∀ found, w.connect c usual = found ↔ w.Finds c (c.candidates usual) found) ∧
    (c.candidates usual).Pairwise (fun p q => Path.same p q = false) ∧
    ∀ endpoint, Endpoint.read c.endpoint = .ok endpoint → ∃ rest,
      Endpoint.splitScheme (Endpoint.cleaned c.endpoint) =
        some (if endpoint.secure then "https" else "http", rest) := by
  refine ⟨fun found => ⟨?_, connect_of_finds⟩, Path.pairwise_distinct _,
    fun endpoint => Endpoint.scheme_of_read⟩
  rintro rfl
  obtain ⟨found, finds⟩ := exists_finds w c (c.candidates usual)
  rwa [connect_of_finds finds]

/-- A service that answers the probe with success, but not with text, is not taken. -/
theorem unreadable_answer_is_no_answer :
    let w : Surroundings := ⟨fun _ => .error "", fun _ _ _ => .answered 200 [0xff]⟩
    let c : TransportConfig := ⟨[], false, "http://localhost:5000", true, 10⟩
    (Endpoint.read c.endpoint).isOk = true ∧ (w.connect c []).requests = ["/api/health"] ∧
    (w.connect c []).backend.isOk = false := by
  decide +kernel

end Surroundings

end ModelDepot
