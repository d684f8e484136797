import ModelDepot.Proofs.Console.Listening

/-! # What the exit code says

A program that finds no backend ends with 2. Any other ends with 0 or 1, and one that downloads ends
with 0 if and only if there was something to download and all of it has completed.
-/

namespace ModelDepot.Console

open Batch (Venture)

theorem exitCode_ofResult (result : Except DepotError Bool) :
    (Ending.ofResult result).exitCode = 0 ∨ (Ending.ofResult result).exitCode = 1 := by
  rcases result with e | _ | _
  · exact .inr rfl
  · exact .inr rfl
  · exact .inl rfl

theorem exitCode_ofResult_eq_zero_iff {result : Except DepotError Bool} :
    (Ending.ofResult result).exitCode = 0 ↔ result = .ok true := by
  rcases result with e | _ | _ <;> simp [Ending.ofResult, Ending.ofFailure, Ending.silent]

/-! ## What is to be downloaded -/

/-- The members that some names ask for: the names, trimmed and each of them once, or if there is no
name the recommended models of a listing that has succeeded. There is at least one. -/
inductive Selected (names : List String) (answer : Except ClientError (List Model))
    (members : List String) : Prop where
  | named : names ≠ [] → members = Batch.membersOf names → members ≠ [] →
      Selected names answer members
  | recommended {models} : names = [] → answer = .ok models →
      members = Batch.membersOf ((models.filter (·.recommended)).map (·.name)) → members ≠ [] →
      Selected names answer members

def planned (names : List String) (answer : Except ClientError (List Model)) :
    Except BatchError (List String) :=
  if names.isEmpty then Batch.choose answer else Batch.settle names

variable {names members : List String} {answer : Except ClientError (List Model)}

theorem planned_eq_ok_iff :
    planned names answer = .ok members ↔ Selected names answer members := by
  cases names with
  | cons name names =>
      simp only [planned, List.isEmpty_cons, Bool.false_eq_true, if_false, Batch.settle_eq_ok_iff]
      constructor
      · intro h
        exact .named (List.cons_ne_nil name names) h.1 h.2
      · intro h
        cases h with
        | named _ all some => exact ⟨all, some⟩
        | recommended none => cases none
  | nil =>
      simp only [planned, List.isEmpty_nil, if_true]
      constructor
      · intro h
        cases answer with
        | error e => cases h
        | ok models =>
            obtain ⟨all, some⟩ := Batch.settle_eq_ok_iff.1 h
            exact .recommended rfl rfl all some
      · intro h
        cases h with
        | named some => exact absurd rfl some
        | recommended _ listed all some =>
            subst listed
            exact Batch.settle_eq_ok_iff.2 ⟨all, some⟩

theorem Selected.settled (h : Selected names answer members) :
    ∃ given, Batch.settle given = .ok members := by
  cases h with
  | named _ all some => exact ⟨_, Batch.settle_eq_ok_iff.2 ⟨all, some⟩⟩
  | recommended _ _ all some => exact ⟨_, Batch.settle_eq_ok_iff.2 ⟨all, some⟩⟩

/-! ## At a terminal in memory -/

namespace Session

variable (s : Session)

def listed : Except ClientError (List Model) :=
  Client.accept Payload.models (s.scene.call .listModels).1

def afterPlan (names : List String) : Session :=
  if names.isEmpty then
    { s with
      scene := { (s.scene.call .listModels).2 with client := s.scene.client.remember s.listed } }
  else s

theorem afterPlan_cons (name : String) (names : List String) : s.afterPlan (name :: names) = s :=
  rfl

theorem holdClient_plan (names : List String) :
    s.scene.holdClient (Batch.plan s.scene.client (selection names)) =
      (planned names s.listed, (s.afterPlan names).scene) := by
  cases names <;> rfl

theorem run_downloadAll (coloured : Bool) (names : List String) :
    ExceptT.run (m := StateM Session) (Console.downloadAll coloured names) s =
      ExceptT.run (m := StateM Session) (downloadPlanned coloured (planned names s.listed))
        { s with scene := (s.afterPlan names).scene } := by
  have talk : (Terminal.talk fun client => Batch.plan client (selection names) :
      StateM Session _) s =
      ((s.scene.holdClient (Batch.plan s.scene.client (selection names))).1,
        { s with
          scene := (s.scene.holdClient (Batch.plan s.scene.client (selection names))).2 }) := rfl
  rw [holdClient_plan] at talk
  exact congrArg (fun r : _ × Session =>
    ExceptT.run (m := StateM Session) (downloadPlanned coloured r.1) r.2) talk

theorem run_conclude (coloured : Bool) (heard : BatchHeard) :
    (ExceptT.run (m := StateM Session) (conclude coloured heard) s).1 =
      .ok heard.verdict.isSuccess := by
  unfold conclude BatchHeard.verdict
  cases toldReport? heard.told <;> rfl

theorem run_downloadPlanned (coloured : Bool) (members : List String) :
    (ExceptT.run (m := StateM Session) (downloadPlanned coloured (.ok members)) s).1 =
      .ok ((s.print ["📥 Downloading " ++ decimalText members.length ++ " model(s)"]).downloadAll
        members fun _ => []).1.verdict.isSuccess :=
  run_conclude _ coloured _

theorem run_download (coloured : Bool) (name : String) :
    (ExceptT.run (m := StateM Session) (Console.download coloured name) s).1 =
      .ok (toldOutcome (s.download name).1).isSuccess := rfl

variable {s}

theorem exitCode_download (coloured : Bool) (name : String) :
    (Ending.ofResult (ExceptT.run (m := StateM Session) (Console.download coloured name)
      s).1).exitCode = 0 ↔ (s.lastOf name).1.poller.HasCompleted := by
  rw [exitCode_ofResult_eq_zero_iff, run_download, Except.ok.injEq, isSuccess_download_iff]

theorem run_downloadPlanned_error (coloured : Bool) (e : BatchError) :
    (ExceptT.run (m := StateM Session) (downloadPlanned coloured (.error e)) s).1 ≠ .ok true := by
  cases e <;> exact nofun

theorem exitCode_downloadAll (coloured : Bool) (names : List String) :
    (Ending.ofResult (ExceptT.run (m := StateM Session) (Console.downloadAll coloured names)
      s).1).exitCode = 0 ↔
      ∃ members, Selected names s.listed members ∧
        ∀ p ∈ ((s.afterPlan names).lastOfAll members).1.batch.pollers, p.HasCompleted := by
  simp only [exitCode_ofResult_eq_zero_iff, run_downloadAll, ← planned_eq_ok_iff]
  cases hp : planned names s.listed with
  | error e => simpa using run_downloadPlanned_error coloured e
  | ok members =>
      obtain ⟨given, settled⟩ := (planned_eq_ok_iff.1 hp).settled
      have same : { s with scene := (s.afterPlan names).scene } = s.afterPlan names := by
        unfold afterPlan
        split <;> rfl
      rw [run_downloadPlanned, Except.ok.injEq, isSuccess_downloadAll_iff settled, same]
      simp only [Except.ok.injEq, exists_eq_left']
      exact Iff.rfl

end Session

/-! ## Whatever happens -/

/-- All that may happen while a command runs: the replies to its own calls, and what becomes of its
poller, or of its batch on a client of which others hold names. -/
structure Unfolding where
  poller : PollerConfig
  replies : Call → Reply
  acts : List Act
  held : ActiveDownloads
  events : List Batch.Event

namespace Unfolding

def venture (u : Unfolding) (members : List String) : Venture :=
  .reached members u.poller u.held u.events

instance : Terminal (ReaderM Unfolding) where
  print _ := pure ()
  complain _ := pure ()
  talk d := fun u => ((d .fresh).perform (m := Id) u.replies).1
  download model := fun u => (Life.fresh model u.poller).told u.acts
  downloadAll members _ := fun u => (u.venture members).company.heardBy members

def exitCode (u : Unfolding) (command : Command) : Nat :=
  (Ending.ofResult (ExceptT.run (m := ReaderM Unfolding) (command.run false) u)).exitCode

def listed (u : Unfolding) : Except ClientError (List Model) :=
  Client.accept Payload.models (u.replies .listModels)

/-- The batch is over: its report has been told, or all that its members have told has been
heard. -/
def IsOver (u : Unfolding) (members : List String) : Prop :=
  (u.venture members).company.tally.remaining = 0 ∨ (u.venture members).company.IsHeardOut

variable {u : Unfolding}

theorem run_conclude (coloured : Bool) (heard : BatchHeard) :
    ExceptT.run (m := ReaderM Unfolding) (conclude coloured heard) u =
      .ok heard.verdict.isSuccess := by
  unfold conclude BatchHeard.verdict
  cases toldReport? heard.told <;> rfl

theorem run_downloadAll (coloured : Bool) (names : List String) :
    ExceptT.run (m := ReaderM Unfolding) (downloadAll coloured names) u =
      ExceptT.run (m := ReaderM Unfolding) (downloadPlanned coloured (planned names u.listed))
        u := by
  cases names <;> rfl

theorem run_downloadPlanned (coloured : Bool) (members : List String) :
    ExceptT.run (m := ReaderM Unfolding) (downloadPlanned coloured (.ok members)) u =
      .ok ((u.venture members).company.heardBy members).verdict.isSuccess :=
  run_conclude coloured _

theorem run_downloadPlanned_error (coloured : Bool) (e : BatchError) :
    ExceptT.run (m := ReaderM Unfolding) (downloadPlanned coloured (.error e)) u ≠ .ok true := by
  cases e <;> exact nofun

/-- What the exit code says of downloads, whatever happens to them and in whatever order. -/
structure Tells (u : Unfolding) : Prop where
  download : ∀ name, u.exitCode (.download name) = 0 ↔
    ((Life.fresh name u.poller).afterAll u.acts).poller.HasCompleted
  downloadAll : ∀ names, (∀ members, Selected names u.listed members → u.IsOver members) →
    (u.exitCode (.downloadAll names) = 0 ↔ ∃ members, Selected names u.listed members ∧
      ∀ i p, (u.venture members).poller? i = some p → p.HasCompleted)
  otherwise : ∀ command, u.exitCode command = 0 ∨ u.exitCode command = 1

theorem tells (u : Unfolding) : u.Tells where
  download name := by
    have runs : ExceptT.run (m := ReaderM Unfolding) (Command.run false (.download name)) u =
      .ok (toldOutcome ((Life.fresh name u.poller).told u.acts)).isSuccess := rfl
    rw [exitCode, exitCode_ofResult_eq_zero_iff, runs, Except.ok.injEq, isSuccess_toldOutcome_iff]
  downloadAll names whole := by
    have runs : ExceptT.run (m := ReaderM Unfolding) (Command.run false (.downloadAll names)) u =
      ExceptT.run (m := ReaderM Unfolding) (downloadPlanned false (planned names u.listed)) u :=
      run_downloadAll false names
    simp only [exitCode, exitCode_ofResult_eq_zero_iff, runs, ← planned_eq_ok_iff] at whole ⊢
    cases hp : planned names u.listed with
    | error e => simpa using run_downloadPlanned_error false e
    | ok members =>
        obtain ⟨given, settled⟩ := (planned_eq_ok_iff.1 hp).settled
        rw [run_downloadPlanned, Except.ok.injEq, venture,
          Batch.isSuccess_verdict_iff settled _ _ _ (whole members hp)]
        simp only [Except.ok.injEq, exists_eq_left']
        exact Iff.rfl
  otherwise command := exitCode_ofResult _

end Unfolding

/-! ## The program -/

namespace Setting

def search (w : Setting) (c : Config) : Connection :=
  w.surroundings.connect c.transport w.usual

def session (w : Setting) (c : Config) (b : Backend) : Session :=
  .fresh b c.downloads.poller w.signal

variable {w : Setting} {words : List String} {command : Command} {c : Config}

/-- What the exit code says of a command line that is understood, under a configuration that
loads. -/
structure Tells (w : Setting) (words : List String) (command : Command) (c : Config) : Prop where
  /-- No command runs: nothing is printed but what was tried, and requested but by the search. -/
  unavailable : ∀ u, (w.search c).backend = .error u →
    (w.run words).exitCode = 2 ∧ (w.run words).output = [] ∧
    (w.run words).requests = (w.search c).requests
  available : ∀ b, (w.search c).backend = .ok b →
    (w.run words).exitCode = 0 ∨ (w.run words).exitCode = 1
  download : ∀ b name, (w.search c).backend = .ok b → command = .download name →
    ((w.run words).exitCode = 0 ↔ ((w.session c b).lastOf name).1.poller.HasCompleted)
  downloadAll : ∀ b names, (w.search c).backend = .ok b → command = .downloadAll names →
    ((w.run words).exitCode = 0 ↔ ∃ members, Selected names (w.session c b).listed members ∧
      ∀ p ∈ (((w.session c b).afterPlan names).lastOfAll members).1.batch.pollers, p.HasCompleted)
  /-- The pollers of a batch are those of the members that are asked for. -/
  members : ∀ b names members, Selected names (w.session c b).listed members →
    (((w.session c b).afterPlan names).lastOfAll members).1.batch.members = members

theorem run_of_prepare (prepared : prepare w.environment w.file words = .ok (command, c)) :
    w.run words = match (w.search c).backend with
      | .error u => .ofEnding (.ofUnavailable false u) (w.search c).requests
      | .ok b => .ofSession (ExceptT.run (m := StateM Session) (command.run false)
            (w.session c b)).2
          (.ofResult (ExceptT.run (m := StateM Session) (command.run false)
            (w.session c b)).1) := by
  simp only [run, prepared]
  rfl

/-- The exit code of the program says whether there is a backend, and whether there was something to
download and all of it has completed. So it does whatever happens while it runs. -/
theorem exit_code_tells_success (w : Setting) (words : List String) {command : Command}
    {c : Config} (prepared : prepare w.environment w.file words = .ok (command, c)) :
    w.Tells words command c ∧ ∀ u : Unfolding, u.Tells := by
  have runs := run_of_prepare prepared
  refine ⟨⟨?_, ?_, ?_, ?_, ?_⟩, Unfolding.tells⟩
  · intro u missing
    rw [runs, missing]
    exact ⟨rfl, rfl, rfl⟩
  · intro b found
    rw [runs, found]
    exact exitCode_ofResult _
  · rintro b name found rfl
    rw [runs, found]
    exact Session.exitCode_download false name
  · rintro b names found rfl
    rw [runs, found]
    exact Session.exitCode_downloadAll false names
  · intro b names members selected
    obtain ⟨given, settled⟩ := selected.settled
    exact Session.members_lastOfAll settled _

/-- Nothing is set, no library can be opened, and there is a service where two models are ready. -/
def withReadyModels : Setting where
  environment := []
  file _ := .missing
  surroundings := ⟨fun _ => .error "missing", fun _ _ target =>
    .answered 200 (if target ∈ ["phi", "gemma"].map ("/api/models/status?name=" ++ ·) then
      "\x7b\"progress\":100,\"completed\":true\x7d" else "\x7b\x7d").toUTF8.toList⟩
  usual := []
  signal _ := false

theorem exists_prepared (w : Setting) (words : List String) (command : Command)
    (understood : (prepare w.environment w.file words).toOption.map (·.1) = some command) :
    ∃ c, prepare w.environment w.file words = .ok (command, c) := by
  cases h : prepare w.environment w.file words with
  | error e => simp [h, Except.toOption] at understood
  | ok result =>
      obtain ⟨found, c⟩ := result
      obtain rfl : found = command := by simpa [h, Except.toOption] using understood
      exact ⟨c, rfl⟩

/-- A download that completes, and a batch of two members that both do. -/
theorem exit_code_tells_success_with_ready_models :
    (∃ c b, prepare withReadyModels.environment withReadyModels.file ["download", "phi"] =
        .ok (.download "phi", c) ∧
      (withReadyModels.search c).backend = .ok b ∧
      (withReadyModels.run ["download", "phi"]).exitCode = 0 ∧
      ((withReadyModels.session c b).lastOf "phi").1.poller.HasCompleted) ∧
    ∃ c b, prepare withReadyModels.environment withReadyModels.file
        ["download-all", "phi", " gemma ", "phi"] =
          .ok (.downloadAll ["phi", " gemma ", "phi"], c) ∧
      (withReadyModels.search c).backend = .ok b ∧
      (withReadyModels.run ["download-all", "phi", " gemma ", "phi"]).exitCode = 0 ∧
      ((withReadyModels.session c b).lastOfAll ["phi", "gemma"]).1.batch.members =
        ["phi", "gemma"] ∧
      ∀ p ∈ ((withReadyModels.session c b).lastOfAll ["phi", "gemma"]).1.batch.pollers,
        p.HasCompleted := by
  constructor
  · obtain ⟨c, prepared⟩ := exists_prepared withReadyModels ["download", "phi"] (.download "phi")
      (by decide +kernel)
    have tells := (exit_code_tells_success withReadyModels _ prepared).1
    have well : (withReadyModels.run ["download", "phi"]).exitCode = 0 := by decide +kernel
    cases found : (withReadyModels.search c).backend with
    | error u =>
        have unavailable := (tells.unavailable u found).1
        omega
    | ok b => exact ⟨c, b, prepared, found, well, (tells.download b "phi" found rfl).1 well⟩
  · obtain ⟨c, prepared⟩ := exists_prepared withReadyModels
      ["download-all", "phi", " gemma ", "phi"] (.downloadAll ["phi", " gemma ", "phi"])
      (by decide +kernel)
    have tells := (exit_code_tells_success withReadyModels _ prepared).1
    have well : (withReadyModels.run ["download-all", "phi", " gemma ", "phi"]).exitCode = 0 := by
      decide +kernel
    cases found : (withReadyModels.search c).backend with
    | error u =>
        have unavailable := (tells.unavailable u found).1
        omega
    | ok b =>
        obtain ⟨members, selected, completed⟩ := (tells.downloadAll b _ found rfl).1 well
        have asked := tells.members b _ members selected
        obtain rfl : members = ["phi", "gemma"] := by
          cases selected with
          | named _ all => exact all.trans (by decide +kernel)
          | recommended none => cases none
        rw [Session.afterPlan_cons] at asked completed
        exact ⟨c, b, prepared, found, well, asked, completed⟩

end Setting

end ModelDepot.Console
