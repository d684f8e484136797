import ModelDepot.Console.Commands
import ModelDepot.Console.Usage

/-!
# The program

From the words of a command line to an exit code. A program that finds no backend ends with 2, one
whose command fails or does not go well with 1.
-/

namespace ModelDepot.Console

/-- The last words of a program, and the code it ends with. -/
structure Ending where
  exitCode : Nat
  output : List String
  errors : List String
  deriving DecidableEq, Repr

namespace Ending

def silent (exitCode : Nat) : Ending :=
  ⟨exitCode, [], []⟩

def ofFailure (f : Failure) : Ending :=
  ⟨1, [], f.lines⟩

/-- Help and version are what was asked for; anything else is a fault. -/
def ofArguments (e : ArgumentError) : Ending :=
  match e with
  | .help | .version => ⟨e.exitCode, e.lines, []⟩
  | _ => ⟨e.exitCode, [], e.lines⟩

/-- The end for want of a backend: what was tried, and what came of it. -/
def ofUnavailable (coloured : Bool) (u : TransportUnavailable) : Ending :=
  let tried (place reason : String) : String :=
    "   " ++ paint coloured .dim place ++ " " ++ reason
  ⟨2, [],
    ("❌ " ++ paint coloured .red "KC-Riff is not available") ::
      (u.attempts.map fun a => tried a.candidate a.reason) ++
      [tried u.endpoint u.endpointReason]⟩

def ofResult : Except DepotError Bool → Ending
  | .ok isWell => silent (if isWell then 0 else 1)
  | .error e => ofFailure e.failure

end Ending

/-- The command, and the configuration with the settings of the command line. -/
def prepare (env : Environment) (file : String → FileContent) (words : List String) :
    Except Ending (Command × Config) :=
  match Invocation.read words with
  | .error e => .error (.ofArguments e)
  | .ok i =>
    match Config.load env file with
    | .error e => .error (.ofFailure e.failure)
    | .ok c => .ok (i.command, i.configure c)

/-- All that a program printed, the code it ended with, and the targets it requested. -/
structure Transcript where
  exitCode : Nat
  output : List String
  errors : List String
  requests : List String
  deriving DecidableEq, Repr

namespace Transcript

/-- A program that ended before it had a backend. -/
def ofEnding (e : Ending) (requests : List String) : Transcript :=
  ⟨e.exitCode, e.output, e.errors, requests⟩

/-- A program that ended on a terminal. -/
def ofSession (s : Session) (e : Ending) : Transcript :=
  ⟨e.exitCode, s.output ++ e.output, s.errors ++ e.errors, s.scene.transport.requests⟩

end Transcript

/-- What is around a program in memory. -/
structure Setting where
  environment : Environment
  file : String → FileContent
  surroundings : Surroundings
  /-- The usual places of libraries. -/
  usual : List String
  /-- The user asks to stop as soon as this holds of the backend and every download rests. -/
  signal : Backend → Bool

def Setting.runOn {α : Type} (w : Setting) (c : Config) (b : Backend)
    (program : Program (StateM Session) α) : Except DepotError α × Session :=
  program.run (Session.fresh b c.downloads.poller w.signal)

def Setting.run (w : Setting) (words : List String) : Transcript :=
  match prepare w.environment w.file words with
  | .error e => .ofEnding e []
  | .ok (command, c) =>
    let found := w.surroundings.connect c.transport w.usual
    match found.backend with
    | .error u => .ofEnding (.ofUnavailable false u) found.requests
    | .ok b =>
      let (result, s) := w.runOn c b (command.run false)
      .ofSession s (.ofResult result)

end ModelDepot.Console
