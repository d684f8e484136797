import ModelDepot.Config.Basic
import ModelDepot.Path
import ModelDepot.Text.Lossy
import ModelDepot.Toml.Reader

/-!
# Loading the configuration

The settings come from a file, if there is one, and then from variables of the environment, which
go before it.
-/

namespace ModelDepot

/-- The variables of the environment, each with its bytes. -/
abbrev Environment := List (String × List UInt8)

namespace Environment

/-- The text of a variable. One that is not UTF-8 counts as unset. -/
def text? (env : Environment) (name : String) : Option String :=
  (env.lookup name).bind fun bytes => String.fromUTF8? ⟨bytes.toArray⟩

/-- A variable as a path; bytes that are not UTF-8 are shown by replacements. -/
def path? (env : Environment) (name : String) : Option String :=
  (env.lookup name).map Text.lossy

end Environment

/-- What is found at a path. -/
inductive FileContent where
  | missing
  | fault (f : ReadFault)
  | bytes (b : List UInt8)

namespace Config

def ofToml (text : String) : Except ConfigError Config :=
  match Toml.read text with
  | none => .error (.malformed "not TOML")
  | some v =>
    match Config.read .ignored v.toJson with
    | .error e => .error (.malformed e.message)
    | .ok c => c.validate

/-- A natural number of 64 bits in decimal, with or without a plus sign. -/
def parseWord (s : String) : Option UInt64 :=
  let digits :=
    match s.toList with
    | '+' :: rest => rest
    | cs => cs
  if digits.isEmpty || !digits.all Char.isDigit then none
  else
    let n := (ofBase 10 digits).getD 0
    if n < UInt64.size then some (UInt64.ofNat n) else none

/-- The number in a variable, blanks around it aside. -/
def wordOf (name value : String) : Except ConfigError UInt64 :=
  match parseWord (Text.trim value) with
  | some n => .ok n
  | none => .error (.invalidValue name value)

def withEndpoint (c : Config) (endpoint : String) : Config :=
  { c with transport := { c.transport with endpoint } }

/-- One more library, tried before the others. -/
def withLibrary (c : Config) (path : String) : Config :=
  { c with transport := { c.transport with libraryPaths := path :: c.transport.libraryPaths } }

def withPollInterval (c : Config) (millis : UInt64) : Config :=
  { c with downloads := { c.downloads with pollIntervalMillis := millis } }

def withTimeout (c : Config) (secs : UInt64) : Config :=
  { c with downloads := { c.downloads with timeoutSecs := secs } }

/-- A configuration and what is wrong with it, if anything is. -/
structure Checked where
  config : Config
  problem : Option ConfigError
  deriving DecidableEq, Repr

/-- Takes up a number from a variable that is set. One that is no number ends the changes there. -/
def Checked.number (k : Checked) (lookup : String → Option String) (name : String)
    (change : Config → UInt64 → Config) : Checked :=
  match k.problem, lookup name with
  | none, some value =>
    match wordOf name value with
    | .ok n => { k with config := change k.config n }
    | .error e => { k with problem := some e }
  | _, _ => k

/-- Applies the variables: endpoint, library, poll interval, timeout. What was changed before a
problem stays changed. -/
def applyOverrides (c : Config) (lookup : String → Option String) : Checked :=
  let c := (lookup "KCRIFF_ENDPOINT").elim c c.withEndpoint
  let c := (lookup "KCRIFF_LIBRARY").elim c c.withLibrary
  let k := Checked.mk c none
  let k := k.number lookup "KCRIFF_POLL_INTERVAL_MS" withPollInterval
  let k := k.number lookup "KCRIFF_DOWNLOAD_TIMEOUT_SECS" withTimeout
  { k with problem := k.problem.or k.config.problem? }

/-- The configuration, unless there is a problem. -/
def Checked.result (k : Checked) : Except ConfigError Config :=
  k.problem.elim (.ok k.config) .error

def fileName : String := "config.toml"

/-- The directory that holds the file: the program's own variable, or the user's directory for
configurations. -/
def directory? (env : Environment) : Option String :=
  match env.text? "KCRIFF_HOME" with
  | some home => some home
  | none =>
    let ofUser := (env.path? "XDG_CONFIG_HOME").filter Path.isAbsolute
    let ofHome := (env.path? "HOME").bind fun home =>
      if home.isEmpty then none else some (Path.join home ".config")
    (ofUser.or ofHome).map fun dir => Path.join dir "kcriff"

/-- The configuration in a file. Where there is none, there are the defaults. -/
def ofFile (path : String) : FileContent → Except ConfigError Config
  | .missing => .ok .defaults
  | .fault f => .error (.unreadable path f)
  | .bytes b =>
    match String.fromUTF8? ⟨b.toArray⟩ with
    | some text => ofToml text
    | none => .error (.unreadable path .notText)

def load (env : Environment) (file : String → FileContent) : Except ConfigError Config :=
  let base :=
    match directory? env with
    | some dir =>
      let path := Path.join dir fileName
      ofFile path (file path)
    | none => .ok .defaults
  match base with
  | .error e => .error e
  | .ok c => (c.applyOverrides env.text?).result

end Config

end ModelDepot
