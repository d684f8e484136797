import ModelDepot.Config.Load

/-!
# The command line

The words of a command line as an invocation: a command, and settings that go before those of the
configuration. The settings may stand before or after the name of the command.

Words are read from the left. A setting that waits for its value takes the next word, unless that
looks like a setting itself; its value is examined only when the next setting or name comes, or at
the end. The words behind the name of a command are read and checked before the rest.
-/

namespace ModelDepot.Console

inductive Command where
  | list (recommended downloaded : Bool)
  | download (name : String)
  | downloadAll (names : List String)
  | remove (name : String)
  | updates (apply : Bool)
  | health
  deriving DecidableEq, Repr

structure Invocation where
  endpoint : Option String
  library : Option String
  timeout : Option UInt64
  command : Command
  deriving DecidableEq, Repr

/-- Why a command line is not an invocation. The first two are requests and no faults. -/
inductive ArgumentError where
  | help
  | version
  /-- There are no words at all. -/
  | nothingAsked
  | missingCommand
  | unknownCommand (word : String)
  | unknownArgument (word : String)
  /-- A setting that stands alone or does not go with another, given with it. -/
  | conflict (word : String)
  /-- A setting without its value. -/
  | missingValue (word : String)
  | badValue (word value : String)
  /-- A value for a setting that takes none. -/
  | surplusValue (word : String)
  | missingName
  deriving DecidableEq, Repr

def ArgumentError.exitCode : ArgumentError → Nat
  | help | version => 0
  | _ => 2

/-- What two dashes may be in front of. -/
inductive Flag where
  | endpoint
  | library
  | timeout
  | recommended
  | downloaded
  | apply
  | help
  | version
  deriving DecidableEq, Repr

namespace Flag

def word : Flag → String
  | endpoint => "endpoint"
  | library => "library"
  | timeout => "timeout"
  | recommended => "recommended"
  | downloaded => "downloaded"
  | apply => "apply"
  | help => "help"
  | version => "version"

/-- The letter that stands for the flag behind a single dash. -/
def letter? : Flag → Option Char
  | help => some 'h'
  | version => some 'V'
  | _ => none

def takesValue : Flag → Bool
  | endpoint | library | timeout => true
  | _ => false

/-- The flags that every level knows. -/
def general : List Flag := [endpoint, library, timeout, help]

end Flag

/-- How many names a level takes. -/
inductive Names where
  | none
  | one
  | any
  deriving DecidableEq, Repr

/-- The words a command has. -/
inductive Verb where
  | list
  | download
  | downloadAll
  | remove
  | updates
  | health
  deriving DecidableEq, Repr

namespace Verb

def word : Verb → String
  | list => "list"
  | download => "download"
  | downloadAll => "download-all"
  | remove => "remove"
  | updates => "updates"
  | health => "health"

def all : List Verb := [list, download, downloadAll, remove, updates, health]

def ofWord? (word : String) : Option Verb :=
  all.find? fun v => v.word == word

/-- The flags a command knows besides the general ones. -/
def flags : Verb → List Flag
  | list => [.recommended, .downloaded]
  | updates => [.apply]
  | _ => []

def names : Verb → Names
  | download | remove => .one
  | downloadAll => .any
  | list | updates | health => .none

end Verb

/-- What can be said at one level of a command line: before the name of a command, or behind it. -/
structure Level where
  flags : List Flag
  names : Names
  /-- The names of commands are known. -/
  takesCommand : Bool

def Level.outer : Level := ⟨.version :: Flag.general, .none, true⟩

def Level.inner (v : Verb) : Level := ⟨v.flags ++ Flag.general, v.names, false⟩

def helpWord : String := "help"

/-- What has been given at one level. -/
structure Given where
  endpoint : Option String
  library : Option String
  timeout : Option UInt64
  /-- Flags without value. -/
  switches : List Flag
  names : List String
  deriving Repr

namespace Given

def nothing : Given := ⟨none, none, none, [], []⟩

def isEmpty (g : Given) : Bool :=
  g.endpoint.isNone && g.library.isNone && g.timeout.isNone && g.switches.isEmpty &&
    g.names.isEmpty

def has (g : Given) : Flag → Bool
  | .endpoint => g.endpoint.isSome
  | .library => g.library.isSome
  | .timeout => g.timeout.isSome
  | f => g.switches.contains f

/-- Takes a flag with its value. A flag is given once; then its value is examined. -/
def set (g : Given) (f : Flag) (value : String) : Except ArgumentError Given :=
  if g.has f then .error (.conflict f.word)
  else
    match f with
    | .endpoint => .ok { g with endpoint := some value }
    | .library =>
      if value.isEmpty then .error (.missingValue f.word) else .ok { g with library := some value }
    | .timeout =>
      match Config.parseWord value with
      | some n => .ok { g with timeout := some n }
      | none => .error (.badValue f.word value)
    | _ => .ok g

/-- Takes a flag without value. Those that ask for help or the version end the reading. -/
def switch (g : Given) (f : Flag) : Except ArgumentError Given :=
  match f with
  | .help => .error .help
  | .version => .error .version
  | f =>
    if g.has f then .error (.conflict f.word) else .ok { g with switches := f :: g.switches }

end Given

/-- How far a level has been read. -/
structure Progress where
  given : Given
  /-- A flag that was met and not examined yet, with its value once that is there. -/
  pending : Option (Flag × Option String)
  /-- Two dashes have been met: all that follows are names. -/
  namesOnly : Bool
  deriving Repr

namespace Progress

def start : Progress := ⟨.nothing, none, false⟩

/-- Examines the pending flag. -/
def settle (p : Progress) : Except ArgumentError Progress :=
  match p.pending with
  | none => .ok p
  | some (f, none) => .error (.missingValue f.word)
  | some (f, some value) => (p.given.set f value).map fun given => { p with given, pending := none }

def isWaiting (p : Progress) : Bool :=
  p.pending.any fun (_, value) => value.isNone

/-- Takes a flag with the value attached to it, if one is. -/
def flag (p : Progress) (f : Flag) (attached : Option String) : Except ArgumentError Progress := do
  match f.takesValue, attached with
  | true, some value =>
    let p ← p.settle
    return { p with given := ← p.given.set f value }
  | true, none =>
    let p ← p.settle
    return { p with pending := some (f, none) }
  | false, some _ => .error (.surplusValue f.word)
  | false, none =>
    let p ← p.settle
    return { p with given := ← p.given.switch f }

def letters (level : Level) (word : String) (p : Progress) :
    List Char → Except ArgumentError Progress
  | [] => .ok p
  | c :: cs =>
    match level.flags.find? fun f => f.letter? == some c with
    | none => .error (.unknownArgument word)
    | some f =>
      match p.flag f none with
      | .ok p => letters level word p cs
      | .error e => .error e

/-- Why a word that is neither flag nor name is refused. -/
def refusal (level : Level) (p : Progress) (word : String) : ArgumentError :=
  let isCommand := word == helpWord || (Verb.ofWord? word).isSome
  if level.takesCommand && !(p.namesOnly && isCommand) then .unknownCommand word
  else .unknownArgument word

def name (level : Level) (p : Progress) (word : String) : Except ArgumentError Progress :=
  let taken :=
    match level.names with
    | .none => false
    | .one => p.given.names.isEmpty
    | .any => true
  if taken then
    p.settle.map fun p => { p with given := { p.given with names := p.given.names ++ [word] } }
  else .error (refusal level p word)

end Progress

/-- How a word looks. -/
inductive Look where
  | dashes
  | long (name : String) (attached : Option String)
  | short (letters : List Char)
  | plain

/-- Two dashes alone, two dashes and a name with perhaps a value behind an equals sign, a dash and
letters, or anything else. -/
def lookOf (word : String) : Look :=
  match word.toList with
  | ['-', '-'] => .dashes
  | '-' :: '-' :: rest =>
    let name := String.ofList (rest.takeWhile (· != '='))
    match rest.dropWhile (· != '=') with
    | [] => .long name none
    | _ :: value => .long name (some (String.ofList value))
  | '-' :: c :: rest => .short (c :: rest)
  | _ => .plain

/-- Takes a word that names no command. -/
def Progress.word (level : Level) (p : Progress) (word : String) :
    Except ArgumentError Progress :=
  if p.namesOnly then p.name level word
  else
    match lookOf word with
    | .dashes => .ok { p with namesOnly := true }
    | .long name attached =>
      match level.flags.find? fun f => f.word == name with
      | some f => p.flag f attached
      | none => .error (.unknownArgument word)
    | .short letters => p.letters level word letters
    | .plain =>
      match p.pending with
      | some (f, none) => .ok { p with pending := some (f, some word) }
      | _ => p.name level word

/-- Reads the words behind the name of a command. -/
def readInner (level : Level) : Progress → List String → Except ArgumentError Progress
  | p, [] => p.settle
  | p, word :: rest =>
    match p.word level word with
    | .ok p => readInner level p rest
    | .error e => .error e

/-- What a command needs and what does not go together. -/
def commandOf (v : Verb) (g : Given) : Except ArgumentError Command :=
  match v with
  | .list =>
    if g.has .recommended && g.has .downloaded then .error (.conflict Flag.recommended.word)
    else .ok (.list (g.has .recommended) (g.has .downloaded))
  | .download => g.names.head?.elim (.error .missingName) fun n => .ok (.download n)
  | .downloadAll => .ok (.downloadAll g.names)
  | .remove => g.names.head?.elim (.error .missingName) fun n => .ok (.remove n)
  | .updates => .ok (.updates (g.has .apply))
  | .health => .ok .health

/-- What the words behind the word for help come to: the names of commands lead to help on them. -/
def helpOn : List String → ArgumentError
  | [] => .help
  | [word] =>
    if word == helpWord || (Verb.ofWord? word).isSome then .help else .unknownCommand word
  | word :: next :: _ =>
    if word == helpWord || (Verb.ofWord? word).isSome then .unknownCommand next
    else .unknownCommand word

/-- The command and what was given with it, from the words behind its name. -/
def readCommand (v : Verb) (words : List String) : Except ArgumentError (Command × Given) := do
  let p ← readInner (.inner v) .start words
  return (← commandOf v p.given, p.given)

/-- Reads the words of a command line. -/
def readOuter : Progress → List String → Except ArgumentError Invocation
  | p, [] => do
    let p ← p.settle
    .error (if p.given.isEmpty then .nothingAsked else .missingCommand)
  | p, word :: rest =>
    let verb := if p.namesOnly || p.isWaiting then none else Verb.ofWord? word
    match verb with
    | some v => do
      let (command, inner) ← readCommand v rest
      let outer := (← p.settle).given
      return {
        endpoint := inner.endpoint.or outer.endpoint
        library := inner.library.or outer.library
        timeout := inner.timeout.or outer.timeout
        command }
    | none =>
      if !p.namesOnly && !p.isWaiting && word == helpWord then .error (helpOn rest)
      else
        match p.word .outer word with
        | .ok p => readOuter p rest
        | .error e => .error e

namespace Invocation

/-- Reads a command line, the program's own name left out. -/
def read (words : List String) : Except ArgumentError Invocation :=
  readOuter .start words

/-- The settings of an invocation go before those of the configuration. -/
def configure (i : Invocation) (c : Config) : Config :=
  let c := i.endpoint.elim c c.withEndpoint
  let c := i.library.elim c c.withLibrary
  i.timeout.elim c c.withTimeout

end Invocation

end ModelDepot.Console
