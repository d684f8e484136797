import ModelDepot.Text.Lossy
import ModelDepot.Text.Quoted
import ModelDepot.Transport.Basic

/-!
# Native libraries

A library offers a capability if it exports one of the spellings of its entry point. Only a library
that offers all of them is used; each of them is bound to the first spelling there is.
-/

namespace ModelDepot

/-- One entry into a library, with the model name that is passed in. -/
structure Entry where
  entryPoint : String
  argument : Option String
  deriving DecidableEq, Repr

structure Library where
  exports : List String
  /-- The bytes an entry gives back, or none for no reply at all, given the entries before it. -/
  answer : List Entry → Entry → Option (List UInt8)

inductive LibraryError where
  | unloadable (reason : String)
  /-- No spelling of the entry point is exported. -/
  | missing (c : Capability)
  deriving DecidableEq, Repr

def LibraryError.message : LibraryError → String
  | unloadable reason => "failed to load library: " ++ reason
  | missing c => "missing entry point " ++ " or ".intercalate c.entryPoints

/-- The first spelling of an entry point that the library exports. -/
def Library.resolve (l : Library) (c : Capability) : Option String :=
  c.entryPoints.find? l.exports.contains

/-- The spelling a capability is bound to, or the capability if there is none. -/
def Library.symbol (l : Library) (c : Capability) : Except Capability String :=
  match l.resolve c with
  | some spelling => .ok spelling
  | none => .error c

/-- The exported names that calls enter by. -/
structure EntryPoints where
  listModels : String
  startDownload : String
  downloadStatus : String
  removeModel : String
  checkForUpdates : String
  applyUpdate : String
  healthCheck : String
  deriving DecidableEq, Repr

/-- The entry that a call makes. -/
def EntryPoints.entry (e : EntryPoints) : Call → Entry
  | .listModels => ⟨e.listModels, none⟩
  | .startDownload model => ⟨e.startDownload, some model⟩
  | .downloadStatus model => ⟨e.downloadStatus, some model⟩
  | .removeModel model => ⟨e.removeModel, some model⟩
  | .checkForUpdates => ⟨e.checkForUpdates, none⟩
  | .applyUpdate => ⟨e.applyUpdate, none⟩
  | .healthCheck => ⟨e.healthCheck, none⟩

/-- Binds one capability after the other, up to the first that the library does not offer. -/
def Library.entryPoints (l : Library) : Except Capability EntryPoints := do
  return {
    listModels := ← l.symbol .listModels
    startDownload := ← l.symbol .startDownload
    downloadStatus := ← l.symbol .downloadStatus
    removeModel := ← l.symbol .removeModel
    checkForUpdates := ← l.symbol .checkForUpdates
    applyUpdate := ← l.symbol .applyUpdate
    healthCheck := ← l.symbol .healthCheck
  }

/-- The first capability that the library does not offer. -/
def Library.lacks (l : Library) : Option Capability :=
  match l.entryPoints with
  | .ok _ => none
  | .error c => some c

/-- A library that offers every capability. -/
structure Native where
  /-- Where it was loaded from. -/
  path : String
  library : Library
  isComplete : library.lacks = none
  /-- The entries made so far. -/
  entries : List Entry

namespace Native

def bind (path : String) (library : Library) : Except LibraryError Native :=
  match h : library.lacks with
  | none => .ok ⟨path, library, h, []⟩
  | some c => .error (.missing c)

def entryPoints (n : Native) : EntryPoints :=
  match h : n.library.entryPoints with
  | .ok entryPoints => entryPoints
  | .error _ => absurd n.isComplete (by simp [Library.lacks, h])

/-- A model name that cannot be passed: its end could not be told. -/
def isUnpassable (name : String) : Bool :=
  name.toList.contains '\x00'

def unpassable (name : String) : RequestError :=
  .binding ("model name " ++ Text.quote name ++ " contains a NUL byte")

/-- The text of a reply: what stands before the first zero byte. -/
def replyText (bytes : List UInt8) : String :=
  Text.lossy (bytes.takeWhile (· != 0))

def enter (n : Native) (c : Call) : Reply × Native :=
  let entry := n.entryPoints.entry c
  (match n.library.answer n.entries entry with
    | some bytes => .ok (replyText bytes)
    | none => .error (.noReply c.capability.entryPoint),
    { n with entries := n.entries ++ [entry] })

def call (n : Native) (c : Call) : Reply × Native :=
  match c.model?.filter isUnpassable with
  | some name => (.error (unpassable name), n)
  | none => n.enter c

instance : Transport Native where
  kind _ := .native
  location n := n.path
  call n c :=
    let (reply, n) := n.call c
    (⟨reply, 0⟩, n)

end Native

end ModelDepot
