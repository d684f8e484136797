import ModelDepot.Config.Basic
import ModelDepot.Error

/-!
# Failures

What an action with the backend may fail with, and how a failure that ends a program is shown: what
failed, and below it what that was caused by.
-/

namespace ModelDepot

/-- What an action fails with. -/
inductive DepotError where
  /-- There is no backend. -/
  | unavailable (u : TransportUnavailable)
  | client (e : ClientError)
  | batch (e : BatchError)
  | config (e : ConfigError)
  deriving DecidableEq, Repr

/-- What failed, in words, and its causes, the nearest one first. -/
structure Failure where
  message : String
  causes : List String
  deriving DecidableEq, Repr

def ConfigError.failure (e : ConfigError) : Failure :=
  ⟨e.message,
    match e with
    | .unreadable _ fault => [fault.message]
    | .malformed reason => [reason]
    | .invalidValue _ _ => []⟩

def BatchError.failure (e : BatchError) : Failure :=
  ⟨e.message,
    match e with
    | .listing e => [e.message]
    | .empty => []⟩

def DepotError.failure : DepotError → Failure
  | unavailable u => ⟨u.message, []⟩
  | client e => ⟨e.message, []⟩
  | batch e => e.failure
  | config e => e.failure

namespace Failure

/-- The failure as the cause of another. -/
def within (f : Failure) (message : String) : Failure :=
  ⟨message, f.message :: f.causes⟩

def linesOf (s : String) : List String :=
  s.splitOn "\n"

def indented (first others : String) (s : String) : List String :=
  match linesOf s with
  | [] => []
  | line :: rest => (first ++ line) :: rest.map (others ++ ·)

/-- A blank-padded number and a colon. -/
def numeral (n : Nat) : String :=
  let digits := decimalText n
  String.ofList (List.replicate (5 - digits.length) ' ') ++ digits ++ ": "

def numbered : Nat → List String → List String
  | _, [] => []
  | n, cause :: rest => indented (numeral n) "       " cause ++ numbered (n + 1) rest

/-- The lines of causes. A single one has no number. -/
def causeLines : List String → List String
  | [] => []
  | [cause] => ["", "Caused by:"] ++ indented "    " "    " cause
  | causes => ["", "Caused by:"] ++ numbered 0 causes

/-- The failure as the last words of a program. -/
def lines (f : Failure) : List String :=
  linesOf ("Error: " ++ f.message) ++ causeLines f.causes

end Failure

end ModelDepot
