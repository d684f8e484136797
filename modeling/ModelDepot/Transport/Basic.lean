import ModelDepot.Capability
import ModelDepot.Error

/-!
# Transports

A transport carries calls to a backend and brings back the raw text of the reply, or the reason
why there is none. It decodes nothing.
-/

namespace ModelDepot

inductive TransportKind where
  | native
  | http
  | inMemory
  deriving DecidableEq, Repr

/-- The raw text of a reply, or why there is none. -/
abbrev Reply := Except RequestError String

/-- A reply and the nanoseconds it took to come. -/
structure Response where
  reply : Reply
  elapsed : Nat

/-- What carries calls to a backend. A call may change what later calls are answered. -/
class Transport (τ : Type) where
  kind : τ → TransportKind
  /-- The path or address of the backend. -/
  location : τ → String
  call : τ → Call → Response × τ

/-- A computation that makes calls, one after the other, and goes on with their replies. -/
inductive Dialogue (α : Type) where
  | done (a : α)
  | call (c : Call) (next : Reply → Dialogue α)

namespace Dialogue

def andThen {α β : Type} : Dialogue α → (α → Dialogue β) → Dialogue β
  | done a, f => f a
  | call c next, f => call c fun reply => (next reply).andThen f

instance : Monad Dialogue where
  pure := done
  bind := andThen

def perform {m : Type → Type} [Monad m] {α : Type} (ask : Call → m Reply) : Dialogue α → m α
  | done a => pure a
  | call c next => do perform ask (next (← ask c))

end Dialogue

structure Clocked (τ : Type) where
  transport : τ
  now : Nat

def Clocked.call {τ : Type} [Transport τ] (s : Clocked τ) (c : Call) : Reply × Clocked τ :=
  let (response, transport) := Transport.call s.transport c
  (response.reply, ⟨transport, s.now + response.elapsed⟩)

def Dialogue.over {τ α : Type} [Transport τ] : Dialogue α → Clocked τ → α × Clocked τ
  | .done a, s => (a, s)
  | .call c next, s =>
    let (reply, s) := s.call c
    (next reply).over s

end ModelDepot
