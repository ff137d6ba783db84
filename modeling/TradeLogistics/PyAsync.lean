/-
Coroutines that can be interrupted: what `await`, `try`, `except Exception` and
`finally` do to a state.

A coroutine ends in one of three ways. It returns, it raises an `Exception`, or it is
cancelled, and the third is not an `Exception`: `except Exception` lets it pass, while
`finally` runs whatever happened. How an `await` on another system ends is not the
program's choice, so it is an input, a `Fate`; and what the other system did is one
more, since a request may take effect and still be reported as failed.
-/
import Mathlib.Data.List.Basic

set_option autoImplicit false

namespace TradeLogistics.PyAsync

universe u

/-! ## 1. How a coroutine ends -/

/-- An exception: its type, its text, and the `failures` it carries, if it is an
aggregate of others. -/
structure PyException where
  type_name : String
  text : String
  failures : List PyException

inductive Outcome (α : Type*) where
  | returned (value : α)
  | raised (error : PyException)
  | cancelled

/-- A coroutine over a state: how it ends, and the state it leaves. -/
def Async (σ α : Type*) := σ → Outcome α × σ

namespace Async

variable {σ τ α β : Type*}

protected def pure (value : α) : Async σ α := fun s => (.returned value, s)

protected def bind (m : Async σ α) (next : α → Async σ β) : Async σ β := fun s =>
  match m s with
  | (.returned value, s') => next value s'
  | (.raised error, s') => (.raised error, s')
  | (.cancelled, s') => (.cancelled, s')

instance : Monad (Async σ) where
  pure := Async.pure
  bind := Async.bind

/-- `raise error`. -/
def raise (error : PyException) : Async σ α := fun s => (.raised error, s)

/-- `try: body / except Exception as error: recover(error)`. -/
def try_except (body : Async σ α) (recover : PyException → Async σ α) : Async σ α := fun s =>
  match body s with
  | (.returned value, s') => (.returned value, s')
  | (.raised error, s') => recover error s'
  | (.cancelled, s') => (.cancelled, s')

/-- `try: body / finally: final`: the body's end, unless `final` has one of its own. -/
def try_finally (body : Async σ α) (final : Async σ Unit) : Async σ α := fun s =>
  match body s with
  | (ending, s') =>
    match final s' with
    | (.returned (), s'') => (ending, s'')
    | (.raised error, s'') => (.raised error, s'')
    | (.cancelled, s'') => (.cancelled, s'')

/-- Run a coroutine on a part of the state. -/
def on (get : σ → τ) (set : σ → τ → σ) (m : Async τ α) : Async σ α := fun s =>
  ((m (get s)).1, set s (m (get s)).2)

/-- What only reads the state, and may raise. -/
def reading (f : σ → Except PyException α) : Async σ α := fun s =>
  match f s with
  | .ok value => (.returned value, s)
  | .error error => (.raised error, s)

def modify (f : σ → σ) : Async σ Unit := fun s => (.returned (), f s)

@[simp] theorem pure_apply (value : α) (s : σ) :
    (pure value : Async σ α) s = (.returned value, s) :=
  rfl

theorem bind_apply {α β : Type u} (m : Async σ α) (next : α → Async σ β) (s : σ) :
    (m >>= next) s = match m s with
      | (.returned value, s') => next value s'
      | (.raised error, s') => (.raised error, s')
      | (.cancelled, s') => (.cancelled, s') := rfl

end Async

/-! ## 2. Awaiting another system -/

/-- How an `await` ends. -/
inductive Fate where
  | completes
  | raises (error : PyException)
  | cancelled

/-- How a request to another system ends, and whether it took effect there when it
does not complete. -/
structure RemoteCall where
  fate : Fate
  reached : Bool

/-- The call took effect. -/
def RemoteCall.took_effect (call : RemoteCall) : Bool :=
  match call.fate with
  | .completes => true
  | _ => call.reached

namespace Async

variable {σ : Type*}

/-- An `await` whose end is its fate. -/
def await (fate : Fate) : Async σ Unit := fun s =>
  match fate with
  | .completes => (.returned (), s)
  | .raises error => (.raised error, s)
  | .cancelled => (.cancelled, s)

/-- A request, and its effect where it takes one. -/
def send (call : RemoteCall) (effect : σ → σ) : Async σ Unit := fun s =>
  await call.fate (if call.took_effect then effect s else s)

end Async

/-- The end of what comes after an `await`: its own, if the `await` completes. -/
def Fate.then {α : Type*} (fate : Fate) (ending : Outcome α) : Outcome α :=
  match fate with
  | .completes => ending
  | .raises error => .raised error
  | .cancelled => .cancelled

@[simp] theorem Fate.completes_then {α : Type*} (ending : Outcome α) :
    Fate.completes.then ending = ending := rfl

@[simp] theorem Fate.raises_then {α : Type*} (error : PyException) (ending : Outcome α) :
    (Fate.raises error).then ending = .raised error := rfl

@[simp] theorem Fate.cancelled_then {α : Type*} (ending : Outcome α) :
    Fate.cancelled.then ending = .cancelled := rfl

/-- Nothing returns past an `await` that does not complete. -/
theorem Fate.then_eq_returned {α : Type*} {fate : Fate} {ending : Outcome α} {value : α} :
    fate.then ending = .returned value ↔ fate = .completes ∧ ending = .returned value := by
  cases fate <;> simp

/-! ## 3. One statement at a time

What a block does from a state in which its first statement's end is known. -/

namespace Async

variable {σ : Type*} {α β : Type}

@[simp] theorem await_completes_bind (next : Unit → Async σ β) (s : σ) :
    (await .completes >>= next) s = next () s := rfl

@[simp] theorem await_raises_bind (error : PyException) (next : Unit → Async σ β) (s : σ) :
    (await (.raises error) >>= next) s = (.raised error, s) := rfl

@[simp] theorem await_cancelled_bind (next : Unit → Async σ β) (s : σ) :
    (await .cancelled >>= next) s = (.cancelled, s) := rfl

theorem reading_bind (f : σ → Except PyException α) (next : α → Async σ β) (s : σ) :
    (reading f >>= next) s = match f s with
      | .ok value => next value s
      | .error error => (.raised error, s) := by
  cases h : f s <;> simp only [bind_apply, reading, h]

end Async

end TradeLogistics.PyAsync
