/-
Results with a record of how they came about.

`Logged α` is a value together with the events that led to it, the earliest first.  Work
that records something is written in this monad; `value` forgets the record.
-/
import Rerank.Log.Event

namespace Rerank

/-- A value and the events that led to it. -/
structure Logged (α : Type) where
  /-- The events, the earliest first. -/
  events : List Event
  /-- The value. -/
  value : α
  deriving DecidableEq, Repr

namespace Logged

variable {α β : Type}

/-- A value that nothing led to. -/
protected def pure (a : α) : Logged α := ⟨[], a⟩

/-- Goes on with a value, and keeps the events before those that follow. -/
protected def bind (x : Logged α) (f : α → Logged β) : Logged β :=
  let y := f x.value
  ⟨x.events ++ y.events, y.value⟩

instance : Monad Logged where
  pure := Logged.pure
  bind := Logged.bind

/-- Records an event. -/
def record (e : Event) : Logged Unit := ⟨[e], ()⟩

@[simp] theorem value_pure (a : α) : (pure a : Logged α).value = a := rfl

@[simp] theorem events_pure (a : α) : (pure a : Logged α).events = [] := rfl

@[simp] theorem value_bind (x : Logged α) (f : α → Logged β) :
    (x >>= f).value = (f x.value).value := rfl

@[simp] theorem events_bind (x : Logged α) (f : α → Logged β) :
    (x >>= f).events = x.events ++ (f x.value).events := rfl

@[simp] theorem value_record (e : Event) : (record e).value = () := rfl

@[simp] theorem events_record (e : Event) : (record e).events = [e] := rfl

instance : LawfulMonad Logged :=
  LawfulMonad.mk' Logged
    (fun x => by cases x; simp [Functor.map, Logged.bind, Logged.pure])
    (fun a f => by simp [bind, pure, Logged.bind, Logged.pure])
    (fun x f g => by simp [bind, Logged.bind])

end Logged

end Rerank
