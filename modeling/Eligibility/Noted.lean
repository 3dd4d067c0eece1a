/-
# Values with events

A step of the engine yields a value and the events noted on the way, in order.  A step that may
fail yields either a failure or a value, and keeps its events when it fails: a *trial* is a
noted `Except`.
-/

import Eligibility.Event
import Eligibility.Failure

namespace Eligibility

/-- A value with the events noted on the way to it. -/
structure Noted (α : Type) where
  value : α
  events : List Event := []

namespace Noted

instance : Monad Noted where
  pure a := ⟨a, []⟩
  bind x f :=
    let rest := f x.value
    ⟨rest.value, x.events ++ rest.events⟩

/-- Note an event. -/
def note (event : Event) : Noted Unit := ⟨(), [event]⟩

@[simp] theorem value_pure {α : Type} (a : α) : (pure a : Noted α).value = a := rfl

@[simp] theorem value_bind {α β : Type} (x : Noted α) (f : α → Noted β) :
    (x >>= f).value = (f x.value).value := rfl

@[simp] theorem value_map {α β : Type} (f : α → β) (x : Noted α) : (f <$> x).value = f x.value :=
  rfl

@[simp] theorem events_pure {α : Type} (a : α) : (pure a : Noted α).events = [] := rfl

@[simp] theorem events_bind {α β : Type} (x : Noted α) (f : α → Noted β) :
    (x >>= f).events = x.events ++ (f x.value).events := rfl

@[simp] theorem value_note (event : Event) : (note event).value = () := rfl

@[simp] theorem events_note (event : Event) : (note event).events = [event] := rfl

@[ext] theorem ext {α : Type} {x y : Noted α} (value : x.value = y.value)
    (events : x.events = y.events) : x = y := by
  cases x
  cases y
  cases value
  cases events
  rfl

instance : LawfulMonad Noted := .mk' _
  (fun x => by
    ext1
    · rfl
    · exact List.append_nil _)
  (fun _ _ => rfl)
  (fun x f g => by
    ext1
    · rfl
    · exact List.append_assoc ..)

end Noted

/-- A step that may fail; its events stay noted when it does. -/
abbrev Trial := ExceptT Failure Noted

namespace Trial

/-- What a trial comes to. -/
def result {α : Type} (x : Trial α) : Except Failure α := (ExceptT.run x).value

/-- The events of a trial. -/
def events {α : Type} (x : Trial α) : List Event := (ExceptT.run x).events

/-- Note an event. -/
def note (event : Event) : Trial Unit := ExceptT.lift (Noted.note event)

/-- A step that cannot fail. -/
def ofNoted {α : Type} (x : Noted α) : Trial α := ExceptT.lift x

/-- A step that notes nothing. -/
def ofExcept {α : Type} (x : Except Failure α) : Trial α := ExceptT.mk (pure x)

/-- A failure as a value. -/
def attempt {α : Type} (x : Trial α) : Noted (Except Failure α) := ExceptT.run x

end Trial
end Eligibility
