/-!
# Draining

A server runs until it finishes on its own or a shutdown is signalled. After the signal it gets a
drain window, and what has not finished when the window ends is given up.

Instants are counted in milliseconds from the start. They are idealised: a window that ends beyond
what the clock of the runtime can hold ends at its instant all the same.

First the server and the signal race. Both may be ready at the same instant, and then either of
them may be looked at first; the result is the same, because the drain window begins by looking at
the server once more.
-/

namespace LoginService

/-- Something that becomes ready at an instant with a value. -/
structure Ready (α : Type) where
  instant : Nat
  value : α
  deriving Repr

/-- Which of two things that race is looked at first. -/
inductive RaceOrder where
  | serverFirst
  | shutdownFirst
  deriving DecidableEq, Repr

/-- How the race between a server and a shutdown signal ends. -/
inductive RaceEnd (α : Type) where
  | serverDone (server : Ready α)
  | shutdownAt (instant : Nat)
  deriving Repr

/-- Wait for the server or the signal; nothing if neither ever comes. -/
def race {α : Type} (order : RaceOrder) (server : Option (Ready α)) (shutdown : Option Nat) :
    Option (RaceEnd α) :=
  match server, shutdown with
  | none, none => none
  | some s, none => some (.serverDone s)
  | none, some t => some (.shutdownAt t)
  | some s, some t =>
    if s.instant < t then some (.serverDone s)
    else if t < s.instant then some (.shutdownAt t)
    else
      match order with
      | .serverFirst => some (.serverDone s)
      | .shutdownFirst => some (.shutdownAt t)

/-- What draining gives: the output of the server if it finished in time, and when that is known. -/
structure Drained (α : Type) where
  output : Option α
  instant : Nat
  deriving Repr

/-- Give a server from `now` on at most `window` more. It is looked at before its deadline is, so it
is in time at the very end of the window. -/
def awaitWithin {α : Type} (server : Option (Ready α)) (now window : Nat) : Drained α :=
  match server with
  | some s =>
    if s.instant ≤ now + window then ⟨some s.value, max now s.instant⟩ else ⟨none, now + window⟩
  | none => ⟨none, now + window⟩

/-- Run a server until it finishes or the drain window after a shutdown signal ends; nothing if it
would run forever. -/
def drain {α : Type} (order : RaceOrder) (server : Option (Ready α)) (shutdown : Option Nat)
    (window : Nat) : Option (Drained α) :=
  (race order server shutdown).map fun
    | .serverDone s => ⟨some s.value, s.instant⟩
    | .shutdownAt t => awaitWithin server t window

end LoginService
