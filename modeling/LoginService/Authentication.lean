import LoginService.Store

/-!
# Authentication

A credential is checked by one lookup. If several accounts have it, the one with the lowest id
wins, whatever order the store gave them in; of equal ids the first. That there were several is
logged. An error of the store is passed on, and nothing more is logged about it.
-/

namespace LoginService

/-- The result of checking a credential. -/
inductive LoginOutcome where
  | authenticated (user : LoginUser)
  | rejected
  deriving DecidableEq, Repr

/-- The first account with the lowest id. -/
def lowestId? : List LoginUser → Option LoginUser
  | [] => none
  | u :: rest =>
    match lowestId? rest with
    | none => some u
    | some v => if u.id ≤ v.id then some u else some v

/-- The outcome for the accounts that have a credential. -/
def LoginOutcome.ofUsers (users : List LoginUser) : LoginOutcome :=
  match lowestId? users with
  | some u => .authenticated u
  | none => .rejected

/-- What is logged about the accounts that have a credential. -/
def severalAccounts (c : Credential) (users : List LoginUser) : List Event :=
  if 1 < users.length then
    [{ level := .warn, target := "login_server::services::auth",
       message := "Multiple accounts match one credential, using lowest id",
       fields := [("login_name", .plain c.loginName), ("matches", .number users.length)] }]
  else []

/-- What checking a credential gives. -/
structure Authentication where
  result : Except StoreError LoginOutcome
  store : Store
  events : List Event
  statements : List Statement

/-- Check a credential. -/
def authenticate (s : Store) (c : Credential) : Authentication :=
  let l := s.lookup c
  match l.result with
  | .ok users =>
    ⟨.ok (.ofUsers users), l.store, l.events ++ severalAccounts c users, l.statements⟩
  | .error e => ⟨.error e, l.store, l.events, l.statements⟩

end LoginService
