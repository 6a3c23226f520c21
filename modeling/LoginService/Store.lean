import LoginService.Database.Pool

/-!
# Account stores

Where accounts are looked up: a table in memory, a fixed list of rows, or a database. A lookup
gives the matching accounts or an error, the store after it, the events it logs and the statements
it sends to a database server.
-/

namespace LoginService

/-- A table of accounts in memory. -/
structure MemoryStore where
  records : List UserRecord := []
  /-- Whether every lookup fails as if the table could not be reached. -/
  failing : Bool := false
  /-- How many lookups there were. -/
  queries : Nat := 0
  deriving Repr

/-- An account store. -/
inductive Store where
  | memory (m : MemoryStore)
  /-- Answers every lookup with the same rows. -/
  | fixed (users : List LoginUser)
  | database (p : Pool)
  deriving Repr

/-- What a lookup gives. -/
structure Lookup where
  result : Except StoreError (List LoginUser)
  store : Store
  events : List Event := []
  statements : List Statement := []

namespace MemoryStore

/-- Add an account at the end of the table. -/
def insert (m : MemoryStore) (r : UserRecord) : MemoryStore :=
  { m with records := m.records ++ [r] }

/-- Make lookups fail, or succeed again. -/
def setFailing (m : MemoryStore) (failing : Bool) : MemoryStore :=
  { m with failing := failing }

/-- What a lookup answers. -/
def answer (m : MemoryStore) (c : Credential) : Except StoreError (List LoginUser) :=
  if m.failing then .error (.unavailable "connection refused") else .ok (matching m.records c)

/-- The table after a lookup: one more is counted, whether or not it failed. -/
def counted (m : MemoryStore) : MemoryStore :=
  { m with queries := m.queries + 1 }

end MemoryStore

namespace Store

/-- Look a credential up. -/
def lookup (s : Store) (c : Credential) : Lookup :=
  match s with
  | .memory m => ⟨m.answer c, .memory m.counted, [], []⟩
  | .fixed users => ⟨.ok users, s, [], []⟩
  | .database p =>
    let r := p.lookup c
    ⟨r.result.mapError .query, .database r.pool, [Pool.lookupEvent r.result], r.statements⟩

end Store

end LoginService
