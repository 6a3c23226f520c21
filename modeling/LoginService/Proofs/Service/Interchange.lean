import LoginService.Proofs.Service.Exchange
import Mathlib.Data.List.Nodup

/-!
# Stores that answer alike

What a login is answered depends on the store only through the result of one lookup, and on that
result only through the account it names. Rows that are the same up to their order name the same
account as long as no two of them have one id, and whatever an error says is not answered. So two
stores of any kinds that give such results are not told apart by any request.
-/

namespace LoginService

open Http

/-! ## The account that rows name, in whatever order they come -/

/-- The winner of rows without a common id is the winner of them in any other order. -/
theorem Lowest.of_perm {users users' : List LoginUser} {u : LoginUser} (h : Lowest users u)
    (hperm : users.Perm users') (hids : (users.map LoginUser.id).Nodup) : Lowest users' u where
  le v hv := h.le v (hperm.mem_iff.mpr hv)
  first := by
    have hu : u ∈ users' := hperm.mem_iff.mp h.mem
    have hids' : (users'.map LoginUser.id).Nodup :=
      (hperm.map LoginUser.id).nodup_iff.mp hids
    cases hf : users'.find? (fun v => v.id == u.id) with
    | none =>
      have hne := List.find?_eq_none.mp hf u hu
      rw [beq_self_eq_true] at hne
      exact absurd rfl hne
    | some v =>
      -- what is found has the id of the winner, and only the winner has it
      have hv : v ∈ users' := List.mem_of_find?_eq_some hf
      have hid : v.id = u.id := by simpa using List.find?_some hf
      rw [List.inj_on_of_nodup_map hids' hv hu hid]

theorem ofUsers_of_perm {users users' : List LoginUser} (hperm : users.Perm users')
    (hids : (users.map LoginUser.id).Nodup) :
    LoginOutcome.ofUsers users = LoginOutcome.ofUsers users' := by
  have hlowest : lowestId? users = lowestId? users' := by
    cases hu : lowestId? users with
    | none =>
      have hnil : users' = [] := by
        rw [lowestId?_eq_none.mp hu] at hperm
        exact hperm.nil_eq.symm
      exact (lowestId?_eq_none.mpr hnil).symm
    | some u =>
      exact (lowestId?_eq_some.mpr ((lowest_of_lowestId? hu).of_perm hperm hids)).symm
  rw [LoginOutcome.ofUsers, LoginOutcome.ofUsers, hlowest]

/-! ## Lookups that are answered alike -/

/-- Two results of a lookup that no answer tells apart: the same rows in any order, no two of one
id, or any two errors. -/
inductive Interchangeable :
    Except StoreError (List LoginUser) → Except StoreError (List LoginUser) → Prop
  | rows {users users' : List LoginUser} : users.Perm users' →
      (users.map LoginUser.id).Nodup → Interchangeable (.ok users) (.ok users')
  | failures (e e' : StoreError) : Interchangeable (.error e) (.error e')

namespace Login

/-- What the result of a lookup is answered. -/
def ofLookup (s : AuthSettings) : Except StoreError (List LoginUser) → Response
  | .ok users => ofOutcome s (.ofUsers users)
  | .error e => ofFailure (.query e)

/-- **The store decides the answer by the result of its lookup alone.** -/
theorem serveCredential_response (s : AuthSettings) (store : Store) (c : Credential) :
    (serveCredential s store c).response = ofLookup s (store.lookup c).result := by
  cases hl : (store.lookup c).result with
  | ok users =>
    rw [serveCredential_of_ok s hl]
    rfl
  | error e =>
    rw [serveCredential_of_error s hl]
    rfl

/-- Results that are interchangeable are answered by the same response. An error is answered by a
fixed body, whatever it says. -/
theorem ofLookup_congr (s : AuthSettings) {a b : Except StoreError (List LoginUser)}
    (h : Interchangeable a b) : ofLookup s a = ofLookup s b := by
  cases h with
  | rows hperm hids => exact congrArg (ofOutcome s) (ofUsers_of_perm hperm hids)
  | failures e e' => rfl

end Login

/-! ## Responses that differ in their identifiers only -/

/-- A header without the identifier of a request. -/
def maskId (header : String × String) : String × String :=
  if header.1 = requestIdHeader then (header.1, "") else header

/-- Two responses with the same status, the same headers apart from the value of the one that
carries the identifier of the request, and the same body. -/
structure SameApartFromId (a b : Response) : Prop where
  status : a.status = b.status
  headers : a.headers.map maskId = b.headers.map maskId
  body : a.body = b.body

/-- One response that is given two identifiers. -/
theorem sameApartFromId_addId (response : Response) (id id' : String) :
    SameApartFromId (response.addHeaders [(requestIdHeader, id)])
      (response.addHeaders [(requestIdHeader, id')]) where
  status := rfl
  headers := by
    simp only [Response.addHeaders, List.map_append, List.map_cons, List.map_nil, maskId, if_true]
  body := rfl

/-- A request without a credential is answered alike by any two stores. -/
theorem sameApartFromId_of_not_submitted (s : Settings) {r : Request} (h : r.submitted? = none)
    (a b : Store) (id id' : String) :
    SameApartFromId (serve s a id r).response (serve s b id' r).response := by
  have hsame : (serveOrigin s a r).response = (serveOrigin s b r).response :=
    ((storeFree_serveOrigin h).spec a b).2.2.1
  show SameApartFromId ((serveOrigin s a r).response.addHeaders [(requestIdHeader, id)])
    ((serveOrigin s b r).response.addHeaders [(requestIdHeader, id')])
  rw [hsame]
  exact sameApartFromId_addId _ id id'

/-- **Stores are interchangeable.** If the lookups of two stores of any kinds for the credential
that a request submits give the same rows up to their order, no two of one id, or both fail in
whatever way, then the request is answered by the same status, the same headers apart from the
identifier of the request, and the same body. A request that submits none is so answered by any
two stores. -/
theorem serve_interchangeable (s : Settings) (a b : Store) (id id' : String) (r : Request)
    (h : ∀ c, r.submitted? = some c → Interchangeable (a.lookup c).result (b.lookup c).result) :
    SameApartFromId (serve s a id r).response (serve s b id' r).response := by
  cases hc : r.submitted? with
  | none => exact sameApartFromId_of_not_submitted s hc a b id id'
  | some c =>
    have hsame : (Login.serveCredential s.auth a c).response
        = (Login.serveCredential s.auth b c).response := by
      rw [Login.serveCredential_response, Login.serveCredential_response]
      exact Login.ofLookup_congr s.auth (h c hc)
    rw [serve_of_submitted hc, serve_of_submitted hc]
    simp only [Exchange.layered, hsame]
    exact sameApartFromId_addId _ id id'

/-- A table with three accounts of one credential, inserted in no order. -/
def triplets : MemoryStore where
  records := [
    ⟨7, "sales", "admin", "alice", "secret"⟩,
    ⟨3, "eng", "admin", "alice", "secret"⟩,
    ⟨1, "hr", "user", "bob", "secret"⟩,
    ⟨5, "ops", "user", "alice", "secret"⟩]

/-- The accounts of the triplets in another order, neither that of insertion nor that of ids. -/
def shuffledTriplets : List LoginUser := [
  ⟨5, "ops", "user", "alice"⟩, ⟨7, "sales", "admin", "alice"⟩, ⟨3, "eng", "admin", "alice"⟩]

/-- A database that sends the accounts of the triplets in that order. -/
def shufflingPool : Pool where
  server := { table := .rows (shuffledTriplets.map LoginUser.toRow) }

theorem interchangeable_shufflingPool :
    Interchangeable ((Store.database shufflingPool).lookup ⟨"alice", "secret"⟩).result
      ((Store.memory triplets).lookup ⟨"alice", "secret"⟩).result := by
  have hsent : ((Store.database shufflingPool).lookup ⟨"alice", "secret"⟩).result
      = .ok shuffledTriplets := by decide +kernel
  rw [hsent]
  refine Interchangeable.rows ?_ (by decide)
  have hfound : shuffledTriplets.Perm ((triplets.records.filter
      (fun r => r.accepts ⟨"alice", "secret"⟩)).map UserRecord.toUser) := by decide
  exact hfound.trans (sortById_perm _).symm

theorem serve_interchangeable_shuffled :
    (∀ c, twinsLogin.submitted? = some c →
      Interchangeable ((Store.database shufflingPool).lookup c).result
        ((Store.memory triplets).lookup c).result) ∧
    SameApartFromId (serve {} (.database shufflingPool) "first" twinsLogin).response
      (serve {} (.memory triplets) "second" twinsLogin).response := by
  have hlookups : ∀ c, twinsLogin.submitted? = some c →
      Interchangeable ((Store.database shufflingPool).lookup c).result
        ((Store.memory triplets).lookup c).result := by
    intro c hc
    have hsubmitted := submitted?_twinsLogin
    rw [hc] at hsubmitted
    cases hsubmitted
    exact interchangeable_shufflingPool
  exact ⟨hlookups, serve_interchangeable {} _ _ "first" "second" twinsLogin hlookups⟩

end LoginService
