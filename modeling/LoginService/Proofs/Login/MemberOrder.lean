import LoginService.Proofs.Login.Request
import Mathlib

/-!
# The order of members

Where no key is repeated, the members of an object are read alike in any order, even if several of
them spell one field: which of them a field takes is a matter of their keys (`Selects`), and keys
are compared with each other wherever they stand. So two texts of the same members give the same
request or the same error (`decode_perm`), whatever blanks and escapes they are written with. Only a
first member under the key that is set aside for documents has to keep its place, as it makes the
object something else (`embeddingFirst_refused`).
-/

namespace LoginService.Login

open Json

variable {name key : String} {v : Value} {o : Option Value}
  {members members' : List (String × Value)}

/-- Where no key is repeated, every member is the last one with its key. -/
theorem last_iff_mem (hkeys : (members.map Prod.fst).Nodup) :
    Last (· = key) members key v ↔ (key, v) ∈ members := by
  constructor
  · exact mem_of_last
  · intro hmem
    obtain ⟨before, after, rfl⟩ := List.append_of_mem hmem
    rw [List.map_append, List.map_cons, List.nodup_middle, ← List.map_append] at hkeys
    refine ⟨rfl, before, after, rfl, ?_⟩
    -- a later member with this key would repeat it
    rintro m hm rfl
    have hagain : m.1 ∈ (before ++ after).map Prod.fst :=
      List.mem_map_of_mem (List.mem_append_right before hm)
    exact (List.nodup_cons.mp hkeys).1 hagain

theorem Last.of_perm (hperm : members.Perm members') (hkeys : (members.map Prod.fst).Nodup)
    (h : Last (· = key) members key v) : Last (· = key) members' key v := by
  have hkeys' : (members'.map Prod.fst).Nodup := (hperm.map Prod.fst).nodup_iff.mp hkeys
  exact (last_iff_mem hkeys').mpr (hperm.mem_iff.mp (mem_of_last h))

/-- **A field takes the same value** from the same members in any order. -/
theorem Selects.of_perm (hperm : members.Perm members') (hkeys : (members.map Prod.fst).Nodup)
    (h : Selects name members o) : Selects name members' o := by
  -- what excludes the other keys speaks of all members, so only the last one needs the keys
  cases h with
  | exact hl => exact .exact (hl.of_perm hperm hkeys)
  | folded hnone hsame hmax hl =>
    refine .folded ?_ hsame ?_ (hl.of_perm hperm hkeys)
    · intro m hm
      exact hnone m (hperm.mem_iff.mpr hm)
    · intro m hm
      exact hmax m (hperm.mem_iff.mpr hm)
  | absent hnone =>
    refine .absent ?_
    intro m hm
    exact hnone m (hperm.mem_iff.mpr hm)

theorem getElem?_foldKeys_of_perm (hname : name ∈ fieldNames) (hperm : members.Perm members')
    (hkeys : (members.map Prod.fst).Nodup) :
    (foldKeys (Members.ofList members))[name]? = (foldKeys (Members.ofList members'))[name]? :=
  selects_unique ((selects_foldKeys hname members).of_perm hperm hkeys)
    (selects_foldKeys hname members')

end LoginService.Login

namespace LoginService.LoginRequest

open Json
open Login (Members getElem?_foldKeys_of_perm)

variable {members members' : List (String × Value)}

/-- A request is read off two members of a map, and so is what is wrong with it. -/
theorem ofMembers_congr {m m' : Members} (hname : m["loginname"]? = m'["loginname"]?)
    (hpassword : m["password"]? = m'["password"]?) : ofMembers m = ofMembers m' := by
  unfold ofMembers
  rw [hname, hpassword]

theorem ofValue_of_perm (hperm : members.Perm members') (hkeys : (members.map Prod.fst).Nodup) :
    ofValue (.object members) = ofValue (.object members') :=
  ofMembers_congr (getElem?_foldKeys_of_perm (by decide) hperm hkeys)
    (getElem?_foldKeys_of_perm (by decide) hperm hkeys)

theorem exists_forall₂ {α β : Type} {T : α → β → Prop} {as : List α} (h : ∀ a ∈ as, ∃ b, T a b) :
    ∃ bs, List.Forall₂ T as bs := by
  induction as with
  | nil => exact ⟨[], .nil⟩
  | cons a as ih =>
    rw [List.forall_mem_cons] at h
    obtain ⟨b, hb⟩ := h.1
    obtain ⟨bs, hbs⟩ := ih h.2
    exact ⟨b :: bs, .cons hb hbs⟩

/-- Members that spell one field twice, with a wrong value in the spelling that counts, and one that
embeds a document. -/
def rivalMembers : List (String × Value) := [
  ("PASSWORD", .text "secret"), ("Password", .number (.whole 7)), ("LoginName", .text "alice"),
  ("extra", .list [.object []]), ("note", .object [(embeddingKey, .text "true")])]

/-- A text of these members. -/
def rivalBody : List UInt8 :=
  Text.Utf8.encode (
    "\x7b\"PASSWORD\":\"secret\",\"Password\":7," ++
      "\"LoginName\":\"alice\",\"extra\":[\x7b\x7d]," ++
      "\"note\":\x7b\"$serde_json::private::RawValue\":\"true\"\x7d\x7d").toList

/-- Another text of them, backwards, with blanks and escapes. -/
def rivalBody' : List UInt8 :=
  Text.Utf8.encode (
    " \x7b\"note\": \x7b\"\\u0024serde_json::private::RawValue\": \"tr\\u0075e\" \x7d," ++
      "\"extra\":[ \x7b \x7d ],\n\"Login\\u004eame\":\"al\\u0069ce\"," ++
      "\"Password\": 7,\"PASSWORD\":\"secret\"\x7d").toList

/-- Two members, the first under the key that is set aside for documents. -/
def embeddingMembers : List (String × Value) :=
  [(embeddingKey, .text "null"), ("loginname", .text "alice")]

/-- A text of these members: `{"$serde_json::private::RawValue":"null","loginname":"alice"}`. -/
def embeddingFirst : List UInt8 :=
  Text.Utf8.encode
    (printObject [(embeddingKey, printString "null"), ("loginname", printString "alice")])

/-- A text of them in the other order. -/
def embeddingLast : List UInt8 :=
  Text.Utf8.encode
    (printObject [("loginname", printString "alice"), (embeddingKey, printString "null")])

end LoginService.LoginRequest
