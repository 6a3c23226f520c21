import LoginService.Json.Embedded
import LoginService.Proofs.Json.Record
import LoginService.Proofs.Text.Validity
import Mathlib.Data.List.Forall2
import Mathlib.Logic.Relation

/-!
# What values with embedded documents stand for

The grammar spells a value with every object as it is written. `StandsFor` puts the value of the
embedded document in the place of each object that holds one, and leaves the rest as it is. The
texts of what stands for a value are again spelled level by level (`layered_denotes`), and what a
value stands for is decided by texts that are shorter than its own (`StandsFor.of_shorter`).
-/

namespace LoginService.Json

open Relation (Comp)
open Text.Utf8 (encode)

/-! ## Values and what they stand for -/

/-- Two members under one key, their values related. -/
inductive OnValue (T : Value → Value → Prop) : String × Value → String × Value → Prop
  | mk {key : String} {v w : Value} : T v w → OnValue T (key, v) (key, w)

/-- The key of the first member. -/
def firstKey (members : List (String × Value)) : Option String :=
  members.head?.map Prod.fst

/-- A value as it is written and the value that it stands for, where `E` says what embedded texts
stand for. An object under the key that is set aside for them holds nothing else. -/
inductive StandsFor (E : Spelling Value) : Value → Value → Prop
  | null : StandsFor E .null .null
  | bool (b : Bool) : StandsFor E (.bool b) (.bool b)
  | number (n : Number) : StandsFor E (.number n) (.number n)
  | text (s : String) : StandsFor E (.text s) (.text s)
  | list {items values : List Value} :
      List.Forall₂ (StandsFor E) items values → StandsFor E (.list items) (.list values)
  | object {members values : List (String × Value)} :
      firstKey members ≠ some embeddingKey → List.Forall₂ (OnValue (StandsFor E)) members values →
      StandsFor E (.object members) (.object values)
  | embedded {s : String} {v : Value} :
      E (encode s.toList) v → StandsFor E (.object [(embeddingKey, .text s)]) v

section
variable {E : Spelling Value} {T : Value → Value → Prop}

theorem onValue_iff {m m' : String × Value} : OnValue T m m' ↔ m.1 = m'.1 ∧ T m.2 m'.2 := by
  obtain ⟨key, v⟩ := m
  obtain ⟨key', w⟩ := m'
  constructor
  · rintro ⟨h⟩
    exact ⟨rfl, h⟩
  · rintro ⟨rfl, h⟩
    exact OnValue.mk h

/-- A value that is no container stands for itself. -/
theorem standsFor_scalar {text : List UInt8} {p v : Value} (h : Scalar text p) :
    StandsFor E p v ↔ v = p := by
  constructor
  · intro hv
    cases h <;> cases hv <;> rfl
  · rintro rfl
    cases h with
    | null => exact StandsFor.null
    | truth => exact StandsFor.bool true
    | falsity => exact StandsFor.bool false
    | number _ => exact StandsFor.number _
    | text _ => exact StandsFor.text _

/-- A list of values that stand for themselves stands for itself. -/
theorem standsFor_list_self {items : List Value} (h : ∀ v ∈ items, StandsFor E v v) :
    StandsFor E (.list items) (.list items) :=
  StandsFor.list (List.forall₂_same.mpr h)

/-- So does an object of them that embeds no document. -/
theorem standsFor_object_self {members : List (String × Value)}
    (hkey : firstKey members ≠ some embeddingKey) (h : ∀ m ∈ members, StandsFor E m.2 m.2) :
    StandsFor E (.object members) (.object members) :=
  StandsFor.object hkey
    (List.forall₂_same.mpr fun m hm => onValue_iff.mpr ⟨rfl, h m hm⟩)

theorem map_fst_of_forall₂ {members values : List (String × Value)}
    (h : List.Forall₂ (OnValue T) members values) :
    members.map Prod.fst = values.map Prod.fst := by
  induction h with
  | nil => rfl
  | cons hm _ ih => rw [List.map_cons, List.map_cons, ih, (onValue_iff.mp hm).1]

end

/-! ## Texts of what values stand for -/

section
variable {α β : Type} {R : Spelling α} {T : α → β → Prop}

theorem padded_comp {bytes : List UInt8} {b : β} :
    Padded (Comp R T) bytes b ↔ ∃ a, Padded R bytes a ∧ T a b := by
  constructor
  · rintro ⟨before, text, after, hb, ⟨a, ht, hab⟩, ha, rfl⟩
    exact ⟨a, ⟨before, text, after, hb, ht, ha, rfl⟩, hab⟩
  · rintro ⟨a, ⟨before, text, after, hb, ht, ha, rfl⟩, hab⟩
    exact ⟨before, text, after, hb, ⟨a, ht, hab⟩, ha, rfl⟩

theorem forall₂_of_separated {S : Spelling β} {bytes : List UInt8} {bs : List β}
    (hS : ∀ text b, S text b → ∃ a, R text a ∧ T a b) (h : Separated S bytes bs) :
    ∃ as, Separated R bytes as ∧ List.Forall₂ T as bs := by
  induction h with
  | one hb =>
    obtain ⟨a, ha, hab⟩ := hS _ _ hb
    exact ⟨[a], Separated.one ha, List.Forall₂.cons hab List.Forall₂.nil⟩
  | more hb _ ih =>
    obtain ⟨a, ha, hab⟩ := hS _ _ hb
    obtain ⟨as, has, hall⟩ := ih
    exact ⟨a :: as, Separated.more ha has, List.Forall₂.cons hab hall⟩

theorem separated_of_forall₂ {S : Spelling β} {bytes : List UInt8} {as : List α} {bs : List β}
    (hS : ∀ text a b, R text a → T a b → S text b) (h : Separated R bytes as)
    (hall : List.Forall₂ T as bs) : Separated S bytes bs := by
  induction h generalizing bs with
  | one ha =>
    obtain _ | ⟨hab, ⟨⟩⟩ := hall
    exact Separated.one (hS _ _ _ ha hab)
  | more ha _ ih =>
    obtain _ | ⟨hab, hall⟩ := hall
    exact Separated.more (hS _ _ _ ha hab) (ih hall)

/-- A list of texts is related to another one text by text. -/
theorem listed_comp {S : Spelling β} {bytes : List UInt8} {bs : List β}
    (hS : ∀ text b, S text b ↔ ∃ a, R text a ∧ T a b) :
    Listed S bytes bs ↔ ∃ as, Listed R bytes as ∧ List.Forall₂ T as bs := by
  constructor
  · rintro (⟨rfl, hw⟩ | h)
    · exact ⟨[], Or.inl ⟨rfl, hw⟩, List.Forall₂.nil⟩
    · obtain ⟨as, has, hall⟩ := forall₂_of_separated (fun text b => (hS text b).mp) h
      exact ⟨as, Or.inr has, hall⟩
  · rintro ⟨as, ⟨rfl, hw⟩ | has, hall⟩
    · cases hall
      exact Or.inl ⟨rfl, hw⟩
    · have hT (text : List UInt8) (a : α) (b : β) (ha : R text a) (hab : T a b) : S text b :=
        (hS text b).mpr ⟨a, ha, hab⟩
      exact Or.inr (separated_of_forall₂ hT has hall)

/-- A list of one text is that text. -/
theorem of_listed_singleton {bytes : List UInt8} {a : α} (h : Listed R bytes [a]) : R bytes a := by
  rcases h with ⟨h, -⟩ | h
  · exact absurd h (List.cons_ne_nil a [])
  · cases h with
    | one ha => exact ha
    | more _ h => cases h

/-- What stands in a list of texts has a text in it. -/
theorem exists_of_mem_listed {bytes : List UInt8} {as : List α} {a : α} (h : Listed R bytes as)
    (ha : a ∈ as) : ∃ text, R text a ∧ text.length ≤ bytes.length := by
  rcases h with ⟨rfl, -⟩ | h
  · exact absurd ha List.not_mem_nil
  induction h with
  | one ht =>
    cases List.mem_singleton.mp ha
    exact ⟨_, ht, Nat.le_refl _⟩
  | more ht _ ih =>
    rcases List.mem_cons.mp ha with rfl | ha
    · exact ⟨_, ht, by simp⟩
    · obtain ⟨text, ht, hlen⟩ := ih ha
      refine ⟨text, ht, ?_⟩
      rw [List.length_append, List.length_cons]
      omega

end

section
variable {R : Spelling Value} {T : Value → Value → Prop}

theorem member_comp {bytes : List UInt8} {m' : String × Value} :
    Member (Comp R T) bytes m' ↔ ∃ m, Member R bytes m ∧ OnValue T m m' := by
  constructor
  · rintro ⟨key, value, hkey, hvalue, rfl⟩
    obtain ⟨v, hv, hvw⟩ := padded_comp.mp hvalue
    exact ⟨(m'.1, v), ⟨key, value, hkey, hv, rfl⟩, OnValue.mk hvw⟩
  · rintro ⟨_, ⟨key, value, hkey, hvalue, rfl⟩, ⟨hvw⟩⟩
    exact ⟨key, value, hkey, padded_comp.mpr ⟨_, hvalue, hvw⟩, rfl⟩

end

/-- The texts of the values that stand for a given one. -/
def Denotes (E : Spelling Value) (depth : Nat) : Spelling Value :=
  Comp (Spells depth) (StandsFor E)

/-- What stands between the braces of the objects that stand for a given value. -/
def DenotesMembers (E : Spelling Value) (depth : Nat) : Spelling Value :=
  Comp (Members depth) (StandsFor E)

/-- Up to the objects, what stands for values is spelled as they are. -/
theorem layered_denotes (E : Spelling Value) : Layered (Denotes E) (DenotesMembers E) where
  zero := by
    intro text v
    constructor
    · rintro ⟨p, hp, hv⟩
      rwa [(standsFor_scalar hp).mp hv]
    · intro h
      exact ⟨v, h, (standsFor_scalar h).mpr rfl⟩
  succ := by
    intro depth text v
    constructor
    · rintro ⟨p, hp, hv⟩
      obtain hp | ⟨body, items, hl, rfl, rfl⟩ | ⟨body, hm, rfl⟩ := layered_spells.succ.mp hp
      · rw [(standsFor_scalar hp).mp hv]
        exact Or.inl hp
      · cases hv with
        | list hall =>
          refine Or.inr (Or.inl ⟨body, _, ?_, rfl, rfl⟩)
          exact (listed_comp fun _ _ => padded_comp).mpr ⟨items, hl, hall⟩
      · exact Or.inr (Or.inr ⟨body, ⟨p, hm, hv⟩, rfl⟩)
    · rintro (h | ⟨body, values, hl, rfl, rfl⟩ | ⟨body, ⟨p, hm, hv⟩, rfl⟩)
      · exact ⟨v, layered_spells.succ.mpr (Or.inl h), (standsFor_scalar h).mpr rfl⟩
      · obtain ⟨items, hl, hall⟩ := (listed_comp fun _ _ => padded_comp).mp hl
        exact ⟨.list items, layered_spells.succ.mpr (Or.inr (Or.inl ⟨body, items, hl, rfl, rfl⟩)),
          StandsFor.list hall⟩
      · exact ⟨p, layered_spells.succ.mpr (Or.inr (Or.inr ⟨body, hm, rfl⟩)), hv⟩

theorem listed_denotes {E : Spelling Value} {depth : Nat} {body : List UInt8}
    {values : List (String × Value)} :
    Listed (Member (Denotes E depth)) body values ↔ ∃ members,
      Listed (Member (Spells depth)) body members ∧
        List.Forall₂ (OnValue (StandsFor E)) members values :=
  listed_comp fun _ _ => member_comp

/-! ## How long embedded documents are -/

section
variable {R : Spelling Value} {body : List UInt8}

theorem exists_of_mem_items {items : List Value} {v : Value} (h : Listed (Padded R) body items)
    (hv : v ∈ items) : ∃ text, R text v ∧ text.length ≤ body.length := by
  obtain ⟨_, ⟨before, text, after, -, ht, -, rfl⟩, hlen⟩ := exists_of_mem_listed h hv
  refine ⟨text, ht, ?_⟩
  rw [List.length_append, List.length_append] at hlen
  omega

theorem exists_of_mem_members {members : List (String × Value)} {m : String × Value}
    (h : Listed (Member R) body members) (hm : m ∈ members) :
    ∃ text, R text m.2 ∧ text.length ≤ body.length := by
  obtain ⟨_, ⟨key, value, -, ⟨before, text, after, -, ht, -, rfl⟩, rfl⟩, hlen⟩ :=
    exists_of_mem_listed h hm
  refine ⟨text, ht, ?_⟩
  simp only [List.length_append, List.length_cons] at hlen
  omega

end

section
variable {depth : Nat} {text : List UInt8}

theorem quoted_of_spells {s : String} (h : Spells depth text (.text s)) : Quoted text s := by
  rcases scalar_or_container h with h | ⟨_, h⟩
  · cases h with
    | text hq => exact hq
  · cases h

/-- A string is shorter than its text. -/
theorem encode_length_lt {s : String} (h : Quoted text s) :
    (encode s.toList).length < text.length := by
  obtain ⟨inside, ⟨bytes, hp, hd⟩, rfl⟩ := h
  have hlen := length_le_of_pieces hp
  rw [← Text.Utf8.eq_encode_of_decode? hd, List.length_cons, List.length_append]
  omega

/-- An embedded document is shorter than the object that holds it. -/
theorem encode_length_lt_of_embedded {s : String}
    (h : Spells depth text (.object [(embeddingKey, .text s)])) :
    (encode s.toList).length < text.length := by
  obtain h | ⟨depth', h⟩ := scalar_or_container h
  · cases h
  · cases h with
    | @object body _ hl =>
      obtain ⟨value, ht, hlen⟩ := exists_of_mem_members hl List.mem_cons_self
      have hs := encode_length_lt (quoted_of_spells ht)
      rw [List.length_cons, List.length_append]
      omega

/-- What a document stands for is decided by what shorter texts stand for. -/
theorem StandsFor.of_shorter {E E' : Spelling Value} {p v : Value} (ht : Spells depth text p)
    (hE : ∀ inner w, inner.length < text.length → E inner w → E' inner w)
    (h : StandsFor E p v) : StandsFor E' p v := by
  -- on the depth of the text: a value in a container has a text of its own, inside that of the
  -- container
  induction depth generalizing text p v with
  | zero => exact (standsFor_scalar ht).mpr ((standsFor_scalar ht).mp h)
  | succ depth ih =>
    rcases ht with hs | hc
    · exact (standsFor_scalar hs).mpr ((standsFor_scalar hs).mp h)
    cases h with
    | null => exact StandsFor.null
    | bool b => exact StandsFor.bool b
    | number n => exact StandsFor.number n
    | text s => exact StandsFor.text s
    | @list items values hall =>
      cases hc with
      | @list body _ hl =>
        have hshorter : ∀ item ∈ items, ∃ t, Spells depth t item ∧ t.length ≤ body.length :=
          fun item hi => exists_of_mem_items hl hi
        refine StandsFor.list (((List.forall₂_and_left items values).mpr ⟨hshorter, hall⟩).imp ?_)
        rintro item value ⟨⟨t, ht, hlen⟩, hv⟩
        exact ih ht (fun inner w hi => hE inner w (by simp; omega)) hv
    | @object members values hkey hall =>
      cases hc with
      | @object body _ hl =>
        have hshorter : ∀ m ∈ members, ∃ t, Spells depth t m.2 ∧ t.length ≤ body.length :=
          fun m hm => exists_of_mem_members hl hm
        refine StandsFor.object hkey
          (((List.forall₂_and_left members values).mpr ⟨hshorter, hall⟩).imp ?_)
        rintro _ _ ⟨⟨t, ht, hlen⟩, ⟨hv⟩⟩
        exact OnValue.mk (ih ht (fun inner w hi => hE inner w (by simp; omega)) hv)
    | @embedded s _ hv =>
      have hobject : Spells (depth + 1) text (.object [(embeddingKey, .text s)]) := Or.inr hc
      exact StandsFor.embedded (hE _ _ (encode_length_lt_of_embedded hobject) hv)

end

end LoginService.Json
