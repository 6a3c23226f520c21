import LoginService.Proofs.Json.Printer
import LoginService.Proofs.Json.Record

/-!
# Records that are read back

A record is written as an object of its fields. A `Codec` ties the members that are written to
what the fields make of them; with it, the text of a record is read back as that record, in one
pass over the text (`Codec.parse_print`) and by way of its value (`Codec.document_print`).
-/

namespace LoginService.Json

open Text.Utf8 (encode)

/-! ## What fields make of members -/

section
variable {σ τ α : Type}

@[simp] theorem stringOf?_text (s : String) : stringOf? (.text s) = some s := rfl

@[simp] theorem boolOf?_bool (b : Bool) : boolOf? (.bool b) = some b := rfl

@[simp] theorem intOf?_whole {range : IntRange} {i : Int} (h : range.holds i = true) :
    intOf? range (.number (.whole i)) = some i := if_pos h

@[simp] theorem Slot.name_text (name : String) (get : σ → Option String) (put : String → σ → σ) :
    (Slot.text name get put).field.name = name := rfl

@[simp] theorem Slot.isSet_text (name : String) (get : σ → Option String) (put : String → σ → σ)
    (s : σ) : (Slot.text name get put).field.isSet s = (get s).isSome := rfl

@[simp] theorem Slot.value_text (name : String) (get : σ → Option String) (put : String → σ → σ)
    (v : Value) : (Slot.text name get put).value v = (stringOf? v).map put := rfl

@[simp] theorem Slot.name_int (name : String) (range : IntRange) (get : σ → Option Int)
    (put : Int → σ → σ) : (Slot.int name range get put).field.name = name := rfl

@[simp] theorem Slot.isSet_int (name : String) (range : IntRange) (get : σ → Option Int)
    (put : Int → σ → σ) (s : σ) :
    (Slot.int name range get put).field.isSet s = (get s).isSome := rfl

@[simp] theorem Slot.value_int (name : String) (range : IntRange) (get : σ → Option Int)
    (put : Int → σ → σ) (v : Value) :
    (Slot.int name range get put).value v = (intOf? range v).map put := rfl

@[simp] theorem Slot.name_bool (name : String) (get : σ → Option Bool) (put : Bool → σ → σ) :
    (Slot.bool name get put).field.name = name := rfl

@[simp] theorem Slot.isSet_bool (name : String) (get : σ → Option Bool) (put : Bool → σ → σ)
    (s : σ) : (Slot.bool name get put).field.isSet s = (get s).isSome := rfl

@[simp] theorem Slot.value_bool (name : String) (get : σ → Option Bool) (put : Bool → σ → σ)
    (v : Value) : (Slot.bool name get put).value v = (boolOf? v).map put := rfl

section
variable {r : Record σ α} (p : Plan r) (name : String) (get : τ → Option α) (put : α → τ → τ)

@[simp] theorem Slot.name_record : (Slot.record p name get put).field.name = name := rfl

@[simp] theorem Slot.isSet_record (t : τ) :
    (Slot.record p name get put).field.isSet t = (get t).isSome := rfl

@[simp] theorem Slot.value_record (v : Value) :
    (Slot.record p name get put).value v = (p.ofValue? v).map put := rfl

end

end

/-! ## Whole numbers -/

theorem holds_i64 (i : Int64) : IntRange.i64.holds i.toInt = true := by
  have hl := Int64.le_toInt i
  have hg := Int64.toInt_lt i
  rw [IntRange.holds, Bool.and_eq_true, decide_eq_true_iff, decide_eq_true_iff, IntRange.i64]
  dsimp only
  omega

theorem holds_natCast {range : IntRange} {n : Nat} (hl : range.least ≤ 0)
    (hg : (n : Int) ≤ range.greatest) : range.holds n = true := by
  rw [IntRange.holds, Bool.and_eq_true, decide_eq_true_iff, decide_eq_true_iff]
  omega

namespace Entry

variable {depth : Nat}

/-- A member that holds a signed number. -/
def i64 (key : String) (i : Int64) : Entry depth :=
  .int key i.toInt (Int64.le_toInt i) (by have := Int64.toInt_lt i; omega)

/-- A member that holds an unsigned number. -/
def nat (key : String) (n : Nat) (h : n < 18446744073709551616) : Entry depth :=
  .int key n (by omega) (by omega)

@[simp] theorem member_string (key s : String) :
    (Entry.string key s : Entry depth).member = (key, .text s) := rfl

@[simp] theorem member_bool (key : String) (b : Bool) :
    (Entry.bool key b : Entry depth).member = (key, .bool b) := rfl

@[simp] theorem member_i64 (key : String) (i : Int64) :
    (Entry.i64 key i : Entry depth).member = (key, .number (.whole i.toInt)) := rfl

@[simp] theorem member_nat (key : String) (n : Nat) (h : n < 18446744073709551616) :
    (Entry.nat key n h : Entry depth).member = (key, .number (.whole n)) := rfl

@[simp] theorem member_object (key : String) (es : List (Entry depth)) :
    (Entry.object key es).member = (key, .object (es.map Entry.member)) := rfl

end Entry

/-! ## Codecs -/

/-- How the records that `r` reads are written: as objects of members of which the fields of `r`
make the record again. -/
structure Codec (depth : Nat) {σ α : Type} (r : Record σ α) (print : α → List Char) where
  plan : Plan r
  entries : α → List (Entry depth)
  print_eq : ∀ a, print a = printObject ((entries a).map Entry.printed)
  ofValue?_entries : ∀ a, plan.ofValue? (.object ((entries a).map Entry.member)) = some a

namespace Codec

variable {σ α : Type} {r : Record σ α} {print : α → List Char}

/-- What is written of a record is a document, which spells the object of its members. -/
theorem document_print (c : Codec 126 r print) (a : α) :
    Document (encode (print a)) (.object ((c.entries a).map Entry.member)) := by
  rw [c.print_eq a]
  exact document_printObject (c.entries a)

/-- What is written of a record is read back in one pass. -/
theorem parse_print (c : Codec 126 r print) (a : α) : r.parse (encode (print a)) = .ok a := by
  have h := c.plan.toOption_parse (c.document_print a)
  rw [c.ofValue?_entries a] at h
  cases hp : r.parse (encode (print a)) with
  | error e =>
    rw [hp] at h
    exact absurd h (by simp [Except.toOption])
  | ok a' =>
    rw [hp] at h
    cases h
    rfl

/-- A record of another kind is not read from it when the plan of that kind makes nothing of its
members. -/
theorem parse_print_ne {τ β : Type} {other : Record τ β} (c : Codec 126 r print) (p : Plan other)
    (a : α) (h : p.ofValue? (.object ((c.entries a).map Entry.member)) = none) (b : β) :
    other.parse (encode (print a)) ≠ .ok b := by
  intro hb
  have hp := p.toOption_parse (c.document_print a)
  rw [h, hb] at hp
  exact absurd hp (by simp [Except.toOption])

end Codec

end LoginService.Json
