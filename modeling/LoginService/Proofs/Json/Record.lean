import LoginService.Login.Result
import LoginService.Proofs.Json.Skip

/-!
# Records and the values they are written as

A record is read from text in one pass, without building the value that the text spells. A `Plan`
says what each field makes of a value, and with that what a record makes of one: `Plan.ofValue?`.
For every document of the grammar the one pass comes to the same (`Plan.toOption_parse`).
-/

namespace LoginService.Json

/-! ## Readers of a wanted type -/

/-- How a reader ends: with a value, leaving the rest of the document, or by refusing. -/
def Ends {α : Type} (r : Read α) (rest : List UInt8) : Option α → Prop
  | some a => ∃ c', r = .ok (a, c') ∧ c'.rest = rest
  | none => ∃ e, r = .error e

/-- A reader makes of the text of a value, wherever it stands, what `value` makes of the value.
The fuel is more than the length of the text. -/
def Follows {α : Type} (read : Nat → Cursor → Read α) (value : Value → Option α) : Prop :=
  ∀ depth fuel before text v, Blank before → Spells depth text v → text.length < fuel →
    ∀ c rest, c.rest = before ++ text ++ rest → Stops rest → Ends (read fuel c) rest (value v)

section
variable {α β : Type} {rest : List UInt8}

theorem ends_map {f : α → β} {r : Read α} {o : Option α} (h : Ends r rest o) :
    Ends (Read.map f r) rest (o.map f) := by
  cases o with
  | none =>
    obtain ⟨e, rfl⟩ := h
    exact ⟨e, rfl⟩
  | some a =>
    obtain ⟨c', rfl, hr⟩ := h
    exact ⟨c', rfl, hr⟩

theorem follows_map {f : α → β} {read : Nat → Cursor → Read α} {value : Value → Option α}
    (h : Follows read value) :
    Follows (fun fuel c => Read.map f (read fuel c)) (fun v => (value v).map f) :=
  fun depth fuel before text v hb ht hf c rest hc hs =>
    ends_map (h depth fuel before text v hb ht hf c rest hc hs)

theorem ends_fail (c : Cursor) (cause : Cause) : Ends (c.fail cause : Read α) rest none :=
  ⟨_, rfl⟩

/-- A value of an unwanted type is refused, whatever it is. -/
theorem ends_refuseType (expected : String) (c : Cursor) :
    Ends (refuseType expected c : Read α) rest none := by
  unfold refuseType
  split
  · exact ends_fail _ _
  split
  · exact ⟨_, rfl⟩
  · exact ends_fail _ _
  split
  · exact ends_fail _ _
  split <;> exact ends_fail _ _

theorem atValue_cons {read : UInt8 → Cursor → Read α} {c : Cursor} {b : UInt8} {t : List UInt8}
    (h : c.skipBlanks.rest = b :: t) : atValue c read = read b c.skipBlanks := by
  simp only [atValue, h]

/-- It is enough to look at the text of a value without blanks in front. -/
theorem follows_atValue {read : Nat → UInt8 → Cursor → Read α} {value : Value → Option α}
    (h : ∀ depth fuel b t v, Spells depth (b :: t) v → (b :: t).length < fuel →
      ∀ c rest, c.rest = b :: (t ++ rest) → Stops rest → Ends (read fuel b c) rest (value v)) :
    Follows (fun fuel c => atValue c (read fuel)) value := by
  intro depth fuel before text v hb ht hf c rest hc hs
  obtain ⟨b, t, rfl, hblank, -⟩ := headed_spells depth text v ht
  have hr : c.skipBlanks.rest = b :: (t ++ rest) :=
    skipBlanks_rest (by rw [hc, List.append_assoc]; rfl) hb (noBlank_cons.2 hblank)
  show Ends (atValue c (read fuel)) rest (value v)
  rw [atValue_cons hr]
  exact h depth fuel b t v ht hf _ rest hr hs

end

/-- A value is a scalar or stands between the ends of a container. -/
theorem scalar_or_container {depth : Nat} {text : List UInt8} {v : Value}
    (h : Spells depth text v) :
    Scalar text v ∨ ∃ depth', Container (Spells depth') text v := by
  cases depth with
  | zero => exact Or.inl h
  | succ depth => exact h.imp id fun hc => ⟨depth, hc⟩

theorem digit_of_numeral {b : UInt8} {t : List UInt8} {n : Number} (h : Numeral (b :: t) n) :
    b = Byte.minus ∨ Byte.isDigit b = true := by
  cases h with
  | positive hu _ =>
    obtain ⟨b', t', he, hb⟩ := exists_digit_of_isUnsigned hu
    cases he
    exact Or.inr hb
  | negative _ _ => exact Or.inl rfl

/-- A string is read from the text of a string only. -/
theorem follows_readStringAs (expected : String) :
    Follows (fun _ c => readStringAs expected c) stringOf? := by
  refine follows_atValue ?_
  intro depth fuel b t v h _ c rest hc hs
  rcases scalar_or_container h with h | ⟨_, h⟩
  · cases h with
    | null => exact ends_refuseType _ c
    | truth => exact ends_refuseType _ c
    | falsity => exact ends_refuseType _ c
    | number hn =>
      have hq : b ≠ Byte.quote := by
        rintro rfl
        rcases digit_of_numeral hn with h | h <;> exact absurd h (by decide)
      rw [if_neg hq]
      exact ends_refuseType _ c
    | text hq =>
      obtain ⟨inside, hi, he⟩ := hq
      cases he
      have ha : c.advance.rest = inside ++ Byte.quote :: rest := by
        rw [advance_rest hc]
        simp
      exact readText_append hi ha
  · cases h with
    | list _ => exact ends_refuseType _ c
    | object _ => exact ends_refuseType _ c

/-- The truth value that a value is. -/
def boolOf? : Value → Option Bool
  | .bool b => some b
  | _ => none

theorem follows_readBool : Follows (fun _ c => readBool c) boolOf? := by
  refine follows_atValue ?_
  intro depth fuel b t v h _ c rest hc hs
  have hrefuse : b ≠ 0x74 → b ≠ 0x66 → Ends (if b = 0x74 then
      Read.map (fun _ => true) (c.advance.word trueTail)
      else if b = 0x66 then Read.map (fun _ => false) (c.advance.word falseTail)
      else refuseType "a boolean" c) rest none := by
    intro ht hf
    rw [if_neg ht, if_neg hf]
    exact ends_refuseType _ c
  rcases scalar_or_container h with h | ⟨_, h⟩
  · cases h with
    | null => exact hrefuse (by decide) (by decide)
    | truth =>
      obtain ⟨c', hw, hr⟩ := word_append (advance_rest hc)
      exact ⟨c', by rw [if_pos rfl, hw]; rfl, hr⟩
    | falsity =>
      obtain ⟨c', hw, hr⟩ := word_append (advance_rest hc)
      exact ⟨c', by rw [if_neg (by decide), if_pos rfl, hw]; rfl, hr⟩
    | number hn =>
      refine hrefuse ?_ ?_ <;> rintro rfl <;>
        rcases digit_of_numeral hn with h | h <;> exact absurd h (by decide)
    | text hq =>
      obtain ⟨inside, hi, he⟩ := hq
      cases he
      exact hrefuse (by decide) (by decide)
  · cases h with
    | list _ => exact hrefuse (by decide) (by decide)
    | object _ => exact hrefuse (by decide) (by decide)

/-- What is made of a number that was read where a number of a range is wanted. -/
def intAt (range : IntRange) : Read Number → Read Int
  | .error e => .error e
  | .ok (.whole i, c) =>
    if range.holds i then .ok (i, c) else c.fail (.wrongValue (.integer i) range.name)
  | .ok (.float x, c) => c.fail (.wrongType (.float x) range.name)

theorem ends_intAt {range : IntRange} {r : Read Number} {c' : Cursor} {n : Number}
    {rest : List UInt8} (h : r = .ok (n, c')) (hr : c'.rest = rest) :
    Ends (intAt range r) rest (intOf? range (.number n)) := by
  subst h
  cases n with
  | whole i =>
    by_cases hi : range.holds i = true
    · have ho : intOf? range (.number (.whole i)) = some i := if_pos hi
      rw [ho]
      exact ⟨c', if_pos hi, hr⟩
    · have ho : intOf? range (.number (.whole i)) = none := if_neg hi
      rw [ho]
      exact ⟨_, if_neg hi⟩
  | float x => exact ⟨_, rfl⟩

theorem readInt_eq (range : IntRange) (c : Cursor) : readInt range c = atValue c fun b c =>
    if b = Byte.minus then intAt range (Number.read true c.advance)
    else if Byte.isDigit b then intAt range (Number.read false c)
    else refuseType range.name c := by
  unfold readInt
  congr 1
  funext b c
  by_cases hm : b = Byte.minus
  · simp only [if_pos hm]
    obtain e | ⟨i | x, c'⟩ := Number.read true c.advance <;> rfl
  by_cases hd : Byte.isDigit b = true
  · simp only [if_neg hm, if_pos hd]
    obtain e | ⟨i | x, c'⟩ := Number.read false c <;> rfl
  · simp only [if_neg hm, if_neg hd]

/-- A whole number is read from the text of a number only. -/
theorem follows_readInt (range : IntRange) :
    Follows (fun _ c => readInt range c) (intOf? range) := by
  simp only [readInt_eq]
  refine follows_atValue ?_
  intro depth fuel b t v h _ c rest hc hs
  have hrefuse : b ≠ Byte.minus → Byte.isDigit b = false → Ends (if b = Byte.minus then
      intAt range (Number.read true c.advance)
      else if Byte.isDigit b then intAt range (Number.read false c)
      else refuseType range.name c) rest none := by
    intro hm hd
    rw [if_neg hm, if_neg (by rw [hd]; simp)]
    exact ends_refuseType _ c
  rcases scalar_or_container h with h | ⟨_, h⟩
  · cases h with
    | null => exact hrefuse (by decide) (by decide)
    | truth => exact hrefuse (by decide) (by decide)
    | falsity => exact hrefuse (by decide) (by decide)
    | number hn =>
      cases hn with
      | positive hu hx =>
        obtain ⟨b', t', he, hb⟩ := exists_digit_of_isUnsigned hu
        cases he
        obtain ⟨c', hc', hr⟩ := hx c rest hc hs
        rw [if_neg (digit_ne hb).2.2.2, if_pos hb]
        exact ends_intAt hc' hr
      | negative hu hx =>
        obtain ⟨c', hc', hr⟩ := hx c.advance rest (advance_rest hc) hs
        rw [if_pos rfl]
        exact ends_intAt hc' hr
    | text hq =>
      obtain ⟨inside, hi, he⟩ := hq
      cases he
      exact hrefuse (by decide) (by decide)
  · cases h with
    | list _ => exact hrefuse (by decide) (by decide)
    | object _ => exact hrefuse (by decide) (by decide)

/-! ## Plans -/

/-- A field and what it makes of a value. -/
structure Slot (σ : Type) where
  field : Field σ
  value : Value → Option (σ → σ)
  follows : Follows field.read value

/-- The fields of a record, each with what it makes of a value. -/
structure Plan {σ α : Type} (r : Record σ α) where
  slots : List (Slot σ)
  fields_eq : slots.map Slot.field = r.fields

namespace Plan

variable {σ α : Type} {r : Record σ α}

/-- What a member does to the state. Unknown keys are ignored; a repeated field is refused. -/
def member (p : Plan r) (s : σ) (m : String × Value) : Option σ :=
  match p.slots.find? (fun x => x.field.name == m.1) with
  | none => some s
  | some x => if x.field.isSet s then none else (x.value m.2).map (fun put => put s)

/-- What the items of a list make of the state, field by field. -/
def ofItems (r : Record σ α) : List (Slot σ) → σ → List Value → Option α
  | [], s, [] => (r.build s).toOption
  | [], _, _ :: _ => none
  | _ :: _, s, [] => if r.optional then (r.build s).toOption else none
  | x :: xs, s, v :: vs => (x.value v).bind fun put => ofItems r xs (put s) vs

/-- The record that a value is written as. -/
def ofValue? (p : Plan r) : Value → Option α
  | .list items => ofItems r p.slots r.empty items
  | .object members => (members.foldlM p.member r.empty).bind fun s => (r.build s).toOption
  | _ => none

theorem find?_fields (p : Plan r) (key : String) :
    r.fields.find? (fun f => f.name == key) =
      (p.slots.find? fun x => x.field.name == key).map Slot.field := by
  rw [← p.fields_eq, List.find?_map]
  rfl

end Plan

/-! ## Records as objects -/

section
variable {σ α : Type} {r : Record σ α} {fuel : Nat} {s : σ} {c c' : Cursor} {rest : List UInt8}

theorem ends_buildAt (s : σ) (hc : c.rest = rest) :
    Ends (r.buildAt s c) rest (r.build s).toOption := by
  unfold Record.buildAt
  cases r.build s with
  | ok a => exact ⟨c, rfl, hc⟩
  | error name => exact ends_fail _ _

/-- A member of an object, after the opening quote of its key, and those after it. -/
def readEntry (r : Record σ α) (fuel turns : Nat) (s : σ) (c : Cursor) : Read α :=
  match readText c with
  | .error e => .error e
  | .ok (key, c) =>
    match r.fields.find? (fun f => f.name == key) with
    | none =>
      match readColon c with
      | .error e => .error e
      | .ok ((), c) =>
        match skipValue fuel c with
        | .error e => .error e
        | .ok ((), c) => r.readMap fuel turns false s c
    | some field =>
      if field.isSet s then Record.refuseRepeated key c
      else
        match readColon c with
        | .error e => .error e
        | .ok ((), c) =>
          match field.read fuel c with
          | .error e => .error e
          | .ok (put, c) => r.readMap fuel turns false (put s) c

theorem readMap_close {turns : Nat} {first : Bool} {t : List UInt8}
    (h : c.skipBlanks.rest = Byte.closeBrace :: t) :
    r.readMap fuel (turns + 1) first s c = r.buildAt s c.skipBlanks.advance := by
  rw [Record.readMap, nextKey_close h]

theorem readMap_next {turns : Nat} {first : Bool} (h : nextKey first c = .ok (true, c')) :
    r.readMap fuel (turns + 1) first s c = readEntry r fuel turns s c' := by
  rw [Record.readMap, h]
  rfl

theorem ends_refuseRepeated (name : String) (c : Cursor) :
    Ends (Record.refuseRepeated name c : Read α) rest none := by
  unfold Record.refuseRepeated
  dsimp only
  split <;> exact ends_fail _ _

/-- What one member does to the state, and where it leaves the cursor. -/
theorem readEntry_member (p : Plan r) {depth : Nat} {bytes : List UInt8} {m : String × Value}
    {b : UInt8} {t : List UInt8} (h : Member (Spells depth) bytes m) (hlen : bytes.length < fuel)
    (he : endsValue b = true) (hc : c.rest = bytes ++ b :: t) (s : σ) :
    match p.member s m with
    | some s' => ∃ after c₁, Blank after ∧ c₁.rest = after ++ b :: t ∧ ∀ turns,
        readEntry r fuel turns s c.skipBlanks.advance = r.readMap fuel turns false s' c₁
    | none => ∃ e, ∀ turns, readEntry r fuel turns s c.skipBlanks.advance = .error e := by
  obtain ⟨before, inside, middle, blanks, text, after, hbe, hi, hm, hbl, ht, haf, rfl⟩ :=
    exists_of_member h
  have hq : c.skipBlanks.rest = Byte.quote :: (inside ++ Byte.quote :: (middle ++
      Byte.colon :: (blanks ++ text ++ (after ++ b :: t)))) := by
    refine skipBlanks_rest ?_ hbe (noBlank_cons.2 (by decide))
    rw [hc]
    simp
  obtain ⟨c₁, hc₁, hr₁⟩ := readText_append hi (advance_rest hq)
  obtain ⟨c₂, hc₂, hr₂⟩ := readColon_append hm hr₁
  have htext : text.length < fuel := by
    simp only [List.length_append, List.length_cons] at hlen
    omega
  have hs : Stops (after ++ b :: t) := stops_blank_cons haf he
  cases hf : p.slots.find? (fun x => x.field.name == m.1) with
  | none =>
    obtain ⟨c₃, hc₃, hr₃⟩ := skipValue_append hbl ht htext haf hr₂
      (noBlank_cons.2 (isBlank_of_endsValue he)) hs
    have hmem : p.member s m = some s := by rw [Plan.member, hf]
    rw [hmem]
    refine ⟨[], c₃, blank_nil, hr₃, fun turns => ?_⟩
    simp only [readEntry, hc₁, p.find?_fields, hf, Option.map_none, hc₂, hc₃]
  | some x =>
    by_cases hset : x.field.isSet s = true
    · have hmem : p.member s m = none := by rw [Plan.member, hf]; exact if_pos hset
      have hrep : Ends (Record.refuseRepeated m.1 c₁ : Read α) [] none :=
        ends_refuseRepeated m.1 c₁
      obtain ⟨e, he'⟩ := hrep
      rw [hmem]
      refine ⟨e, fun turns => ?_⟩
      simp only [readEntry, hc₁, p.find?_fields, hf, Option.map_some, if_pos hset]
      exact he'
    · have hmem : p.member s m = (x.value m.2).map (fun put => put s) := by
        rw [Plan.member, hf]; exact if_neg hset
      have hread := x.follows depth fuel blanks text m.2 hbl ht htext c₂ _ hr₂ hs
      rw [hmem]
      cases hv : x.value m.2 with
      | none =>
        rw [hv] at hread
        obtain ⟨e, he'⟩ := hread
        refine ⟨e, fun turns => ?_⟩
        simp only [readEntry, hc₁, p.find?_fields, hf, Option.map_some, if_neg hset, hc₂, he']
      | some put =>
        rw [hv] at hread
        obtain ⟨c₃, hc₃, hr₃⟩ := hread
        refine ⟨after, c₃, haf, hr₃, fun turns => ?_⟩
        simp only [readEntry, hc₁, p.find?_fields, hf, Option.map_some, if_neg hset, hc₂, hc₃]

theorem ends_readEntry (p : Plan r) {depth turns : Nat} {bytes : List UInt8}
    {ms : List (String × Value)} (h : Separated (Member (Spells depth)) bytes ms)
    (hlen : bytes.length < fuel) (hturns : ms.length ≤ turns)
    (hc : c.rest = bytes ++ Byte.closeBrace :: rest) :
    Ends (readEntry r fuel turns s c.skipBlanks.advance) rest
      ((ms.foldlM p.member s).bind fun s => (r.build s).toOption) := by
  induction h generalizing c s turns with
  | @one text m hm =>
    obtain ⟨turns, rfl⟩ : ∃ n, turns = n + 1 := ⟨turns - 1, by simp at hturns; omega⟩
    have hmem := readEntry_member p hm hlen (by decide) hc s
    cases hs : p.member s m with
    | none =>
      rw [hs] at hmem
      obtain ⟨e, he⟩ := hmem
      simp only [List.foldlM_cons, hs, Option.bind_none, Option.bind_eq_bind]
      exact ⟨e, he _⟩
    | some s' =>
      rw [hs] at hmem
      obtain ⟨after, c₁, ha, hr, he⟩ := hmem
      have hclose : c₁.skipBlanks.rest = Byte.closeBrace :: rest :=
        skipBlanks_rest hr ha (noBlank_cons.2 (by decide))
      simp only [List.foldlM_cons, List.foldlM_nil, hs, Option.bind_some, Option.bind_eq_bind,
        Option.pure_def]
      rw [he, readMap_close hclose]
      exact ends_buildAt s' (advance_rest hclose)
  | @more text more m ms hm hms ih =>
    obtain ⟨turns, rfl⟩ : ∃ n, turns = n + 1 := ⟨turns - 1, by simp at hturns; omega⟩
    rw [List.append_assoc] at hc
    rw [List.length_append, List.length_cons] at hlen
    have htext : text.length < fuel := by omega
    have hmem := readEntry_member p hm htext (by decide) hc s
    cases hs : p.member s m with
    | none =>
      rw [hs] at hmem
      obtain ⟨e, he⟩ := hmem
      simp only [List.foldlM_cons, hs, Option.bind_none, Option.bind_eq_bind]
      exact ⟨e, he _⟩
    | some s' =>
      rw [hs] at hmem
      obtain ⟨after, c₁, ha, hr, he⟩ := hmem
      have hcomma : c₁.skipBlanks.rest = Byte.comma :: (more ++ Byte.closeBrace :: rest) :=
        skipBlanks_rest hr ha (noBlank_cons.2 (by decide))
      obtain ⟨u, hu⟩ := skipBlanks_members hms (advance_rest hcomma)
      simp only [List.foldlM_cons, hs, Option.bind_some, Option.bind_eq_bind]
      rw [he, readMap_next (nextKey_comma hcomma hu)]
      exact ih (by omega) (by simpa using hturns) (advance_rest hcomma)

/-- An object is read member by member. -/
theorem ends_readMap (p : Plan r) {depth : Nat} {body : List UInt8} {ms : List (String × Value)}
    (h : Listed (Member (Spells depth)) body ms) (hlen : body.length + 1 < fuel)
    (hc : c.rest = body ++ Byte.closeBrace :: rest) :
    Ends (r.readMap fuel fuel true r.empty c) rest (p.ofValue? (.object ms)) := by
  have hcount := length_le_of_listed h
  obtain ⟨turns, hturns⟩ : ∃ n, fuel = n + 1 := ⟨fuel - 1, by omega⟩
  have hmap : r.readMap fuel fuel true r.empty c = r.readMap fuel (turns + 1) true r.empty c := by
    rw [← hturns]
  rw [hmap]
  rcases h with ⟨rfl, hw⟩ | h
  · have hclose : c.skipBlanks.rest = Byte.closeBrace :: rest :=
      skipBlanks_rest hc hw (noBlank_cons.2 (by decide))
    rw [readMap_close hclose]
    exact ends_buildAt r.empty (advance_rest hclose)
  · obtain ⟨t, ht⟩ := skipBlanks_members h hc
    rw [readMap_next (nextKey_first ht)]
    exact ends_readEntry p h (by omega) (by omega) hc

end

/-! ## Records as lists -/

section
variable {σ α : Type} {r : Record σ α} {fuel count : Nat} {s : σ} {c c' : Cursor}
  {rest : List UInt8} {x : Field σ} {xs : List (Field σ)}

theorem endList_close {t : List UInt8} (h : c.skipBlanks.rest = Byte.closeBracket :: t) :
    r.endList s c = r.buildAt s c.skipBlanks.advance := by
  simp only [Record.endList, h, if_true]

/-- A list with more items than the record has fields is refused. -/
theorem ends_endList {b : UInt8} {t : List UInt8} (h : c.skipBlanks.rest = b :: t)
    (hb : b ≠ Byte.closeBracket) : Ends (r.endList s c) rest none := by
  simp only [Record.endList, h, if_neg hb]
  split
  · split <;> exact ends_fail _ _
  · exact ends_fail _ _

/-- A field as an item of a list, and those after it. -/
def readSlot (r : Record σ α) (fuel : Nat) (x : Field σ) (xs : List (Field σ)) (count : Nat)
    (s : σ) (c : Cursor) : Read α :=
  match x.read fuel c with
  | .error e => .error e
  | .ok (put, c) => r.readList fuel xs (count + 1) (put s) c

theorem readList_close {t : List UInt8} (h : c.skipBlanks.rest = Byte.closeBracket :: t) :
    Ends (r.readList fuel (x :: xs) count s c) t
      (if r.optional then (r.build s).toOption else none) := by
  rw [Record.readList]
  simp only [h, if_true]
  split
  · exact ends_buildAt s (advance_rest h)
  · exact ends_fail _ _

theorem readList_first {b : UInt8} {t : List UInt8} (h : c.skipBlanks.rest = b :: t)
    (hb : b ≠ Byte.closeBracket) :
    r.readList fuel (x :: xs) 0 s c = readSlot r fuel x xs 0 s c.skipBlanks := by
  rw [Record.readList]
  have hn : ¬ ((0 : Nat) ≠ 0 ∧ b ≠ Byte.comma) := by simp
  simp only [h, if_neg hb, if_neg hn, if_true]
  rfl

theorem readList_comma {b : UInt8} {t u : List UInt8} (h : c.skipBlanks.rest = Byte.comma :: t)
    (h' : c.skipBlanks.advance.skipBlanks.rest = b :: u) (hb : b ≠ Byte.closeBracket) :
    r.readList fuel (x :: xs) (count + 1) s c =
      readSlot r fuel x xs (count + 1) s c.skipBlanks.advance.skipBlanks := by
  rw [Record.readList]
  have hc : Byte.comma ≠ Byte.closeBracket := by decide
  have hn : ¬ (count + 1 ≠ 0 ∧ Byte.comma ≠ Byte.comma) := by simp
  have hz : count + 1 ≠ 0 := by omega
  simp only [h, if_neg hc, if_neg hn, if_neg hz, h', if_neg hb]
  rfl

end

/-- The first of some texts, and what is left after it. -/
theorem exists_of_separated {R : Spelling Value} {bytes : List UInt8} {vs : List Value}
    (h : Separated (Padded R) bytes vs) :
    ∃ before text body v vs', Blank before ∧ R text v ∧ vs = v :: vs' ∧
      bytes = before ++ (text ++ body) ∧ Continued (Padded R) body vs' := by
  cases h with
  | one hp =>
    obtain ⟨before, text, after, hb, ht, ha, rfl⟩ := hp
    exact ⟨before, text, after, _, [], hb, ht, rfl, by simp, Or.inl ⟨rfl, ha⟩⟩
  | @more _ more _ vs' hp hm =>
    obtain ⟨before, text, after, hb, ht, ha, rfl⟩ := hp
    exact ⟨before, text, after ++ Byte.comma :: more, _, vs', hb, ht, rfl, by simp,
      Or.inr ⟨after, more, ha, hm, rfl⟩⟩

theorem stops_continued {R : Spelling Value} {body rest : List UInt8} {vs : List Value}
    (h : Continued (Padded R) body vs) : Stops (body ++ Byte.closeBracket :: rest) := by
  rcases h with ⟨-, hw⟩ | ⟨ws, more, hw, -, rfl⟩
  · exact stops_blank_cons hw (by decide)
  · rw [List.append_assoc]
    exact stops_blank_cons hw (by decide)

/-- Where the first of some items begins. -/
theorem skipBlanks_item {depth : Nat} {before text t : List UInt8} {v : Value} {c : Cursor}
    (hb : Blank before) (ht : Spells depth text v) (hc : c.rest = before ++ (text ++ t)) :
    c.skipBlanks.rest = text ++ t ∧ ∃ b u, c.skipBlanks.rest = b :: u ∧ endsValue b = false := by
  obtain ⟨b, u, rfl, hblank, he⟩ := headed_spells depth text v ht
  have hr : c.skipBlanks.rest = b :: u ++ t := skipBlanks_rest hc hb (noBlank_cons.2 hblank)
  exact ⟨hr, b, u ++ t, hr, he⟩

section
variable {σ α : Type} {r : Record σ α} {fuel : Nat} {s : σ} {c : Cursor} {rest : List UInt8}

/-- A field of a list and what is left of the list, once the fields after it are known to end as
they should. -/
theorem ends_readSlot {depth count : Nat} {x : Slot σ} {xs : List (Slot σ)}
    {text body : List UInt8} {v : Value} {vs : List Value} (ht : Spells depth text v)
    (hcont : Continued (Padded (Spells depth)) body vs) (hlen : text.length < fuel)
    (hc : c.rest = text ++ (body ++ Byte.closeBracket :: rest))
    (hrest : ∀ s c, c.rest = body ++ Byte.closeBracket :: rest →
      Ends (r.readList fuel (xs.map Slot.field) (count + 1) s c) rest (Plan.ofItems r xs s vs)) :
    Ends (readSlot r fuel x.field (xs.map Slot.field) count s c) rest
      (Plan.ofItems r (x :: xs) s (v :: vs)) := by
  have hread := x.follows depth fuel [] text v blank_nil ht hlen c _ hc (stops_continued hcont)
  rw [Plan.ofItems, readSlot]
  cases hv : x.value v with
  | none =>
    rw [hv] at hread
    obtain ⟨e, he⟩ := hread
    rw [he]
    exact ⟨e, rfl⟩
  | some put =>
    rw [hv] at hread
    obtain ⟨c₁, hc₁, hr₁⟩ := hread
    rw [hc₁]
    exact hrest (put s) c₁ hr₁

/-- What is left of a list after one of its items. -/
theorem ends_readList_continued {depth : Nat} (xs : List (Slot σ)) {count : Nat}
    {body : List UInt8} {vs : List Value} (h : Continued (Padded (Spells depth)) body vs)
    (hlen : body.length < fuel) (hc : c.rest = body ++ Byte.closeBracket :: rest) :
    Ends (r.readList fuel (xs.map Slot.field) (count + 1) s c) rest (Plan.ofItems r xs s vs) := by
  induction xs generalizing count s c body vs with
  | nil =>
    rw [List.map_nil, Record.readList]
    rcases h with ⟨rfl, hw⟩ | ⟨ws, more, hw, hsep, rfl⟩
    · have hclose : c.skipBlanks.rest = Byte.closeBracket :: rest :=
        skipBlanks_rest hc hw (noBlank_cons.2 (by decide))
      rw [endList_close hclose]
      exact ends_buildAt s (advance_rest hclose)
    · rw [List.append_assoc] at hc
      have hcomma : c.skipBlanks.rest = Byte.comma :: (more ++ Byte.closeBracket :: rest) :=
        skipBlanks_rest hc hw (noBlank_cons.2 (by decide))
      obtain ⟨v, vs, rfl⟩ := List.exists_cons_of_ne_nil (separated_ne_nil hsep)
      exact ends_endList hcomma (by decide)
  | cons x xs ih =>
    rw [List.map_cons]
    rcases h with ⟨rfl, hw⟩ | ⟨ws, more, hw, hsep, rfl⟩
    · have hclose : c.skipBlanks.rest = Byte.closeBracket :: rest :=
        skipBlanks_rest hc hw (noBlank_cons.2 (by decide))
      exact readList_close hclose
    · rw [List.append_assoc] at hc
      have hcomma : c.skipBlanks.rest = Byte.comma :: (more ++ Byte.closeBracket :: rest) :=
        skipBlanks_rest hc hw (noBlank_cons.2 (by decide))
      obtain ⟨before, text, body, v, vs', hb, ht, rfl, rfl, hcont⟩ := exists_of_separated hsep
      have hmore : c.skipBlanks.advance.rest =
          before ++ (text ++ (body ++ Byte.closeBracket :: rest)) := by
        rw [advance_rest hcomma]
        simp
      obtain ⟨hr, b, u, hu, he⟩ := skipBlanks_item hb ht hmore
      simp only [List.length_append, List.length_cons] at hlen
      have hbody : body.length < fuel := by omega
      rw [readList_comma hcomma hu (ne_closeBracket he)]
      exact ends_readSlot ht hcont (by omega) hr fun s c hc => ih hcont hbody hc

/-- A list is read item by item. -/
theorem ends_readList {depth : Nat} (xs : List (Slot σ)) {body : List UInt8} {vs : List Value}
    (h : Listed (Padded (Spells depth)) body vs) (hlen : body.length < fuel)
    (hc : c.rest = body ++ Byte.closeBracket :: rest) :
    Ends (r.readList fuel (xs.map Slot.field) 0 s c) rest (Plan.ofItems r xs s vs) := by
  rcases h with ⟨rfl, hw⟩ | hsep
  · have hclose : c.skipBlanks.rest = Byte.closeBracket :: rest :=
      skipBlanks_rest hc hw (noBlank_cons.2 (by decide))
    cases xs with
    | nil =>
      rw [List.map_nil, Record.readList, endList_close hclose]
      exact ends_buildAt s (advance_rest hclose)
    | cons x xs => exact readList_close hclose
  · obtain ⟨before, text, body, v, vs', hb, ht, rfl, rfl, hcont⟩ := exists_of_separated hsep
    simp only [List.append_assoc] at hc
    obtain ⟨hr, b, u, hu, he⟩ := skipBlanks_item hb ht hc
    simp only [List.length_append] at hlen
    have hbody : body.length < fuel := by omega
    cases xs with
    | nil =>
      rw [List.map_nil, Record.readList]
      exact ends_endList hu (ne_closeBracket he)
    | cons x xs =>
      rw [List.map_cons, readList_first hu (ne_closeBracket he)]
      exact ends_readSlot ht hcont (by omega) hr
        fun s c hc => ends_readList_continued xs hcont hbody hc

end

/-! ## Records -/

namespace Plan

variable {σ α : Type} {r : Record σ α}

/-- A record is read from the text of a value as from the value. -/
theorem follows (p : Plan r) : Follows r.read p.ofValue? := by
  refine follows_atValue ?_
  intro depth fuel b t v h hlen c rest hc _
  have hrefuse : b ≠ Byte.openBracket → b ≠ Byte.openBrace → Ends (if b = Byte.openBracket then
      r.readList fuel r.fields 0 r.empty c.advance
      else if b = Byte.openBrace then r.readMap fuel fuel true r.empty c.advance
      else refuseType r.title c) rest none := by
    intro hl ho
    rw [if_neg hl, if_neg ho]
    exact ends_refuseType _ c
  rcases scalar_or_container h with h | ⟨_, h⟩
  · cases h with
    | null => exact hrefuse (by decide) (by decide)
    | truth => exact hrefuse (by decide) (by decide)
    | falsity => exact hrefuse (by decide) (by decide)
    | number hn =>
      refine hrefuse ?_ ?_ <;> rintro rfl <;>
        rcases digit_of_numeral hn with h | h <;> exact absurd h (by decide)
    | text hq =>
      obtain ⟨inside, hi, he⟩ := hq
      cases he
      exact hrefuse (by decide) (by decide)
  · cases h with
    | @list body items hl =>
      have ha : c.advance.rest = body ++ Byte.closeBracket :: rest := by
        rw [advance_rest hc]
        simp
      simp only [List.length_cons, List.length_append] at hlen
      rw [if_pos rfl, ← p.fields_eq]
      exact ends_readList p.slots hl (by omega) ha
    | @object body members hl =>
      have ha : c.advance.rest = body ++ Byte.closeBrace :: rest := by
        rw [advance_rest hc]
        simp
      simp only [List.length_cons, List.length_append, List.length_nil] at hlen
      rw [if_neg (by decide), if_pos rfl]
      exact ends_readMap p hl (by omega) ha

/-- Of a document that the grammar has, one pass over the text makes what is made of its value. -/
theorem toOption_parse (p : Plan r) {bytes : List UInt8} {v : Value} (h : Document bytes v) :
    (r.parse bytes).toOption = p.ofValue? v := by
  obtain ⟨before, text, after, hb, ht, ha, rfl⟩ := h
  have hlen : text.length < (before ++ text ++ after).length + 1 := by
    simp only [List.length_append]
    omega
  have hs : Stops after := by
    have := stops_append ha stops_nil
    rwa [List.append_nil] at this
  have hends := p.follows maxDepth _ before text v hb ht hlen (Cursor.start _) after rfl hs
  unfold Record.parse readWhole
  cases hv : p.ofValue? v with
  | none =>
    rw [hv] at hends
    obtain ⟨e, he⟩ := hends
    rw [he]
    rfl
  | some a =>
    rw [hv] at hends
    obtain ⟨c, hc, hr⟩ := hends
    rw [hc]
    dsimp only
    rw [finish_blank (hr ▸ ha)]
    rfl

end Plan

namespace Slot

variable {σ τ α : Type}

/-- A field that holds text. -/
def text (name : String) (get : σ → Option String) (put : String → σ → σ) : Slot σ where
  field := .text name get put
  value v := (stringOf? v).map put
  follows := follows_map (follows_readStringAs "a string")

/-- A field that holds a whole number. -/
def int (name : String) (range : IntRange) (get : σ → Option Int) (put : Int → σ → σ) : Slot σ where
  field := .int name range get put
  value v := (intOf? range v).map put
  follows := follows_map (follows_readInt range)

/-- A field that holds a truth value. -/
def bool (name : String) (get : σ → Option Bool) (put : Bool → σ → σ) : Slot σ where
  field := .bool name get put
  value v := (boolOf? v).map put
  follows := follows_map follows_readBool

/-- A field that holds a record. -/
def record {r : Record σ α} (p : Plan r) (name : String) (get : τ → Option α) (put : α → τ → τ) :
    Slot τ where
  field := r.field name get put
  value v := (p.ofValue? v).map put
  follows := follows_map p.follows

end Slot

end LoginService.Json
