import LoginService.Proofs.Json.Number
import LoginService.Proofs.Json.Text

/-!
# The reader of values and the grammar

The reader accepts exactly the texts of the grammar and gives the values that they spell. Both
directions go container by container: the loops over items and members are related to lists of
texts with commas between them, for any reader of what is in between, and the values follow by
induction on how deep containers may be nested (`finds_readValue`, `accepts_readValue`). This is
done once for all readers of objects. Those that keep the members as they stand read the grammar
itself (`readValue_of_document`).
-/

namespace LoginService.Json

/-! ## What may follow a value -/

/-- A byte that ends a value: a comma or the end of a container. -/
def endsValue (b : UInt8) : Bool :=
  b == Byte.comma || b == Byte.closeBracket || b == Byte.closeBrace

theorem extendsNumber_of_endsValue {b : UInt8} (h : endsValue b = true) :
    extendsNumber b = false := by
  simp only [endsValue, Bool.or_eq_true, beq_iff_eq] at h
  rcases h with (rfl | rfl) | rfl <;> decide

theorem isBlank_of_endsValue {b : UInt8} (h : endsValue b = true) : Byte.isBlank b = false := by
  simp only [endsValue, Bool.or_eq_true, beq_iff_eq] at h
  rcases h with (rfl | rfl) | rfl <;> decide

theorem stops_blank_cons {ws rest : List UInt8} {b : UInt8} (hw : Blank ws)
    (hb : endsValue b = true) : Stops (ws ++ b :: rest) :=
  stops_append hw (stops_cons.2 (extendsNumber_of_endsValue hb))

/-! ## Scalars -/

theorem Read.map_ok {α β : Type} {f : α → β} {r : Read α} {b : β} {c : Cursor}
    (h : Read.map f r = .ok (b, c)) : ∃ a, r = .ok (a, c) ∧ b = f a := by
  cases r with
  | error e => exact absurd h (by simp [Read.map])
  | ok p =>
    obtain ⟨a, c₀⟩ := p
    cases h
    exact ⟨a, rfl, rfl⟩

/-- The first byte of a value decides how it is read; it is neither blank nor ends a value. -/
theorem scalar_of_readScalar? {b : UInt8} {t : List UInt8} {c c' : Cursor} {v : Value}
    (hr : c.rest = b :: t) (h : readScalar? b c = some (.ok (v, c'))) :
    ∃ text, Scalar text v ∧ c.rest = text ++ c'.rest := by
  have ha := advance_rest hr
  unfold readScalar? at h
  split at h
  · rename_i hb
    obtain ⟨_, hw, rfl⟩ := Read.map_ok (Option.some.inj h)
    exact ⟨_, Scalar.null, by rw [hr, hb, ← ha, rest_of_word hw]; rfl⟩
  split at h
  · rename_i hb
    obtain ⟨_, hw, rfl⟩ := Read.map_ok (Option.some.inj h)
    exact ⟨_, Scalar.truth, by rw [hr, hb, ← ha, rest_of_word hw]; rfl⟩
  split at h
  · rename_i hb
    obtain ⟨_, hw, rfl⟩ := Read.map_ok (Option.some.inj h)
    exact ⟨_, Scalar.falsity, by rw [hr, hb, ← ha, rest_of_word hw]; rfl⟩
  split at h
  · rename_i hb
    obtain ⟨n, hn, rfl⟩ := Read.map_ok (Option.some.inj h)
    obtain ⟨text, ht, hrest, hx⟩ := Number.consumes_read hn
    exact ⟨Byte.minus :: text, Scalar.number (Numeral.negative ht hx), by
      rw [hr, hb, ← ha, hrest, List.cons_append]⟩
  split at h
  · obtain ⟨n, hn, rfl⟩ := Read.map_ok (Option.some.inj h)
    obtain ⟨text, ht, hrest, hx⟩ := Number.consumes_read hn
    exact ⟨text, Scalar.number (Numeral.positive ht hx), hrest⟩
  split at h
  · rename_i hb
    obtain ⟨s, hs, rfl⟩ := Read.map_ok (Option.some.inj h)
    obtain ⟨inside, hi, hrest⟩ := inside_of_readText hs
    refine ⟨_, Scalar.text ⟨inside, hi, rfl⟩, ?_⟩
    rw [hr, hb, ← ha, hrest]
    simp
  · exact absurd h (by simp)

theorem digit_ne {b : UInt8} (h : Byte.isDigit b = true) :
    b ≠ 0x6E ∧ b ≠ 0x74 ∧ b ≠ 0x66 ∧ b ≠ Byte.minus := by
  refine ⟨?_, ?_, ?_, ?_⟩ <;> (rintro rfl; exact absurd h (by decide))

theorem isBlank_of_isDigit {b : UInt8} (h : Byte.isDigit b = true) : Byte.isBlank b = false := by
  rw [Bool.eq_false_iff]
  intro hb
  simp only [Byte.isBlank, Bool.or_eq_true, beq_iff_eq] at hb
  rcases hb with ((rfl | rfl) | rfl) | rfl <;> exact absurd h (by decide)

theorem endsValue_of_isDigit {b : UInt8} (h : Byte.isDigit b = true) : endsValue b = false := by
  rw [Bool.eq_false_iff]
  intro hb
  simp only [endsValue, Bool.or_eq_true, beq_iff_eq] at hb
  rcases hb with (rfl | rfl) | rfl <;> exact absurd h (by decide)

theorem exists_digit_of_isUnsigned {text : List UInt8} (h : IsUnsigned text) :
    ∃ b t, text = b :: t ∧ Byte.isDigit b = true := by
  obtain ⟨whole, fraction, exponent, ⟨⟨hne, hd⟩, -⟩, -, -, rfl⟩ := h
  obtain ⟨b, t, rfl⟩ := List.exists_cons_of_ne_nil hne
  exact ⟨b, t ++ (fraction ++ exponent), rfl, hd b (by simp)⟩

theorem readScalar?_minus (c : Cursor) :
    readScalar? Byte.minus c = some (Read.map .number (Number.read true c.advance)) := rfl

theorem readScalar?_quote (c : Cursor) :
    readScalar? Byte.quote c = some (Read.map .text (readText c.advance)) := rfl

theorem readScalar?_digit {b : UInt8} (h : Byte.isDigit b = true) (c : Cursor) :
    readScalar? b c = some (Read.map .number (Number.read false c)) := by
  obtain ⟨hn, ht, hf, hm⟩ := digit_ne h
  rw [readScalar?, if_neg hn, if_neg ht, if_neg hf, if_neg hm, if_pos h]

theorem readScalar?_append {text rest : List UInt8} {v : Value} {c : Cursor} (h : Scalar text v)
    (hc : c.rest = text ++ rest) (hs : Stops rest) :
    ∃ b t c', text = b :: t ∧ readScalar? b c = some (.ok (v, c')) ∧ c'.rest = rest := by
  cases h with
  | null =>
    obtain ⟨c', hw, hr⟩ := word_append (advance_rest hc)
    exact ⟨0x6E, nullTail, c', rfl, by rw [readScalar?, if_pos rfl, hw]; rfl, hr⟩
  | truth =>
    obtain ⟨c', hw, hr⟩ := word_append (advance_rest hc)
    exact ⟨0x74, trueTail, c', rfl,
      by rw [readScalar?, if_neg (by decide), if_pos rfl, hw]; rfl, hr⟩
  | falsity =>
    obtain ⟨c', hw, hr⟩ := word_append (advance_rest hc)
    exact ⟨0x66, falseTail, c', rfl, by
      rw [readScalar?, if_neg (by decide), if_neg (by decide), if_pos rfl, hw]; rfl, hr⟩
  | number hn =>
    cases hn with
    | positive hu hx =>
      obtain ⟨b, t, rfl, hb⟩ := exists_digit_of_isUnsigned hu
      obtain ⟨c', hc', hr⟩ := hx c rest hc hs
      exact ⟨b, t, c', rfl, by rw [readScalar?_digit hb, hc']; rfl, hr⟩
    | negative hu hx =>
      obtain ⟨c', hc', hr⟩ := hx c.advance rest (advance_rest hc) hs
      exact ⟨Byte.minus, _, c', rfl, by rw [readScalar?_minus, hc']; rfl, hr⟩
  | text hq =>
    obtain ⟨inside, hi, rfl⟩ := hq
    have ha : c.advance.rest = inside ++ Byte.quote :: rest := by
      rw [advance_rest hc]
      simp
    obtain ⟨c', hc', hr⟩ := readText_append hi ha
    exact ⟨Byte.quote, _, c', rfl, by rw [readScalar?_quote, hc']; rfl, hr⟩

/-! ## Lists of texts -/

section
variable {α : Type} {R : Spelling α}

/-- What is left of a list of texts after one of them: nothing but blanks, or a comma and more. -/
def Continued (R : Spelling α) : Spelling (List α) := fun bytes as =>
  (as = [] ∧ Blank bytes) ∨
    ∃ ws rest, Blank ws ∧ Separated R rest as ∧ bytes = ws ++ Byte.comma :: rest

/-- A text that blanks may follow, put before what is left of a list. -/
theorem separated_cons {text body : List UInt8} {a : α} {as : List α}
    (h : ∀ ws, Blank ws → R (text ++ ws) a) (hc : Continued R body as) :
    Separated R (text ++ body) (a :: as) := by
  rcases hc with ⟨rfl, hb⟩ | ⟨ws, rest, hw, hs, rfl⟩
  · exact Separated.one (h body hb)
  · rw [← List.append_assoc]
    exact Separated.more (h ws hw) hs

theorem separated_ne_nil {bytes : List UInt8} {as : List α} (h : Separated R bytes as) :
    as ≠ [] := by
  cases h <;> simp

/-- A list of texts has a comma for each two of them. -/
theorem length_le_of_separated {bytes : List UInt8} {as : List α} (h : Separated R bytes as) :
    as.length ≤ bytes.length + 1 := by
  induction h with
  | one _ => simp
  | more _ _ ih =>
    simp only [List.length_cons, List.length_append]
    omega

theorem length_le_of_listed {bytes : List UInt8} {as : List α} (h : Listed R bytes as) :
    as.length ≤ bytes.length + 1 := by
  rcases h with ⟨rfl, -⟩ | h
  · simp
  · exact length_le_of_separated h

end

theorem padded_append {α : Type} {R : Spelling α} {before text : List UInt8} {a : α}
    (hb : Blank before) (ht : R text a) {ws : List UInt8} (hw : Blank ws) :
    Padded R (before ++ text ++ ws) a :=
  ⟨before, text, ws, hb, ht, hw, rfl⟩

/-- A value begins with a byte that is neither blank nor ends a value. -/
def Headed (R : Spelling Value) : Prop :=
  ∀ text v, R text v → ∃ b t, text = b :: t ∧ Byte.isBlank b = false ∧ endsValue b = false

/-- A reader finds, after blanks, only what `R` describes. -/
def Finds (read : Cursor → Read Value) (R : Spelling Value) : Prop :=
  ∀ c c' v, read c = .ok (v, c') →
    ∃ before text, Blank before ∧ R text v ∧ c.rest = before ++ (text ++ c'.rest)

/-- A reader takes, after blanks, all texts that `R` describes and that are shorter than `bound`. -/
def Accepts (read : Cursor → Read Value) (R : Spelling Value) (bound : Nat) : Prop :=
  ∀ before text v, Blank before → R text v → text.length < bound →
    Consumes read (before ++ text) v

/-! ## The items of a list -/

section
variable {item : Cursor → Read Value} {R : Spelling Value} {fuel : Nat} {acc : List Value}
  {c : Cursor}

/-- One item and those after it. -/
def readItem (item : Cursor → Read Value) (fuel : Nat) (acc : List Value) (c : Cursor) :
    Read (List Value) :=
  match item c with
  | .error e => .error e
  | .ok (v, c) => readItems item fuel false (v :: acc) c

theorem readItems_close {first : Bool} {t : List UInt8}
    (h : c.skipBlanks.rest = Byte.closeBracket :: t) :
    readItems item (fuel + 1) first acc c = .ok (acc.reverse, c.skipBlanks.advance) := by
  rw [readItems]
  simp only [h, if_true]

theorem readItems_first {b : UInt8} {t : List UInt8} (h : c.skipBlanks.rest = b :: t)
    (hb : b ≠ Byte.closeBracket) :
    readItems item (fuel + 1) true acc c = readItem item fuel acc c.skipBlanks := by
  rw [readItems]
  simp only [h, if_neg hb, if_true]
  rfl

theorem readItems_comma {b : UInt8} {t u : List UInt8} (h : c.skipBlanks.rest = Byte.comma :: t)
    (h' : c.skipBlanks.advance.skipBlanks.rest = b :: u) (hb : b ≠ Byte.closeBracket) :
    readItems item (fuel + 1) false acc c =
      readItem item fuel acc c.skipBlanks.advance.skipBlanks := by
  rw [readItems]
  have hc : Byte.comma ≠ Byte.closeBracket := by decide
  simp only [h, if_neg hc, Bool.false_eq_true, if_false, if_true, h', if_neg hb]
  rfl

/-- The three ways in which a turn of the loop goes well. -/
theorem readItems_cases {first : Bool} {c' : Cursor} {vs : List Value}
    (h : readItems item (fuel + 1) first acc c = .ok (vs, c')) :
    (∃ t, c.skipBlanks.rest = Byte.closeBracket :: t ∧ vs = acc.reverse ∧ c'.rest = t) ∨
      (first = true ∧ readItem item fuel acc c.skipBlanks = .ok (vs, c')) ∨
      (first = false ∧ ∃ t, c.skipBlanks.rest = Byte.comma :: t ∧
        readItem item fuel acc c.skipBlanks.advance.skipBlanks = .ok (vs, c')) := by
  rw [readItems] at h
  dsimp only at h
  split at h
  · exact absurd h fail_ne_ok
  rename_i b t hr
  split at h
  · rename_i hb
    cases h
    exact Or.inl ⟨t, hb ▸ hr, rfl, advance_rest hr⟩
  split at h
  · rename_i hf
    exact Or.inr (Or.inl ⟨hf, h⟩)
  rename_i hf
  split at h
  · rename_i hb
    split at h
    · exact absurd h fail_ne_ok
    split at h
    · exact absurd h failAhead_ne_ok
    · exact Or.inr (Or.inr ⟨by simpa using hf, t, hb ▸ hr, h⟩)
  · exact absurd h failAhead_ne_ok

theorem readItem_ok {c' : Cursor} {vs : List Value} (h : readItem item fuel acc c = .ok (vs, c')) :
    ∃ v c₁, item c = .ok (v, c₁) ∧ readItems item fuel false (v :: acc) c₁ = .ok (vs, c') := by
  unfold readItem at h
  split at h
  · exact absurd h (by simp)
  · rename_i v c₁ hv
    exact ⟨v, c₁, hv, h⟩

/-- What the loop reads is a list of texts with commas between them. -/
theorem listed_of_readItems (hf : Finds item R) {first : Bool} {c' : Cursor} {vs : List Value}
    (h : readItems item fuel first acc c = .ok (vs, c')) :
    ∃ body vs', vs = acc.reverse ++ vs' ∧ c.rest = body ++ Byte.closeBracket :: c'.rest ∧
      if first then Listed (Padded R) body vs' else Continued (Padded R) body vs' := by
  induction fuel generalizing first acc c with
  | zero => exact absurd h (by simp [readItems, Cursor.fail])
  | succ fuel ih =>
    obtain ⟨ws, hw, hc, -⟩ := exists_skipBlanks c
    obtain ⟨t, ht, rfl, hr⟩ | ⟨rfl, hi⟩ | ⟨rfl, t, ht, hi⟩ := readItems_cases h
    · refine ⟨ws, [], by simp, by rw [hc, ht, hr], ?_⟩
      split
      · exact Or.inl ⟨rfl, hw⟩
      · exact Or.inl ⟨rfl, hw⟩
    · obtain ⟨v, c₁, hv, hrec⟩ := readItem_ok hi
      obtain ⟨before, text, hb, ht, hr⟩ := hf _ _ _ hv
      obtain ⟨body, vs', rfl, hbody, hcont⟩ := ih hrec
      refine ⟨ws ++ before ++ text ++ body, v :: vs', by simp, ?_, ?_⟩
      · rw [hc, hr, hbody]
        simp
      · exact Or.inr (separated_cons (fun _ => padded_append (blank_append hw hb) ht) hcont)
    · obtain ⟨v, c₁, hv, hrec⟩ := readItem_ok hi
      obtain ⟨us, hu, hc₂, -⟩ := exists_skipBlanks c.skipBlanks.advance
      obtain ⟨before, text, hb, htext, hr⟩ := hf _ _ _ hv
      obtain ⟨body, vs', rfl, hbody, hcont⟩ := ih hrec
      refine ⟨ws ++ Byte.comma :: (us ++ before ++ text ++ body), v :: vs', by simp, ?_, ?_⟩
      · rw [hc, ht, ← advance_rest ht, hc₂, hr, hbody]
        simp
      · exact Or.inr ⟨ws, _, hw,
          separated_cons (fun _ => padded_append (blank_append hu hb) htext) hcont, rfl⟩

theorem skipBlanks_padded (hh : Headed R) {bytes rest : List UInt8} {v : Value}
    (h : Padded R bytes v) (hc : c.rest = bytes ++ rest) :
    ∃ b t after, R (b :: t) v ∧ Blank after ∧ (b :: t).length ≤ bytes.length ∧
      endsValue b = false ∧ c.skipBlanks.rest = b :: t ++ (after ++ rest) := by
  obtain ⟨before, text, after, hb, ht, ha, rfl⟩ := h
  obtain ⟨b, t, rfl, hnb, he⟩ := hh text v ht
  refine ⟨b, t, after, ht, ha, by simp; omega, he, ?_⟩
  exact skipBlanks_rest (by rw [hc]; simp) hb (noBlank_cons.2 hnb)

theorem skipBlanks_separated (hh : Headed R) {bytes rest : List UInt8} {vs : List Value}
    (h : Separated (Padded R) bytes vs) (hc : c.rest = bytes ++ rest) :
    ∃ b t, c.skipBlanks.rest = b :: t ∧ endsValue b = false := by
  cases h with
  | one hp =>
    obtain ⟨b, t, after, -, -, -, he, hs⟩ := skipBlanks_padded hh hp hc
    exact ⟨b, t ++ (after ++ rest), hs, he⟩
  | @more text more _ _ hp _ =>
    rw [List.append_assoc] at hc
    obtain ⟨b, t, after, -, -, -, he, hs⟩ := skipBlanks_padded hh hp hc
    exact ⟨b, t ++ (after ++ (Byte.comma :: more ++ rest)), hs, he⟩

theorem ne_closeBracket {b : UInt8} (h : endsValue b = false) : b ≠ Byte.closeBracket := by
  rintro rfl
  exact absurd h (by decide)

/-- The loop reads every list of texts with commas between them. -/
theorem readItem_append {bound : Nat} (hh : Headed R) (ha : Accepts item R bound)
    {bytes : List UInt8} {vs : List Value} (h : Separated (Padded R) bytes vs)
    (hb : bytes.length < bound) (hfuel : vs.length ≤ fuel) {rest : List UInt8}
    (hc : c.rest = bytes ++ Byte.closeBracket :: rest) :
    ∃ c', readItem item fuel acc c.skipBlanks = .ok (acc.reverse ++ vs, c') ∧ c'.rest = rest := by
  induction h generalizing acc c fuel with
  | @one text v hp =>
    obtain ⟨b, t, after, hR, hafter, hlen, he, hs⟩ := skipBlanks_padded hh hp hc
    obtain ⟨c₁, hv, hr⟩ := ha [] _ v blank_nil hR (by omega) _ _ hs
      (stops_blank_cons hafter (by decide))
    obtain ⟨fuel, rfl⟩ : ∃ n, fuel = n + 1 := ⟨fuel - 1, by simp at hfuel; omega⟩
    have hclose : c₁.skipBlanks.rest = Byte.closeBracket :: rest :=
      skipBlanks_rest hr hafter (noBlank_cons.2 (by decide))
    refine ⟨c₁.skipBlanks.advance, ?_, advance_rest hclose⟩
    rw [readItem, hv]
    dsimp only
    rw [readItems_close hclose, List.reverse_cons]
  | @more text more v vs hp hm ih =>
    rw [List.append_assoc] at hc
    rw [List.length_append, List.length_cons] at hb
    obtain ⟨b, t, after, hR, hafter, hlen, he, hs⟩ := skipBlanks_padded hh hp hc
    obtain ⟨c₁, hv, hr⟩ := ha [] _ v blank_nil hR (by omega) _ _ hs
      (stops_blank_cons hafter (by decide))
    obtain ⟨fuel, rfl⟩ : ∃ n, fuel = n + 1 := ⟨fuel - 1, by simp at hfuel; omega⟩
    have hcomma : c₁.skipBlanks.rest = Byte.comma :: (more ++ Byte.closeBracket :: rest) :=
      skipBlanks_rest hr hafter (noBlank_cons.2 (by decide))
    obtain ⟨b', t', hs', he'⟩ := skipBlanks_separated hh hm (advance_rest hcomma)
    have hrec : ∃ c', readItem item fuel (v :: acc) c₁.skipBlanks.advance.skipBlanks =
        .ok ((v :: acc).reverse ++ vs, c') ∧ c'.rest = rest :=
      ih (by omega) (by simpa using hfuel) (advance_rest hcomma)
    obtain ⟨c', hc', hr'⟩ := hrec
    refine ⟨c', ?_, hr'⟩
    rw [readItem, hv]
    dsimp only
    rw [readItems_comma hcomma hs' (ne_closeBracket he'), hc', List.reverse_cons, List.append_assoc,
      List.singleton_append]

theorem readItems_append {bound : Nat} (hh : Headed R) (ha : Accepts item R bound)
    {body : List UInt8} {vs : List Value} (h : Listed (Padded R) body vs)
    (hb : body.length < bound) (hfuel : vs.length < fuel) {rest : List UInt8}
    (hc : c.rest = body ++ Byte.closeBracket :: rest) :
    ∃ c', readItems item fuel true [] c = .ok (vs, c') ∧ c'.rest = rest := by
  obtain ⟨fuel, rfl⟩ : ∃ n, fuel = n + 1 := ⟨fuel - 1, by omega⟩
  rcases h with ⟨rfl, hw⟩ | h
  · have hclose : c.skipBlanks.rest = Byte.closeBracket :: rest :=
      skipBlanks_rest hc hw (noBlank_cons.2 (by decide))
    exact ⟨c.skipBlanks.advance, readItems_close hclose, advance_rest hclose⟩
  · obtain ⟨b, t, hs, he⟩ := skipBlanks_separated hh h hc
    rw [readItems_first hs (ne_closeBracket he)]
    exact readItem_append hh ha h hb (Nat.le_of_lt_succ hfuel) hc

end

/-! ## The members of an object -/

section
variable {c c' : Cursor}

theorem nextKey_close {first : Bool} {t : List UInt8}
    (h : c.skipBlanks.rest = Byte.closeBrace :: t) :
    nextKey first c = .ok (false, c.skipBlanks) := by
  rw [nextKey]
  simp only [h, if_true]

theorem nextKey_first {t : List UInt8} (h : c.skipBlanks.rest = Byte.quote :: t) :
    nextKey true c = .ok (true, c.skipBlanks.advance) := by
  rw [nextKey]
  have hq : Byte.quote ≠ Byte.closeBrace := by decide
  simp only [h, if_neg hq, if_true]

theorem nextKey_comma {t u : List UInt8} (h : c.skipBlanks.rest = Byte.comma :: t)
    (h' : c.skipBlanks.advance.skipBlanks.rest = Byte.quote :: u) :
    nextKey false c = .ok (true, c.skipBlanks.advance.skipBlanks.advance) := by
  rw [nextKey]
  have hc : Byte.comma ≠ Byte.closeBrace := by decide
  simp only [h, if_neg hc, Bool.false_eq_true, if_false, if_true, h']

/-- The three ways in which the search for the next key goes well. -/
theorem nextKey_cases {first more : Bool} (h : nextKey first c = .ok (more, c')) :
    (more = false ∧ ∃ t, c.skipBlanks.rest = Byte.closeBrace :: t ∧ c' = c.skipBlanks) ∨
      (more = true ∧ first = true ∧ ∃ t, c.skipBlanks.rest = Byte.quote :: t ∧ c'.rest = t) ∨
      (more = true ∧ first = false ∧ ∃ t u, c.skipBlanks.rest = Byte.comma :: t ∧
        c.skipBlanks.advance.skipBlanks.rest = Byte.quote :: u ∧ c'.rest = u) := by
  rw [nextKey] at h
  dsimp only at h
  split at h
  · exact absurd h fail_ne_ok
  rename_i b t hr
  split at h
  · rename_i hb
    cases h
    exact Or.inl ⟨rfl, t, hb ▸ hr, rfl⟩
  split at h
  · rename_i hf
    split at h
    · rename_i hb
      cases h
      exact Or.inr (Or.inl ⟨rfl, hf, t, hb ▸ hr, advance_rest hr⟩)
    · exact absurd h failAhead_ne_ok
  rename_i hf
  split at h
  · rename_i hb
    split at h
    · exact absurd h fail_ne_ok
    rename_i b' u hr'
    split at h
    · rename_i hb'
      cases h
      exact Or.inr (Or.inr ⟨rfl, by simpa using hf, t, u, hb ▸ hr, hb' ▸ hr', advance_rest hr'⟩)
    split at h <;> exact absurd h failAhead_ne_ok
  · exact absurd h failAhead_ne_ok

theorem readColon_append {ws rest : List UInt8} (hw : Blank ws)
    (hc : c.rest = ws ++ Byte.colon :: rest) :
    ∃ c', readColon c = .ok ((), c') ∧ c'.rest = rest := by
  have hs : c.skipBlanks.rest = Byte.colon :: rest :=
    skipBlanks_rest hc hw (noBlank_cons.2 (by decide))
  refine ⟨c.skipBlanks.advance, ?_, advance_rest hs⟩
  rw [readColon]
  simp only [hs, if_true]

theorem colon_of_readColon (h : readColon c = .ok ((), c')) :
    ∃ ws, Blank ws ∧ c.rest = ws ++ Byte.colon :: c'.rest := by
  obtain ⟨ws, hw, hc, -⟩ := exists_skipBlanks c
  rw [readColon] at h
  split at h
  · exact absurd h fail_ne_ok
  rename_i b t hr
  split at h
  · rename_i hb
    cases h
    exact ⟨ws, hw, by rw [hc, hr, hb, advance_rest hr]⟩
  · exact absurd h failAhead_ne_ok

end

/-- A member begins with its key, after blanks; its value is followed by blanks. -/
theorem exists_of_member {R : Spelling Value} {bytes : List UInt8} {m : String × Value}
    (h : Member R bytes m) :
    ∃ before inside middle blanks text after, Blank before ∧ Inside inside m.1 ∧ Blank middle ∧
      Blank blanks ∧ R text m.2 ∧ Blank after ∧
      bytes = before ++ Byte.quote :: (inside ++ Byte.quote :: (middle ++
        Byte.colon :: (blanks ++ text ++ after))) := by
  obtain ⟨key, value, ⟨before, quoted, middle, hb, ⟨inside, hi, rfl⟩, hm, rfl⟩,
    ⟨blanks, text, after, hbl, ht, ha, rfl⟩, rfl⟩ := h
  exact ⟨before, inside, middle, blanks, text, after, hb, hi, hm, hbl, ht, ha, by simp⟩

theorem member_append {R : Spelling Value} {before inside middle blanks text : List UInt8}
    {key : String} {v : Value} (hb : Blank before) (hi : Inside inside key) (hm : Blank middle)
    (hbl : Blank blanks) (ht : R text v) {after : List UInt8} (ha : Blank after) :
    Member R (before ++ Byte.quote :: (inside ++ Byte.quote :: (middle ++
      Byte.colon :: (blanks ++ text))) ++ after) (key, v) :=
  ⟨before ++ (Byte.quote :: (inside ++ [Byte.quote])) ++ middle, blanks ++ text ++ after,
    ⟨before, _, middle, hb, ⟨inside, hi, rfl⟩, hm, rfl⟩, ⟨blanks, text, after, hbl, ht, ha, rfl⟩,
    by simp⟩

section
variable {item : Cursor → Read Value} {R : Spelling Value} {fuel : Nat}
  {acc : List (String × Value)} {c c' : Cursor}

/-- One member, after the opening quote of its key, and those after it. -/
def readMember (item : Cursor → Read Value) (fuel : Nat) (acc : List (String × Value))
    (c : Cursor) : Read (List (String × Value)) :=
  match readText c with
  | .error e => .error e
  | .ok (key, c) =>
    match readColon c with
    | .error e => .error e
    | .ok ((), c) =>
      match item c with
      | .error e => .error e
      | .ok (v, c) => readMembers item fuel false ((key, v) :: acc) c

theorem readMembers_close {first : Bool} {t : List UInt8}
    (h : c.skipBlanks.rest = Byte.closeBrace :: t) :
    readMembers item (fuel + 1) first acc c = .ok (acc.reverse, c.skipBlanks.advance) := by
  rw [readMembers, nextKey_close h]

theorem readMembers_next {first : Bool} (h : nextKey first c = .ok (true, c')) :
    readMembers item (fuel + 1) first acc c = readMember item fuel acc c' := by
  rw [readMembers, h]
  rfl

theorem readMember_ok {ms : List (String × Value)} (h : readMember item fuel acc c = .ok (ms, c')) :
    ∃ key v c₁ c₂ c₃, readText c = .ok (key, c₁) ∧ readColon c₁ = .ok ((), c₂) ∧
      item c₂ = .ok (v, c₃) ∧ readMembers item fuel false ((key, v) :: acc) c₃ = .ok (ms, c') := by
  unfold readMember at h
  split at h
  · exact absurd h (by simp)
  rename_i key c₁ hk
  split at h
  · exact absurd h (by simp)
  rename_i c₂ hcolon
  split at h
  · exact absurd h (by simp)
  rename_i v c₃ hv
  exact ⟨key, v, c₁, c₂, c₃, hk, hcolon, hv, h⟩

theorem readMembers_cases {first : Bool} {ms : List (String × Value)}
    (h : readMembers item (fuel + 1) first acc c = .ok (ms, c')) :
    (∃ c₁, nextKey first c = .ok (false, c₁) ∧ ms = acc.reverse ∧ c' = c₁.advance) ∨
      ∃ c₁, nextKey first c = .ok (true, c₁) ∧ readMember item fuel acc c₁ = .ok (ms, c') := by
  rw [readMembers] at h
  split at h
  · exact absurd h (by simp)
  · rename_i c₁ hk
    cases h
    exact Or.inl ⟨c₁, hk, rfl, rfl⟩
  · rename_i c₁ hk
    exact Or.inr ⟨c₁, hk, h⟩

/-- A member and what is left of the list after it. -/
theorem separated_of_readMember (hf : Finds item R) {ms' : List (String × Value)} {v : Value}
    {key : String} {c₁ c₂ c₃ : Cursor} {body ws : List UInt8} (hw : Blank ws)
    (hk : readText c = .ok (key, c₁)) (hcolon : readColon c₁ = .ok ((), c₂))
    (hv : item c₂ = .ok (v, c₃)) (hbody : c₃.rest = body ++ Byte.closeBrace :: c'.rest)
    (hcont : Continued (Member R) body ms') :
    ∃ text, ws ++ Byte.quote :: c.rest = text ++ Byte.closeBrace :: c'.rest ∧
      Separated (Member R) text ((key, v) :: ms') := by
  obtain ⟨inside, hi, hr₁⟩ := inside_of_readText hk
  obtain ⟨middle, hm, hr₂⟩ := colon_of_readColon hcolon
  obtain ⟨blanks, text, hbl, ht, hr₃⟩ := hf _ _ _ hv
  refine ⟨_, ?_, separated_cons (fun _ => member_append hw hi hm hbl ht) hcont⟩
  rw [hr₁, hr₂, hr₃, hbody]
  simp

/-- What the loop reads is a list of members with commas between them. -/
theorem listed_of_readMembers (hf : Finds item R) {first : Bool} {ms : List (String × Value)}
    (h : readMembers item fuel first acc c = .ok (ms, c')) :
    ∃ body ms', ms = acc.reverse ++ ms' ∧ c.rest = body ++ Byte.closeBrace :: c'.rest ∧
      if first then Listed (Member R) body ms' else Continued (Member R) body ms' := by
  induction fuel generalizing first acc c with
  | zero => exact absurd h (by simp [readMembers, Cursor.fail])
  | succ fuel ih =>
    obtain ⟨ws, hw, hc, -⟩ := exists_skipBlanks c
    obtain ⟨c₁, hk, rfl, rfl⟩ | ⟨c₁, hk, hm⟩ := readMembers_cases h
    · obtain ⟨-, t, ht, rfl⟩ | ⟨hf, -⟩ | ⟨hf, -⟩ := nextKey_cases hk
      · refine ⟨ws, [], by simp, by rw [hc, ht, advance_rest ht], ?_⟩
        split
        · exact Or.inl ⟨rfl, hw⟩
        · exact Or.inl ⟨rfl, hw⟩
      · exact absurd hf (by simp)
      · exact absurd hf (by simp)
    · obtain ⟨key, v, c₂, c₃, c₄, htext, hcolon, hv, hrec⟩ := readMember_ok hm
      obtain ⟨body, ms', rfl, hbody, hcont⟩ := ih hrec
      obtain ⟨hf, -⟩ | ⟨-, rfl, t, ht, hr⟩ | ⟨-, rfl, t, u, ht, hu, hr⟩ := nextKey_cases hk
      · exact absurd hf (by simp)
      · obtain ⟨text, htxt, hsep⟩ := separated_of_readMember hf hw htext hcolon hv hbody hcont
        refine ⟨text, (key, v) :: ms', by simp, ?_, Or.inr hsep⟩
        rw [← htxt, hc, ht, hr]
      · obtain ⟨us, hus, hc₂, -⟩ := exists_skipBlanks c.skipBlanks.advance
        obtain ⟨text, htxt, hsep⟩ := separated_of_readMember hf hus htext hcolon hv hbody hcont
        refine ⟨ws ++ Byte.comma :: text, (key, v) :: ms', by simp, ?_,
          Or.inr ⟨ws, text, hw, hsep, rfl⟩⟩
        rw [hc, ht, ← advance_rest ht, hc₂, hu, ← hr, htxt]
        simp

/-- Where the key of a member begins. -/
theorem skipBlanks_member {bytes rest : List UInt8} {m : String × Value} (h : Member R bytes m)
    (hc : c.rest = bytes ++ rest) : ∃ t, c.skipBlanks.rest = Byte.quote :: t := by
  obtain ⟨before, inside, middle, blanks, text, after, hb, -, -, -, -, -, rfl⟩ := exists_of_member h
  rw [List.append_assoc, List.cons_append] at hc
  exact ⟨_, skipBlanks_rest hc hb (noBlank_cons.2 (by decide))⟩

theorem skipBlanks_members {bytes rest : List UInt8} {ms : List (String × Value)}
    (h : Separated (Member R) bytes ms) (hc : c.rest = bytes ++ rest) :
    ∃ t, c.skipBlanks.rest = Byte.quote :: t := by
  cases h with
  | one hm => exact skipBlanks_member hm hc
  | more hm _ =>
    rw [List.append_assoc] at hc
    exact skipBlanks_member hm hc

/-- A member is read off any text that it begins. -/
theorem readMember_append {bound : Nat} (ha : Accepts item R bound) {bytes rest : List UInt8}
    {m : String × Value} (h : Member R bytes m) (hb : bytes.length < bound)
    (hc : c.rest = bytes ++ rest) (hs : ∀ ws, Blank ws → Stops (ws ++ rest)) :
    ∃ after c₁, Blank after ∧ c₁.rest = after ++ rest ∧ ∀ fuel acc,
      readMember item fuel acc c.skipBlanks.advance
        = readMembers item fuel false (m :: acc) c₁ := by
  obtain ⟨before, inside, middle, blanks, text, after, hbe, hi, hm, hbl, ht, haf, rfl⟩ :=
    exists_of_member h
  have hq : c.skipBlanks.rest = Byte.quote :: (inside ++ Byte.quote :: (middle ++
      Byte.colon :: (blanks ++ text ++ (after ++ rest)))) := by
    refine skipBlanks_rest ?_ hbe (noBlank_cons.2 (by decide))
    rw [hc]
    simp
  obtain ⟨c₁, hc₁, hr₁⟩ := readText_append hi (advance_rest hq)
  obtain ⟨c₂, hc₂, hr₂⟩ := readColon_append hm hr₁
  have hlen : text.length < bound := by
    simp only [List.length_append, List.length_cons] at hb
    omega
  obtain ⟨c₃, hc₃, hr₃⟩ := ha blanks text m.2 hbl ht hlen c₂ _ hr₂ (hs after haf)
  refine ⟨after, c₃, haf, hr₃, ?_⟩
  intro fuel acc
  rw [readMember, hc₁]
  dsimp only
  rw [hc₂]
  dsimp only
  rw [hc₃]

theorem readMember_separated {bound : Nat} (ha : Accepts item R bound) {bytes : List UInt8}
    {ms : List (String × Value)} (h : Separated (Member R) bytes ms) (hb : bytes.length < bound)
    (hfuel : ms.length ≤ fuel) {rest : List UInt8}
    (hc : c.rest = bytes ++ Byte.closeBrace :: rest) :
    ∃ c', readMember item fuel acc c.skipBlanks.advance = .ok (acc.reverse ++ ms, c') ∧
      c'.rest = rest := by
  induction h generalizing acc c fuel with
  | @one text m hm =>
    obtain ⟨after, c₁, haf, hr, he⟩ := readMember_append ha hm hb hc
      (fun _ hw => stops_blank_cons hw (by decide))
    obtain ⟨fuel, rfl⟩ : ∃ n, fuel = n + 1 := ⟨fuel - 1, by simp at hfuel; omega⟩
    have hclose : c₁.skipBlanks.rest = Byte.closeBrace :: rest :=
      skipBlanks_rest hr haf (noBlank_cons.2 (by decide))
    refine ⟨c₁.skipBlanks.advance, ?_, advance_rest hclose⟩
    rw [he, readMembers_close hclose, List.reverse_cons]
  | @more text more m ms hm hms ih =>
    rw [List.append_assoc] at hc
    rw [List.length_append, List.length_cons] at hb
    obtain ⟨after, c₁, haf, hr, he⟩ := readMember_append ha hm (by omega) hc
      (fun _ hw => stops_blank_cons hw (by decide))
    obtain ⟨fuel, rfl⟩ : ∃ n, fuel = n + 1 := ⟨fuel - 1, by simp at hfuel; omega⟩
    have hcomma : c₁.skipBlanks.rest = Byte.comma :: (more ++ Byte.closeBrace :: rest) :=
      skipBlanks_rest hr haf (noBlank_cons.2 (by decide))
    obtain ⟨u, hu⟩ := skipBlanks_members hms (advance_rest hcomma)
    have hrec : ∃ c', readMember item fuel (m :: acc)
        c₁.skipBlanks.advance.skipBlanks.advance = .ok ((m :: acc).reverse ++ ms, c') ∧
        c'.rest = rest :=
      ih (by omega) (by simpa using hfuel) (advance_rest hcomma)
    obtain ⟨c', hc', hr'⟩ := hrec
    refine ⟨c', ?_, hr'⟩
    rw [he, readMembers_next (nextKey_comma hcomma hu), hc', List.reverse_cons, List.append_assoc,
      List.singleton_append]

/-- The loop reads every list of members with commas between them. -/
theorem readMembers_append {bound : Nat} (ha : Accepts item R bound) {body : List UInt8}
    {ms : List (String × Value)} (h : Listed (Member R) body ms) (hb : body.length < bound)
    (hfuel : ms.length < fuel) {rest : List UInt8}
    (hc : c.rest = body ++ Byte.closeBrace :: rest) :
    ∃ c', readMembers item fuel true [] c = .ok (ms, c') ∧ c'.rest = rest := by
  obtain ⟨fuel, rfl⟩ : ∃ n, fuel = n + 1 := ⟨fuel - 1, by omega⟩
  rcases h with ⟨rfl, hw⟩ | h
  · have hclose : c.skipBlanks.rest = Byte.closeBrace :: rest :=
      skipBlanks_rest hc hw (noBlank_cons.2 (by decide))
    exact ⟨c.skipBlanks.advance, readMembers_close hclose, advance_rest hclose⟩
  · obtain ⟨t, ht⟩ := skipBlanks_members h hc
    rw [readMembers_next (nextKey_first ht)]
    exact readMember_separated ha h hb (Nat.le_of_lt_succ hfuel) hc

end

/-! ## Values -/

section
variable {object : ObjectReader} {fuel depth : Nat} {c c' : Cursor} {v : Value}

theorem readValue_nil (h : c.skipBlanks.rest = []) :
    readValue object fuel depth c = c.skipBlanks.fail .endInValue := by
  cases depth <;> (rw [readValue]; simp only [h])

theorem readValue_scalar {b : UInt8} {t : List UInt8} {r : Read Value}
    (h : c.skipBlanks.rest = b :: t) (hs : readScalar? b c.skipBlanks = some r) :
    readValue object fuel depth c = r := by
  cases depth <;> (rw [readValue]; simp only [h, hs])

theorem readScalar?_openBracket (c : Cursor) : readScalar? Byte.openBracket c = none := rfl

theorem readScalar?_openBrace (c : Cursor) : readScalar? Byte.openBrace c = none := rfl

theorem readValue_list {t : List UInt8} (h : c.skipBlanks.rest = Byte.openBracket :: t) :
    readValue object fuel (depth + 1) c = Read.map .list
      (readItems (readValue object fuel depth) fuel true [] c.skipBlanks.advance) := by
  rw [readValue]
  simp only [h, readScalar?_openBracket, if_true]

theorem readValue_object {t : List UInt8} (h : c.skipBlanks.rest = Byte.openBrace :: t) :
    readValue object fuel (depth + 1) c =
      object (readValue object fuel depth) c.skipBlanks.advance := by
  have hb : Byte.openBrace ≠ Byte.openBracket := by decide
  rw [readValue]
  simp only [h, readScalar?_openBrace, if_neg hb, if_true]

/-- A value that begins with neither a scalar nor an allowed container is refused. -/
theorem readValue_refused {b : UInt8} {t : List UInt8} (h : c.skipBlanks.rest = b :: t)
    (hs : readScalar? b c.skipBlanks = none)
    (hb : depth = 0 ∨ b ≠ Byte.openBracket ∧ b ≠ Byte.openBrace) :
    ∃ cause, readValue object fuel depth c = c.skipBlanks.failAhead cause := by
  cases depth with
  | zero =>
    rw [readValue]
    simp only [h, hs]
    split
    · exact ⟨_, rfl⟩
    split
    · exact ⟨_, rfl⟩
    · exact ⟨_, rfl⟩
  | succ depth =>
    obtain ⟨hl, ho⟩ : b ≠ Byte.openBracket ∧ b ≠ Byte.openBrace := by simpa using hb
    rw [readValue]
    simp only [h, hs, if_neg hl, if_neg ho]
    exact ⟨_, rfl⟩

/-- How a value is read: it is a scalar, a list or an object, or it is refused. -/
theorem readValue_cases (object : ObjectReader) (fuel depth : Nat) (c : Cursor) :
    c.skipBlanks.rest = [] ∨
      (∃ b t, c.skipBlanks.rest = b :: t ∧ ∃ r, readScalar? b c.skipBlanks = some r) ∨
      (∃ cause, readValue object fuel depth c = c.skipBlanks.failAhead cause) ∨
      ∃ depth' t, depth = depth' + 1 ∧ (c.skipBlanks.rest = Byte.openBracket :: t ∨
        c.skipBlanks.rest = Byte.openBrace :: t) := by
  cases hr : c.skipBlanks.rest with
  | nil => exact Or.inl rfl
  | cons b t =>
    refine Or.inr ?_
    cases hs : readScalar? b c.skipBlanks with
    | some r => exact Or.inl ⟨b, t, rfl, r, hs⟩
    | none =>
      refine Or.inr ?_
      by_cases hd : depth = 0
      · exact Or.inl (readValue_refused hr hs (Or.inl hd))
      by_cases hl : b = Byte.openBracket
      · exact Or.inr ⟨depth - 1, t, by omega, Or.inl (by rw [hl])⟩
      by_cases ho : b = Byte.openBrace
      · exact Or.inr ⟨depth - 1, t, by omega, Or.inr (by rw [ho])⟩
      · exact Or.inl (readValue_refused hr hs (Or.inr ⟨hl, ho⟩))

end

theorem spells_of_scalar {text : List UInt8} {v : Value} (h : Scalar text v) (depth : Nat) :
    Spells depth text v := by
  cases depth with
  | zero => exact h
  | succ depth => exact Or.inl h

theorem scalar_head {text : List UInt8} {v : Value} (h : Scalar text v) :
    ∃ b t, text = b :: t ∧ Byte.isBlank b = false ∧ endsValue b = false := by
  cases h with
  | null => exact ⟨_, _, rfl, by decide, by decide⟩
  | truth => exact ⟨_, _, rfl, by decide, by decide⟩
  | falsity => exact ⟨_, _, rfl, by decide, by decide⟩
  | number hn =>
    cases hn with
    | positive hu _ =>
      obtain ⟨b, t, rfl, hb⟩ := exists_digit_of_isUnsigned hu
      exact ⟨b, t, rfl, isBlank_of_isDigit hb, endsValue_of_isDigit hb⟩
    | negative _ _ => exact ⟨_, _, rfl, by decide, by decide⟩
  | text hq =>
    obtain ⟨inside, -, rfl⟩ := hq
    exact ⟨_, _, rfl, by decide, by decide⟩

/-! ## Readers of objects -/

/-- Values that are spelled level by level like those of the grammar, up to the objects: what stands
between the braces of one is described by `Body`. -/
structure Layered (S Body : Nat → Spelling Value) : Prop where
  zero {text : List UInt8} {v : Value} : S 0 text v ↔ Scalar text v
  succ {depth : Nat} {text : List UInt8} {v : Value} : S (depth + 1) text v ↔ Scalar text v ∨
    (∃ body items, Listed (Padded (S depth)) body items ∧ v = .list items ∧
      text = Byte.openBracket :: (body ++ [Byte.closeBracket])) ∨
    ∃ body, Body depth body v ∧ text = Byte.openBrace :: (body ++ [Byte.closeBrace])

/-- A reader of objects finds only what `Body` describes if the values in them are found as `S`
describes them. -/
def FindsObjects (object : ObjectReader) (S Body : Nat → Spelling Value) : Prop :=
  ∀ {depth item c c' v}, Finds item (S depth) → object item c = .ok (v, c') →
    ∃ body, Body depth body v ∧ c.rest = body ++ Byte.closeBrace :: c'.rest

/-- A reader of objects takes all that `Body` describes and that is shorter than `bound` if the
values in them are taken as `S` describes them. -/
def AcceptsObjects (object : ObjectReader) (S Body : Nat → Spelling Value) (bound : Nat) : Prop :=
  ∀ {depth item body v c rest}, Accepts item (S depth) bound → Body depth body v →
    body.length + 1 < bound → c.rest = body ++ Byte.closeBrace :: rest →
      ∃ c', object item c = .ok (v, c') ∧ c'.rest = rest

section
variable {object : ObjectReader} {S Body : Nat → Spelling Value} {fuel : Nat}

theorem Layered.of_scalar (hS : Layered S Body) {text : List UInt8} {v : Value}
    (h : Scalar text v) (depth : Nat) : S depth text v := by
  cases depth with
  | zero => exact hS.zero.2 h
  | succ depth => exact hS.succ.2 (Or.inl h)

theorem Layered.headed (hS : Layered S Body) (depth : Nat) : Headed (S depth) := by
  intro text v h
  cases depth with
  | zero => exact scalar_head (hS.zero.1 h)
  | succ depth =>
    obtain h | ⟨body, items, -, -, rfl⟩ | ⟨body, -, rfl⟩ := hS.succ.1 h
    · exact scalar_head h
    · exact ⟨_, _, rfl, by decide, by decide⟩
    · exact ⟨_, _, rfl, by decide, by decide⟩

/-- **What is read as a value spells it.** -/
theorem finds_readValue (hS : Layered S Body) (hobject : FindsObjects object S Body)
    (fuel depth : Nat) : Finds (readValue object fuel depth) (S depth) := by
  induction depth with
  | zero =>
    intro c c' v h
    obtain ⟨ws, hw, hc, -⟩ := exists_skipBlanks c
    obtain hr | ⟨b, t, hr, r, hs⟩ | ⟨cause, hf⟩ | ⟨depth', t, hd, -⟩ :=
      readValue_cases object fuel 0 c
    · rw [readValue_nil hr] at h
      exact absurd h fail_ne_ok
    · rw [readValue_scalar hr hs] at h
      obtain ⟨text, ht, hrest⟩ := scalar_of_readScalar? hr (by rw [hs, h])
      exact ⟨ws, text, hw, hS.zero.2 ht, by rw [hc, hrest]⟩
    · rw [hf] at h
      exact absurd h failAhead_ne_ok
    · exact absurd hd (by omega)
  | succ depth ih =>
    intro c c' v h
    obtain ⟨ws, hw, hc, -⟩ := exists_skipBlanks c
    obtain hr | ⟨b, t, hr, r, hs⟩ | ⟨cause, hf⟩ | ⟨depth', t, hd, hr | hr⟩ :=
      readValue_cases object fuel (depth + 1) c
    · rw [readValue_nil hr] at h
      exact absurd h fail_ne_ok
    · rw [readValue_scalar hr hs] at h
      obtain ⟨text, ht, hrest⟩ := scalar_of_readScalar? hr (by rw [hs, h])
      exact ⟨ws, text, hw, hS.of_scalar ht _, by rw [hc, hrest]⟩
    · rw [hf] at h
      exact absurd h failAhead_ne_ok
    · rw [readValue_list hr] at h
      obtain ⟨items, hi, rfl⟩ := Read.map_ok h
      obtain ⟨body, items', hv, hbody, hl⟩ := listed_of_readItems ih hi
      rw [List.reverse_nil, List.nil_append] at hv
      rw [if_pos rfl] at hl
      refine ⟨ws, _, hw, hS.succ.2 (Or.inr (Or.inl ⟨body, items, hv ▸ hl, rfl, rfl⟩)), ?_⟩
      rw [hc, hr, ← advance_rest hr, hbody]
      simp
    · rw [readValue_object hr] at h
      obtain ⟨body, hb, hbody⟩ := hobject ih h
      refine ⟨ws, _, hw, hS.succ.2 (Or.inr (Or.inr ⟨body, hb, rfl⟩)), ?_⟩
      rw [hc, hr, ← advance_rest hr, hbody]
      simp

theorem readValue_append_scalar {depth : Nat} {before text rest : List UInt8} {v : Value}
    {c : Cursor} (hb : Blank before) (ht : Scalar text v) (hc : c.rest = before ++ text ++ rest)
    (hs : Stops rest) : ∃ c', readValue object fuel depth c = .ok (v, c') ∧ c'.rest = rest := by
  obtain ⟨b, t, rfl, hblank, -⟩ := scalar_head ht
  have hr : c.skipBlanks.rest = b :: t ++ rest :=
    skipBlanks_rest (by rw [hc, List.append_assoc]) hb (noBlank_cons.2 hblank)
  obtain ⟨b', t', c', he, hread, hrest⟩ := readScalar?_append ht hr hs
  cases he
  exact ⟨c', readValue_scalar hr hread, hrest⟩

/-- **Every text of a value is read as that value**, wherever it stands. -/
theorem accepts_readValue (hS : Layered S Body) (hobject : AcceptsObjects object S Body fuel)
    (depth : Nat) : Accepts (readValue object fuel depth) (S depth) fuel := by
  induction depth with
  | zero => exact fun _ _ _ hb ht _ _ _ hc hs => readValue_append_scalar hb (hS.zero.1 ht) hc hs
  | succ depth ih =>
    intro before text v hb ht hlen c rest hc hs
    obtain ht | ⟨body, items, hl, rfl, rfl⟩ | ⟨body, hv, rfl⟩ := hS.succ.1 ht
    · exact readValue_append_scalar hb ht hc hs
    · have hr : c.skipBlanks.rest =
          Byte.openBracket :: (body ++ Byte.closeBracket :: rest) := by
        refine skipBlanks_rest ?_ hb (noBlank_cons.2 (by decide))
        rw [hc]
        simp
      have hbody : body.length < fuel := by
        simp at hlen
        omega
      have hitems : items.length < fuel := by
        have := length_le_of_listed hl
        simp at hlen
        omega
      obtain ⟨c', hc', hrest⟩ := readItems_append (hS.headed depth) ih hl hbody hitems
        (advance_rest hr)
      exact ⟨c', by rw [readValue_list hr, hc']; rfl, hrest⟩
    · have hr : c.skipBlanks.rest = Byte.openBrace :: (body ++ Byte.closeBrace :: rest) := by
        refine skipBlanks_rest ?_ hb (noBlank_cons.2 (by decide))
        rw [hc]
        simp
      have hbody : body.length + 1 < fuel := by
        simp at hlen
        omega
      obtain ⟨c', hc', hrest⟩ := hobject ih hv hbody (advance_rest hr)
      exact ⟨c', by rw [readValue_object hr, hc'], hrest⟩

end

/-! ## Members as they stand -/

/-- The object of what is listed between its braces. -/
def Members (depth : Nat) : Spelling Value := fun body v =>
  ∃ members, Listed (Member (Spells depth)) body members ∧ v = .object members

theorem layered_spells : Layered Spells Members where
  zero := Iff.rfl
  succ := by
    intro depth text v
    constructor
    · rintro (h | h)
      · exact Or.inl h
      · cases h with
        | list h => exact Or.inr (Or.inl ⟨_, _, h, rfl, rfl⟩)
        | object h => exact Or.inr (Or.inr ⟨_, ⟨_, h, rfl⟩, rfl⟩)
    · rintro (h | ⟨body, items, h, rfl, rfl⟩ | ⟨body, ⟨members, h, rfl⟩, rfl⟩)
      · exact Or.inl h
      · exact Or.inr (Container.list h)
      · exact Or.inr (Container.object h)

theorem headed_spells (depth : Nat) : Headed (Spells depth) :=
  layered_spells.headed depth

section
variable {item : Cursor → Read Value} {R : Spelling Value} {fuel : Nat} {c c' : Cursor}

theorem listed_of_readObject (hf : Finds item R) {v : Value}
    (h : readObject fuel item c = .ok (v, c')) :
    ∃ body members, Listed (Member R) body members ∧ v = .object members ∧
      c.rest = body ++ Byte.closeBrace :: c'.rest := by
  obtain ⟨members, hm, rfl⟩ := Read.map_ok h
  obtain ⟨body, members', hv, hbody, hl⟩ := listed_of_readMembers hf hm
  rw [List.reverse_nil, List.nil_append] at hv
  rw [if_pos rfl] at hl
  exact ⟨body, members, hv ▸ hl, rfl, hbody⟩

theorem readObject_append (ha : Accepts item R fuel) {body rest : List UInt8}
    {members : List (String × Value)} (h : Listed (Member R) body members)
    (hlen : body.length + 1 < fuel) (hc : c.rest = body ++ Byte.closeBrace :: rest) :
    ∃ c', readObject fuel item c = .ok (.object members, c') ∧ c'.rest = rest := by
  have hmembers := length_le_of_listed h
  obtain ⟨c', hc', hrest⟩ := readMembers_append ha h (by omega)
    (show members.length < fuel by omega) hc
  exact ⟨c', by rw [readObject, hc']; rfl, hrest⟩

end

theorem findsObjects_readObject (fuel : Nat) :
    FindsObjects (readObject fuel) Spells Members := by
  intro depth item c c' v hf h
  obtain ⟨body, members, hl, rfl, hbody⟩ := listed_of_readObject hf h
  exact ⟨body, ⟨members, hl, rfl⟩, hbody⟩

theorem acceptsObjects_readObject (fuel : Nat) :
    AcceptsObjects (readObject fuel) Spells Members fuel := by
  rintro depth item body _ c rest ha ⟨members, hl, rfl⟩ hlen hc
  exact readObject_append ha hl hlen hc

/-! ## Documents -/

theorem finish_ok {α : Type} {a b : α} {c : Cursor} (h : finish a c = .ok b) :
    b = a ∧ Blank c.rest := by
  obtain ⟨ws, hw, hc, -⟩ := exists_skipBlanks c
  rw [finish] at h
  split at h
  · rename_i hr
    cases h
    exact ⟨rfl, by rw [hc, hr, List.append_nil]; exact hw⟩
  · exact absurd h failAhead_ne_ok

theorem finish_blank {α : Type} {a : α} {c : Cursor} (h : Blank c.rest) : finish a c = .ok a := by
  have hr : c.skipBlanks.rest = [] :=
    skipBlanks_rest (by rw [List.append_nil]) h noBlank_nil
  rw [finish]
  simp only [hr]

/-- A reader of a whole document takes a text off it and leaves blanks. -/
theorem readWhole_ok {α : Type} {read : Cursor → Read α} {bytes : List UInt8} {a : α}
    (h : readWhole read bytes = .ok a) :
    ∃ c, read (Cursor.start bytes) = .ok (a, c) ∧ Blank c.rest := by
  rw [readWhole] at h
  split at h
  · exact absurd h (by simp)
  · rename_i a' c hr
    obtain ⟨rfl, hw⟩ := finish_ok h
    exact ⟨c, hr, hw⟩

theorem readWhole_of_read {α : Type} {read : Cursor → Read α} {bytes : List UInt8} {a : α}
    {c : Cursor} (h : read (Cursor.start bytes) = .ok (a, c)) (hw : Blank c.rest) :
    readWhole read bytes = .ok a := by
  rw [readWhole, h]
  exact finish_blank hw

/-- A reader of values takes a document and leaves blanks. -/
theorem readValue_of_padded {object : ObjectReader} {S Body : Nat → Spelling Value}
    {bytes : List UInt8} (hS : Layered S Body)
    (hobject : AcceptsObjects object S Body (bytes.length + 1)) {v : Value}
    (h : Padded (S maxDepth) bytes v) :
    ∃ c, readValue object (bytes.length + 1) maxDepth (Cursor.start bytes) = .ok (v, c) ∧
      Blank c.rest := by
  obtain ⟨before, text, after, hb, ht, ha, rfl⟩ := h
  have hlen : text.length < (before ++ text ++ after).length + 1 := by
    simp only [List.length_append]
    omega
  have hs : Stops after := by
    have := stops_append ha stops_nil
    rwa [List.append_nil] at this
  obtain ⟨c, hc, hrest⟩ := accepts_readValue hS hobject maxDepth before text v hb ht hlen
    (Cursor.start _) after rfl hs
  exact ⟨c, hc, hrest ▸ ha⟩

/-- What a reader of objects decides, decides what documents are read. -/
theorem readWhole_ok_iff {object : ObjectReader} {S Body : Nat → Spelling Value}
    {bytes : List UInt8} (hS : Layered S Body) (hfinds : FindsObjects object S Body)
    (haccepts : AcceptsObjects object S Body (bytes.length + 1)) {v : Value} :
    readWhole (readValue object (bytes.length + 1) maxDepth) bytes = .ok v ↔
      Padded (S maxDepth) bytes v := by
  constructor
  · intro h
    obtain ⟨c, hr, hw⟩ := readWhole_ok h
    obtain ⟨before, text, hb, ht, hrest⟩ := finds_readValue hS hfinds _ _ _ _ _ hr
    exact ⟨before, text, c.rest, hb, ht, hw, by rw [List.append_assoc]; exact hrest⟩
  · intro h
    obtain ⟨c, hc, hw⟩ := readValue_of_padded hS haccepts h
    exact readWhole_of_read hc hw

theorem readValue_of_document {bytes : List UInt8} {v : Value} (h : Document bytes v) :
    ∃ c, readValue (readObject (bytes.length + 1)) (bytes.length + 1) maxDepth
      (Cursor.start bytes) = .ok (v, c) ∧ Blank c.rest :=
  readValue_of_padded layered_spells (acceptsObjects_readObject _) h

/-- The reader that keeps the members as they stand reads the documents of the grammar. -/
theorem readWhole_readObject_ok_iff {bytes : List UInt8} {v : Value} :
    readWhole (readValue (readObject (bytes.length + 1)) (bytes.length + 1) maxDepth) bytes = .ok v
      ↔ Document bytes v :=
  readWhole_ok_iff layered_spells (findsObjects_readObject _) (acceptsObjects_readObject _)

/-- A document spells one value. -/
theorem document_unique {bytes : List UInt8} {v v' : Value} (h : Document bytes v)
    (h' : Document bytes v') : v = v' := by
  obtain ⟨c, hc, -⟩ := readValue_of_document h
  obtain ⟨c', hc', -⟩ := readValue_of_document h'
  rw [hc] at hc'
  cases hc'
  rfl

end LoginService.Json
