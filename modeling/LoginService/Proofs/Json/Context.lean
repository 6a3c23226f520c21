import LoginService.Proofs.Component
import LoginService.Proofs.Json.Codec

/-!
# One value in an object

A `Context` is the text of an object without the value of one of its members. Put around the text of
a value it is the text of an object (`Context.spells_fill`). Put around a text that the reader of
the field refuses, be it of a value or not, it is refused, because the reader comes to that text or
refuses something before it (`Context.refuses_fill`). So what is read of a whole record depends on
the value at one place as a component of the record does.

The text of a whole number of any size is such a text: the reader either takes exactly that number
or refuses it (`refuses_printInt`).
-/

namespace LoginService.Json

open Text.Utf8 (encode encode_cons encode_append)

/-! ## Texts that are refused -/

/-- A reader refuses a text, wherever it stands. The fuel is more than the length of the text. -/
def Refuses {α : Type} (read : Nat → Cursor → Read α) (text : List UInt8) : Prop :=
  ∀ fuel before, Blank before → text.length < fuel →
    ∀ c rest, c.rest = before ++ text ++ rest → Stops rest → ∃ e, read fuel c = .error e

theorem refuses_map {α β : Type} {f : α → β} {read : Nat → Cursor → Read α} {text : List UInt8}
    (h : Refuses read text) : Refuses (fun fuel c => Read.map f (read fuel c)) text := by
  intro fuel before hb hlen c rest hc hs
  obtain ⟨e, he⟩ := h fuel before hb hlen c rest hc hs
  refine ⟨e, ?_⟩
  dsimp only
  rw [he]
  rfl

/-! ### Whole numbers of any size -/

/-- Of digits whose number does not fit the significand, some are left. -/
theorem takeDigits_encode_full {cs : List Char} (hd : ∀ c ∈ cs, c.isDigit = true) {s : Nat}
    (hs : s < Number.limit) (hl : Number.limit ≤ Nat.ofDigitChars 10 cs s) (k : Nat)
    (rest : List UInt8) :
    ∃ s' k' c cs', (∀ d ∈ c :: cs', d.isDigit = true) ∧
      Number.takeDigits s k (encode cs ++ rest) = (s', k', encode (c :: cs') ++ rest) := by
  induction cs generalizing s k with
  | nil => exact absurd hl (Nat.not_le.mpr hs)
  | cons c cs ih =>
    obtain ⟨he, hn, hdigit⟩ := digit_byte (hd c List.mem_cons_self)
    rw [Nat.ofDigitChars_cons, Nat.mul_comm, show '0'.toNat = 0x30 from rfl] at hl
    have htext : encode (c :: cs) ++ rest = UInt8.ofNat c.toNat :: (encode cs ++ rest) := by
      rw [encode_cons, he]
      rfl
    rw [htext]
    by_cases hnext : s * 10 + (c.toNat - 0x30) < Number.limit
    · rw [Number.takeDigits_more hdigit (by rw [hn]; exact hnext), hn]
      exact ih (fun d h => hd d (List.mem_cons_of_mem c h)) hnext hl (k + 1)
    · rw [Number.takeDigits_full hdigit (by rw [hn]; exact hnext), ← htext]
      exact ⟨s, k, c, cs, hd, rfl⟩

/-- The digits of a number that does not fit the significand are not read as a whole number. -/
theorem read_toDigits_long (negative : Bool) {n : Nat} (h : Number.limit ≤ n) {c : Cursor}
    {rest : List UInt8} (hc : c.rest = encode (Nat.toDigits 10 n) ++ rest) (hs : Stops rest) :
    ∃ significand shift c', Number.read negative c
      = Number.ofParts negative significand shift c' := by
  have hn : 0 < n := Nat.lt_of_lt_of_le (by decide) h
  obtain ⟨d, ds, hds, hz⟩ := exists_toDigits hn
  have hall := isDigit_toDigits n
  have hval : Nat.ofDigitChars 10 (Nat.toDigits 10 n) 0 = n := Nat.ofDigitChars_ten_toDigits
  rw [hds] at hall hval hc
  obtain ⟨he, hbyte, hdigit⟩ := digit_byte (hall d List.mem_cons_self)
  rw [Nat.ofDigitChars_cons, Nat.mul_zero, Nat.zero_add] at hval
  rw [encode_cons, he, List.append_assoc] at hc
  have hne : UInt8.ofNat d.toNat ≠ Byte.zero := fun h0 =>
    hz (zero_of_ofNat (hall d List.mem_cons_self) h0)
  have hone : d.toNat - '0'.toNat < Number.limit := by
    have hd : 48 ≤ d.toNat ∧ d.toNat ≤ 57 := Char.isDigit_iff_toNat.1 (hall d List.mem_cons_self)
    rw [Number.limit]
    omega
  obtain ⟨s, k, e, es, hes, htake⟩ := takeDigits_encode_full
    (fun c hc => hall c (List.mem_cons_of_mem d hc)) hone (by rw [hval]; exact h) 1 rest
  have hat := Number.atDigit_of_stops hs
  have hdigits := isDigit_encode hes
  have hmore : Number.atDigit (encode (e :: es) ++ rest) = true := by
    obtain ⟨hee, -, hedigit⟩ := digit_byte (hes e List.mem_cons_self)
    rw [encode_cons, hee]
    exact hedigit
  have hread : Number.read negative c = _ := Number.read_long hc hne hdigit
    (by rw [hbyte]; exact htake) hmore (Number.dropDigits_append hdigits hat 0)
  rw [readAfter_stops rfl hs] at hread
  exact ⟨_, _, _, hread⟩

/-- What the digits of a number are read as, if that is a whole number. -/
theorem whole_of_read {negative : Bool} {n : Nat} {c c' : Cursor} {rest : List UInt8} {i : Int}
    (hc : c.rest = encode (Nat.toDigits 10 n) ++ rest) (hs : Stops rest)
    (h : Number.read negative c = .ok (.whole i, c')) : i = if negative then -(n : Int) else n := by
  by_cases hn : n < Number.limit
  · obtain ⟨c'', hread, -⟩ := consumes_toDigits negative hn c rest hc hs
    rw [h] at hread
    have hwhole : Number.whole i = Number.wholeOf negative n :=
      congrArg Prod.fst (Except.ok.inj hread)
    unfold Number.wholeOf at hwhole
    cases negative with
    | false => exact Number.whole.inj hwhole
    | true =>
      rw [if_neg (by decide)] at hwhole
      split at hwhole
      · cases hwhole
      · exact Number.whole.inj hwhole
  · obtain ⟨significand, shift, c'', hread⟩ :=
      read_toDigits_long negative (Nat.not_lt.mp hn) hc hs
    rw [h, Number.ofParts] at hread
    split at hread
    · cases hread
    · cases hread

theorem error_of_intAt {range : IntRange} {n : Int} (hn : range.holds n = false)
    {r : Read Number} (h : ∀ i c, r = .ok (.whole i, c) → i = n) :
    ∃ e, intAt range r = .error e := by
  obtain e | ⟨i | x, c⟩ := r
  · exact ⟨e, rfl⟩
  · rw [intAt, h i c rfl, hn]
    exact ⟨_, rfl⟩
  · exact ⟨_, rfl⟩

/-- **The decimal digits of a number that a range does not have are refused**, however many there
are. -/
theorem refuses_printInt {range : IntRange} {n : Int} (hn : range.holds n = false) :
    Refuses (fun _ c => readInt range c) (encode (printInt n)) := by
  intro fuel before hb _ c rest hc hs
  dsimp only
  rw [readInt_eq]
  by_cases hsign : 0 ≤ n
  · rw [printInt_of_nonneg hsign] at hc
    obtain ⟨d, ds, hds⟩ := List.exists_cons_of_ne_nil (Nat.toDigits_ne_nil (n := n.toNat) (b := 10))
    obtain ⟨he, -, hdigit⟩ := digit_byte (isDigit_toDigits n.toNat d (by simp [hds]))
    have htext : encode (Nat.toDigits 10 n.toNat) = UInt8.ofNat d.toNat :: encode ds := by
      rw [hds, encode_cons, he]
      rfl
    have hrest : c.skipBlanks.rest = encode (Nat.toDigits 10 n.toNat) ++ rest := by
      refine skipBlanks_rest (by rw [hc, List.append_assoc]) hb ?_
      rw [htext]
      exact noBlank_cons.2 (isBlank_of_isDigit hdigit)
    rw [atValue_cons (by rw [hrest, htext]; rfl), if_neg (digit_ne hdigit).2.2.2, if_pos hdigit]
    refine error_of_intAt hn fun i c' hread => ?_
    rw [whole_of_read hrest hs hread, if_neg Bool.false_ne_true]
    exact Int.toNat_of_nonneg hsign
  · rw [printInt_of_neg (by omega)] at hc
    have hrest : c.skipBlanks.rest
        = Byte.minus :: (encode (Nat.toDigits 10 (-n).toNat) ++ rest) :=
      skipBlanks_rest (by rw [hc, List.append_assoc]; rfl) hb (noBlank_cons.2 (by decide))
    rw [atValue_cons hrest, if_pos rfl]
    refine error_of_intAt hn fun i c' hread => ?_
    rw [whole_of_read (advance_rest hrest) hs hread, if_pos rfl]
    omega

/-! ## Texts around a value -/

/-- Members that stand before another one, with the comma after them. -/
def Leading (R : Spelling Value) : Spelling (List (String × Value)) := fun bytes members =>
  (bytes = [] ∧ members = []) ∨
    ∃ text, Separated (Member R) text members ∧ bytes = text ++ [Byte.comma]

/-- Members that stand after another one, with the comma before them. -/
def Trailing (R : Spelling Value) : Spelling (List (String × Value)) := fun bytes members =>
  (bytes = [] ∧ members = []) ∨
    ∃ text, Separated (Member R) text members ∧ bytes = Byte.comma :: text

/-- The text of an object without the value of one member. The values of the other members are
nested at most so deep. -/
structure Context (depth : Nat) where
  lead : List UInt8
  before : List (String × Value)
  leading : Leading (Spells depth) lead before
  /-- The text of the key, with blanks around it. -/
  name : List UInt8
  key : String
  named : Padded Quoted name key
  /-- The blanks before the value. -/
  gap : List UInt8
  gap_blank : Blank gap
  /-- The blanks after the value. -/
  gap' : List UInt8
  gap'_blank : Blank gap'
  trail : List UInt8
  after : List (String × Value)
  trailing : Trailing (Spells depth) trail after

theorem separated_append {α : Type} {R : Spelling α} {text text' : List UInt8} {as bs : List α}
    (h : Separated R text as) (h' : Separated R text' bs) :
    Separated R (text ++ Byte.comma :: text') (as ++ bs) := by
  induction h with
  | one ha => exact Separated.more ha h'
  | more ha _ ih =>
    rw [List.append_assoc]
    exact Separated.more ha ih

namespace Context

variable {depth : Nat} (x : Context depth)

/-- What stands from the key to the end of the object, around the text of the value. -/
def tail (text : List UInt8) : List UInt8 :=
  x.name ++ Byte.colon :: (x.gap ++ text ++ (x.gap' ++ (x.trail ++ [Byte.closeBrace])))

/-- The text around the text of a value. -/
def fill (text : List UInt8) : List UInt8 := Byte.openBrace :: (x.lead ++ x.tail text)

/-- The object around a value. -/
def value (v : Value) : Value := .object (x.before ++ (x.key, v) :: x.after)

/-- **Around the text of a value stands the text of an object.** -/
theorem spells_fill {text : List UInt8} {v : Value} (h : Spells depth text v) :
    Spells (depth + 1) (x.fill text) (x.value v) := by
  have hmember : Member (Spells depth) (x.name ++ Byte.colon :: (x.gap ++ text ++ x.gap'))
      (x.key, v) :=
    ⟨x.name, _, x.named, ⟨x.gap, text, x.gap', x.gap_blank, h, x.gap'_blank, rfl⟩, rfl⟩
  have htrail : ∃ body, Separated (Member (Spells depth)) body ((x.key, v) :: x.after) ∧
      x.tail text = body ++ [Byte.closeBrace] := by
    rcases x.trailing with ⟨htext, hnil⟩ | ⟨more, hmore, htext⟩
    · refine ⟨_, hnil ▸ Separated.one hmember, ?_⟩
      rw [tail, htext]
      simp
    · refine ⟨_, Separated.more hmember hmore, ?_⟩
      rw [tail, htext]
      simp
  obtain ⟨body, hbody, htail⟩ := htrail
  refine Or.inr ?_
  rcases x.leading with ⟨htext, hnil⟩ | ⟨lead, hlead, htext⟩
  · rw [fill, value, htext, hnil, htail]
    exact Container.object (Or.inr hbody)
  · have hall := Container.object (Or.inr (separated_append hlead hbody))
    rw [fill, value, htext, htail]
    simpa only [List.append_assoc, List.cons_append, List.nil_append] using hall

end Context

/-! ### Written objects -/

/-- Written members before others, with a comma between. -/
theorem printMembers_append {members : List (String × List Char)} (h : members ≠ [])
    (m : String × List Char) (more : List (String × List Char)) :
    printMembers (members ++ m :: more)
      = printMembers members ++ ',' :: printMembers (m :: more) := by
  induction members with
  | nil => exact absurd rfl h
  | cons head rest ih =>
    obtain ⟨key, text⟩ := head
    cases rest with
    | nil => simp only [List.cons_append, List.nil_append, printMembers]
    | cons next rest =>
      have hrest := ih (List.cons_ne_nil next rest)
      simp only [List.cons_append, printMembers, List.append_assoc] at hrest ⊢
      rw [hrest]

namespace Entry

variable {depth : Nat}

/-- Written members that stand before another one, with the comma after them. -/
def leadText : List (Entry depth) → List UInt8
  | [] => []
  | e :: es => encode (printMembers ((e :: es).map printed)) ++ [Byte.comma]

/-- Written members that stand after another one, with the comma before them. -/
def trailText : List (Entry depth) → List UInt8
  | [] => []
  | e :: es => Byte.comma :: encode (printMembers ((e :: es).map printed))

theorem leading_leadText (es : List (Entry depth)) :
    Leading (Spells depth) (leadText es) (es.map member) := by
  cases es with
  | nil => exact Or.inl ⟨rfl, rfl⟩
  | cons e es => exact Or.inr ⟨_, separated_printMembers e es, rfl⟩

theorem trailing_trailText (es : List (Entry depth)) :
    Trailing (Spells depth) (trailText es) (es.map member) := by
  cases es with
  | nil => exact Or.inl ⟨rfl, rfl⟩
  | cons e es => exact Or.inr ⟨_, separated_printMembers e es, rfl⟩

/-- What is written around one member. -/
theorem encode_printMembers_around (before : List (Entry depth)) (m : String × List Char)
    (after : List (Entry depth)) :
    encode (printMembers (before.map printed ++ m :: after.map printed))
      = leadText before ++ (encode (printString m.1 ++ ':' :: m.2) ++ trailText after) := by
  have hmember : encode (printMembers (m :: after.map printed))
      = encode (printString m.1 ++ ':' :: m.2) ++ trailText after := by
    cases after with
    | nil => exact (List.append_nil _).symm
    | cons e es =>
      rw [← List.singleton_append, List.map_cons, printMembers_append (List.cons_ne_nil _ _),
        encode_append, encode_cons]
      rfl
  cases before with
  | nil => exact hmember
  | cons e es =>
    have hbefore : (e :: es).map printed ≠ [] := List.cons_ne_nil _ _
    rw [printMembers_append hbefore, encode_append, encode_cons, hmember, leadText,
      List.append_assoc]
    rfl

end Entry

namespace Context

variable {depth : Nat}

/-- A written object without the value of one member. -/
def printed (before : List (Entry depth)) (key : String) (after : List (Entry depth)) :
    Context depth where
  lead := Entry.leadText before
  before := before.map Entry.member
  leading := Entry.leading_leadText before
  name := encode (printString key)
  key := key
  named := ⟨[], _, [], blank_nil, quoted_printString key, blank_nil, (List.append_nil _).symm⟩
  gap := []
  gap_blank := blank_nil
  gap' := []
  gap'_blank := blank_nil
  trail := Entry.trailText after
  after := after.map Entry.member
  trailing := Entry.trailing_trailText after

theorem fill_printed (before : List (Entry depth)) (key : String) (text : List Char)
    (after : List (Entry depth)) : (printed before key after).fill (encode text) = encode
      (printObject (before.map Entry.printed ++ (key, text) :: after.map Entry.printed)) := by
  rw [printObject, List.cons_append, encode_cons, encode_append, Entry.encode_printMembers_around,
    encode_append, encode_cons]
  simp only [fill, tail, printed, List.nil_append, List.append_assoc]
  rfl

end Context

/-! ### Reading up to the value -/

section
variable {σ α : Type} {r : Record σ α} {fuel depth : Nat} {t : List UInt8}

/-- The rest of an object from the key of a member on is refused, whatever has been read before. -/
def RefusedFrom (r : Record σ α) (fuel : Nat) (t : List UInt8) : Prop :=
  ∀ c : Cursor, c.rest = t → (∃ u, c.skipBlanks.rest = Byte.quote :: u) ∧
    ∀ s turns, ∃ e, readEntry r fuel turns s c.skipBlanks.advance = .error e

theorem refusedFrom_member (p : Plan r) {bytes : List UInt8} {m : String × Value}
    (h : Member (Spells depth) bytes m) (hlen : bytes.length < fuel) (ht : RefusedFrom r fuel t) :
    RefusedFrom r fuel (bytes ++ Byte.comma :: t) := by
  intro c hc
  refine ⟨skipBlanks_member h hc, fun s turns => ?_⟩
  have hmember := readEntry_member p h hlen (by decide) hc s
  cases hs : p.member s m with
  | none =>
    rw [hs] at hmember
    obtain ⟨e, he⟩ := hmember
    exact ⟨e, he turns⟩
  | some s' =>
    rw [hs] at hmember
    obtain ⟨after, c₁, ha, hr, he⟩ := hmember
    have hcomma : c₁.skipBlanks.rest = Byte.comma :: t :=
      skipBlanks_rest hr ha (noBlank_cons.2 (by decide))
    obtain ⟨⟨u, hu⟩, hrefused⟩ := ht c₁.skipBlanks.advance (advance_rest hcomma)
    rw [he]
    cases turns with
    | zero => exact ⟨_, rfl⟩
    | succ turns =>
      rw [readMap_next (nextKey_comma hcomma hu)]
      exact hrefused s' turns

theorem refusedFrom_separated (p : Plan r) {bytes : List UInt8} {members : List (String × Value)}
    (h : Separated (Member (Spells depth)) bytes members) (hlen : bytes.length < fuel)
    (ht : RefusedFrom r fuel t) : RefusedFrom r fuel (bytes ++ Byte.comma :: t) := by
  induction h with
  | one hm => exact refusedFrom_member p hm hlen ht
  | @more text more m ms hm _ ih =>
    rw [List.length_append, List.length_cons] at hlen
    rw [List.append_assoc]
    exact refusedFrom_member p hm (by omega) (ih (by omega))

/-- From the key on whose value is refused, unless the key is refused itself. -/
theorem refusedFrom_tail (p : Plan r) (x : Context depth) {slot : Slot σ}
    (hslot : p.slots.find? (fun y => y.field.name == x.key) = some slot) {text rest : List UInt8}
    (hlen : text.length < fuel) (ht : Refuses slot.field.read text) :
    RefusedFrom r fuel (x.tail text ++ rest) := by
  obtain ⟨before, quoted, middle, hb, ⟨inside, hi, rfl⟩, hm, hname⟩ := x.named
  intro c hc
  have hq : c.skipBlanks.rest = Byte.quote :: (inside ++ Byte.quote :: (middle ++ Byte.colon ::
      (x.gap ++ text ++ (x.gap' ++ (x.trail ++ Byte.closeBrace :: rest))))) := by
    refine skipBlanks_rest ?_ hb (noBlank_cons.2 (by decide))
    rw [hc, Context.tail, hname]
    simp
  refine ⟨⟨_, hq⟩, fun s turns => ?_⟩
  obtain ⟨c₁, hc₁, hr₁⟩ := readText_append hi (advance_rest hq)
  by_cases hset : slot.field.isSet s = true
  · obtain ⟨e, he⟩ : Ends (Record.refuseRepeated x.key c₁ : Read α) [] none :=
      ends_refuseRepeated x.key c₁
    refine ⟨e, ?_⟩
    simp only [readEntry, hc₁, p.find?_fields, hslot, Option.map_some, if_pos hset]
    exact he
  · obtain ⟨c₂, hc₂, hr₂⟩ := readColon_append hm hr₁
    have hstops : Stops (x.gap' ++ (x.trail ++ Byte.closeBrace :: rest)) := by
      rcases x.trailing with ⟨htrail, -⟩ | ⟨more, -, htrail⟩
      · rw [htrail]
        exact stops_blank_cons x.gap'_blank (by decide)
      · rw [htrail]
        exact stops_blank_cons x.gap'_blank (by decide)
    obtain ⟨e, he⟩ := ht fuel x.gap x.gap_blank hlen c₂ _ hr₂ hstops
    refine ⟨e, ?_⟩
    simp only [readEntry, hc₁, p.find?_fields, hslot, Option.map_some, if_neg hset, hc₂, he]

/-- **A record whose text is refused at one value is refused.** -/
theorem Context.refuses_fill (p : Plan r) (x : Context depth) {slot : Slot σ}
    (hslot : p.slots.find? (fun y => y.field.name == x.key) = some slot) {text : List UInt8}
    (ht : Refuses slot.field.read text) : Refuses r.read (x.fill text) := by
  intro fuel before hb hlen c rest hc _
  have hbrace : c.skipBlanks.rest = Byte.openBrace :: (x.lead ++ (x.tail text ++ rest)) := by
    refine skipBlanks_rest ?_ hb (noBlank_cons.2 (by decide))
    rw [hc, Context.fill]
    simp
  simp only [Context.fill, Context.tail, List.length_cons, List.length_append] at hlen
  have htail : RefusedFrom r fuel (x.tail text ++ rest) :=
    refusedFrom_tail p x hslot (by omega) ht
  have hall : RefusedFrom r fuel (x.lead ++ (x.tail text ++ rest)) := by
    rcases x.leading with ⟨hlead, -⟩ | ⟨lead, hsep, hlead⟩
    · rw [hlead]
      exact htail
    · rw [hlead, List.length_append] at hlen
      rw [hlead, List.append_assoc]
      exact refusedFrom_separated p hsep (by omega) htail
  obtain ⟨⟨u, hu⟩, hrefused⟩ := hall c.skipBlanks.advance (advance_rest hbrace)
  obtain ⟨turns, rfl⟩ : ∃ n, fuel = n + 1 := ⟨fuel - 1, by omega⟩
  unfold Record.read
  rw [atValue_cons hbrace, if_neg (by decide), if_pos rfl, readMap_next (nextKey_first hu)]
  exact hrefused r.empty turns

end

/-! ## What is read around a value -/

/-- What a field does to the state and what `put` does may be done in either order. -/
def Slot.Commutes {σ β : Type} (x : Slot σ) (put : β → σ → σ) : Prop :=
  ∀ b s, x.field.isSet (put b s) = x.field.isSet s ∧
    ∀ v f, x.value v = some f → f (put b s) = put b (f s)

section
variable {σ τ α β : Type} {put : β → σ → σ}

theorem commutes_map {write : α → σ → σ} {b : β} {s : σ}
    (h : ∀ a, write a (put b s) = put b (write a s)) {o : Option α} {f : σ → σ}
    (hf : o.map write = some f) : f (put b s) = put b (f s) := by
  obtain ⟨a, -, rfl⟩ := Option.map_eq_some_iff.mp hf
  exact h a

theorem Slot.commutes_text {name : String} {get : σ → Option String} {write : String → σ → σ}
    (hget : ∀ b s, get (put b s) = get s)
    (h : ∀ b s a, write a (put b s) = put b (write a s)) :
    (Slot.text name get write).Commutes put :=
  fun b s => ⟨congrArg Option.isSome (hget b s), fun _ _ => commutes_map (h b s)⟩

theorem Slot.commutes_int {name : String} {range : IntRange} {get : σ → Option Int}
    {write : Int → σ → σ} (hget : ∀ b s, get (put b s) = get s)
    (h : ∀ b s a, write a (put b s) = put b (write a s)) :
    (Slot.int name range get write).Commutes put :=
  fun b s => ⟨congrArg Option.isSome (hget b s), fun _ _ => commutes_map (h b s)⟩

theorem Slot.commutes_record {r : Record τ α} {p : Plan r} {name : String} {get : σ → Option α}
    {write : α → σ → σ} (hget : ∀ b s, get (put b s) = get s)
    (h : ∀ b s a, write a (put b s) = put b (write a s)) :
    (Slot.record p name get write).Commutes put :=
  fun b s => ⟨congrArg Option.isSome (hget b s), fun _ _ => commutes_map (h b s)⟩

end

/-- A field whose value goes into the record apart from all others. -/
structure Plan.HasField {σ α β : Type} {r : Record σ α} (p : Plan r) (slot : Slot σ) (key : String)
    (value : Value → Option β) (put : β → σ → σ) (set : β → α → α) : Prop where
  found : p.slots.find? (fun x => x.field.name == key) = some slot
  reads : ∀ v, slot.value v = (value v).map put
  once : ∀ b s, slot.field.isSet (put b s) = true
  others : ∀ x ∈ p.slots, x.field.name ≠ key → x.Commutes put
  built : ∀ s b a, (r.build (put b s)).toOption = some a →
    ∀ b', (r.build (put b' s)).toOption = some (set b' a)

namespace Plan.HasField

variable {σ α β : Type} {r : Record σ α} {p : Plan r} {slot : Slot σ} {key : String}
  {value : Value → Option β} {put : β → σ → σ} {set : β → α → α}
  (h : p.HasField slot key value put set)
include h

theorem member_once (s : σ) (b : β) (v : Value) : p.member (put b s) (key, v) = none := by
  rw [Plan.member, h.found]
  exact if_pos (h.once b s)

theorem isComponent :
    IsComponent p.member (fun s => (r.build s).toOption) key value put set where
  at_key s := by
    by_cases hset : slot.field.isSet s = true
    · refine Or.inl fun v => ?_
      rw [Plan.member, h.found]
      exact if_pos hset
    · refine Or.inr fun v => ?_
      rw [Plan.member, h.found]
      refine (if_neg hset).trans ?_
      rw [h.reads v, Option.map_map]
      rfl
  apart s b m hm := by
    unfold Plan.member
    cases hfind : p.slots.find? (fun x => x.field.name == m.1) with
    | none => rfl
    | some x =>
      have hname : x.field.name = m.1 := by
        simpa using List.find?_some (p := fun x : Slot σ => x.field.name == m.1) hfind
      obtain ⟨hisSet, hwrites⟩ :=
        h.others x (List.mem_of_find?_eq_some hfind) (hname ▸ hm) b s
      dsimp only
      rw [hisSet]
      split
      · rfl
      · cases hv : x.value m.2 with
        | none => rfl
        | some f => exact congrArg some (hwrites m.2 f hv)
  built := h.built

/-- **What is read of an object with another value in the place of one.** -/
theorem ofValue?_replace {depth : Nat} (x : Context depth) (hkey : x.key = key) {v : Value} {a : α}
    (hread : p.ofValue? (x.value v) = some a) :
    ∃ b, value v = some b ∧ set b a = a ∧
      ∀ w, p.ofValue? (x.value w) = (value w).map fun b => set b a := by
  subst hkey
  exact h.isComponent.read_replace (h.isComponent.ne_of_read h.member_once hread) hread

end Plan.HasField

end LoginService.Json
