import LoginService.Json.Printer
import LoginService.Proofs.Json.Value

/-!
# What is written

Whatever the printer writes is a text of the grammar that spells what was to be written: strings
(`quoted_printString`), whole numbers that fit 64 bits (`numeral_printInt`), truth values, and
objects of such (`spells_printObject`).
-/

namespace LoginService.Json

open Text.Utf8 (encode encode_cons encode_append)

/-! ## Strings -/

theorem pieces_append {text bytes more bytes' : List UInt8} (h : Pieces text bytes)
    (h' : Pieces more bytes') : Pieces (text ++ more) (bytes ++ bytes') := by
  induction h with
  | nil => exact h'
  | cons hp _ ih =>
    rw [List.append_assoc, List.append_assoc]
    exact Pieces.cons hp ih

theorem pieces_of_piece {text bytes : List UInt8} (h : Piece text bytes) : Pieces text bytes := by
  have := Pieces.cons h Pieces.nil
  rwa [List.append_nil, List.append_nil] at this

/-- Bytes that need no escape stand for themselves. -/
theorem pieces_plain {bytes : List UInt8}
    (h : ∀ b ∈ bytes, b ≠ Byte.quote ∧ b ≠ Byte.backslash ∧ ¬ b < 0x20) : Pieces bytes bytes := by
  induction bytes with
  | nil => exact Pieces.nil
  | cons b bytes ih =>
    obtain ⟨hq, hb, hc⟩ := h b (by simp)
    exact Pieces.cons (Piece.plain hq hb hc) (ih fun b hb => h b (by simp [hb]))

theorem hexDigit?_hexChar :
    ∀ n < 16,
      Byte.hexDigit? (UInt8.ofNat (hexChar n).toNat) = some n ∧ (hexChar n).toNat < 0x80 := by
  decide

/-- A control character is written by its number. -/
theorem pieces_control {c : Char} (h : c.toNat < 0x20) :
    Pieces (encode ['\\', 'u', '0', '0', hexChar (c.toNat / 16), hexChar (c.toNat % 16)])
      (String.utf8EncodeChar c) := by
  obtain ⟨hy, hy'⟩ := hexDigit?_hexChar (c.toNat / 16) (by omega)
  obtain ⟨hz, hz'⟩ := hexDigit?_hexChar (c.toNat % 16) (by omega)
  have hdigits := Hex4.mk (show Byte.hexDigit? 0x30 = some 0 from rfl)
    (show Byte.hexDigit? 0x30 = some 0 from rfl) hy hz
  have hvalue : ((0 * 16 + 0) * 16 + c.toNat / 16) * 16 + c.toNat % 16 = c.toNat := by omega
  rw [hvalue] at hdigits
  have hpiece := pieces_of_piece (Piece.unicode hdigits (Or.inl (by omega)))
  rw [Char.ofNat_toNat] at hpiece
  have htext : encode ['\\', 'u', '0', '0', hexChar (c.toNat / 16), hexChar (c.toNat % 16)] =
      Byte.backslash :: 0x75 :: [0x30, 0x30, UInt8.ofNat (hexChar (c.toNat / 16)).toNat,
        UInt8.ofNat (hexChar (c.toNat % 16)).toNat] := by
    simp only [encode_cons, Text.Utf8.utf8EncodeChar_ascii hy', Text.Utf8.utf8EncodeChar_ascii hz']
    rfl
  rw [htext]
  exact hpiece

/-- A character that is written as it is. -/
theorem pieces_self {c : Char} (hq : c ≠ '"') (hb : c ≠ '\\') (hc : ¬ c.toNat < 0x20) :
    Pieces (encode [c]) (String.utf8EncodeChar c) := by
  rw [encode_cons, show encode [] = [] from rfl, List.append_nil]
  have hne : ∀ d : Char, c ≠ d → c.toNat ≠ d.toNat := fun d h he => h (Char.toNat_inj.1 he)
  have hq' := hne _ hq
  have hb' := hne _ hb
  refine pieces_plain fun b hmem => ?_
  have hval : b.toNat = c.toNat ∨ 0x80 ≤ b.toNat := by
    by_cases ha : c.toNat < 0x80
    · rw [Text.Utf8.utf8EncodeChar_ascii ha, List.mem_singleton] at hmem
      refine Or.inl ?_
      rw [hmem, UInt8.toNat_ofNat']
      omega
    · exact Or.inr (Text.Utf8.le_of_mem_utf8EncodeChar (Nat.le_of_not_lt ha) hmem)
  have hquote : ('"' : Char).toNat = 0x22 := rfl
  have hback : ('\\' : Char).toNat = 0x5C := rfl
  refine ⟨?_, ?_, ?_⟩
  · rintro rfl
    simp only [Byte.quote, UInt8.toNat_ofNat] at hval
    omega
  · rintro rfl
    simp only [Byte.backslash, UInt8.toNat_ofNat] at hval
    omega
  · rw [UInt8.lt_iff_toNat_lt]
    simp only [UInt8.toNat_ofNat]
    omega

/-- What is written for a character stands for the character. -/
theorem pieces_escapeChar (c : Char) :
    Pieces (encode (escapeChar c)) (String.utf8EncodeChar c) := by
  have hshort : ∀ e b : UInt8, shortEscape? e = some b → Pieces [Byte.backslash, e] [b] :=
    fun e b h => pieces_of_piece (Piece.short h)
  unfold escapeChar
  split
  · rename_i h
    subst h
    exact hshort 0x22 0x22 rfl
  split
  · rename_i h
    subst h
    exact hshort 0x5C 0x5C rfl
  split
  · rename_i h
    subst h
    exact hshort 0x6E 0x0A rfl
  split
  · rename_i h
    subst h
    exact hshort 0x72 0x0D rfl
  split
  · rename_i h
    subst h
    exact hshort 0x74 0x09 rfl
  split
  · rename_i h
    subst h
    exact hshort 0x62 0x08 rfl
  split
  · rename_i h
    subst h
    exact hshort 0x66 0x0C rfl
  rename_i hq hb _ _ _ _ _
  split
  · rename_i h
    exact pieces_control h
  · rename_i h
    exact pieces_self hq hb h

theorem pieces_escape (cs : List Char) : Pieces (encode (cs.flatMap escapeChar)) (encode cs) := by
  induction cs with
  | nil => exact Pieces.nil
  | cons c cs ih =>
    rw [List.flatMap_cons, encode_append, encode_cons]
    exact pieces_append (pieces_escapeChar c) ih

/-- A written string spells the string. -/
theorem quoted_printString (s : String) : Quoted (encode (printString s)) s := by
  refine ⟨encode (s.toList.flatMap escapeChar), ⟨encode s.toList, pieces_escape s.toList, ?_⟩, ?_⟩
  · rw [Text.Utf8.decode?_encode, String.ofList_toList]
  · rw [printString, List.cons_append, encode_cons, encode_append]
    rfl

/-! ## Whole numbers -/

/-- A digit is written as one byte, which is the same digit. -/
theorem digit_byte {c : Char} (h : c.isDigit = true) :
    String.utf8EncodeChar c = [UInt8.ofNat c.toNat] ∧ (UInt8.ofNat c.toNat).toNat = c.toNat ∧
      Byte.isDigit (UInt8.ofNat c.toNat) = true := by
  have hd : 48 ≤ c.toNat ∧ c.toNat ≤ 57 := Char.isDigit_iff_toNat.1 h
  have hn : (UInt8.ofNat c.toNat).toNat = c.toNat := by
    rw [UInt8.toNat_ofNat']
    omega
  refine ⟨Text.Utf8.utf8EncodeChar_ascii (by omega), hn, ?_⟩
  simp only [Byte.isDigit, Bool.and_eq_true, decide_eq_true_eq, UInt8.le_iff_toNat_le, hn]
  exact hd

theorem isDigit_encode {cs : List Char} (hd : ∀ c ∈ cs, c.isDigit = true) :
    ∀ b ∈ encode cs, Byte.isDigit b = true := by
  intro b hb
  obtain ⟨c, hc, hb⟩ := List.mem_flatMap.1 hb
  obtain ⟨he, -, hdigit⟩ := digit_byte (hd c hc)
  rw [he, List.mem_singleton] at hb
  rw [hb]
  exact hdigit

theorem le_ofDigitChars (cs : List Char) (s : Nat) : s ≤ Nat.ofDigitChars 10 cs s := by
  rw [Nat.ofDigitChars_eq_ofDigitChars_zero]
  exact Nat.le_add_right_of_le (Nat.le_mul_of_pos_left s (Nat.pow_pos (by decide)))

/-- Digits whose number fits the significand are all taken into it. -/
theorem takeDigits_encode {cs : List Char} (hd : ∀ c ∈ cs, c.isDigit = true) {s k : Nat}
    (hl : Nat.ofDigitChars 10 cs s < Number.limit) {rest : List UInt8}
    (hr : Number.atDigit rest = false) :
    Number.takeDigits s k (encode cs ++ rest)
      = (Nat.ofDigitChars 10 cs s, k + cs.length, rest) := by
  induction cs generalizing s k with
  | nil => exact Number.takeDigits_of_not_atDigit hr s k
  | cons c cs ih =>
    obtain ⟨he, hn, hdigit⟩ := digit_byte (hd c (by simp))
    rw [Nat.ofDigitChars_cons, Nat.mul_comm, show '0'.toNat = 0x30 from rfl] at hl ⊢
    have hnext : s * 10 + (c.toNat - 0x30) < Number.limit :=
      Nat.lt_of_le_of_lt (le_ofDigitChars cs _) hl
    rw [encode_cons, he, List.append_assoc, List.singleton_append, Number.takeDigits, if_pos hdigit,
      hn]
    dsimp only
    rw [if_pos hnext, ih (fun d h => hd d (by simp [h])) hl, List.length_cons]
    congr 2
    omega

/-- A number above zero has no leading zero. -/
theorem exists_toDigits {n : Nat} (h : 0 < n) :
    ∃ c cs, Nat.toDigits 10 n = c :: cs ∧ c ≠ '0' := by
  induction n using Nat.strongRecOn with
  | ind n ih =>
    by_cases hn : n < 10
    · refine ⟨n.digitChar, [], Nat.toDigits_of_lt_base hn, fun hz => ?_⟩
      have hval := Nat.toNat_digitChar_sub_48_of_lt_ten hn
      rw [hz] at hval
      exact absurd hval (by simp; omega)
    · obtain ⟨c, cs, hcs, hc⟩ := ih (n / 10) (by omega) (by omega)
      exact ⟨c, cs ++ [(n % 10).digitChar], by
        rw [Nat.toDigits_of_base_le (by decide) (by omega), hcs, List.cons_append], hc⟩

theorem isDigit_toDigits (n : Nat) : ∀ c ∈ Nat.toDigits 10 n, c.isDigit = true :=
  fun _ h => Nat.isDigit_of_mem_toDigits (by decide) (by decide) h

theorem zero_of_ofNat {c : Char} (h : c.isDigit = true)
    (hz : UInt8.ofNat c.toNat = Byte.zero) : c = '0' := by
  obtain ⟨-, hn, -⟩ := digit_byte h
  refine Char.toNat_inj.1 ?_
  rw [← hn, hz]
  rfl

theorem isUnsigned_toDigits (n : Nat) : IsUnsigned (encode (Nat.toDigits 10 n)) := by
  refine ⟨encode (Nat.toDigits 10 n), [], [], ⟨⟨?_, isDigit_encode (isDigit_toDigits n)⟩, ?_⟩,
    Or.inl rfl, Or.inl rfl, by simp⟩
  · obtain ⟨c, cs, hcs⟩ := List.exists_cons_of_ne_nil (Nat.toDigits_ne_nil (n := n) (b := 10))
    rw [hcs, encode_cons, (digit_byte (isDigit_toDigits n c (by simp [hcs]))).1]
    simp
  · intro hz
    rcases Nat.eq_zero_or_pos n with rfl | hn
    · rfl
    · obtain ⟨c, cs, hcs, hc⟩ := exists_toDigits hn
      have hd := isDigit_toDigits n c (by simp [hcs])
      rw [hcs, encode_cons, (digit_byte hd).1] at hz
      exact absurd (zero_of_ofNat hd (by simpa using hz)) hc

theorem readAfter_stops {negative : Bool} {significand : Nat} {shift : Int}
    {plain : Cursor → Read Number} {c : Cursor} {rest : List UInt8} (hc : c.rest = rest)
    (hs : Stops rest) : Number.readAfter negative significand shift plain c = plain c :=
  Number.readAfter_none fun _ hb => Number.head_of_stops hs (by rwa [hc] at hb)

/-- The digits of a number that fits the significand are read as that number. -/
theorem consumes_toDigits (negative : Bool) {n : Nat} (h : n < Number.limit) :
    Consumes (Number.read negative) (encode (Nat.toDigits 10 n)) (Number.wholeOf negative n) := by
  intro c rest hc hs
  have hat := Number.atDigit_of_stops hs
  rcases Nat.eq_zero_or_pos n with rfl | hn
  · have hr : c.rest = Byte.zero :: rest := hc
    refine ⟨c.advance, ?_, advance_rest hr⟩
    rw [Number.read_zero hr hat, readAfter_stops (advance_rest hr) hs]
  · obtain ⟨d, ds, hds, hz⟩ := exists_toDigits hn
    have hall := isDigit_toDigits n
    have hval : Nat.ofDigitChars 10 (Nat.toDigits 10 n) 0 = n := Nat.ofDigitChars_ten_toDigits
    rw [hds] at hall hval hc
    obtain ⟨he, hbyte, hdigit⟩ := digit_byte (hall d (by simp))
    rw [Nat.ofDigitChars_cons, Nat.mul_zero, Nat.zero_add] at hval
    rw [encode_cons, he] at hc
    have hne : UInt8.ofNat d.toNat ≠ Byte.zero := fun h0 =>
      hz (zero_of_ofNat (hall d (by simp)) h0)
    have htake : Number.takeDigits ((UInt8.ofNat d.toNat).toNat - 0x30) 1 (encode ds ++ rest) =
        (n, 1 + ds.length, rest) := by
      rw [← hval] at h ⊢
      rw [hbyte]
      exact takeDigits_encode (fun c hc => hall c (List.mem_cons_of_mem d hc)) h hat
    refine ⟨c.past (1 + ds.length) rest, ?_, rfl⟩
    rw [Number.read_short hc hne hdigit htake hat, readAfter_stops rfl hs]

theorem printInt_of_nonneg {i : Int} (h : 0 ≤ i) : printInt i = Nat.toDigits 10 i.toNat := by
  rw [printInt, Int.toString_eq_repr, Int.repr_eq_if, if_pos h, Nat.toList_repr]

theorem printInt_of_neg {i : Int} (h : i < 0) :
    printInt i = '-' :: Nat.toDigits 10 (-i).toNat := by
  rw [printInt, Int.toString_eq_repr, Int.repr_eq_if, if_neg (by omega), String.toList_append,
    Nat.toList_repr]
  rfl

/-- A whole number that fits 64 bits, signed or unsigned, is written as a number that is read as
it. -/
theorem numeral_printInt {i : Int} (hl : -9223372036854775808 ≤ i)
    (hg : i ≤ 18446744073709551615) : Numeral (encode (printInt i)) (.whole i) := by
  by_cases h : 0 ≤ i
  · have hread := consumes_toDigits false (n := i.toNat) (by simp only [Number.limit]; omega)
    have hi : ((i.toNat : Nat) : Int) = i := Int.toNat_of_nonneg h
    rw [show Number.wholeOf false i.toNat = .whole i.toNat from rfl, hi] at hread
    rw [printInt_of_nonneg h]
    exact Numeral.positive (isUnsigned_toDigits _) hread
  · have hread := consumes_toDigits true (n := (-i).toNat) (by simp only [Number.limit]; omega)
    have hi : -(((-i).toNat : Nat) : Int) = i := by omega
    have hwhole : Number.wholeOf true (-i).toNat = .whole (-(((-i).toNat : Nat) : Int)) := by
      rw [Number.wholeOf, if_neg (by simp), if_neg (by omega)]
    rw [hwhole, hi] at hread
    rw [printInt_of_neg (by omega)]
    exact Numeral.negative (isUnsigned_toDigits _) hread

theorem scalar_printBool (b : Bool) : Scalar (encode (printBool b)) (.bool b) := by
  cases b with
  | true => exact Scalar.truth
  | false => exact Scalar.falsity

/-! ## Objects -/

/-- A member of an object that is to be written: its key, the text of its value, and the value. -/
structure Entry (depth : Nat) where
  key : String
  text : List Char
  value : Value
  spells : Spells depth (encode text) value

namespace Entry

variable {depth : Nat}

/-- What the printer is given of a member. -/
def printed (e : Entry depth) : String × List Char := (e.key, e.text)

/-- What a reader is to find of a member. -/
def member (e : Entry depth) : String × Value := (e.key, e.value)

/-- A member that holds a string. -/
def string (key s : String) : Entry depth where
  key := key
  text := printString s
  value := .text s
  spells := spells_of_scalar (Scalar.text (quoted_printString s)) depth

/-- A member that holds a whole number. -/
def int (key : String) (i : Int) (hl : -9223372036854775808 ≤ i) (hg : i ≤ 18446744073709551615) :
    Entry depth where
  key := key
  text := printInt i
  value := .number (.whole i)
  spells := spells_of_scalar (Scalar.number (numeral_printInt hl hg)) depth

/-- A member that holds a truth value. -/
def bool (key : String) (b : Bool) : Entry depth where
  key := key
  text := printBool b
  value := .bool b
  spells := spells_of_scalar (scalar_printBool b) depth

theorem member_printed (e : Entry depth) :
    Member (Spells depth) (encode (printString e.key ++ ':' :: e.text)) e.member := by
  rw [encode_append]
  exact ⟨encode (printString e.key), encode e.text,
    ⟨[], _, [], blank_nil, quoted_printString e.key, blank_nil, (List.append_nil _).symm⟩,
    ⟨[], _, [], blank_nil, e.spells, blank_nil, (List.append_nil _).symm⟩, rfl⟩

end Entry

theorem separated_printMembers {depth : Nat} (e : Entry depth) (es : List (Entry depth)) :
    Separated (Member (Spells depth)) (encode (printMembers ((e :: es).map Entry.printed)))
      ((e :: es).map Entry.member) := by
  induction es generalizing e with
  | nil => exact Separated.one e.member_printed
  | cons e' es ih =>
    have hmore := Separated.more e.member_printed (ih e')
    have htext : encode (printMembers ((e :: e' :: es).map Entry.printed)) =
        encode (printString e.key ++ ':' :: e.text) ++
          Byte.comma :: encode (printMembers ((e' :: es).map Entry.printed)) := by
      rw [List.map_cons, List.map_cons, Entry.printed, printMembers, encode_append]
      · rfl
      · simp
    rw [htext]
    exact hmore

/-- A written object spells the object. -/
theorem spells_printObject {depth : Nat} (es : List (Entry depth)) :
    Spells (depth + 1) (encode (printObject (es.map Entry.printed)))
      (.object (es.map Entry.member)) := by
  refine Or.inr ?_
  have htext : encode (printObject (es.map Entry.printed)) =
      Byte.openBrace :: (encode (printMembers (es.map Entry.printed)) ++ [Byte.closeBrace]) := by
    rw [printObject, List.cons_append, encode_cons, encode_append]
    rfl
  rw [htext]
  refine Container.object ?_
  cases es with
  | nil => exact Or.inl ⟨rfl, blank_nil⟩
  | cons e es => exact Or.inr (separated_printMembers e es)

/-- A member that holds an object. -/
def Entry.object {depth : Nat} (key : String) (es : List (Entry depth)) : Entry (depth + 1) where
  key := key
  text := printObject (es.map Entry.printed)
  value := .object (es.map Entry.member)
  spells := spells_printObject es

/-- A written object of members that are nested less deep than is allowed is a document. -/
theorem document_printObject (es : List (Entry 126)) :
    Document (encode (printObject (es.map Entry.printed))) (.object (es.map Entry.member)) :=
  ⟨[], _, [], blank_nil, spells_printObject es, blank_nil, (List.append_nil _).symm⟩

end LoginService.Json
