import LoginService.Proofs.Json.Embedded

/-!
# Documents are text

Nothing but UTF-8 is a document (`valid_of_document`). The reader never checks a document as a
whole: it checks every string by itself, after the escapes in it have been resolved, and what stands
outside strings has to be ASCII for its own sake. Checking a resolved string is as good as checking
its bytes, since an escape stands for a whole character, and a character that is begun before an
escape would have to go on inside that one (`completes_pieces`).
-/

namespace LoginService.Json

open Text.Utf8 (Completes Valid Ascii Owes ascii_nil ascii_cons ascii_append valid_append valid_cons
  valid_of_ascii)

/-! ## Bytes outside strings -/

theorem ascii_of_isBlank {b : UInt8} (h : Byte.isBlank b = true) : b.toNat < 0x80 := by
  simp only [Byte.isBlank, Bool.or_eq_true, beq_iff_eq] at h
  rcases h with ((rfl | rfl) | rfl) | rfl <;> decide

theorem ascii_of_isDigit {b : UInt8} (h : Byte.isDigit b = true) : b.toNat < 0x80 := by
  simp only [Byte.isDigit, Bool.and_eq_true, decide_eq_true_eq, UInt8.le_iff_toNat_le] at h
  exact Nat.lt_of_le_of_lt h.2 (by decide)

theorem ascii_of_isExponentMark {b : UInt8} (h : Byte.isExponentMark b = true) :
    b.toNat < 0x80 := by
  simp only [Byte.isExponentMark, Bool.or_eq_true, beq_iff_eq] at h
  rcases h with rfl | rfl <;> decide

theorem ascii_of_hexDigit? {b : UInt8} {d : Nat} (h : Byte.hexDigit? b = some d) :
    b.toNat < 0x80 := by
  unfold Byte.hexDigit? at h
  split at h
  · next hb => exact ascii_of_isDigit hb
  split at h
  · next hb => exact Nat.lt_of_le_of_lt (UInt8.le_iff_toNat_le.mp hb.2) (by decide)
  split at h
  · next hb => exact Nat.lt_of_le_of_lt (UInt8.le_iff_toNat_le.mp hb.2) (by decide)
  · cases h

theorem ascii_of_hex4 {ds : List UInt8} {v : Nat} (h : Hex4 ds v) : Ascii ds := by
  obtain ⟨ha, hb, hc, hd⟩ := h
  exact ascii_cons (ascii_of_hexDigit? ha) (ascii_cons (ascii_of_hexDigit? hb)
    (ascii_cons (ascii_of_hexDigit? hc) (ascii_cons (ascii_of_hexDigit? hd) ascii_nil)))

theorem ascii_of_digits {ds : List UInt8} (h : Digits ds) : Ascii ds :=
  fun b hb => ascii_of_isDigit (h.2 b hb)

theorem ascii_of_isFraction {text : List UInt8} (h : IsFraction text) : Ascii text := by
  rcases h with rfl | ⟨ds, hd, rfl⟩
  · exact ascii_nil
  · exact ascii_cons (by decide) (ascii_of_digits hd)

theorem ascii_of_isExponent {text : List UInt8} (h : IsExponent text) : Ascii text := by
  rcases h with rfl | ⟨mark, sign, ds, hm, hs, hd, rfl⟩
  · exact ascii_nil
  · refine ascii_cons (ascii_of_isExponentMark hm) (ascii_append ?_ (ascii_of_digits hd))
    rcases hs with rfl | rfl | rfl <;> decide

theorem ascii_of_isUnsigned {text : List UInt8} (h : IsUnsigned text) : Ascii text := by
  obtain ⟨whole, fraction, exponent, hw, hf, he, rfl⟩ := h
  exact ascii_append (ascii_of_digits hw.1)
    (ascii_append (ascii_of_isFraction hf) (ascii_of_isExponent he))

theorem ascii_of_numeral {text : List UInt8} {n : Number} (h : Numeral text n) : Ascii text := by
  cases h with
  | positive h => exact ascii_of_isUnsigned h
  | negative h => exact ascii_cons (by decide) (ascii_of_isUnsigned h)

theorem valid_of_blank {ws : List UInt8} (h : Blank ws) : Valid ws :=
  valid_of_ascii fun b hb => ascii_of_isBlank (h b hb)

/-! ## Bytes of strings -/

theorem ascii_of_shortEscape? {e b : UInt8} (h : shortEscape? e = some b) :
    e.toNat < 0x80 ∧ b.toNat < 0x80 := by
  unfold shortEscape? at h
  split at h
  · next he =>
    cases h
    rcases he with rfl | rfl | rfl <;> decide
  repeat'
    split at h
    · next he =>
      cases h
      subst he
      decide
  cases h

/-- A piece is a byte that stands for itself, or ASCII that stands for a character. -/
theorem plain_or_char {text bytes : List UInt8} (h : Piece text bytes) :
    (∃ b, text = [b] ∧ bytes = [b]) ∨
      Ascii text ∧ ∃ c, bytes = String.utf8EncodeChar c := by
  cases h with
  | plain => exact .inl ⟨_, rfl, rfl⟩
  | short he =>
    obtain ⟨he, hb⟩ := ascii_of_shortEscape? he
    exact .inr ⟨ascii_cons (by decide) (ascii_cons he ascii_nil), _,
      (Text.Utf8.utf8EncodeChar_one hb).symm⟩
  | unicode hd =>
    exact .inr ⟨ascii_cons (by decide) (ascii_cons (by decide) (ascii_of_hex4 hd)), _, rfl⟩
  | pair hd _ _ he =>
    exact .inr ⟨ascii_cons (by decide) (ascii_cons (by decide) (ascii_append (ascii_of_hex4 hd)
      (ascii_cons (by decide) (ascii_cons (by decide) (ascii_of_hex4 he))))), _, rfl⟩

/-- If what the pieces of a string stand for goes on with a character that has been begun, then so
do the pieces: they have the same bytes up to the first escape, where no character is begun. -/
theorem completes_pieces {text bytes : List UInt8} (h : Pieces text bytes)
    {begun : Option Text.Utf8.Pending} (ho : Owes begun) (hc : Completes begun bytes) :
    Completes begun text := by
  induction h generalizing begun with
  | nil => exact hc
  | cons hp _ ih =>
    rcases plain_or_char hp with ⟨b, rfl, rfl⟩ | ⟨hascii, c, rfl⟩
    · obtain ⟨begun', hnext, hmore⟩ := Text.Utf8.completes_cons.mp hc
      exact Text.Utf8.completes_cons.mpr ⟨begun', hnext, ih (Text.Utf8.owes_next hnext) hmore⟩
    · obtain ⟨rfl, hmore⟩ := Text.Utf8.completes_utf8EncodeChar ho hc
      exact valid_append (valid_of_ascii hascii) (ih ho hmore)

theorem valid_of_quoted {text : List UInt8} {s : String} (h : Quoted text s) : Valid text := by
  obtain ⟨inside, ⟨bytes, hpieces, hdecode⟩, rfl⟩ := h
  have hnone : Owes none := trivial
  have hinside : Valid inside :=
    completes_pieces hpieces hnone (Text.Utf8.valid_of_decode? hdecode)
  exact valid_cons (by decide) (valid_append hinside (valid_of_ascii (by decide)))

/-! ## Values -/

theorem valid_of_scalar {text : List UInt8} {v : Value} (h : Scalar text v) : Valid text := by
  cases h with
  | null => exact valid_of_ascii (by decide)
  | truth => exact valid_of_ascii (by decide)
  | falsity => exact valid_of_ascii (by decide)
  | number h => exact valid_of_ascii (ascii_of_numeral h)
  | text h => exact valid_of_quoted h

section
variable {α : Type} {R : Spelling α}

theorem valid_of_padded (hR : ∀ {text a}, R text a → Valid text) {bytes : List UInt8} {a : α}
    (h : Padded R bytes a) : Valid bytes := by
  obtain ⟨before, text, after, hbefore, htext, hafter, rfl⟩ := h
  exact valid_append (valid_append (valid_of_blank hbefore) (hR htext)) (valid_of_blank hafter)

theorem valid_of_separated (hR : ∀ {text a}, R text a → Valid text) {bytes : List UInt8}
    {as : List α} (h : Separated R bytes as) : Valid bytes := by
  induction h with
  | one h => exact hR h
  | more h _ ih => exact valid_append (hR h) (valid_cons (by decide) ih)

theorem valid_of_listed (hR : ∀ {text a}, R text a → Valid text) {bytes : List UInt8}
    {as : List α} (h : Listed R bytes as) : Valid bytes := by
  rcases h with ⟨-, hblank⟩ | hseparated
  · exact valid_of_blank hblank
  · exact valid_of_separated hR hseparated

end

section
variable {R : Spelling Value}

theorem valid_of_member (hR : ∀ {text v}, R text v → Valid text) {bytes : List UInt8}
    {m : String × Value} (h : Member R bytes m) : Valid bytes := by
  obtain ⟨key, value, hkey, hvalue, rfl⟩ := h
  exact valid_append (valid_of_padded valid_of_quoted hkey)
    (valid_cons (by decide) (valid_of_padded hR hvalue))

theorem valid_of_container (hR : ∀ {text v}, R text v → Valid text) {bytes : List UInt8}
    {v : Value} (h : Container R bytes v) : Valid bytes := by
  cases h with
  | list h =>
    exact valid_cons (by decide) (valid_append (valid_of_listed (valid_of_padded hR) h)
      (valid_of_ascii (by decide)))
  | object h =>
    exact valid_cons (by decide) (valid_append (valid_of_listed (valid_of_member hR) h)
      (valid_of_ascii (by decide)))

end

theorem valid_of_spells (depth : Nat) {bytes : List UInt8} {v : Value} (h : Spells depth bytes v) :
    Valid bytes := by
  induction depth generalizing bytes v with
  | zero => exact valid_of_scalar h
  | succ depth ih =>
    rcases h with hscalar | hcontainer
    · exact valid_of_scalar hscalar
    · exact valid_of_container ih hcontainer

/-- **Every document is UTF-8**, in its strings, wherever they stand, and outside them. -/
theorem valid_of_document {bytes : List UInt8} {v : Value} (h : Document bytes v) : Valid bytes :=
  valid_of_padded (valid_of_spells maxDepth) h

/-- The reader takes no document that is not the writing of a text. -/
theorem exists_encode_of_parse {bytes : List UInt8} {v : Value} (h : Value.parse bytes = .ok v) :
    ∃ cs, bytes = Text.Utf8.encode cs := by
  obtain ⟨p, hdocument, -⟩ := parse_eq_ok_iff.mp h
  exact Text.Utf8.valid_iff.mp (valid_of_document hdocument)

end LoginService.Json
