import Mathlib.Data.List.TakeWhile
import LoginService.Proofs.Json.Codec
import LoginService.Settings.Extract
import LoginService.Settings.File
import LoginService.Settings.ValueSyntax

/-!
# Numbers in decimal, as settings

A plain scalar of a file and the text of a variable are read by different rules, through signed and
unsigned numbers of different widths, floating point numbers and, in the end, text. Of the decimal
digits of a whole number both make a value from which every unsigned type of at most 64 bits takes
exactly this number or nothing (`Tree.Reads`).
-/

namespace LoginService.Settings

open Json (IntRange printInt)

/-! ## Values that are one number -/

/-- Every unsigned type of at most 64 bits reads a tree as a number if it has this number, and else
refuses it. -/
def Tree.Reads (t : Tree) (n : Int) : Prop :=
  ∀ range : IntRange, range.least = 0 → range.greatest ≤ 18446744073709551615 →
    (t.toInt range).toOption = if range.holds n then some n else none

theorem holds_eq_false {range : IntRange} {n : Int} (hleast : range.least = 0)
    (hgreatest : range.greatest ≤ 18446744073709551615)
    (hn : n < 0 ∨ 18446744073709551615 < n) : range.holds n = false := by
  rw [IntRange.holds, Bool.and_eq_false_iff, decide_eq_false_iff_not, decide_eq_false_iff_not]
  omega

theorem lt_of_not_holds {n : Nat} (h : ¬ IntRange.u64.holds n = true) :
    (18446744073709551615 : Int) < n := by
  refine Int.not_le.mp fun hle => h ?_
  exact Json.holds_natCast (by decide) hle

section
variable {source : Source} {n : Int}

theorem reads_unsigned (n : Nat) : (Tree.scalar source (.unsigned n)).Reads n := by
  intro range hleast hgreatest
  unfold Tree.toInt
  dsimp only
  by_cases hwide : IntRange.u64.holds n = true
  · rw [if_pos hwide]
    split <;> rfl
  · rw [if_neg hwide, holds_eq_false hleast hgreatest (Or.inr (lt_of_not_holds hwide))]
    rfl

theorem reads_signed (hn : n < 0) : (Tree.scalar source (.signed n)).Reads n := by
  intro range hleast hgreatest
  have hfalse := holds_eq_false hleast hgreatest (Or.inl hn)
  unfold Tree.toInt
  dsimp only
  rw [hfalse]
  split <;> rfl

/-- What is no whole number is refused by all types, and so is a number that none of them has. -/
theorem reads_of_refused {s : Scalar} (hunsigned : ∀ k, s ≠ .unsigned k)
    (hsigned : ∀ i, s ≠ .signed i) (hn : n < 0 ∨ 18446744073709551615 < n) :
    (Tree.scalar source s).Reads n := by
  intro range hleast hgreatest
  rw [holds_eq_false hleast hgreatest hn]
  cases s with
  | unsigned k => exact absurd rfl (hunsigned k)
  | signed i => exact absurd rfl (hsigned i)
  | unit => rfl
  | bool b => rfl
  | float x => rfl
  | text s => rfl

end

/-! ## Decimal digits -/

/-- The digits of a number are a zero, or do not begin with one. -/
theorem toDigits_zero_or (n : Nat) :
    Nat.toDigits 10 n = ['0'] ∨
      ∃ c cs, Nat.toDigits 10 n = c :: cs ∧ c.isDigit = true ∧ c ≠ '0' := by
  rcases Nat.eq_zero_or_pos n with rfl | hn
  · exact Or.inl rfl
  · obtain ⟨c, cs, hcs, hc⟩ := Json.exists_toDigits hn
    exact Or.inr ⟨c, cs, hcs, Json.isDigit_toDigits n c (by simp [hcs]), hc⟩

/-- A character that the text of a whole number may hold. -/
def InNumber (c : Char) : Prop := c.isDigit = true ∨ c = '-'

instance (c : Char) : Decidable (InNumber c) :=
  inferInstanceAs (Decidable (c.isDigit = true ∨ c = '-'))

theorem InNumber.ne {c d : Char} (hc : InNumber c) (hd : ¬ InNumber d) : c ≠ d := by
  rintro rfl
  exact hd hc

/-- What the text of a number begins with. -/
theorem head_printInt (n : Int) : ∃ c cs, printInt n = c :: cs ∧ InNumber c := by
  by_cases hn : 0 ≤ n
  · rw [Json.printInt_of_nonneg hn]
    rcases toDigits_zero_or n.toNat with h | ⟨c, cs, h, hdigit, -⟩
    · exact ⟨'0', [], h, Or.inl rfl⟩
    · exact ⟨c, cs, h, Or.inl hdigit⟩
  · rw [Json.printInt_of_neg (by omega)]
    exact ⟨'-', _, rfl, Or.inr rfl⟩

theorem inNumber_of_mem_printInt {n : Int} {c : Char} (h : c ∈ printInt n) : InNumber c := by
  by_cases hn : 0 ≤ n
  · rw [Json.printInt_of_nonneg hn] at h
    exact Or.inl (Json.isDigit_toDigits _ c h)
  · rw [Json.printInt_of_neg (by omega)] at h
    rcases List.mem_cons.mp h with rfl | h
    · exact Or.inr rfl
    · exact Or.inl (Json.isDigit_toDigits _ c h)

/-! ## Plain scalars -/

theorem hexDigit?_of_isDigit {c : Char} (h : c.isDigit = true) :
    Text.hexDigit? c = some (c.toNat - 48) := if_pos h

theorem foldlM_digits {cs : List Char} (h : ∀ c ∈ cs, c.isDigit = true) (value : Nat) :
    (cs.foldlM (fun value c =>
      match Text.hexDigit? c with
      | some d => if d < 10 then some (value * 10 + d) else none
      | none => none) value : Option Nat) = some (Nat.ofDigitChars 10 cs value) := by
  induction cs generalizing value with
  | nil => rfl
  | cons c cs ih =>
    have hc := h c List.mem_cons_self
    have hlt : c.toNat - 48 < 10 := by
      have hrange : 48 ≤ c.toNat ∧ c.toNat ≤ 57 := Char.isDigit_iff_toNat.1 hc
      omega
    rw [List.foldlM_cons, hexDigit?_of_isDigit hc]
    dsimp only
    rw [if_pos hlt, Nat.ofDigitChars_cons, Nat.mul_comm 10 value]
    exact ih (fun d hd => h d (List.mem_cons_of_mem c hd)) _

theorem digitsValue?_toDigits (n : Nat) : digitsValue? 10 (Nat.toDigits 10 n) = some n := by
  rw [digitsValue?, List.isEmpty_eq_false_iff.mpr Nat.toDigits_ne_nil, if_neg Bool.false_ne_true]
  refine (foldlM_digits (Json.isDigit_toDigits n) 0).trans ?_
  rw [Nat.ofDigitChars_ten_toDigits]

theorem basedDigits?_cons {c : Char} (h : c ≠ '0') (cs : List Char) :
    basedDigits? (c :: cs) = none := by
  unfold basedDigits?
  split <;> simp_all

theorem dropSign_of_digit {c : Char} (h : c.isDigit = true) (cs : List Char) :
    dropSign (c :: cs) = c :: cs := by
  unfold dropSign
  split
  · next heq =>
    cases heq
    cases h
  · next heq =>
    cases heq
    cases h
  · rfl

theorem hasIdleZero_of_dropSign {cs ds : List Char} {c : Char} (h : dropSign cs = c :: ds)
    (hc : c ≠ '0') : hasIdleZero cs = false := by
  unfold hasIdleZero
  rw [h]
  split
  · next heq =>
    cases heq
    exact absurd rfl hc
  · rfl

theorem hasIdleZero_toDigits (n : Nat) : hasIdleZero (Nat.toDigits 10 n) = false := by
  rcases toDigits_zero_or n with h | ⟨c, cs, h, hdigit, hc⟩
  · rw [h]
    rfl
  · rw [h]
    exact hasIdleZero_of_dropSign (dropSign_of_digit hdigit cs) hc

theorem magnitude?_toDigits (n : Nat) : magnitude? (Nat.toDigits 10 n) = some n := by
  have hbased : basedDigits? (Nat.toDigits 10 n) = none := by
    rcases toDigits_zero_or n with h | ⟨c, cs, h, -, hc⟩
    · rw [h]
      rfl
    · rw [h]
      exact basedDigits?_cons hc cs
  rw [magnitude?, hbased]
  dsimp only
  rw [hasIdleZero_toDigits, if_neg Bool.false_ne_true, digitsValue?_toDigits]

/-- A minus sign is no digit, so that the sign and the digits spell no number without a sign. -/
theorem magnitude?_minus (cs : List Char) : magnitude? ('-' :: cs) = none := by
  rw [magnitude?, basedDigits?_cons (by decide)]
  dsimp only
  split <;> rfl

theorem unsignedOf?_of_ne {c : Char} (h : c ≠ '+') (cs : List Char) :
    unsignedOf? (c :: cs) = magnitude? (c :: cs) := by
  unfold unsignedOf?
  split
  · next heq =>
    cases heq
    exact absurd rfl h
  · rfl

theorem integerOf?_toDigits (n : Nat) : integerOf? (Nat.toDigits 10 n)
    = if n ≤ greatestUnsigned then some (.unsigned n) else none := by
  have hunsigned : unsignedOf? (Nat.toDigits 10 n) = some n := by
    obtain ⟨c, cs, hcs⟩ := List.exists_cons_of_ne_nil (Nat.toDigits_ne_nil (n := n) (b := 10))
    have hc : c ≠ '+' := by
      rintro rfl
      have hdigit := Json.isDigit_toDigits n '+' (by simp [hcs])
      cases hdigit
    rw [hcs, unsignedOf?_of_ne hc, ← hcs, magnitude?_toDigits]
  rw [integerOf?, hunsigned]

theorem negativeOf?_minus (n : Nat) :
    negativeOf? ('-' :: Nat.toDigits 10 n) = some (-(n : Int)) := by
  show ((magnitude? (Nat.toDigits 10 n)).bind fun k => some (k : Int)).map (fun i => -i) = _
  rw [magnitude?_toDigits]
  rfl

theorem integerOf?_minus (n : Nat) : integerOf? ('-' :: Nat.toDigits 10 n)
    = if leastSigned ≤ -(n : Int) then some (.signed (-(n : Int))) else none := by
  rw [integerOf?, unsignedOf?_of_ne (by decide), magnitude?_minus, negativeOf?_minus]

/-- What begins like a number is no other word. -/
theorem ne_of_head {s w : String} {c : Char} {cs : List Char} (hs : s.toList = c :: cs)
    (hc : InNumber c) (hw : w.toList.head?.all (fun d => !decide (InNumber d)) = true) : s ≠ w := by
  rintro rfl
  rw [hs, List.head?_cons, Option.all_some, Bool.not_eq_true', decide_eq_false_iff_not] at hw
  exact hw hc

/-- What a plain scalar means that begins like a number. -/
theorem ofPlain_of_head {s : String} {c : Char} {cs : List Char} (hs : s.toList = c :: cs)
    (hc : InNumber c) : Scalar.ofPlain s =
      match integerOf? s.toList with
      | some n => n
      | none =>
        match (if hasIdleZero s.toList then none else floatOf? s.toList) with
        | some x => .float x
        | none => .text s := by
  have hwords : ∀ w ∈ ["", "null", "Null", "NULL", "~", "true", "True", "TRUE", "false",
      "False", "FALSE"], w.toList.head?.all (fun d => !decide (InNumber d)) = true := by decide
  have hne := fun w hw => ne_of_head hs hc (hwords w hw)
  simp only [List.mem_cons, List.not_mem_nil, or_false, forall_eq_or_imp, forall_eq] at hne
  have hnull : isNull s = false := by
    simp only [isNull, List.contains_eq_mem, List.mem_cons, List.not_mem_nil, hne, or_self,
      decide_false]
  have hbool : boolOf? s = none := by
    simp only [boolOf?, List.contains_eq_mem, List.mem_cons, List.not_mem_nil, hne, or_self,
      decide_false, Bool.false_eq_true, if_false]
  have hword : ¬ (decide (s = "") || isNull s) = true := by
    rw [hnull, decide_eq_false hne.1]
    exact Bool.false_ne_true
  refine (if_neg hword).trans ?_
  revert hbool
  generalize boolOf? s = b
  rintro rfl
  rfl

/-- What is read as text or as a floating point number in the end is no whole number. -/
theorem reads_float_or_text {source : Source} {n : Int} {s : String} {o : Option Decimal.Binary64}
    (hn : n < 0 ∨ 18446744073709551615 < n) :
    (Tree.scalar source (match o with | some x => .float x | none => .text s)).Reads n := by
  refine reads_of_refused ?_ ?_ hn <;> cases o <;> exact fun _ => nofun

/-- **A plain scalar that is a number in decimal reads as this number.** -/
theorem reads_ofPlain (source : Source) (n : Int) :
    (Tree.scalar source (.ofPlain (toString n))).Reads n := by
  obtain ⟨c, cs, hcs, hc⟩ := head_printInt n
  rw [ofPlain_of_head hcs hc]
  show (Tree.scalar source (match integerOf? (printInt n) with
    | some s => s
    | none =>
      match (if hasIdleZero (printInt n) then none else floatOf? (printInt n)) with
      | some x => .float x
      | none => .text (toString n))).Reads n
  by_cases hn : 0 ≤ n
  · obtain ⟨k, rfl⟩ := Int.eq_ofNat_of_zero_le hn
    rw [Json.printInt_of_nonneg hn, Int.toNat_natCast, integerOf?_toDigits]
    by_cases hk : k ≤ greatestUnsigned
    · rw [if_pos hk]
      exact reads_unsigned k
    · rw [if_neg hk]
      have hlarge : (18446744073709551615 : Int) < k := by
        rw [greatestUnsigned] at hk
        omega
      exact reads_float_or_text (Or.inr hlarge)
  · have hk : -(((-n).toNat : Nat) : Int) = n := by omega
    rw [Json.printInt_of_neg (by omega), integerOf?_minus, hk]
    by_cases hleast : leastSigned ≤ n
    · rw [if_pos hleast]
      exact reads_signed (by omega)
    · rw [if_neg hleast]
      exact reads_float_or_text (Or.inl (by omega))

/-! ## Variables -/

theorem decimalValue?_toDigits (n : Nat) : decimalValue? (Nat.toDigits 10 n) = some n := by
  have hall : (Nat.toDigits 10 n).all Text.isDigit = true :=
    List.all_eq_true.mpr (Json.isDigit_toDigits n)
  rw [decimalValue?, hall, List.isEmpty_eq_false_iff.mpr Nat.toDigits_ne_nil]
  exact congrArg some Nat.ofDigitChars_ten_toDigits

theorem bareFloat?_printInt (n : Int) : bareFloat? (printInt n) = none := by
  refine if_neg ?_
  rw [List.contains_eq_mem, decide_eq_true_eq]
  intro hmem
  rcases inNumber_of_mem_printInt hmem with h | h <;> cases h

theorem bareUnsigned?_toDigits (n : Nat) : bareUnsigned? (Nat.toDigits 10 n)
    = if IntRange.u64.holds n then some n else none := by
  have hhead : (Nat.toDigits 10 n).head? ≠ some '+' := by
    intro h
    have hdigit := Json.isDigit_toDigits n '+' (List.mem_of_mem_head? h)
    cases hdigit
  rw [bareUnsigned?, if_neg hhead, decimalValue?_toDigits]

theorem bareUnsigned?_minus (cs : List Char) : bareUnsigned? ('-' :: cs) = none := rfl

theorem bareSigned?_toDigits (n : Nat) : bareSigned? (Nat.toDigits 10 n) = none := by
  unfold bareSigned?
  split
  · next h =>
    have hdigit := Json.isDigit_toDigits n '-' (by rw [h]; exact List.mem_cons_self)
    cases hdigit
  · rfl

theorem bareSigned?_minus (n : Nat) : bareSigned? ('-' :: Nat.toDigits 10 n)
    = if IntRange.i64.holds (-(n : Int)) then some (-(n : Int)) else none := by
  rw [bareSigned?, decimalValue?_toDigits]

/-- A text without quotes that is a number in decimal reads as this number. -/
theorem reads_ofBare (n : Int) : (bareTree (.ofBare (printInt n))).Reads n := by
  unfold bareTree Scalar.ofBare
  rw [bareFloat?_printInt]
  dsimp only
  by_cases hn : 0 ≤ n
  · obtain ⟨k, rfl⟩ := Int.eq_ofNat_of_zero_le hn
    rw [Json.printInt_of_nonneg hn, Int.toNat_natCast, bareUnsigned?_toDigits, bareSigned?_toDigits]
    by_cases hk : IntRange.u64.holds k = true
    · rw [if_pos hk]
      exact reads_unsigned k
    · rw [if_neg hk]
      exact reads_of_refused (fun _ => nofun) (fun _ => nofun) (Or.inr (lt_of_not_holds hk))
  · have hk : -(((-n).toNat : Nat) : Int) = n := by omega
    rw [Json.printInt_of_neg (by omega), bareUnsigned?_minus, bareSigned?_minus, hk]
    by_cases hfits : IntRange.i64.holds n = true
    · rw [if_pos hfits]
      exact reads_signed (by omega)
    · rw [if_neg hfits]
      exact reads_of_refused (fun _ => nofun) (fun _ => nofun) (Or.inl (by omega))

theorem InNumber.isBlank_eq_false {c : Char} (h : InNumber c) : Text.isBlank c = false := by
  rcases h with h | rfl
  · have hrange : 48 ≤ c.toNat ∧ c.toNat ≤ 57 := Char.isDigit_iff_toNat.1 h
    simp only [Text.isBlank, Bool.or_eq_false_iff, Bool.and_eq_false_iff, decide_eq_false_iff_not,
      beq_eq_false_iff_ne]
    omega
  · rfl

theorem InNumber.endsBare_eq_false {c : Char} (h : InNumber c) : endsBare c = false := by
  simp only [endsBare, Bool.or_eq_false_iff, beq_eq_false_iff_ne]
  refine ⟨⟨⟨⟨?_, ?_⟩, ?_⟩, ?_⟩, ?_⟩ <;> exact h.ne (by decide)

theorem InNumber.isAsciiBlank_eq_false {c : Char} (h : InNumber c) :
    Text.isAsciiBlank c = false := by
  simp only [Text.isAsciiBlank, Bool.or_eq_false_iff, beq_eq_false_iff_ne]
  refine ⟨⟨⟨⟨?_, ?_⟩, ?_⟩, ?_⟩, ?_⟩ <;> exact h.ne (by decide)

/-- Blanks are trimmed off a text only if it has some. -/
theorem trimChars_of_not_blank {cs : List Char} (h : ∀ c ∈ cs, Text.isBlank c = false) :
    Text.trimChars cs = cs := by
  have hdrop : ∀ ds : List Char, (∀ c ∈ ds, Text.isBlank c = false) →
      ds.dropWhile Text.isBlank = ds := by
    intro ds hds
    cases ds with
    | nil => rfl
    | cons d ds => rw [List.dropWhile_cons, hds d List.mem_cons_self, if_neg Bool.false_ne_true]
  rw [Text.trimChars, hdrop cs h, hdrop cs.reverse (fun c hc => h c (List.mem_reverse.mp hc)),
    List.reverse_reverse]

/-- A text that begins like a number and holds nothing that ends it is read without quotes, up to
its end. -/
theorem readValue?_of_head {c : Char} {cs : List Char} (hc : InNumber c)
    (hcs : ∀ d ∈ c :: cs, endsBare d = false) (fuel : Nat) :
    readValue? (fuel + 1) (c :: cs) = some (bareTree (.ofBare (Text.trimChars (c :: cs))), []) := by
  have hskip : skipBlanks (c :: cs) = c :: cs := by
    rw [skipBlanks, List.dropWhile_cons, hc.isAsciiBlank_eq_false, if_neg Bool.false_ne_true]
  have htake : (c :: cs).takeWhile (fun d => !endsBare d) = c :: cs :=
    List.takeWhile_eq_self_iff.mpr fun d hd => by rw [hcs d hd]; rfl
  have hother : c ≠ 't' ∧ c ≠ 'f' ∧ c ≠ '[' ∧ c ≠ '\x7b' ∧ c ≠ '"' ∧ c ≠ '\'' := by
    and_intros <;> exact hc.ne (by decide)
  rw [readValue?, hskip]
  split
  case h_8 =>
    rw [htake]
    dsimp only
    rw [List.drop_length]
    rfl
  all_goals simp_all only [List.cons.injEq, false_and]

theorem ofVariable_printInt (n : Int) :
    Tree.ofVariable (toString n) = bareTree (.ofBare (printInt n)) := by
  obtain ⟨c, cs, hcs, hc⟩ := head_printInt n
  have hends : ∀ d ∈ c :: cs, endsBare d = false := fun d hd =>
    (inNumber_of_mem_printInt (hcs ▸ hd)).endsBare_eq_false
  have hread := readValue?_of_head hc hends (printInt n).length
  rw [← hcs, trimChars_of_not_blank fun d hd =>
    (inNumber_of_mem_printInt hd).isBlank_eq_false] at hread
  unfold Tree.ofVariable
  rw [show (toString n).toList = printInt n from rfl, hread]

/-- **A variable whose text is a number in decimal reads as this number.** -/
theorem reads_ofVariable (n : Int) : (Tree.ofVariable (toString n)).Reads n := by
  rw [ofVariable_printInt]
  exact reads_ofBare n

end LoginService.Settings
