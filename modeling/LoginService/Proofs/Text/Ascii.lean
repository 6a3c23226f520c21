import LoginService.Text.Ascii

/-!
# Letter case and the pieces of a text

Putting a text in lower case changes letters into letters. So it makes no difference whether this is
done before or after blanks are cut off or the text is cut at a character that is no letter.
-/

namespace LoginService.Text

/-! ## Characters -/

theorem toNat_ofNat_ascii {n : Nat} (h : n < 0x80) : (Char.ofNat n).toNat = n := by
  rw [Char.ofNat, dif_pos (Or.inl (by omega))]
  rfl

theorem toNat_lowerChar (c : Char) :
    (lowerChar c).toNat = if 65 ≤ c.toNat ∧ c.toNat ≤ 90 then c.toNat + 32 else c.toNat := by
  unfold lowerChar
  by_cases h : 'A' ≤ c ∧ c ≤ 'Z'
  · have hletter : 65 ≤ c.toNat ∧ c.toNat ≤ 90 := h
    rw [if_pos h, if_pos hletter]
    exact toNat_ofNat_ascii (by omega)
  · have hother : ¬ (65 ≤ c.toNat ∧ c.toNat ≤ 90) := h
    rw [if_neg h, if_neg hother]

theorem not_lowerChar_lt (c : Char) : ¬ lowerChar c < c := by
  show ¬ (lowerChar c).toNat < c.toNat
  rw [toNat_lowerChar]
  split <;> omega

theorem lowerChar_lowerChar (c : Char) : lowerChar (lowerChar c) = lowerChar c := by
  apply Char.toNat_inj.mp
  rw [toNat_lowerChar (lowerChar c), toNat_lowerChar c]
  -- what has been moved behind the capital letters is not moved again
  by_cases h : 65 ≤ c.toNat ∧ c.toNat ≤ 90
  · rw [if_pos h, if_neg (by omega)]
  · rw [if_neg h, if_neg h]

/-- Only a character that is no letter becomes one. -/
theorem lowerChar_eq_iff {c d : Char} (hd : d.toNat < 65 ∨ (90 < d.toNat ∧ d.toNat < 97)) :
    lowerChar c = d ↔ c = d := by
  rw [← Char.toNat_inj, ← Char.toNat_inj, toNat_lowerChar]
  split <;> omega

theorem isBlank_lowerChar (c : Char) : isBlank (lowerChar c) = isBlank c := by
  by_cases h : 65 ≤ c.toNat ∧ c.toNat ≤ 90
  · have hlower : (lowerChar c).toNat = c.toNat + 32 := by rw [toNat_lowerChar, if_pos h]
    have hnot : isBlank c = false := by
      unfold isBlank
      simp only [Bool.or_eq_false_iff, Bool.and_eq_false_iff, decide_eq_false_iff_not,
        beq_eq_false_iff_ne]
      omega
    have hnot' : isBlank (lowerChar c) = false := by
      unfold isBlank
      simp only [hlower, Bool.or_eq_false_iff, Bool.and_eq_false_iff, decide_eq_false_iff_not,
        beq_eq_false_iff_ne]
      omega
    rw [hnot, hnot']
  · have hsame : lowerChar c = c := by
      apply Char.toNat_inj.mp
      rw [toNat_lowerChar, if_neg h]
    rw [hsame]

/-! ## Texts -/

theorem map_lowerChar_map (cs : List Char) :
    (cs.map lowerChar).map lowerChar = cs.map lowerChar := by
  rw [List.map_map]
  exact List.map_congr_left fun c _ => lowerChar_lowerChar c

/-- Of all spellings of a text the one in lower case comes last. -/
theorem not_map_lowerChar_lt (cs : List Char) : ¬ cs.map lowerChar < cs := by
  induction cs with
  | nil => exact List.not_lt_nil _
  | cons c cs ih =>
    rw [List.map_cons, List.cons_lt_cons_iff]
    rintro (hlt | ⟨-, hlt⟩)
    · exact not_lowerChar_lt c hlt
    · exact ih hlt

theorem dropWhile_isBlank_map (cs : List Char) :
    (cs.map lowerChar).dropWhile isBlank = (cs.dropWhile isBlank).map lowerChar := by
  induction cs with
  | nil => rfl
  | cons c cs ih =>
    rw [List.map_cons, List.dropWhile_cons, List.dropWhile_cons, isBlank_lowerChar, ih]
    split <;> rfl

theorem trimChars_map (cs : List Char) :
    trimChars (cs.map lowerChar) = (trimChars cs).map lowerChar := by
  unfold trimChars
  rw [dropWhile_isBlank_map, ← List.map_reverse, dropWhile_isBlank_map, List.map_reverse]

theorem splitOnChar_ne_nil (sep : Char) (cs : List Char) : splitOnChar sep cs ≠ [] := by
  cases cs with
  | nil => exact List.cons_ne_nil _ _
  | cons c cs =>
    unfold splitOnChar
    split
    · exact List.cons_ne_nil _ _
    · split <;> exact List.cons_ne_nil _ _

theorem splitOnChar_map {sep : Char}
    (hsep : sep.toNat < 65 ∨ (90 < sep.toNat ∧ sep.toNat < 97)) (cs : List Char) :
    splitOnChar sep (cs.map lowerChar) = (splitOnChar sep cs).map (List.map lowerChar) := by
  induction cs with
  | nil => rfl
  | cons c cs ih =>
    rw [List.map_cons, splitOnChar, splitOnChar, ih]
    by_cases hc : c = sep
    · rw [if_pos hc, if_pos ((lowerChar_eq_iff hsep).mpr hc)]
      rfl
    · rw [if_neg hc, if_neg fun h => hc ((lowerChar_eq_iff hsep).mp h)]
      cases splitOnChar sep cs <;> rfl

end LoginService.Text
