import LoginService.Json.Skip
import LoginService.Proofs.Json.Value

/-!
# Stepping over values of the grammar

Whatever the reader of values takes is also stepped over, and nothing beyond it
(`skipValue_append`). The machine that steps over containers is followed from the state before a
value to the state after it; `Crosses` says that it gets there within four steps for each byte,
which is the fuel it is given.
-/

namespace LoginService.Json

/-! ## Numbers -/

/-- Step over the digits of an exponent, after its mark and its sign. -/
def skipExponentDigits (c : Cursor) : Read Unit :=
  match c.rest with
  | [] => c.fail .badNumber
  | b :: _ =>
    if Byte.isDigit b then
      .ok ((), c.past (Number.dropDigits 0 c.rest).1 (Number.dropDigits 0 c.rest).2)
    else c.failAhead .badNumber

/-- Step over what follows the digits before the point. -/
def skipAfterWhole (c : Cursor) : Read Unit :=
  match c.rest with
  | b :: _ =>
    if Byte.isDigit b then c.failAhead .badNumber
    else if b = Byte.point then
      let c := c.advance
      let (count, rest) := Number.dropDigits 0 c.rest
      let c := c.past count rest
      if count = 0 then c.failAhead .badNumber else skipNumberTail c
    else skipNumberTail c
  | [] => .ok ((), c)

section
variable {c : Cursor} {rest : List UInt8}

theorem skipExponentDigits_append {ds : List UInt8} (hd : Digits ds) (hc : c.rest = ds ++ rest)
    (hs : Stops rest) : ∃ c', skipExponentDigits c = .ok ((), c') ∧ c'.rest = rest := by
  have hdrop := Number.dropDigits_append hd.2 (Number.atDigit_of_stops hs) 0
  rw [← hc] at hdrop
  obtain ⟨b, t, rfl⟩ := List.exists_cons_of_ne_nil hd.1
  refine ⟨c.past (0 + (b :: t).length) rest, ?_, rfl⟩
  rw [skipExponentDigits, hdrop]
  simp only [hc, List.cons_append, if_pos (hd.2 b (by simp))]

theorem skipExponent_signed {mark sign : UInt8} {t : List UInt8}
    (hsign : sign = Byte.plus ∨ sign = Byte.minus) (hc : c.rest = mark :: sign :: t) :
    skipExponent c = skipExponentDigits c.advance.advance := by
  have ha : c.advance.rest = sign :: t := advance_rest hc
  simp only [skipExponent, ha, if_pos hsign]
  rfl

theorem skipExponent_unsigned {mark b : UInt8} {t : List UInt8} (hb : Byte.isDigit b = true)
    (hc : c.rest = mark :: b :: t) : skipExponent c = skipExponentDigits c.advance := by
  have ha : c.advance.rest = b :: t := advance_rest hc
  have hn : ¬ (b = Byte.plus ∨ b = Byte.minus) := by
    rintro (rfl | rfl) <;> exact absurd hb (by decide)
  simp only [skipExponent, ha, if_neg hn]
  rw [skipExponentDigits]
  simp only [ha]

theorem skipExponent_append {mark : UInt8} {sign ds : List UInt8}
    (hsign : sign = [] ∨ sign = [Byte.plus] ∨ sign = [Byte.minus]) (hd : Digits ds)
    (hc : c.rest = mark :: (sign ++ ds) ++ rest) (hs : Stops rest) :
    ∃ c', skipExponent c = .ok ((), c') ∧ c'.rest = rest := by
  have hsigned : ∀ b, (b = Byte.plus ∨ b = Byte.minus) → sign = [b] →
      ∃ c', skipExponent c = .ok ((), c') ∧ c'.rest = rest := by
    rintro b hb rfl
    have hr : c.rest = mark :: b :: (ds ++ rest) := hc
    rw [skipExponent_signed hb hr]
    exact skipExponentDigits_append hd (advance_rest (advance_rest hr)) hs
  rcases hsign with rfl | h | h
  · obtain ⟨b, t, rfl⟩ := List.exists_cons_of_ne_nil hd.1
    have hr : c.rest = mark :: b :: (t ++ rest) := hc
    rw [skipExponent_unsigned (hd.2 b (by simp)) hr]
    exact skipExponentDigits_append hd (advance_rest hr) hs
  · exact hsigned _ (Or.inl rfl) h
  · exact hsigned _ (Or.inr rfl) h

theorem skipNumberTail_append {text : List UInt8} (h : IsExponent text) (hc : c.rest = text ++ rest)
    (hs : Stops rest) : ∃ c', skipNumberTail c = .ok ((), c') ∧ c'.rest = rest := by
  rcases h with rfl | ⟨mark, sign, ds, hm, hsign, hd, rfl⟩
  · refine ⟨c, ?_, hc⟩
    unfold skipNumberTail
    split
    · rename_i b t hr
      have hb : rest.head? = some b := by rw [← List.nil_append rest, ← hc, hr]; rfl
      rw [if_neg (by rw [(Number.head_of_stops hs hb).2]; simp)]
    · rfl
  · have hr : c.rest = mark :: (sign ++ ds ++ rest) := hc
    rw [skipNumberTail, hr]
    simp only [if_pos hm]
    exact skipExponent_append hsign hd hc hs

theorem skipAfterWhole_append {fraction exponent : List UInt8} (hf : IsFraction fraction)
    (he : IsExponent exponent) (hc : c.rest = fraction ++ (exponent ++ rest)) (hs : Stops rest) :
    ∃ c', skipAfterWhole c = .ok ((), c') ∧ c'.rest = rest := by
  have hat := Number.atDigit_exponent he hs
  rcases hf with rfl | ⟨ds, hd, rfl⟩
  · unfold skipAfterWhole
    split
    · rename_i b t hr
      rw [List.nil_append] at hc
      rw [← hc, hr] at hat
      have hp : b ≠ Byte.point := by
        rintro rfl
        rcases he with rfl | ⟨mark, sign, ds, hm, -, -, rfl⟩
        · have hb : rest.head? = some Byte.point := by rw [← List.nil_append rest, ← hc, hr]; rfl
          exact (Number.head_of_stops hs hb).1 rfl
        · rw [hr] at hc
          rw [← (List.cons.inj hc).1, Number.point_not_isExponentMark] at hm
          exact absurd hm (by simp)
      have hb : ¬ Byte.isDigit b = true := by
        simpa [Number.atDigit] using hat
      rw [if_neg hb, if_neg hp]
      exact skipNumberTail_append he hc hs
    · rename_i hr
      refine ⟨c, rfl, ?_⟩
      rw [hr, List.nil_append] at hc
      rw [hr, (List.append_eq_nil_iff.1 hc.symm).2]
  · have hr : c.rest = Byte.point :: (ds ++ (exponent ++ rest)) := hc
    have hcount : 0 + ds.length ≠ 0 := by
      have := List.length_pos_iff.2 hd.1
      omega
    have hpoint : ¬ Byte.isDigit Byte.point = true := by decide
    rw [skipAfterWhole]
    simp only [hr, if_neg hpoint, if_true, advance_rest hr, Number.dropDigits_append hd.2 hat 0,
      if_neg hcount]
    exact skipNumberTail_append he rfl hs

theorem skipNumber_zero {t : List UInt8} (hc : c.rest = Byte.zero :: t) :
    skipNumber c = skipAfterWhole (c.past 1 t) := by
  have hz : Byte.isDigit Byte.zero = true := by decide
  rw [skipNumber, hc]
  simp only [if_pos hz, if_true]
  rfl

theorem skipNumber_digits {b : UInt8} {t : List UInt8} (hc : c.rest = b :: t)
    (hb : Byte.isDigit b = true) (hz : b ≠ Byte.zero) :
    skipNumber c = skipAfterWhole (c.past (Number.dropDigits 0 c.rest).1
      (Number.dropDigits 0 c.rest).2) := by
  rw [skipNumber, hc]
  simp only [if_pos hb, if_neg hz]
  rfl

/-- A number is stepped over in every text that it begins. -/
theorem skipNumber_append {text : List UInt8} (h : IsUnsigned text) (hc : c.rest = text ++ rest)
    (hs : Stops rest) : ∃ c', skipNumber c = .ok ((), c') ∧ c'.rest = rest := by
  obtain ⟨whole, fraction, exponent, ⟨hw, hzero⟩, hf, he, rfl⟩ := h
  have hc' : c.rest = whole ++ (fraction ++ (exponent ++ rest)) := by rw [hc]; simp
  have hat : Number.atDigit (fraction ++ (exponent ++ rest)) = false := by
    have := Number.atDigit_rest ⟨fraction, exponent, hf, he, rfl⟩ hs
    rwa [List.append_assoc] at this
  obtain ⟨b, t, rfl⟩ := List.exists_cons_of_ne_nil hw.1
  by_cases hz : b = Byte.zero
  · have ht : t = [] := by
      have := hzero (by rw [hz]; rfl)
      exact (List.cons.inj this).2
    subst hz ht
    rw [skipNumber_zero hc']
    exact skipAfterWhole_append hf he rfl hs
  · rw [skipNumber_digits hc' (hw.2 b (by simp)) hz, hc', Number.dropDigits_append hw.2 hat 0]
    exact skipAfterWhole_append hf he rfl hs

end

/-! ## Scalars -/

theorem skipScalar?_digit {b : UInt8} (h : Byte.isDigit b = true) (c : Cursor) :
    skipScalar? b c = some (skipNumber c) := by
  obtain ⟨hn, ht, hf, hm⟩ := digit_ne h
  rw [skipScalar?, if_neg hn, if_neg ht, if_neg hf, if_neg hm, if_pos h]

theorem skipScalar?_append {text rest : List UInt8} {v : Value} {c : Cursor} (h : Scalar text v)
    (hc : c.rest = text ++ rest) (hs : Stops rest) :
    ∃ b t c', text = b :: t ∧ skipScalar? b c = some (.ok ((), c')) ∧ c'.rest = rest := by
  cases h with
  | null =>
    obtain ⟨c', hw, hr⟩ := word_append (advance_rest hc)
    exact ⟨0x6E, nullTail, c', rfl, by rw [skipScalar?, if_pos rfl, hw], hr⟩
  | truth =>
    obtain ⟨c', hw, hr⟩ := word_append (advance_rest hc)
    exact ⟨0x74, trueTail, c', rfl, by
      rw [skipScalar?, if_neg (by decide), if_pos rfl, hw], hr⟩
  | falsity =>
    obtain ⟨c', hw, hr⟩ := word_append (advance_rest hc)
    exact ⟨0x66, falseTail, c', rfl, by
      rw [skipScalar?, if_neg (by decide), if_neg (by decide), if_pos rfl, hw], hr⟩
  | number hn =>
    cases hn with
    | positive hu _ =>
      obtain ⟨b, t, rfl, hb⟩ := exists_digit_of_isUnsigned hu
      obtain ⟨c', hc', hr⟩ := skipNumber_append hu hc hs
      exact ⟨b, t, c', rfl, by rw [skipScalar?_digit hb, hc'], hr⟩
    | negative hu _ =>
      obtain ⟨c', hc', hr⟩ := skipNumber_append hu (advance_rest hc) hs
      exact ⟨Byte.minus, _, c', rfl, congrArg some hc', hr⟩
  | text hq =>
    obtain ⟨inside, hi, rfl⟩ := hq
    have ha : c.advance.rest = inside ++ Byte.quote :: rest := by
      rw [advance_rest hc]
      simp
    obtain ⟨c', hc', hr⟩ := skipText_append hi ha
    exact ⟨Byte.quote, _, c', rfl, congrArg some hc', hr⟩

/-! ## Single steps -/

section
variable {n : Nat} {frames outer : List Frame} {frame : Frame} {c c' : Cursor} {b : UInt8}
  {t : List UInt8}

theorem skipFrom_scalar (hr : c.skipBlanks.rest = b :: t)
    (hs : skipScalar? b c.skipBlanks = some (.ok ((), c'))) :
    skipFrom (n + 1) .value frames c = skipFrom n .after frames c' := by
  rw [skipFrom]
  simp only [hr, hs]

theorem skipFrom_open_list (hr : c.skipBlanks.rest = Byte.openBracket :: t) :
    skipFrom (n + 1) .value frames c =
      skipFrom n .opened (.list :: frames) c.skipBlanks.advance := by
  have hs : skipScalar? Byte.openBracket c.skipBlanks = none := rfl
  rw [skipFrom]
  simp only [hr, hs, if_true]

theorem skipFrom_open_object (hr : c.skipBlanks.rest = Byte.openBrace :: t) :
    skipFrom (n + 1) .value frames c =
      skipFrom n .opened (.object :: frames) c.skipBlanks.advance := by
  have hs : skipScalar? Byte.openBrace c.skipBlanks = none := rfl
  have hb : Byte.openBrace ≠ Byte.openBracket := by decide
  rw [skipFrom]
  simp only [hr, hs, if_neg hb, if_true]

theorem skipFrom_close {state : SkipState} (hs : state = .opened ∨ state = .after)
    (hr : c.skipBlanks.rest = frame.closer :: t) :
    skipFrom (n + 1) state (frame :: outer) c = skipFrom n .after outer c.skipBlanks.advance := by
  have hcomma : frame.closer ≠ Byte.comma := by cases frame <;> decide
  rcases hs with rfl | rfl
  · rw [skipFrom]
    simp only [hr, if_true]
  · rw [skipFrom]
    simp only [hr, if_neg hcomma, if_true]

theorem skipFrom_first (hr : c.skipBlanks.rest = b :: t) (hb : b ≠ frame.closer) :
    skipFrom (n + 1) .opened (frame :: outer) c =
      skipFrom n .item (frame :: outer) c.skipBlanks := by
  rw [skipFrom]
  simp only [hr, if_neg hb]

theorem skipFrom_comma (hr : c.skipBlanks.rest = Byte.comma :: t) :
    skipFrom (n + 1) .after (frame :: outer) c =
      skipFrom n .item (frame :: outer) c.skipBlanks.advance := by
  rw [skipFrom]
  simp only [hr, if_true]

theorem skipFrom_member (hk : skipKey c.skipBlanks = .ok ((), c')) :
    skipFrom (n + 1) .item (.object :: outer) c = skipFrom n .value (.object :: outer) c' := by
  rw [skipFrom]
  simp only [hk]

end

/-! ## Containers -/

/-- The machine gets from the state before a value to the state after it, within four steps for
each byte of the value. -/
def Crosses (R : Spelling Value) : Prop :=
  ∀ before text v, Blank before → R text v → ∀ c rest, c.rest = before ++ text ++ rest →
    Stops rest → ∃ c' k, k ≤ 4 * text.length ∧ c'.rest = rest ∧
      ∀ n frames, skipFrom (n + k) .value frames c = skipFrom n .after frames c'

/-- The machine gets over an item or a member of an open container, which does not begin like the
end of the container. -/
def CrossesItem {α : Type} (frame : Frame) (P : Spelling α) : Prop :=
  ∀ bytes a, P bytes a → ∀ c rest, c.rest = bytes ++ rest →
    (∃ b t, c.skipBlanks.rest = b :: t ∧ b ≠ frame.closer) ∧
    ((∀ ws, Blank ws → Stops (ws ++ rest)) →
      ∃ after c' k, k ≤ 4 * bytes.length ∧ Blank after ∧ c'.rest = after ++ rest ∧
        ∀ n outer, skipFrom (n + k + 1) .item (frame :: outer) c =
          skipFrom n .after (frame :: outer) c')

theorem crossesItem_padded {R : Spelling Value} (hh : Headed R) (h : Crosses R) :
    CrossesItem .list (Padded R) := by
  intro bytes v hp c rest hc
  obtain ⟨b, t, after, hR, ha, hlen, he, hs⟩ := skipBlanks_padded hh hp hc
  refine ⟨⟨b, _, hs, ne_closeBracket he⟩, fun hstop => ?_⟩
  obtain ⟨c', k, hk, hr, hx⟩ := h [] _ v blank_nil hR _ _ hs (hstop after ha)
  exact ⟨after, c', k, by omega, ha, hr, fun n outer => by rw [skipFrom_item, hx]⟩

theorem crossesItem_member {R : Spelling Value} (h : Crosses R) :
    CrossesItem .object (Member R) := by
  intro bytes m hm c rest hc
  obtain ⟨before, inside, middle, blanks, text, after, hb, hi, hmid, hbl, ht, ha, rfl⟩ :=
    exists_of_member hm
  have hq : c.skipBlanks.rest = Byte.quote :: (inside ++ Byte.quote :: (middle ++
      Byte.colon :: (blanks ++ text ++ (after ++ rest)))) := by
    refine skipBlanks_rest ?_ hb (noBlank_cons.2 (by decide))
    rw [hc]
    simp
  refine ⟨⟨_, _, hq, by decide⟩, fun hstop => ?_⟩
  obtain ⟨c₁, hc₁, hr₁⟩ := skipText_append hi (advance_rest hq)
  obtain ⟨c₂, hc₂, hr₂⟩ := readColon_append hmid hr₁
  have hkey : skipKey c.skipBlanks = .ok ((), c₂) := by
    simp only [skipKey, skipBlanks_skipBlanks, hq, if_true, hc₁, hc₂]
  obtain ⟨c₃, k, hk, hr₃, hx⟩ := h blanks text m.2 hbl ht c₂ _ hr₂ (hstop after ha)
  refine ⟨after, c₃, k, ?_, ha, hr₃, fun n outer => by rw [skipFrom_member hkey, hx]⟩
  simp only [List.length_append, List.length_cons]
  omega

theorem skipFrom_skipBlanks (n : Nat) (state : SkipState) (frames : List Frame) (c : Cursor) :
    skipFrom (n + 1) state frames c.skipBlanks = skipFrom (n + 1) state frames c := by
  unfold skipFrom
  rw [skipBlanks_skipBlanks]

section
variable {α : Type} {frame : Frame} {P : Spelling α} {c : Cursor} {rest : List UInt8}

theorem stops_blank_closer (frame : Frame) (rest : List UInt8) {ws : List UInt8} (hw : Blank ws) :
    Stops (ws ++ frame.closer :: rest) := by
  cases frame <;> exact stops_blank_cons hw (by decide)

theorem noBlank_closer (frame : Frame) (rest : List UInt8) : NoBlank (frame.closer :: rest) := by
  cases frame <;> exact noBlank_cons.2 (by decide)

/-- The machine gets over all items or members of a container and its end. -/
theorem skipFrom_separated (hP : CrossesItem frame P) {bytes : List UInt8} {as : List α}
    (h : Separated P bytes as) (hc : c.rest = bytes ++ frame.closer :: rest) :
    ∃ c' k, k ≤ 4 * bytes.length + 1 ∧ c'.rest = rest ∧
      ∀ n outer, skipFrom (n + k + 1) .item (frame :: outer) c = skipFrom n .after outer c' := by
  induction h generalizing c with
  | @one text a ha =>
    obtain ⟨after, c₁, k, hk, haf, hr, hx⟩ :=
      (hP text a ha c _ hc).2 fun ws hw => stops_blank_closer frame rest hw
    have hclose : c₁.skipBlanks.rest = frame.closer :: rest :=
      skipBlanks_rest hr haf (noBlank_closer frame rest)
    refine ⟨c₁.skipBlanks.advance, k + 1, by omega, advance_rest hclose, ?_⟩
    intro n outer
    rw [show n + (k + 1) + 1 = n + 1 + k + 1 by omega, hx, skipFrom_close (Or.inr rfl) hclose]
  | @more text more a as ha _ ih =>
    rw [List.append_assoc] at hc
    obtain ⟨after, c₁, k, hk, haf, hr, hx⟩ :=
      (hP text a ha c _ hc).2 fun ws hw => stops_blank_cons hw (by decide)
    have hcomma : c₁.skipBlanks.rest = Byte.comma :: (more ++ frame.closer :: rest) :=
      skipBlanks_rest hr haf (noBlank_cons.2 (by decide))
    obtain ⟨c₂, k', hk', hr₂, hx'⟩ := ih (advance_rest hcomma)
    refine ⟨c₂, k + k' + 2, ?_, hr₂, ?_⟩
    · simp only [List.length_append, List.length_cons]
      omega
    · intro n outer
      rw [show n + (k + k' + 2) + 1 = n + k' + 1 + 1 + k + 1 by omega, hx, skipFrom_comma hcomma,
        hx']

theorem skipBlanks_separated_item (hP : CrossesItem frame P) {bytes : List UInt8} {as : List α}
    (h : Separated P bytes as) (hc : c.rest = bytes ++ rest) :
    ∃ b t, c.skipBlanks.rest = b :: t ∧ b ≠ frame.closer := by
  cases h with
  | one ha => exact (hP _ _ ha c rest hc).1
  | more ha _ =>
    rw [List.append_assoc] at hc
    exact (hP _ _ ha c _ hc).1

/-- The machine gets over what stands between the ends of a container. -/
theorem skipFrom_listed (hP : CrossesItem frame P) {body : List UInt8} {as : List α}
    (h : Listed P body as) (hc : c.rest = body ++ frame.closer :: rest) :
    ∃ c' k, k ≤ 4 * body.length + 3 ∧ c'.rest = rest ∧
      ∀ n outer, skipFrom (n + k) .opened (frame :: outer) c = skipFrom n .after outer c' := by
  rcases h with ⟨rfl, hw⟩ | h
  · have hclose : c.skipBlanks.rest = frame.closer :: rest :=
      skipBlanks_rest hc hw (noBlank_closer frame rest)
    exact ⟨c.skipBlanks.advance, 1, by omega, advance_rest hclose,
      fun n outer => skipFrom_close (Or.inl rfl) hclose⟩
  · obtain ⟨b, t, hr, hb⟩ := skipBlanks_separated_item hP h hc
    obtain ⟨c', k, hk, hr', hx⟩ := skipFrom_separated hP h hc
    refine ⟨c', k + 2, by omega, hr', ?_⟩
    intro n outer
    rw [show n + (k + 2) = n + k + 1 + 1 by omega, skipFrom_first hr hb, skipFrom_skipBlanks, hx]

end

/-! ## Values -/

theorem crosses_scalar : Crosses Scalar := by
  intro before text v hb ht c rest hc hs
  obtain ⟨b, t, rfl, hblank, -⟩ := scalar_head ht
  have hr : c.skipBlanks.rest = b :: t ++ rest :=
    skipBlanks_rest (by rw [hc, List.append_assoc]) hb (noBlank_cons.2 hblank)
  obtain ⟨b', t', c', he, hskip, hrest⟩ := skipScalar?_append ht hr hs
  cases he
  exact ⟨c', 1, by simp; omega, hrest, fun n frames => skipFrom_scalar hr hskip⟩

theorem crosses_container {R : Spelling Value} (hh : Headed R) (h : Crosses R) :
    Crosses (Container R) := by
  intro before text v hb ht c rest hc hs
  cases ht with
  | @list body items hl =>
    have hr : c.skipBlanks.rest = Byte.openBracket :: (body ++ Frame.list.closer :: rest) := by
      refine skipBlanks_rest ?_ hb (noBlank_cons.2 (by decide))
      rw [hc]
      simp [Frame.closer]
    obtain ⟨c', k, hk, hr', hx⟩ := skipFrom_listed (crossesItem_padded hh h) hl (advance_rest hr)
    refine ⟨c', k + 1, ?_, hr', fun n frames => ?_⟩
    · simp
      omega
    · rw [← Nat.add_assoc, skipFrom_open_list hr, hx]
  | @object body members hl =>
    have hr : c.skipBlanks.rest = Byte.openBrace :: (body ++ Frame.object.closer :: rest) := by
      refine skipBlanks_rest ?_ hb (noBlank_cons.2 (by decide))
      rw [hc]
      simp [Frame.closer]
    obtain ⟨c', k, hk, hr', hx⟩ := skipFrom_listed (crossesItem_member h) hl (advance_rest hr)
    refine ⟨c', k + 1, ?_, hr', fun n frames => ?_⟩
    · simp
      omega
    · rw [← Nat.add_assoc, skipFrom_open_object hr, hx]

theorem crosses_spells (depth : Nat) : Crosses (Spells depth) := by
  induction depth with
  | zero => exact crosses_scalar
  | succ depth ih =>
    intro before text v hb ht
    rcases ht with ht | ht
    · exact crosses_scalar before text v hb ht
    · exact crosses_container (headed_spells depth) ih before text v hb ht

/-- A value is stepped over in every text that it begins, and so are the blanks after it. -/
theorem skipValue_append {depth fuel : Nat} {before text after rest : List UInt8} {v : Value}
    {c : Cursor} (hb : Blank before) (ht : Spells depth text v) (hfuel : text.length < fuel)
    (ha : Blank after) (hc : c.rest = before ++ text ++ (after ++ rest)) (hn : NoBlank rest)
    (hs : Stops (after ++ rest)) : ∃ c', skipValue fuel c = .ok ((), c') ∧ c'.rest = rest := by
  obtain ⟨c₁, k, hk, hr, hx⟩ := crosses_spells depth before text v hb ht c _ hc hs
  obtain ⟨n, hfour⟩ : ∃ n, 4 * fuel = n + 1 + k := ⟨4 * fuel - 1 - k, by omega⟩
  exact ⟨c₁.skipBlanks, by rw [skipValue, hfour, hx, skipFrom_done], skipBlanks_rest hr ha hn⟩

end LoginService.Json
