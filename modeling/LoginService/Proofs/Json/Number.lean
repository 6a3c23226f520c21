import LoginService.Proofs.Json.Cursor

/-!
# Reading numbers

A number that is read is a numeral of the grammar (`consumes_read`). Where a numeral ends is
decided by the first byte that cannot go on it, and what it stands for by its own bytes: the lemmas
about runs of digits say that a run is read alike before any text that ends it in the same way.
-/

namespace LoginService.Json.Number

open Decimal

/-! ## Runs of digits -/

theorem atDigit_of_stops {rest : List UInt8} (h : Stops rest) : atDigit rest = false := by
  cases rest with
  | nil => rfl
  | cons b rest =>
    have hb := stops_cons.1 h
    simp only [extendsNumber, Bool.or_eq_false_iff] at hb
    exact hb.1.1

theorem atDigit_congr {x y : List UInt8} (h : x.head? = y.head?) : atDigit x = atDigit y := by
  cases x with
  | nil =>
    cases y with
    | nil => rfl
    | cons b y => cases h
  | cons b x =>
    cases y with
    | nil => cases h
    | cons d y =>
      cases h
      rfl

theorem atDigit_cons {b : UInt8} {x : List UInt8} :
    atDigit (b :: x) = false ↔ ¬ Byte.isDigit b = true :=
  Bool.eq_false_iff

theorem takeDigits_of_not_atDigit {x : List UInt8} (h : atDigit x = false) (s n : Nat) :
    takeDigits s n x = (s, n, x) := by
  cases x with
  | nil => rfl
  | cons b x => rw [takeDigits, if_neg (atDigit_cons.1 h)]

section
variable {b : UInt8} {s n : Nat} (hb : Byte.isDigit b = true)
include hb

theorem takeDigits_more (hl : s * 10 + (b.toNat - 0x30) < limit) (x : List UInt8) :
    takeDigits s n (b :: x) = takeDigits (s * 10 + (b.toNat - 0x30)) (n + 1) x := by
  rw [takeDigits, if_pos hb]
  simp only [hl, if_true]

theorem takeDigits_full (hl : ¬ s * 10 + (b.toNat - 0x30) < limit) (x : List UInt8) :
    takeDigits s n (b :: x) = (s, n, b :: x) := by
  rw [takeDigits, if_pos hb]
  simp only [hl, if_false]

end

/-- The digits that go into a significand are taken alike before all texts that begin with the
same byte, and before all texts that begin with no digit. -/
theorem takeDigits_spec (s n : Nat) (bytes : List UInt8) :
    ∃ ds, (∀ b ∈ ds, Byte.isDigit b = true) ∧ bytes = ds ++ (takeDigits s n bytes).2.2 ∧
      (takeDigits s n bytes).2.1 = n + ds.length ∧
      ∀ x, (x.head? = (takeDigits s n bytes).2.2.head? ∨ atDigit x = false) →
        takeDigits s n (ds ++ x) = ((takeDigits s n bytes).1, (takeDigits s n bytes).2.1, x) := by
  induction bytes generalizing s n with
  | nil =>
    refine ⟨[], by simp, rfl, rfl, ?_⟩
    intro x hx
    exact takeDigits_of_not_atDigit (hx.elim atDigit_congr id) s n
  | cons b rest ih =>
    by_cases hb : Byte.isDigit b = true
    · by_cases hl : s * 10 + (b.toNat - 0x30) < limit
      · obtain ⟨ds, hd, hr, hn, hx⟩ := ih (s * 10 + (b.toNat - 0x30)) (n + 1)
        rw [takeDigits_more hb hl]
        refine ⟨b :: ds, List.forall_mem_cons.2 ⟨hb, hd⟩, by rw [List.cons_append, ← hr],
          by rw [hn, List.length_cons]; omega, ?_⟩
        intro x hx'
        rw [List.cons_append, takeDigits_more hb hl]
        exact hx x hx'
      · rw [takeDigits_full hb hl]
        refine ⟨[], by simp, rfl, rfl, ?_⟩
        rintro x (hx | hx)
        · obtain ⟨t, rfl⟩ := List.head?_eq_some_iff.1 hx
          exact takeDigits_full hb hl t
        · exact takeDigits_of_not_atDigit hx s n
    · have hat : atDigit (b :: rest) = false := atDigit_cons.2 hb
      rw [takeDigits_of_not_atDigit hat]
      refine ⟨[], by simp, rfl, rfl, ?_⟩
      intro x hx
      exact takeDigits_of_not_atDigit (hx.elim (fun h => (atDigit_congr h).trans hat) id) s n

theorem dropDigits_of_not_atDigit {x : List UInt8} (h : atDigit x = false) (n : Nat) :
    dropDigits n x = (n, x) := by
  cases x with
  | nil => rfl
  | cons b x => rw [dropDigits, if_neg (atDigit_cons.1 h)]

/-- A run of digits is stepped over to its end. -/
theorem dropDigits_append {ds : List UInt8} (hd : ∀ b ∈ ds, Byte.isDigit b = true) {x : List UInt8}
    (hx : atDigit x = false) (n : Nat) : dropDigits n (ds ++ x) = (n + ds.length, x) := by
  induction ds generalizing n with
  | nil => exact dropDigits_of_not_atDigit hx n
  | cons b ds ih =>
    rw [List.cons_append, dropDigits, if_pos (hd b (by simp)),
      ih (fun d h => hd d (by simp [h])), List.length_cons]
    congr 1
    omega

/-- Every text begins with a run of digits, which may be empty. -/
theorem exists_digits (bytes : List UInt8) :
    ∃ ds x, (∀ b ∈ ds, Byte.isDigit b = true) ∧ bytes = ds ++ x ∧ atDigit x = false := by
  induction bytes with
  | nil => exact ⟨[], [], by simp, rfl, rfl⟩
  | cons b rest ih =>
    by_cases hb : Byte.isDigit b = true
    · obtain ⟨ds, x, hd, hr, hx⟩ := ih
      exact ⟨b :: ds, x, List.forall_mem_cons.2 ⟨hb, hd⟩, by rw [hr, List.cons_append], hx⟩
    · exact ⟨[], b :: rest, by simp, rfl, atDigit_cons.2 hb⟩

theorem dropDigits_spec (n : Nat) (bytes : List UInt8) :
    ∃ ds x, (∀ b ∈ ds, Byte.isDigit b = true) ∧ bytes = ds ++ x ∧ atDigit x = false ∧
      dropDigits n bytes = (n + ds.length, x) := by
  obtain ⟨ds, x, hd, rfl, hx⟩ := exists_digits bytes
  exact ⟨ds, x, hd, rfl, hx, dropDigits_append hd hx n⟩

/-- A run of digits that is not empty. -/
theorem dropDigits_of_atDigit {bytes : List UInt8} (hat : atDigit bytes = true) :
    ∃ d ds x, (∀ b ∈ d :: ds, Byte.isDigit b = true) ∧ bytes = d :: ds ++ x ∧
      dropDigits 0 bytes = (0 + (d :: ds).length, x) := by
  obtain ⟨ds, x, hd, rfl, hx, hdrop⟩ := dropDigits_spec 0 bytes
  cases ds with
  | nil =>
    rw [List.nil_append, hx] at hat
    cases hat
  | cons d ds => exact ⟨d, ds, x, hd, rfl, hdrop⟩

theorem takeExponent_of_not_atDigit {x : List UInt8} (h : atDigit x = false) (v n : Nat) :
    takeExponent v n x = ⟨v, n, x, false⟩ := by
  cases x with
  | nil => rfl
  | cons b x => rw [takeExponent, if_neg (atDigit_cons.1 h)]

section
variable {b : UInt8} {v n : Nat} (hb : Byte.isDigit b = true)
include hb

theorem takeExponent_more (hl : ¬ exponentLimit < v * 10 + (b.toNat - 0x30)) (x : List UInt8) :
    takeExponent v n (b :: x) = takeExponent (v * 10 + (b.toNat - 0x30)) (n + 1) x := by
  rw [takeExponent, if_pos hb]
  simp only [hl, if_false]

theorem takeExponent_tooLarge (hl : exponentLimit < v * 10 + (b.toNat - 0x30)) (x : List UInt8) :
    takeExponent v n (b :: x) = ⟨v, n + 1, x, true⟩ := by
  rw [takeExponent, if_pos hb]
  simp only [hl, if_true]

end

/-- The digits of an exponent are taken alike before all texts that begin with no digit, and
before all texts when the last of them makes the exponent too large. -/
theorem takeExponent_spec (v n : Nat) (bytes : List UInt8) :
    ∃ ds, (∀ b ∈ ds, Byte.isDigit b = true) ∧ bytes = ds ++ (takeExponent v n bytes).rest ∧
      ∀ x, ((takeExponent v n bytes).tooLarge = true ∨ atDigit x = false) →
        takeExponent v n (ds ++ x) = { takeExponent v n bytes with rest := x } := by
  induction bytes generalizing v n with
  | nil =>
    refine ⟨[], by simp, rfl, ?_⟩
    intro x hx
    exact takeExponent_of_not_atDigit (hx.resolve_left (by simp [takeExponent])) v n
  | cons b rest ih =>
    by_cases hb : Byte.isDigit b = true
    · by_cases hl : exponentLimit < v * 10 + (b.toNat - 0x30)
      · rw [takeExponent_tooLarge hb hl]
        refine ⟨[b], by simpa using hb, rfl, ?_⟩
        intro x _
        exact takeExponent_tooLarge hb hl x
      · obtain ⟨ds, hd, hr, hx⟩ := ih (v * 10 + (b.toNat - 0x30)) (n + 1)
        rw [takeExponent_more hb hl]
        refine ⟨b :: ds, List.forall_mem_cons.2 ⟨hb, hd⟩, by rw [List.cons_append, ← hr], ?_⟩
        intro x hx'
        rw [List.cons_append, takeExponent_more hb hl]
        exact hx x hx'
    · rw [takeExponent_of_not_atDigit (atDigit_cons.2 hb)]
      refine ⟨[], by simp, rfl, ?_⟩
      intro x hx
      exact takeExponent_of_not_atDigit (hx.resolve_left (by simp)) v n

/-! ## Scaled numbers -/

/-- The position of the cursor only matters to an error. -/
theorem ofParts_ok {negative : Bool} {significand : Nat} {exponent : Int} {c c' : Cursor}
    {n : Number} (h : ofParts negative significand exponent c = .ok (n, c')) :
    c' = c ∧ ∀ c₂, ofParts negative significand exponent c₂ = .ok (n, c₂) := by
  unfold ofParts at h ⊢
  split at h
  · exact absurd h fail_ne_ok
  · rename_i x hx
    cases h
    exact ⟨rfl, fun c₂ => rfl⟩

/-! ## Exponents -/

/-- The digits of an exponent, after its mark and its sign. -/
def readExponentDigits (negative : Bool) (significand : Nat) (shift : Int) (down : Bool)
    (c : Cursor) : Read Number :=
  match c.rest with
  | [] => c.fail .endInValue
  | b :: rest =>
    if Byte.isDigit b then
      let e := takeExponent (b.toNat - 0x30) 1 rest
      let c := c.past e.count e.rest
      if e.tooLarge then
        if significand ≠ 0 ∧ !down then c.fail .numberOutOfRange
        else
          let (count, rest) := dropDigits 0 c.rest
          .ok (.float (Binary64.zero negative), c.past count rest)
      else
        ofParts negative significand (if down then shift - e.value else shift + e.value) c
    else c.failAhead .badNumber

section
variable {negative : Bool} {significand : Nat} {shift : Int} {n : Number} {c c' : Cursor}

theorem readExponent_plus {mark : UInt8} {rest : List UInt8}
    (h : c.rest = mark :: Byte.plus :: rest) :
    readExponent negative significand shift c =
      readExponentDigits negative significand shift false c.advance.advance := by
  have ha : c.advance.rest = Byte.plus :: rest := advance_rest h
  simp only [readExponent, ha]
  rfl

theorem readExponent_minus {mark : UInt8} {rest : List UInt8}
    (h : c.rest = mark :: Byte.minus :: rest) :
    readExponent negative significand shift c =
      readExponentDigits negative significand shift true c.advance.advance := by
  have ha : c.advance.rest = Byte.minus :: rest := advance_rest h
  simp only [readExponent, ha]
  rfl

theorem readExponent_unsigned (hp : c.advance.rest.head? ≠ some Byte.plus)
    (hm : c.advance.rest.head? ≠ some Byte.minus) :
    readExponent negative significand shift c =
      readExponentDigits negative significand shift false c.advance := by
  unfold readExponent readExponentDigits
  cases hr : c.advance.rest with
  | nil => simp only [hr]
  | cons b rest =>
    rw [hr] at hp hm
    have hbp : b ≠ Byte.plus := by simpa using hp
    have hbm : b ≠ Byte.minus := by simpa using hm
    simp only [if_neg hbp, if_neg hbm, hr]

theorem readExponentDigits_cons {down : Bool} {b : UInt8} {rest : List UInt8} {e : ExponentDigits}
    (hr : c.rest = b :: rest) (hb : Byte.isDigit b = true)
    (he : takeExponent (b.toNat - 0x30) 1 rest = e) :
    readExponentDigits negative significand shift down c =
      if e.tooLarge then
        if significand ≠ 0 ∧ !down then (c.past e.count e.rest).fail .numberOutOfRange
        else .ok (.float (Binary64.zero negative),
          (c.past e.count e.rest).past (dropDigits 0 e.rest).1 (dropDigits 0 e.rest).2)
      else
        ofParts negative significand (if down then shift - e.value else shift + e.value)
          (c.past e.count e.rest) := by
  unfold readExponentDigits
  rw [hr]
  simp only [if_pos hb, he]
  rfl

theorem digit_of_readExponentDigits {down : Bool}
    (h : readExponentDigits negative significand shift down c = .ok (n, c')) :
    ∃ b rest, c.rest = b :: rest ∧ Byte.isDigit b = true := by
  unfold readExponentDigits at h
  split at h
  · exact absurd h fail_ne_ok
  · rename_i b rest hr
    split at h
    · rename_i hb
      exact ⟨b, rest, hr, hb⟩
    · exact absurd h failAhead_ne_ok

theorem consumes_readExponentDigits {down : Bool}
    (h : readExponentDigits negative significand shift down c = .ok (n, c')) :
    ∃ ds, Digits ds ∧ c.rest = ds ++ c'.rest ∧
      Consumes (readExponentDigits negative significand shift down) ds n := by
  obtain ⟨b, rest, hr, hb⟩ := digit_of_readExponentDigits h
  obtain ⟨ds, hd, hrest, hx⟩ := takeExponent_spec (b.toNat - 0x30) 1 rest
  rw [readExponentDigits_cons hr hb rfl] at h
  generalize takeExponent (b.toNat - 0x30) 1 rest = e at h hrest hx
  split at h
  · rename_i hl
    split at h
    · exact absurd h fail_ne_ok
    rename_i hs
    -- the exponent is too large, which does not matter here: its other digits are stepped over
    obtain ⟨es, x, he, hex, hnx, hdrop⟩ := dropDigits_spec 0 e.rest
    cases h
    refine ⟨b :: (ds ++ es), ⟨by simp, List.forall_mem_cons.2
      ⟨hb, List.forall_mem_append.2 ⟨hd, he⟩⟩⟩, ?_, ?_⟩
    · rw [hr, hrest, past_rest, hdrop, hex]
      simp
    · intro c₂ rest₂ hc hs₂
      rw [List.cons_append, List.append_assoc] at hc
      have hdrop₂ := dropDigits_append he (atDigit_of_stops hs₂) 0
      refine ⟨(c₂.past e.count (es ++ rest₂)).past (0 + es.length) rest₂, ?_, rfl⟩
      rw [readExponentDigits_cons hc hb (hx (es ++ rest₂) (Or.inl hl))]
      simp only [hl, if_true]
      rw [if_neg hs, hdrop₂]
  · rename_i hl
    obtain ⟨rfl, hof⟩ := ofParts_ok h
    refine ⟨b :: ds, ⟨by simp, List.forall_mem_cons.2 ⟨hb, hd⟩⟩, ?_, ?_⟩
    · rw [hr, hrest, past_rest, List.cons_append]
    · intro c₂ rest₂ hc hs₂
      rw [List.cons_append] at hc
      refine ⟨c₂.past e.count rest₂, ?_, rfl⟩
      rw [readExponentDigits_cons hc hb (hx rest₂ (Or.inr (atDigit_of_stops hs₂)))]
      simp only [if_neg hl]
      exact hof _

theorem consumes_readExponent {mark : UInt8} {t : List UInt8} (hr : c.rest = mark :: t)
    (hm : Byte.isExponentMark mark = true)
    (h : readExponent negative significand shift c = .ok (n, c')) :
    ∃ text, IsExponent (mark :: text) ∧ t = text ++ c'.rest ∧
      Consumes (readExponent negative significand shift) (mark :: text) n := by
  have ha : c.advance.rest = t := advance_rest hr
  by_cases hp : t.head? = some Byte.plus
  · obtain ⟨u, rfl⟩ : ∃ u, t = Byte.plus :: u := List.head?_eq_some_iff.1 hp
    rw [readExponent_plus hr] at h
    obtain ⟨ds, hd, hu, hx⟩ := consumes_readExponentDigits h
    rw [advance_rest ha] at hu
    refine ⟨Byte.plus :: ds, Or.inr ⟨mark, [Byte.plus], ds, hm, by simp, hd, rfl⟩,
      by rw [hu]; rfl, ?_⟩
    intro c₂ rest₂ hc hs
    obtain ⟨c₃, hc₃, hr₃⟩ := hx c₂.advance.advance rest₂ (advance_rest (advance_rest hc)) hs
    exact ⟨c₃, by rw [readExponent_plus hc, hc₃], hr₃⟩
  by_cases hm' : t.head? = some Byte.minus
  · obtain ⟨u, rfl⟩ : ∃ u, t = Byte.minus :: u := List.head?_eq_some_iff.1 hm'
    rw [readExponent_minus hr] at h
    obtain ⟨ds, hd, hu, hx⟩ := consumes_readExponentDigits h
    rw [advance_rest ha] at hu
    refine ⟨Byte.minus :: ds, Or.inr ⟨mark, [Byte.minus], ds, hm, by simp, hd, rfl⟩,
      by rw [hu]; rfl, ?_⟩
    intro c₂ rest₂ hc hs
    obtain ⟨c₃, hc₃, hr₃⟩ := hx c₂.advance.advance rest₂ (advance_rest (advance_rest hc)) hs
    exact ⟨c₃, by rw [readExponent_minus hc, hc₃], hr₃⟩
  · rw [readExponent_unsigned (by rwa [ha]) (by rwa [ha])] at h
    obtain ⟨ds, hd, hu, hx⟩ := consumes_readExponentDigits h
    rw [ha] at hu
    refine ⟨ds, Or.inr ⟨mark, [], ds, hm, by simp, hd, rfl⟩, hu, ?_⟩
    intro c₂ rest₂ hc hs
    have ha₂ : c₂.advance.rest = ds ++ rest₂ := advance_rest hc
    obtain ⟨d, ds, rfl⟩ := List.exists_cons_of_ne_nil hd.1
    rw [hu] at hp hm'
    obtain ⟨c₃, hc₃, hr₃⟩ := hx c₂.advance rest₂ ha₂ hs
    exact ⟨c₃, by rw [readExponent_unsigned (by rwa [ha₂]) (by rwa [ha₂]), hc₃], hr₃⟩

end

/-! ## Fractions -/

/-- What may end a number is neither a digit, nor a point, nor the mark of an exponent. -/
theorem head_of_stops {rest : List UInt8} {b : UInt8} (h : Stops rest) (hb : rest.head? = some b) :
    b ≠ Byte.point ∧ Byte.isExponentMark b = false := by
  have := h b hb
  simp only [extendsNumber, Bool.or_eq_false_iff, beq_eq_false_iff_ne] at this
  exact ⟨this.1.2, this.2⟩

theorem not_isDigit_of_isExponentMark {b : UInt8} (h : Byte.isExponentMark b = true) :
    Byte.isDigit b = false := by
  simp only [Byte.isExponentMark, Bool.or_eq_true, beq_iff_eq] at h
  rcases h with rfl | rfl <;> decide

theorem point_not_isExponentMark : Byte.isExponentMark Byte.point = false := by decide

theorem atDigit_exponent {text rest : List UInt8} (h : IsExponent text) (hs : Stops rest) :
    atDigit (text ++ rest) = false := by
  rcases h with rfl | ⟨mark, sign, ds, hm, -, -, rfl⟩
  · exact atDigit_of_stops hs
  · exact not_isDigit_of_isExponentMark hm

section
variable {negative : Bool} {significand : Nat} {shift : Int} {n : Number} {c c' : Cursor}

theorem readTail_exponent {b : UInt8} {rest : List UInt8} (hr : c.rest = b :: rest)
    (hb : Byte.isExponentMark b = true) :
    readTail negative significand shift c = readExponent negative significand shift c := by
  rw [readTail, hr]
  simp only [if_pos hb]

theorem readTail_none (h : ∀ b, c.rest.head? = some b → Byte.isExponentMark b = false) :
    readTail negative significand shift c = ofParts negative significand shift c := by
  unfold readTail
  split
  · rename_i b rest hr
    rw [if_neg (by rw [h b (by rw [hr]; rfl)]; simp)]
  · rfl

/-- What follows the last digit that counts. -/
theorem consumes_readTail (h : readTail negative significand shift c = .ok (n, c')) :
    ∃ text, IsExponent text ∧ c.rest = text ++ c'.rest ∧
      Consumes (readTail negative significand shift) text n := by
  by_cases hm : ∃ b t, c.rest = b :: t ∧ Byte.isExponentMark b = true
  · obtain ⟨b, t, hr, hb⟩ := hm
    rw [readTail_exponent hr hb] at h
    obtain ⟨text, ht, hrest, hx⟩ := consumes_readExponent hr hb h
    refine ⟨b :: text, ht, by rw [hr, hrest, List.cons_append], ?_⟩
    intro c₂ rest₂ hc hs
    rw [readTail_exponent hc hb]
    exact hx c₂ rest₂ hc hs
  · have hn : ∀ b, c.rest.head? = some b → Byte.isExponentMark b = false := by
      intro b hb
      obtain ⟨t, ht⟩ := List.head?_eq_some_iff.1 hb
      exact Bool.eq_false_iff.2 fun hbm => hm ⟨b, t, ht, hbm⟩
    rw [readTail_none hn] at h
    obtain ⟨rfl, hof⟩ := ofParts_ok h
    refine ⟨[], Or.inl rfl, rfl, ?_⟩
    intro c₂ rest₂ hc hs
    refine ⟨c₂, ?_, hc⟩
    rw [readTail_none (fun b hb => (head_of_stops hs (by rwa [hc] at hb)).2)]
    exact hof c₂

theorem readFraction_more {t r x : List UInt8} {b : UInt8} {s k more : Nat} (hr : c.rest = b :: t)
    (ht : takeDigits significand 0 t = (s, k, r)) (hat : atDigit r = true)
    (hd : dropDigits 0 r = (more, x)) :
    readFraction negative significand shift c =
      readTail negative s (shift - k) ((c.advance.past k r).past more x) := by
  unfold readFraction
  simp only [advance_rest hr, ht, hat, if_true, hd]

theorem readFraction_short {t r : List UInt8} {b : UInt8} {s k : Nat} (hr : c.rest = b :: t)
    (ht : takeDigits significand 0 t = (s, k, r)) (hat : atDigit r = false) (hk : k ≠ 0) :
    readFraction negative significand shift c =
      readTail negative s (shift - k) (c.advance.past k r) := by
  unfold readFraction
  simp only [advance_rest hr, ht, hat, Bool.false_eq_true, if_false, if_neg hk]

/-- A point is followed by a digit. -/
theorem count_ne_zero_of_readFraction {t r : List UInt8} {b : UInt8} {s k : Nat}
    (hr : c.rest = b :: t) (ht : takeDigits significand 0 t = (s, k, r)) (hat : atDigit r = false)
    (h : readFraction negative significand shift c = .ok (n, c')) : k ≠ 0 := by
  rintro rfl
  unfold readFraction at h
  simp only [advance_rest hr, ht, hat, Bool.false_eq_true, if_false, if_true] at h
  split at h <;> exact absurd h failAhead_ne_ok

/-- A fraction and the exponent after it. -/
theorem consumes_readFraction {t : List UInt8} (hr : c.rest = Byte.point :: t)
    (h : readFraction negative significand shift c = .ok (n, c')) :
    ∃ fraction exponent, IsFraction (Byte.point :: fraction) ∧ IsExponent exponent ∧
      t = fraction ++ (exponent ++ c'.rest) ∧
      Consumes (readFraction negative significand shift)
        (Byte.point :: (fraction ++ exponent)) n := by
  obtain ⟨ds, hd, ht, hk, hx⟩ := takeDigits_spec significand 0 t
  obtain ⟨s, k, r, hts⟩ : ∃ s k r, takeDigits significand 0 t = (s, k, r) := ⟨_, _, _, rfl⟩
  rw [hts] at ht hk hx
  by_cases hat : atDigit r = true
  · -- more digits than the significand can hold
    obtain ⟨e, es, x, he, rfl, hdrop⟩ := dropDigits_of_atDigit hat
    rw [readFraction_more hr hts hat hdrop] at h
    obtain ⟨text, htext, hrest, hcons⟩ := consumes_readTail h
    have hdigits : Digits (ds ++ e :: es) := ⟨by simp, List.forall_mem_append.2 ⟨hd, he⟩⟩
    refine ⟨ds ++ e :: es, text, Or.inr ⟨_, hdigits, rfl⟩, htext, ?_, ?_⟩
    · rw [ht, List.append_assoc, ← hrest]
      rfl
    · intro c₂ rest₂ hc hs
      have hts₂ := hx (e :: es ++ (text ++ rest₂)) (Or.inl rfl)
      have hdrop₂ := dropDigits_append he (atDigit_exponent htext hs) 0
      have hat₂ : atDigit (e :: es ++ (text ++ rest₂)) = true := he e (by simp)
      simp only [List.cons_append, List.append_assoc] at hc
      rw [readFraction_more hc hts₂ hat₂ hdrop₂]
      exact hcons _ rest₂ rfl hs
  · rw [Bool.not_eq_true] at hat
    have hk0 := count_ne_zero_of_readFraction hr hts hat h
    rw [readFraction_short hr hts hat hk0] at h
    obtain ⟨text, htext, hrest, hcons⟩ := consumes_readTail h
    have hne : ds ≠ [] := by
      rintro rfl
      exact hk0 (by simpa using hk)
    refine ⟨ds, text, Or.inr ⟨ds, ⟨hne, hd⟩, rfl⟩, htext, ?_, ?_⟩
    · rw [ht, ← hrest]
      rfl
    · intro c₂ rest₂ hc hs
      have hna := atDigit_exponent htext hs
      have hts₂ := hx (text ++ rest₂) (Or.inr hna)
      simp only [List.cons_append, List.append_assoc] at hc
      rw [readFraction_short hc hts₂ hna hk0]
      exact hcons _ rest₂ rfl hs

/-! ## Whole numbers -/

/-- What follows the digits before the point: a fraction, an exponent, or nothing, when the number
is `plain`. -/
def readAfter (negative : Bool) (significand : Nat) (shift : Int) (plain : Cursor → Read Number)
    (c : Cursor) : Read Number :=
  match c.rest with
  | b :: _ =>
    if b = Byte.point then readFraction negative significand shift c
    else if Byte.isExponentMark b then readExponent negative significand shift c
    else plain c
  | [] => plain c

/-- A reader that takes nothing. -/
def TakesNothing (read : Cursor → Read Number) : Prop :=
  ∀ n c c', read c = .ok (n, c') → c' = c ∧ ∀ c₂, read c₂ = .ok (n, c₂)

theorem takesNothing_ofParts : TakesNothing (ofParts negative significand shift) :=
  fun _ _ _ h => ofParts_ok h

/-- The number of digits that all fit the significand. -/
def wholeOf (negative : Bool) (significand : Nat) : Number :=
  if !negative then .whole significand
  else if significand = 0 ∨ 9223372036854775808 < significand then
    .float (Binary64.ofNat significand).neg
  else .whole (-(significand : Int))

theorem takesNothing_wholeOf : TakesNothing fun c => .ok (wholeOf negative significand, c) := by
  intro n c c' h
  cases h
  exact ⟨rfl, fun c₂ => rfl⟩

theorem readAfterWhole_eq (c : Cursor) : readAfterWhole negative significand c =
    readAfter negative significand 0 (fun c => .ok (wholeOf negative significand, c)) c := by
  have hw : (if !negative then (.ok (.whole significand, c) : Read Number)
      else if significand = 0 ∨ 9223372036854775808 < significand then
        .ok (.float (Binary64.ofNat significand).neg, c)
      else .ok (.whole (-(significand : Int)), c)) = .ok (wholeOf negative significand, c) := by
    unfold wholeOf
    split
    · rfl
    · split <;> rfl
  unfold readAfterWhole readAfter
  cases c.rest with
  | nil => exact hw
  | cons b t =>
    dsimp only
    rw [hw]

theorem readLong_eq {r x : List UInt8} {k : Nat} (hr : c.rest = r) (hd : dropDigits 0 r = (k, x)) :
    readLong negative significand c =
      readAfter negative significand k (ofParts negative significand k) (c.past k x) := by
  unfold readLong readAfter
  simp only [hr, hd]
  rfl

/-- The parts of a number after its whole part. -/
def IsRest (text : List UInt8) : Prop :=
  ∃ fraction exponent, IsFraction fraction ∧ IsExponent exponent ∧ text = fraction ++ exponent

theorem atDigit_rest {text rest : List UInt8} (h : IsRest text) (hs : Stops rest) :
    atDigit (text ++ rest) = false := by
  obtain ⟨fraction, exponent, hf, he, rfl⟩ := h
  rcases hf with rfl | ⟨ds, -, rfl⟩
  · exact atDigit_exponent he hs
  · rfl

theorem readAfter_point {plain : Cursor → Read Number} {t : List UInt8}
    (hr : c.rest = Byte.point :: t) :
    readAfter negative significand shift plain c = readFraction negative significand shift c := by
  rw [readAfter, hr]
  simp only [if_true]

theorem readAfter_exponent {plain : Cursor → Read Number} {b : UInt8} {t : List UInt8}
    (hr : c.rest = b :: t) (hb : Byte.isExponentMark b = true) :
    readAfter negative significand shift plain c = readExponent negative significand shift c := by
  have hp : b ≠ Byte.point := by
    rintro rfl
    exact absurd hb (by rw [point_not_isExponentMark]; simp)
  rw [readAfter, hr]
  simp only [if_neg hp, if_pos hb]

theorem readAfter_none {plain : Cursor → Read Number}
    (h : ∀ b, c.rest.head? = some b → b ≠ Byte.point ∧ Byte.isExponentMark b = false) :
    readAfter negative significand shift plain c = plain c := by
  unfold readAfter
  split
  · rename_i b rest hr
    obtain ⟨hp, hm⟩ := h b (by rw [hr]; rfl)
    rw [if_neg hp, if_neg (by rw [hm]; simp)]
  · rfl

/-- The parts after the whole part are read alike wherever they stand. -/
theorem consumes_readAfter {plain : Cursor → Read Number} (hp : TakesNothing plain)
    (h : readAfter negative significand shift plain c = .ok (n, c')) :
    ∃ text, IsRest text ∧ c.rest = text ++ c'.rest ∧
      Consumes (readAfter negative significand shift plain) text n := by
  by_cases hpoint : ∃ t, c.rest = Byte.point :: t
  · obtain ⟨t, hr⟩ := hpoint
    rw [readAfter_point hr] at h
    obtain ⟨fraction, exponent, hf, he, ht, hx⟩ := consumes_readFraction hr h
    refine ⟨Byte.point :: (fraction ++ exponent), ⟨_, exponent, hf, he, rfl⟩, ?_, ?_⟩
    · rw [hr, ht]
      simp
    · intro c₂ rest₂ hc hs
      rw [readAfter_point hc]
      exact hx c₂ rest₂ hc hs
  by_cases hmark : ∃ b t, c.rest = b :: t ∧ Byte.isExponentMark b = true
  · obtain ⟨b, t, hr, hb⟩ := hmark
    rw [readAfter_exponent hr hb] at h
    obtain ⟨text, he, ht, hx⟩ := consumes_readExponent hr hb h
    refine ⟨b :: text, ⟨[], _, Or.inl rfl, he, rfl⟩, by rw [hr, ht, List.cons_append], ?_⟩
    intro c₂ rest₂ hc hs
    rw [readAfter_exponent hc hb]
    exact hx c₂ rest₂ hc hs
  · have hn : ∀ b, c.rest.head? = some b → b ≠ Byte.point ∧ Byte.isExponentMark b = false := by
      intro b hb
      obtain ⟨t, ht⟩ := List.head?_eq_some_iff.1 hb
      exact ⟨fun hbp => hpoint ⟨t, hbp ▸ ht⟩, Bool.eq_false_iff.2 fun hbm => hmark ⟨b, t, ht, hbm⟩⟩
    rw [readAfter_none hn] at h
    obtain ⟨rfl, hx⟩ := hp n c c' h
    refine ⟨[], ⟨[], [], Or.inl rfl, Or.inl rfl, rfl⟩, rfl, ?_⟩
    intro c₂ rest₂ hc hs
    refine ⟨c₂, ?_, hc⟩
    rw [readAfter_none (fun b hb => head_of_stops hs (by rwa [hc] at hb))]
    exact hx c₂

/-! ## Numbers -/

theorem read_zero {t : List UInt8} (hr : c.rest = Byte.zero :: t) (hat : atDigit t = false) :
    read negative c = readAfter negative 0 0 (fun c => .ok (wholeOf negative 0, c)) c.advance := by
  rw [← readAfterWhole_eq, read, hr]
  simp only [if_true, advance_rest hr, hat, Bool.false_eq_true, if_false]

theorem read_short {b : UInt8} {t r : List UInt8} {s k : Nat} (hr : c.rest = b :: t)
    (hz : b ≠ Byte.zero) (hb : Byte.isDigit b = true)
    (ht : takeDigits (b.toNat - 0x30) 1 t = (s, k, r)) (hat : atDigit r = false) :
    read negative c =
      readAfter negative s 0 (fun c => .ok (wholeOf negative s, c)) (c.past k r) := by
  rw [← readAfterWhole_eq, read, hr]
  simp only [if_neg hz, if_pos hb, ht, hat, Bool.false_eq_true, if_false]

theorem read_long {b : UInt8} {t r x : List UInt8} {s k more : Nat} (hr : c.rest = b :: t)
    (hz : b ≠ Byte.zero) (hb : Byte.isDigit b = true)
    (ht : takeDigits (b.toNat - 0x30) 1 t = (s, k, r)) (hat : atDigit r = true)
    (hd : dropDigits 0 r = (more, x)) :
    read negative c =
      readAfter negative s more (ofParts negative s more) ((c.past k r).past more x) := by
  rw [← readLong_eq (past_rest c k r) hd, read, hr]
  simp only [if_neg hz, if_pos hb, ht, hat, if_true]

/-- A number begins with a digit, and no digit follows a leading zero. -/
theorem head_of_read (h : read negative c = .ok (n, c')) :
    ∃ b t, c.rest = b :: t ∧ Byte.isDigit b = true ∧ (b = Byte.zero → atDigit t = false) := by
  unfold read at h
  split at h
  · exact absurd h fail_ne_ok
  rename_i b t hr
  refine ⟨b, t, hr, ?_⟩
  split at h
  · rename_i hb
    dsimp only at h
    split at h
    · exact absurd h failAhead_ne_ok
    · rename_i hat
      rw [advance_rest hr] at hat
      exact ⟨hb ▸ by decide, fun _ => by simpa using hat⟩
  · rename_i hz
    split at h
    · rename_i hb
      exact ⟨hb, fun hbz => absurd hbz hz⟩
    · exact absurd h failAhead_ne_ok

theorem isWhole_cons {b : UInt8} {ds : List UInt8} (hz : b ≠ Byte.zero)
    (hb : Byte.isDigit b = true) (hd : ∀ d ∈ ds, Byte.isDigit d = true) : IsWhole (b :: ds) := by
  refine ⟨⟨by simp, List.forall_mem_cons.2 ⟨hb, hd⟩⟩, ?_⟩
  intro hh
  exact absurd (by simpa using hh) hz

theorem consumes_read_zero {t : List UInt8} (hr : c.rest = Byte.zero :: t)
    (hat : atDigit t = false) (h : read negative c = .ok (n, c')) :
    ∃ text, IsUnsigned text ∧ c.rest = text ++ c'.rest ∧ Consumes (read negative) text n := by
  rw [read_zero hr hat] at h
  obtain ⟨text, ⟨f, e, hf, he, rfl⟩, hrest, hx⟩ := consumes_readAfter takesNothing_wholeOf h
  rw [advance_rest hr] at hrest
  have hdigit : ∀ b ∈ [Byte.zero], Byte.isDigit b = true := by
    intro b hb
    rw [List.mem_singleton.1 hb]
    rfl
  have hwhole : IsWhole [Byte.zero] := ⟨⟨by simp, hdigit⟩, fun _ => rfl⟩
  refine ⟨Byte.zero :: (f ++ e), ⟨[Byte.zero], f, e, hwhole, hf, he, rfl⟩,
    by rw [hr, hrest, List.cons_append], ?_⟩
  intro c₂ rest₂ hc hs
  rw [List.cons_append] at hc
  rw [read_zero hc (atDigit_rest ⟨f, e, hf, he, rfl⟩ hs)]
  exact hx c₂.advance rest₂ (advance_rest hc) hs

/-- The digits fit a significand. -/
theorem consumes_read_short {b : UInt8} {t r : List UInt8} {s k : Nat} (hr : c.rest = b :: t)
    (hz : b ≠ Byte.zero) (hb : Byte.isDigit b = true)
    (hts : takeDigits (b.toNat - 0x30) 1 t = (s, k, r)) (hat : atDigit r = false)
    (h : read negative c = .ok (n, c')) :
    ∃ text, IsUnsigned text ∧ c.rest = text ++ c'.rest ∧ Consumes (read negative) text n := by
  obtain ⟨ds, hd, ht, -, hx⟩ := takeDigits_spec (b.toNat - 0x30) 1 t
  rw [hts] at ht hx
  rw [read_short hr hz hb hts hat] at h
  obtain ⟨text, ⟨f, e, hf, hexp, rfl⟩, hrest, hcons⟩ := consumes_readAfter takesNothing_wholeOf h
  refine ⟨b :: ds ++ (f ++ e), ⟨b :: ds, f, e, isWhole_cons hz hb hd, hf, hexp, rfl⟩, ?_, ?_⟩
  · rw [hr, ht, show r = (f ++ e) ++ c'.rest from hrest]
    simp
  · intro c₂ rest₂ hc hs
    have hna := atDigit_rest ⟨f, e, hf, hexp, rfl⟩ hs
    rw [read_short (by rw [hc]; simp) hz hb (hx (f ++ e ++ rest₂) (Or.inr hna)) hna]
    exact hcons _ rest₂ rfl hs

/-- There are more digits than fit a significand. -/
theorem consumes_read_long {b : UInt8} {t r : List UInt8} {s k : Nat} (hr : c.rest = b :: t)
    (hz : b ≠ Byte.zero) (hb : Byte.isDigit b = true)
    (hts : takeDigits (b.toNat - 0x30) 1 t = (s, k, r)) (hat : atDigit r = true)
    (h : read negative c = .ok (n, c')) :
    ∃ text, IsUnsigned text ∧ c.rest = text ++ c'.rest ∧ Consumes (read negative) text n := by
  obtain ⟨ds, hd, ht, -, hx⟩ := takeDigits_spec (b.toNat - 0x30) 1 t
  rw [hts] at ht hx
  obtain ⟨d, es, x, he, rfl, hdrop⟩ := dropDigits_of_atDigit hat
  rw [read_long hr hz hb hts hat hdrop] at h
  obtain ⟨text, ⟨f, e, hf, hexp, rfl⟩, hrest, hcons⟩ := consumes_readAfter takesNothing_ofParts h
  have hwhole := isWhole_cons hz hb (List.forall_mem_append.2 ⟨hd, he⟩)
  refine ⟨b :: (ds ++ d :: es) ++ (f ++ e), ⟨_, f, e, hwhole, hf, hexp, rfl⟩, ?_, ?_⟩
  · rw [hr, ht, show x = (f ++ e) ++ c'.rest from hrest]
    simp
  · intro c₂ rest₂ hc hs
    have hts₂ := hx (d :: es ++ (f ++ e ++ rest₂)) (Or.inl rfl)
    have hdrop₂ := dropDigits_append he (atDigit_rest ⟨f, e, hf, hexp, rfl⟩ hs) 0
    have hat₂ : atDigit (d :: es ++ (f ++ e ++ rest₂)) = true := he d (by simp)
    rw [read_long (by rw [hc]; simp) hz hb hts₂ hat₂ hdrop₂]
    exact hcons _ rest₂ rfl hs

/-- What is read as a number is a number of the grammar, and is read alike wherever it stands. -/
theorem consumes_read (h : read negative c = .ok (n, c')) :
    ∃ text, IsUnsigned text ∧ c.rest = text ++ c'.rest ∧ Consumes (read negative) text n := by
  obtain ⟨b, t, hr, hb, hzero⟩ := head_of_read h
  by_cases hz : b = Byte.zero
  · subst hz
    exact consumes_read_zero hr (hzero rfl) h
  obtain ⟨s, k, r, hts⟩ : ∃ s k r, takeDigits (b.toNat - 0x30) 1 t = (s, k, r) := ⟨_, _, _, rfl⟩
  cases hat : atDigit r with
  | false => exact consumes_read_short hr hz hb hts hat h
  | true => exact consumes_read_long hr hz hb hts hat h

end

end LoginService.Json.Number
