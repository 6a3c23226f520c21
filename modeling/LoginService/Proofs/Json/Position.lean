import LoginService.Proofs.Json.Number

/-!
# Where a document is refused

Whatever is wrong with the text of a document is refused at a place in it, whose line is counted
from one (`exists_position_of_readWhole`). Every reader keeps the line of the cursor at least one
and refuses with a position made from it; `Placed` says so of what a reader gives.
-/

namespace LoginService.Json

/-- The line of an error, zero if it has no position. -/
def Error.line (e : Error) : Nat := (e.position.map Position.line).getD 0

/-- The column of an error, zero if it has no position. -/
def Error.column (e : Error) : Nat := (e.position.map Position.column).getD 0

/-- What a reader gives is in the document: the cursor it leaves, or the position of its error. -/
def Placed {α : Type} : Read α → Prop
  | .ok (_, c) => 1 ≤ c.line
  | .error e => ∃ p, e.position = some p ∧ 1 ≤ p.line

section
variable {α β : Type} {c c' : Cursor}

theorem placed_fail (h : 1 ≤ c.line) (cause : Cause) : Placed (c.fail cause : Read α) :=
  ⟨c.here, rfl, h⟩

/-! ## Cursors -/

theorem one_le_advance (h : 1 ≤ c.line) : 1 ≤ c.advance.line := by
  unfold Cursor.advance
  split
  · exact h
  split
  · exact Nat.le_succ_of_le h
  · exact h

theorem placed_failAhead (h : 1 ≤ c.line) (cause : Cause) :
    Placed (c.failAhead cause : Read α) :=
  placed_fail (one_le_advance h) cause

theorem one_le_skipBlanksFrom (bytes : List UInt8) {line : Nat} (h : 1 ≤ line) (column : Nat) :
    1 ≤ (Cursor.skipBlanksFrom bytes line column).line := by
  induction bytes generalizing line column with
  | nil => exact h
  | cons b rest ih =>
    rw [Cursor.skipBlanksFrom]
    split
    · exact ih (Nat.le_succ_of_le h) 0
    split
    · exact ih h (column + 1)
    · exact h

theorem one_le_skipBlanks (h : 1 ≤ c.line) : 1 ≤ c.skipBlanks.line :=
  one_le_skipBlanksFrom c.rest h c.column

theorem placed_word (h : 1 ≤ c.line) (w : List UInt8) : Placed (c.word w) := by
  induction w generalizing c with
  | nil => exact h
  | cons b w ih =>
    rw [Cursor.word]
    split
    · exact placed_fail h _
    split
    · exact ih (one_le_advance h)
    · exact placed_failAhead h _

theorem placed_map {f : α → β} {r : Read α} (h : Placed r) : Placed (Read.map f r) := by
  obtain e | ⟨a, c⟩ := r <;> exact h

/-! ## Strings -/

theorem placed_readTextFrom (s : TextState) (acc bytes : List UInt8) {line : Nat} (h : 1 ≤ line)
    (column : Nat) : Placed (readTextFrom s acc bytes line column) := by
  induction bytes generalizing s acc line column with
  | nil => exact placed_fail h _
  | cons b rest ih =>
    have hl : 1 ≤ (if b = Byte.lineFeed then line + 1 else line) := by
      split
      · exact Nat.le_succ_of_le h
      · exact h
    rw [readTextFrom]
    split
    · exact ih _ _ hl _
    · exact hl
    · exact placed_fail hl _

theorem placed_readText (h : 1 ≤ c.line) : Placed (readText c) := by
  have ht := placed_readTextFrom .plain [] c.rest h c.column
  unfold readText
  split
  · rename_i e he
    rw [he] at ht
    exact ht
  · rename_i bytes after ha
    rw [ha] at ht
    split
    · exact ht
    · refine placed_fail ?_ _
      exact h

/-! ## Numbers -/

namespace Number

variable {negative : Bool} {significand : Nat} {shift : Int}

theorem placed_ofParts (h : 1 ≤ c.line) :
    Placed (ofParts negative significand shift c) := by
  unfold ofParts
  split
  · exact placed_fail h _
  · exact h

theorem placed_readExponentDigits (down : Bool) (h : 1 ≤ c.line) :
    Placed (readExponentDigits negative significand shift down c) := by
  unfold readExponentDigits
  split
  · exact placed_fail h _
  split
  · dsimp only
    split
    · split
      · refine placed_fail ?_ _
        exact h
      · exact h
    · exact placed_ofParts h
  · exact placed_failAhead h _

theorem placed_readExponent (h : 1 ≤ c.line) :
    Placed (readExponent negative significand shift c) := by
  have hunsigned : Placed (readExponentDigits negative significand shift false c.advance) :=
    placed_readExponentDigits false (one_le_advance h)
  cases hr : c.rest with
  | nil =>
    have ha : c.advance = c := by rw [Cursor.advance, hr]
    rw [readExponent_unsigned (by rw [ha, hr]; simp) (by rw [ha, hr]; simp)]
    exact hunsigned
  | cons mark t =>
    by_cases hp : t.head? = some Byte.plus
    · obtain ⟨u, rfl⟩ := List.head?_eq_some_iff.1 hp
      rw [readExponent_plus hr]
      exact placed_readExponentDigits false (one_le_advance (one_le_advance h))
    by_cases hm : t.head? = some Byte.minus
    · obtain ⟨u, rfl⟩ := List.head?_eq_some_iff.1 hm
      rw [readExponent_minus hr]
      exact placed_readExponentDigits true (one_le_advance (one_le_advance h))
    · rw [readExponent_unsigned (by rwa [advance_rest hr]) (by rwa [advance_rest hr])]
      exact hunsigned

theorem placed_readTail (h : 1 ≤ c.line) : Placed (readTail negative significand shift c) := by
  unfold readTail
  split
  · split
    · exact placed_readExponent h
    · exact placed_ofParts h
  · exact placed_ofParts h

theorem placed_readFraction (h : 1 ≤ c.line) :
    Placed (readFraction negative significand shift c) := by
  have ha : 1 ≤ c.advance.line := one_le_advance h
  unfold readFraction
  dsimp only
  split
  · exact placed_readTail ha
  split
  · split
    · refine placed_fail ?_ _
      exact ha
    · refine placed_failAhead ?_ _
      exact ha
  · exact placed_readTail ha

theorem placed_readAfter {plain : Cursor → Read Number} (hp : Placed (plain c)) (h : 1 ≤ c.line) :
    Placed (readAfter negative significand shift plain c) := by
  unfold readAfter
  split
  · split
    · exact placed_readFraction h
    split
    · exact placed_readExponent h
    · exact hp
  · exact hp

theorem placed_readAfterWhole (h : 1 ≤ c.line) :
    Placed (readAfterWhole negative significand c) := by
  rw [readAfterWhole_eq]
  exact placed_readAfter h h

theorem placed_readLong (h : 1 ≤ c.line) : Placed (readLong negative significand c) := by
  rw [readLong_eq rfl rfl]
  exact placed_readAfter (placed_ofParts h) h

theorem placed_read (h : 1 ≤ c.line) : Placed (read negative c) := by
  unfold read
  split
  · exact placed_fail h _
  split
  · dsimp only
    split
    · exact placed_failAhead (one_le_advance h) _
    · exact placed_readAfterWhole (one_le_advance h)
  split
  · dsimp only
    split
    · exact placed_readLong h
    · exact placed_readAfterWhole h
  · exact placed_failAhead h _

end Number

/-! ## Containers -/

theorem placed_readScalar? {b : UInt8} {r : Read Value} (h : 1 ≤ c.line)
    (hr : readScalar? b c = some r) : Placed r := by
  have ha := one_le_advance h
  unfold readScalar? at hr
  split at hr
  · cases hr
    exact placed_map (placed_word ha _)
  split at hr
  · cases hr
    exact placed_map (placed_word ha _)
  split at hr
  · cases hr
    exact placed_map (placed_word ha _)
  split at hr
  · cases hr
    exact placed_map (Number.placed_read ha)
  split at hr
  · cases hr
    exact placed_map (Number.placed_read h)
  split at hr
  · cases hr
    exact placed_map (placed_readText ha)
  · exact absurd hr (by simp)

end

section
variable {item : Cursor → Read Value} {c : Cursor}

theorem placed_readItems (hi : ∀ c, 1 ≤ c.line → Placed (item c)) (fuel : Nat) (first : Bool)
    (acc : List Value) (h : 1 ≤ c.line) : Placed (readItems item fuel first acc c) := by
  induction fuel generalizing first acc c with
  | zero => exact placed_fail h _
  | succ fuel ih =>
    have hs := one_le_skipBlanks h
    have ha := one_le_skipBlanks (one_le_advance hs)
    rw [readItems]
    dsimp only
    split
    · exact placed_fail hs _
    split
    · exact one_le_advance hs
    split
    · have hv := hi _ hs
      split
      · rename_i e he
        rw [he] at hv
        exact hv
      · rename_i v c' hc
        rw [hc] at hv
        exact ih false _ hv
    split
    · split
      · exact placed_fail ha _
      split
      · exact placed_failAhead ha _
      · have hv := hi _ ha
        split
        · rename_i e he
          rw [he] at hv
          exact hv
        · rename_i v c' hc
          rw [hc] at hv
          exact ih false _ hv
    · exact placed_failAhead hs _

theorem placed_nextKey (first : Bool) (h : 1 ≤ c.line) : Placed (nextKey first c) := by
  have hs := one_le_skipBlanks h
  have ha := one_le_skipBlanks (one_le_advance hs)
  unfold nextKey
  dsimp only
  split
  · exact placed_fail hs _
  split
  · exact hs
  split
  · split
    · exact one_le_advance hs
    · exact placed_failAhead hs _
  split
  · split
    · exact placed_fail ha _
    split
    · exact one_le_advance ha
    split
    · exact placed_failAhead ha _
    · exact placed_failAhead ha _
  · exact placed_failAhead hs _

theorem placed_readColon (h : 1 ≤ c.line) : Placed (readColon c) := by
  have hs := one_le_skipBlanks h
  unfold readColon
  dsimp only
  split
  · exact placed_fail hs _
  split
  · exact one_le_advance hs
  · exact placed_failAhead hs _

theorem placed_readMembers (hi : ∀ c, 1 ≤ c.line → Placed (item c)) (fuel : Nat) (first : Bool)
    (acc : List (String × Value)) (h : 1 ≤ c.line) :
    Placed (readMembers item fuel first acc c) := by
  induction fuel generalizing first acc c with
  | zero => exact placed_fail h _
  | succ fuel ih =>
    have hk := placed_nextKey first h
    rw [readMembers]
    split
    · rename_i e he
      rw [he] at hk
      exact hk
    · rename_i c₁ hc
      rw [hc] at hk
      exact one_le_advance hk
    · rename_i c₁ hc
      rw [hc] at hk
      have ht := placed_readText hk
      split
      · rename_i e he
        rw [he] at ht
        exact ht
      · rename_i key c₂ hc₂
        rw [hc₂] at ht
        have hcolon := placed_readColon ht
        split
        · rename_i e he
          rw [he] at hcolon
          exact hcolon
        · rename_i c₃ hc₃
          rw [hc₃] at hcolon
          have hv := hi _ hcolon
          split
          · rename_i e he
            rw [he] at hv
            exact hv
          · rename_i v c₄ hc₄
            rw [hc₄] at hv
            exact ih false _ hv

end

/-! ## Values -/

section
variable {object : ObjectReader} {fuel : Nat} {c : Cursor}

/-- A reader of objects stays in the document if the reader of the values in them does. -/
def PlacesObjects (object : ObjectReader) : Prop :=
  ∀ {item : Cursor → Read Value} {c : Cursor}, (∀ c, 1 ≤ c.line → Placed (item c)) → 1 ≤ c.line →
    Placed (object item c)

theorem placesObjects_readObject (fuel : Nat) : PlacesObjects (readObject fuel) := by
  intro item c hi h
  exact placed_map (placed_readMembers hi fuel true [] h)

theorem placed_readValue (hobject : PlacesObjects object) (depth : Nat) (h : 1 ≤ c.line) :
    Placed (readValue object fuel depth c) := by
  induction depth generalizing c with
  | zero =>
    have hs := one_le_skipBlanks h
    rw [readValue]
    split
    · exact placed_fail hs _
    split
    · rename_i r hr
      exact placed_readScalar? hs hr
    split
    · exact placed_failAhead hs _
    split
    · exact placed_failAhead hs _
    · exact placed_failAhead hs _
  | succ depth ih =>
    have hs := one_le_skipBlanks h
    have ha := one_le_advance hs
    rw [readValue]
    split
    · exact placed_fail hs _
    split
    · rename_i r hr
      exact placed_readScalar? hs hr
    split
    · exact placed_map (placed_readItems (fun _ hc => ih hc) fuel true [] ha)
    split
    · exact hobject (fun _ hc => ih hc) ha
    · exact placed_failAhead hs _

end

/-! ## Documents -/

/-- A document that a reader refuses is refused at a place in it, if the reader stays in it. -/
theorem exists_position_of_readWhole {α : Type} {read : Cursor → Read α} {bytes : List UInt8}
    {e : Error} (hread : Placed (read (Cursor.start bytes)))
    (h : readWhole read bytes = .error e) : ∃ p, e.position = some p ∧ 1 ≤ p.line := by
  unfold readWhole at h
  split at h
  · rename_i e' he
    rw [he] at hread
    cases h
    exact hread
  · rename_i v c hc
    rw [hc] at hread
    have hs := one_le_skipBlanks hread
    unfold finish at h
    dsimp only at h
    split at h
    · exact absurd h (by simp)
    · cases h
      exact ⟨_, rfl, one_le_advance hs⟩

end LoginService.Json
