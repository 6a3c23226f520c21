import LoginService.Proofs.Json.Grammar

/-!
# Cursors and blanks

What is left of a document after a step of the cursor. Positions play no part here: two cursors
over the same rest read alike.
-/

namespace LoginService.Json

/-! ## Blank bytes -/

theorem blank_nil : Blank [] := by
  intro b hb
  exact absurd hb List.not_mem_nil

theorem blank_cons {b : UInt8} {ws : List UInt8} :
    Blank (b :: ws) ↔ Byte.isBlank b = true ∧ Blank ws := by
  simp [Blank]

theorem blank_append {u v : List UInt8} (hu : Blank u) (hv : Blank v) : Blank (u ++ v) := by
  intro b hb
  rcases List.mem_append.1 hb with h | h
  · exact hu b h
  · exact hv b h

/-- A text that is empty or begins with a byte that is not blank. -/
def NoBlank (rest : List UInt8) : Prop := ∀ b, rest.head? = some b → Byte.isBlank b = false

theorem noBlank_nil : NoBlank [] := by
  intro b hb
  exact absurd hb (by simp)

theorem noBlank_cons {b : UInt8} {rest : List UInt8} :
    NoBlank (b :: rest) ↔ Byte.isBlank b = false := by
  simp [NoBlank]

theorem stops_nil : Stops [] := by
  intro b hb
  exact absurd hb (by simp)

theorem stops_cons {b : UInt8} {rest : List UInt8} :
    Stops (b :: rest) ↔ extendsNumber b = false := by
  simp [Stops]

/-- Blanks end a number. -/
theorem stops_of_blank {b : UInt8} (h : Byte.isBlank b = true) : extendsNumber b = false := by
  simp only [Byte.isBlank, Bool.or_eq_true, beq_iff_eq] at h
  rcases h with ((rfl | rfl) | rfl) | rfl <;> decide

theorem stops_append {ws rest : List UInt8} (hw : Blank ws) (hr : Stops rest) :
    Stops (ws ++ rest) := by
  cases ws with
  | nil => exact hr
  | cons b ws => exact stops_cons.2 (stops_of_blank (blank_cons.1 hw).1)

/-! ## Steps of the cursor -/

theorem fail_ne_ok {α : Type} {c : Cursor} {cause : Cause} {a : α} : c.fail cause ≠ .ok a := by
  intro h
  cases h

theorem failAhead_ne_ok {α : Type} {c : Cursor} {cause : Cause} {a : α} :
    c.failAhead cause ≠ .ok a := by
  intro h
  cases h

theorem advance_rest {c : Cursor} {b : UInt8} {rest : List UInt8} (h : c.rest = b :: rest) :
    c.advance.rest = rest := by
  rw [Cursor.advance, h]
  dsimp only
  split <;> rfl

theorem past_rest (c : Cursor) (count : Nat) (rest : List UInt8) :
    (c.past count rest).rest = rest := rfl

theorem lineFeed_isBlank : Byte.isBlank Byte.lineFeed = true := by decide

/-- What is skipped is blank, and nothing blank is left in front. -/
theorem skipBlanksFrom_rest (bytes : List UInt8) (line column : Nat) :
    ∃ ws, Blank ws ∧ bytes = ws ++ (Cursor.skipBlanksFrom bytes line column).rest ∧
      NoBlank (Cursor.skipBlanksFrom bytes line column).rest := by
  induction bytes generalizing line column with
  | nil => exact ⟨[], blank_nil, rfl, noBlank_nil⟩
  | cons b rest ih =>
    rw [Cursor.skipBlanksFrom]
    split
    · rename_i hb
      obtain ⟨ws, hw, hr, hn⟩ := ih (line + 1) 0
      exact ⟨b :: ws, blank_cons.2 ⟨hb ▸ lineFeed_isBlank, hw⟩, by rw [List.cons_append, ← hr], hn⟩
    split
    · rename_i hb
      obtain ⟨ws, hw, hr, hn⟩ := ih line (column + 1)
      exact ⟨b :: ws, blank_cons.2 ⟨hb, hw⟩, by rw [List.cons_append, ← hr], hn⟩
    · rename_i hb
      exact ⟨[], blank_nil, rfl, noBlank_cons.2 (by simpa using hb)⟩

theorem exists_skipBlanks (c : Cursor) :
    ∃ ws, Blank ws ∧ c.rest = ws ++ c.skipBlanks.rest ∧ NoBlank c.skipBlanks.rest :=
  skipBlanksFrom_rest c.rest c.line c.column

theorem skipBlanksFrom_of_noBlank {bytes : List UInt8} (h : NoBlank bytes) (line column : Nat) :
    Cursor.skipBlanksFrom bytes line column = ⟨bytes, line, column⟩ := by
  cases bytes with
  | nil => rfl
  | cons b rest =>
    have hb := noBlank_cons.1 h
    have hl : b ≠ Byte.lineFeed := by
      rintro rfl
      exact absurd hb (by decide)
    rw [Cursor.skipBlanksFrom, if_neg hl, if_neg (by simp [hb])]

theorem skipBlanks_of_noBlank {c : Cursor} (h : NoBlank c.rest) : c.skipBlanks = c :=
  skipBlanksFrom_of_noBlank h c.line c.column

theorem skipBlanksFrom_append {ws : List UInt8} (h : Blank ws) (rest : List UInt8)
    (line column : Nat) : ∃ line' column', Cursor.skipBlanksFrom (ws ++ rest) line column =
      Cursor.skipBlanksFrom rest line' column' := by
  induction ws generalizing line column with
  | nil => exact ⟨line, column, rfl⟩
  | cons b ws ih =>
    obtain ⟨hb, hw⟩ := blank_cons.1 h
    rw [List.cons_append, Cursor.skipBlanksFrom]
    split
    · exact ih hw (line + 1) 0
    · exact ih hw line (column + 1)

/-- Blanks in front are all that is skipped. -/
theorem skipBlanks_rest {c : Cursor} {ws rest : List UInt8} (h : c.rest = ws ++ rest)
    (hw : Blank ws) (hn : NoBlank rest) : c.skipBlanks.rest = rest := by
  obtain ⟨line, column, hs⟩ := skipBlanksFrom_append hw rest c.line c.column
  rw [Cursor.skipBlanks, h, hs, skipBlanksFrom_of_noBlank hn]

/-- Skipping blanks twice is skipping them once. -/
theorem skipBlanks_skipBlanks (c : Cursor) : c.skipBlanks.skipBlanks = c.skipBlanks := by
  obtain ⟨-, -, -, hn⟩ := exists_skipBlanks c
  exact skipBlanks_of_noBlank hn

/-! ## Words -/

theorem word_append {c : Cursor} {w rest : List UInt8} (h : c.rest = w ++ rest) :
    ∃ c', c.word w = .ok ((), c') ∧ c'.rest = rest := by
  induction w generalizing c with
  | nil => exact ⟨c, rfl, h⟩
  | cons b w ih =>
    rw [List.cons_append] at h
    rw [Cursor.word, h]
    dsimp only
    rw [if_pos rfl]
    exact ih (advance_rest h)

theorem rest_of_word {c c' : Cursor} {w : List UInt8} (h : c.word w = .ok ((), c')) :
    c.rest = w ++ c'.rest := by
  induction w generalizing c with
  | nil =>
    rw [Cursor.word] at h
    cases h
    rfl
  | cons b w ih =>
    rw [Cursor.word] at h
    split at h
    · exact absurd h fail_ne_ok
    · rename_i b' rest hr
      split at h
      · rename_i hb
        rw [hr, hb, List.cons_append, ← ih h, advance_rest hr]
      · exact absurd h failAhead_ne_ok

end LoginService.Json
