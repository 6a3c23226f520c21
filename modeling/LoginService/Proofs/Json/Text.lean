import LoginService.Proofs.Json.Cursor
import LoginService.Proofs.Text.Utf8

/-!
# Reading and stepping over strings

The machine that reads strings accepts exactly the pieces of the grammar (`inside_of_readText`,
`readText_append`), and stepping over a string takes whatever reading it takes
(`skipText_append`). Both go piece by piece: a piece takes the machine from the state between
pieces back to it.
-/

namespace LoginService.Json

/-! ## Single steps -/

/-- What one more byte does to a machine that ends well. -/
theorem readTextFrom_ok {s : TextState} {acc bytes : List UInt8} {line column : Nat}
    {r : List UInt8 × Cursor} (h : readTextFrom s acc bytes line column = .ok r) :
    ∃ b rest, bytes = b :: rest ∧
      ((s.step b = .close ∧ r.1 = acc.reverse ∧ r.2.rest = rest) ∨
        ∃ s' newest line' column', s.step b = .next s' newest ∧
          readTextFrom s' (newest ++ acc) rest line' column' = .ok r) := by
  cases bytes with
  | nil => exact absurd h (by simp [readTextFrom, Cursor.fail])
  | cons b rest =>
    refine ⟨b, rest, rfl, ?_⟩
    rw [readTextFrom] at h
    cases hs : s.step b with
    | next s' newest =>
      simp only [hs] at h
      exact Or.inr ⟨s', newest, _, _, rfl, h⟩
    | close =>
      simp only [hs] at h
      cases h
      exact Or.inl ⟨rfl, rfl, rfl⟩
    | stop cause =>
      simp only [hs] at h
      exact absurd h fail_ne_ok

/-- A machine that cannot close here takes one more step. -/
theorem readTextFrom_ok_next {s : TextState} {acc bytes : List UInt8} {line column : Nat}
    {r : List UInt8 × Cursor} (h : readTextFrom s acc bytes line column = .ok r)
    (hs : ∀ b, s.step b ≠ .close) :
    ∃ b rest s' newest line' column', bytes = b :: rest ∧ s.step b = .next s' newest ∧
      readTextFrom s' (newest ++ acc) rest line' column' = .ok r := by
  obtain ⟨b, rest, hb, hc | ⟨s', newest, line', column', hn, hr⟩⟩ := readTextFrom_ok h
  · exact absurd hc.1 (hs b)
  · exact ⟨b, rest, s', newest, line', column', hb, hn, hr⟩

/-! ## The four digits of an escape -/

theorem step_hex (first : Option Nat) (count v : Nat) {d : Nat} {b : UInt8} (hc : count < 3)
    (hb : Byte.hexDigit? b = some d) :
    (TextState.hex first count (some v)).step b =
      .next (.hex first (count + 1) (some (v * 16 + d))) [] := by
  simp only [TextState.step, hb]
  rw [if_pos hc]

theorem step_hex_last (first : Option Nat) (v : Nat) {d : Nat} {b : UInt8}
    (hb : Byte.hexDigit? b = some d) :
    (TextState.hex first 3 (some v)).step b = completeHex first (v * 16 + d) := by
  simp only [TextState.step, hb]
  rw [if_neg (by omega)]

theorem readTextFrom_hex4 {first : Option Nat} {ds newest : List UInt8} {v : Nat} {s : TextState}
    (hd : Hex4 ds v) (hs : completeHex first v = .next s newest) (acc rest : List UInt8)
    (line column : Nat) :
    ∃ line' column', readTextFrom (.hex first 0 (some 0)) acc (ds ++ rest) line column =
      readTextFrom s (newest ++ acc) rest line' column' := by
  obtain @⟨a, b, c, d, w, x, y, z, ha, hb, hc, hd⟩ := hd
  rw [← step_hex_last first _ hd] at hs
  obtain ⟨l₁, k₁, h₁⟩ := readTextFrom_next (step_hex first 0 0 (by decide) ha) acc
    (b :: c :: d :: rest) line column
  obtain ⟨l₂, k₂, h₂⟩ := readTextFrom_next (step_hex first 1 _ (by decide) hb) acc
    (c :: d :: rest) l₁ k₁
  obtain ⟨l₃, k₃, h₃⟩ := readTextFrom_next (step_hex first 2 _ (by decide) hc) acc
    (d :: rest) l₂ k₂
  obtain ⟨l₄, k₄, h₄⟩ := readTextFrom_next hs acc rest l₃ k₃
  simp only [List.cons_append, List.nil_append]
  refine ⟨l₄, k₄, ?_⟩
  rw [h₁, List.nil_append, h₂, List.nil_append, h₃, List.nil_append, ← h₄]
  simp

/-- The digits so far have a value as long as each of them has one. -/
theorem step_hex_next {first : Option Nat} {count : Nat} {value : Option Nat} {b : UInt8}
    {s : TextState} {newest : List UInt8} (hc : count < 3)
    (h : (TextState.hex first count value).step b = .next s newest) :
    newest = [] ∧ s = .hex first (count + 1)
      (value.bind fun v => (Byte.hexDigit? b).map fun d => v * 16 + d) := by
  simp only [TextState.step] at h
  rw [if_pos hc] at h
  cases h
  refine ⟨rfl, ?_⟩
  cases value <;> cases Byte.hexDigit? b <;> rfl

theorem step_hex_last_next {first : Option Nat} {value : Option Nat} {b : UInt8}
    {s : TextState} {newest : List UInt8}
    (h : (TextState.hex first 3 value).step b = .next s newest) :
    ∃ v d, value = some v ∧ Byte.hexDigit? b = some d ∧
      completeHex first (v * 16 + d) = .next s newest := by
  simp only [TextState.step] at h
  rw [if_neg (by omega)] at h
  cases hb : Byte.hexDigit? b with
  | none =>
    simp only [hb] at h
    exact absurd h (by simp)
  | some d =>
    cases value with
    | none => exact absurd h (by simp)
    | some v =>
      simp only [hb] at h
      exact ⟨v, d, rfl, rfl, h⟩

theorem completeHex_ne_close (first : Option Nat) (v : Nat) : completeHex first v ≠ .close := by
  unfold completeHex
  split
  · split
    · simp
    · split <;> simp
  · split <;> simp

theorem step_hex_ne_close (first : Option Nat) (count : Nat) (value : Option Nat) (b : UInt8) :
    (TextState.hex first count value).step b ≠ .close := by
  simp only [TextState.step]
  split
  · simp
  · split
    · exact completeHex_ne_close _ _
    · simp

theorem hex4_of_readTextFrom {first : Option Nat} {acc bytes : List UInt8} {line column : Nat}
    {r : List UInt8 × Cursor}
    (h : readTextFrom (.hex first 0 (some 0)) acc bytes line column = .ok r) :
    ∃ ds v rest s newest line' column', Hex4 ds v ∧ bytes = ds ++ rest ∧
      completeHex first v = .next s newest ∧
      readTextFrom s (newest ++ acc) rest line' column' = .ok r := by
  obtain ⟨a, r₁, s₁, n₁, l₁, k₁, rfl, t₁, h₁⟩ := readTextFrom_ok_next h (step_hex_ne_close _ _ _)
  obtain ⟨rfl, rfl⟩ := step_hex_next (by decide) t₁
  obtain ⟨b, r₂, s₂, n₂, l₂, k₂, rfl, t₂, h₂⟩ := readTextFrom_ok_next h₁ (step_hex_ne_close _ _ _)
  obtain ⟨rfl, rfl⟩ := step_hex_next (by decide) t₂
  obtain ⟨c, r₃, s₃, n₃, l₃, k₃, rfl, t₃, h₃⟩ := readTextFrom_ok_next h₂ (step_hex_ne_close _ _ _)
  obtain ⟨rfl, rfl⟩ := step_hex_next (by decide) t₃
  obtain ⟨d, r₄, s₄, n₄, l₄, k₄, rfl, t₄, h₄⟩ := readTextFrom_ok_next h₃ (step_hex_ne_close _ _ _)
  obtain ⟨v, z, hv, hz, hc⟩ := step_hex_last_next t₄
  -- all four digits have values, or the value of the first three would be missing
  simp only [Option.bind_eq_some_iff, Option.map_eq_some_iff, Option.some.injEq] at hv
  obtain ⟨v₂, ⟨v₁, ⟨v₀, rfl, w, hw, rfl⟩, x, hx, rfl⟩, y, hy, rfl⟩ := hv
  exact ⟨[a, b, c, d], _, r₄, s₄, n₄, l₄, k₄, Hex4.mk hw hx hy hz, rfl, by simpa using hc, h₄⟩

/-! ## Pieces -/

theorem step_escape {e b : UInt8} (h : shortEscape? e = some b) :
    TextState.escape.step e = .next .plain [b] := by
  have hu : e ≠ 0x75 := by
    rintro rfl
    rw [show shortEscape? 0x75 = none from rfl] at h
    exact absurd h (by simp)
  simp only [TextState.step, h]
  rw [if_neg hu]

theorem completeHex_high {v : Nat} (h : 0xD800 ≤ v) (h' : v ≤ 0xDBFF) :
    completeHex none v = .next (.half v) [] := by
  simp only [completeHex]
  rw [if_neg (by omega), if_pos (by omega)]

theorem completeHex_pair {high low : Nat} (h : 0xDC00 ≤ low) (h' : low ≤ 0xDFFF) :
    completeHex (some high) low =
      .next .plain (String.utf8EncodeChar (pairChar high low)).reverse := by
  simp only [completeHex]
  rw [if_pos (by omega)]
  rfl

/-- The two bytes before the digits of an escape. -/
theorem readTextFrom_escape (acc rest : List UInt8) (line column : Nat) :
    ∃ line' column', readTextFrom .plain acc (Byte.backslash :: 0x75 :: rest) line column =
      readTextFrom (.hex none 0 (some 0)) acc rest line' column' :=
  ⟨_, _, rfl⟩

/-- The two bytes before the digits of the second half of a pair. -/
theorem readTextFrom_half (first : Nat) (acc rest : List UInt8) (line column : Nat) :
    ∃ line' column', readTextFrom (.half first) acc (Byte.backslash :: 0x75 :: rest) line column =
      readTextFrom (.hex (some first) 0 (some 0)) acc rest line' column' :=
  ⟨_, _, rfl⟩

/-- A piece takes the machine back to the state between pieces. -/
theorem readTextFrom_piece {text bytes : List UInt8} (h : Piece text bytes) (acc rest : List UInt8)
    (line column : Nat) :
    ∃ line' column', readTextFrom .plain acc (text ++ rest) line column =
      readTextFrom .plain (bytes.reverse ++ acc) rest line' column' := by
  cases h with
  | plain hq hb hc => exact readTextFrom_next (step_plain hq hb hc) acc rest line column
  | short he => exact readTextFrom_next (step_escape he) acc rest _ _
  | unicode hd hv =>
    obtain ⟨l₁, k₁, h₁⟩ := readTextFrom_escape acc (_ ++ rest) line column
    rw [List.cons_append, List.cons_append, h₁]
    exact readTextFrom_hex4 hd (completeHex_single hv) acc rest l₁ k₁
  | @pair ds es high low hd h h' he hl hl' =>
    obtain ⟨l₁, k₁, h₁⟩ := readTextFrom_escape acc
      (ds ++ Byte.backslash :: 0x75 :: (es ++ rest)) line column
    obtain ⟨l₂, k₂, h₂⟩ := readTextFrom_hex4 hd (completeHex_high h h') acc
      (Byte.backslash :: 0x75 :: (es ++ rest)) l₁ k₁
    obtain ⟨l₃, k₃, h₃⟩ := readTextFrom_half high acc (es ++ rest) l₂ k₂
    obtain ⟨l₄, k₄, h₄⟩ := readTextFrom_hex4 he (completeHex_pair hl hl') acc rest l₃ k₃
    refine ⟨l₄, k₄, ?_⟩
    rw [← h₄, ← h₃, ← List.nil_append acc, ← h₂, ← h₁]
    simp

theorem of_step_plain {b : UInt8} {s : TextState} {newest : List UInt8}
    (h : TextState.plain.step b = .next s newest) :
    (Piece [b] [b] ∧ s = .plain ∧ newest = [b]) ∨
      (b = Byte.backslash ∧ s = .escape ∧ newest = []) := by
  simp only [TextState.step] at h
  split at h
  · exact absurd h (by simp)
  rename_i hq
  split at h
  · rename_i hb
    cases h
    exact Or.inr ⟨hb, rfl, rfl⟩
  rename_i hb
  split at h
  · exact absurd h (by simp)
  rename_i hc
  cases h
  exact Or.inl ⟨Piece.plain hq hb hc, rfl, rfl⟩

theorem of_step_plain_close {b : UInt8} (h : TextState.plain.step b = .close) :
    b = Byte.quote := by
  simp only [TextState.step] at h
  split at h
  · assumption
  split at h
  · exact absurd h (by simp)
  split at h <;> exact absurd h (by simp)

theorem of_step_escape {e : UInt8} {s : TextState} {newest : List UInt8}
    (h : TextState.escape.step e = .next s newest) :
    (∃ b, shortEscape? e = some b ∧ s = .plain ∧ newest = [b]) ∨
      (e = 0x75 ∧ s = .hex none 0 (some 0) ∧ newest = []) := by
  simp only [TextState.step] at h
  split at h
  · rename_i hu
    cases h
    exact Or.inr ⟨hu, rfl, rfl⟩
  · split at h
    · rename_i b hb
      cases h
      exact Or.inl ⟨b, hb, rfl, rfl⟩
    · exact absurd h (by simp)

theorem step_escape_ne_close (e : UInt8) : TextState.escape.step e ≠ .close := by
  simp only [TextState.step]
  split
  · simp
  · split <;> simp

theorem of_step_half {first : Nat} {b : UInt8} {s : TextState} {newest : List UInt8}
    (h : (TextState.half first).step b = .next s newest) :
    b = Byte.backslash ∧ s = .halfEscape first ∧ newest = [] := by
  simp only [TextState.step] at h
  split at h
  · rename_i hb
    cases h
    exact ⟨hb, rfl, rfl⟩
  · exact absurd h (by simp)

theorem step_half_ne_close (first : Nat) (b : UInt8) :
    (TextState.half first).step b ≠ .close := by
  simp only [TextState.step]
  split <;> simp

theorem of_step_halfEscape {first : Nat} {b : UInt8} {s : TextState} {newest : List UInt8}
    (h : (TextState.halfEscape first).step b = .next s newest) :
    b = 0x75 ∧ s = .hex (some first) 0 (some 0) ∧ newest = [] := by
  simp only [TextState.step] at h
  split at h
  · rename_i hb
    cases h
    exact ⟨hb, rfl, rfl⟩
  · exact absurd h (by simp)

theorem step_halfEscape_ne_close (first : Nat) (b : UInt8) :
    (TextState.halfEscape first).step b ≠ .close := by
  simp only [TextState.step]
  split <;> simp

theorem of_completeHex_none {v : Nat} {s : TextState} {newest : List UInt8}
    (h : completeHex none v = .next s newest) :
    ((v < 0xD800 ∨ 0xDFFF < v) ∧ s = .plain ∧
        newest = (String.utf8EncodeChar (Char.ofNat v)).reverse) ∨
      (0xD800 ≤ v ∧ v ≤ 0xDBFF ∧ s = .half v ∧ newest = []) := by
  simp only [completeHex] at h
  split at h
  · exact absurd h (by simp)
  split at h
  · rename_i hv
    cases h
    exact Or.inr ⟨hv.1, hv.2, rfl, rfl⟩
  · cases h
    exact Or.inl ⟨by omega, rfl, rfl⟩

theorem of_completeHex_some {high low : Nat} {s : TextState} {newest : List UInt8}
    (h : completeHex (some high) low = .next s newest) :
    0xDC00 ≤ low ∧ low ≤ 0xDFFF ∧ s = .plain ∧
      newest = (String.utf8EncodeChar (pairChar high low)).reverse := by
  simp only [completeHex] at h
  split at h
  · rename_i hl
    cases h
    exact ⟨hl.1, hl.2, rfl, rfl⟩
  · exact absurd h (by simp)

/-- Between pieces, the machine either closes or takes one more piece. -/
theorem piece_of_readTextFrom {acc bytes : List UInt8} {line column : Nat}
    {r : List UInt8 × Cursor} (h : readTextFrom .plain acc bytes line column = .ok r) :
    (bytes = Byte.quote :: r.2.rest ∧ r.1 = acc.reverse) ∨
      ∃ text spelled rest line' column', Piece text spelled ∧ bytes = text ++ rest ∧
        readTextFrom .plain (spelled.reverse ++ acc) rest line' column' = .ok r := by
  obtain ⟨b, r₁, rfl, ⟨t₁, ha, hr⟩ | ⟨s₁, n₁, l₁, k₁, t₁, h₁⟩⟩ := readTextFrom_ok h
  · exact Or.inl ⟨by rw [of_step_plain_close t₁, hr], ha⟩
  refine Or.inr ?_
  obtain ⟨hp, rfl, rfl⟩ | ⟨rfl, rfl, rfl⟩ := of_step_plain t₁
  · exact ⟨[b], [b], r₁, l₁, k₁, hp, rfl, h₁⟩
  -- a backslash: a short escape, one character, or the first half of a pair
  obtain ⟨e, r₂, s₂, n₂, l₂, k₂, rfl, t₂, h₂⟩ := readTextFrom_ok_next h₁ step_escape_ne_close
  obtain ⟨b, hb, rfl, rfl⟩ | ⟨rfl, rfl, rfl⟩ := of_step_escape t₂
  · exact ⟨[Byte.backslash, e], [b], r₂, l₂, k₂, Piece.short hb, rfl, h₂⟩
  obtain ⟨ds, v, r₃, s₃, n₃, l₃, k₃, hd, rfl, t₃, h₃⟩ := hex4_of_readTextFrom h₂
  obtain ⟨hv, rfl, rfl⟩ | ⟨hv, hv', rfl, rfl⟩ := of_completeHex_none t₃
  · exact ⟨Byte.backslash :: 0x75 :: ds, _, r₃, l₃, k₃, Piece.unicode hd hv, rfl, h₃⟩
  obtain ⟨b₄, r₄, s₄, n₄, l₄, k₄, rfl, t₄, h₄⟩ := readTextFrom_ok_next h₃ (step_half_ne_close v)
  obtain ⟨rfl, rfl, rfl⟩ := of_step_half t₄
  obtain ⟨b₅, r₅, s₅, n₅, l₅, k₅, rfl, t₅, h₅⟩ :=
    readTextFrom_ok_next h₄ (step_halfEscape_ne_close v)
  obtain ⟨rfl, rfl, rfl⟩ := of_step_halfEscape t₅
  obtain ⟨es, w, r₆, s₆, n₆, l₆, k₆, he, rfl, t₆, h₆⟩ := hex4_of_readTextFrom h₅
  obtain ⟨hw, hw', rfl, hn⟩ := of_completeHex_some t₆
  rw [hn] at h₆
  exact ⟨Byte.backslash :: 0x75 :: (ds ++ Byte.backslash :: 0x75 :: es),
    String.utf8EncodeChar (pairChar v w), r₆, l₆, k₆, Piece.pair hd hv hv' he hw hw', by simp, h₆⟩

theorem piece_ne_nil {text bytes : List UInt8} (h : Piece text bytes) : text ≠ [] := by
  cases h <;> simp

theorem length_of_hex4 {ds : List UInt8} {v : Nat} (h : Hex4 ds v) : ds.length = 4 := by
  cases h
  rfl

/-- No piece is shorter than what it stands for. -/
theorem length_le_of_piece {text bytes : List UInt8} (h : Piece text bytes) :
    bytes.length ≤ text.length := by
  have hchar (c : Char) : (String.utf8EncodeChar c).length ≤ 4 := by
    rw [String.length_utf8EncodeChar]
    exact c.utf8Size_le_four
  cases h with
  | plain _ _ _ => exact Nat.le_refl _
  | short _ => simp
  | @unicode ds v hd _ =>
    have hlen := length_of_hex4 hd
    have hc := hchar (Char.ofNat v)
    simp only [List.length_cons]
    omega
  | @pair ds es high low hd _ _ _ _ _ =>
    have hlen := length_of_hex4 hd
    have hc := hchar (pairChar high low)
    simp only [List.length_cons, List.length_append]
    omega

theorem length_le_of_pieces {text bytes : List UInt8} (h : Pieces text bytes) :
    bytes.length ≤ text.length := by
  induction h with
  | nil => exact Nat.le_refl _
  | cons hp _ ih =>
    have hlen := length_le_of_piece hp
    rw [List.length_append, List.length_append]
    omega

/-! ## Whole strings -/

theorem readTextFrom_pieces {text bytes : List UInt8} (h : Pieces text bytes)
    (acc rest : List UInt8) (line column : Nat) :
    ∃ c', readTextFrom .plain acc (text ++ Byte.quote :: rest) line column =
      .ok (acc.reverse ++ bytes, c') ∧ c'.rest = rest := by
  induction h generalizing acc line column with
  | nil =>
    refine ⟨⟨rest, line, column + 1⟩, ?_, rfl⟩
    rw [List.nil_append, List.append_nil]
    rfl
  | @cons text more bytes bytes' hp _ ih =>
    obtain ⟨l, k, hl⟩ := readTextFrom_piece hp acc (more ++ Byte.quote :: rest) line column
    obtain ⟨c', hc, hr⟩ := ih (bytes.reverse ++ acc) l k
    refine ⟨c', ?_, hr⟩
    rw [List.append_assoc, hl, hc]
    simp

theorem pieces_of_readTextFrom (n : Nat) {acc bytes : List UInt8} (hn : bytes.length ≤ n)
    {line column : Nat} {r : List UInt8 × Cursor}
    (h : readTextFrom .plain acc bytes line column = .ok r) :
    ∃ text spelled, Pieces text spelled ∧ bytes = text ++ Byte.quote :: r.2.rest ∧
      r.1 = acc.reverse ++ spelled := by
  induction n generalizing acc bytes line column with
  | zero =>
    obtain rfl := List.eq_nil_of_length_eq_zero (Nat.le_zero.1 hn)
    exact absurd h (by simp [readTextFrom, Cursor.fail])
  | succ n ih =>
    obtain ⟨rfl, ha⟩ | ⟨text, spelled, rest, line', column', hp, rfl, hr⟩ := piece_of_readTextFrom h
    · exact ⟨[], [], Pieces.nil, rfl, by rw [ha, List.append_nil]⟩
    · have hlen : rest.length ≤ n := by
        have := List.length_pos_iff.2 (piece_ne_nil hp)
        rw [List.length_append] at hn
        omega
      obtain ⟨more, spelled', hm, hb, hs⟩ := ih hlen hr
      refine ⟨text ++ more, spelled ++ spelled', Pieces.cons hp hm, ?_, ?_⟩
      · rw [hb, List.append_assoc]
      · rw [hs]
        simp

/-- A string is read off any text that it begins. -/
theorem readText_append {c : Cursor} {inside rest : List UInt8} {s : String} (h : Inside inside s)
    (hc : c.rest = inside ++ Byte.quote :: rest) :
    ∃ c', readText c = .ok (s, c') ∧ c'.rest = rest := by
  obtain ⟨bytes, hp, hd⟩ := h
  obtain ⟨c', hr, hrest⟩ := readTextFrom_pieces hp [] rest c.line c.column
  refine ⟨c', ?_, hrest⟩
  rw [readText, hc, hr]
  simp [hd]

/-- What is read as a string spells it. -/
theorem inside_of_readText {c c' : Cursor} {s : String} (h : readText c = .ok (s, c')) :
    ∃ inside, Inside inside s ∧ c.rest = inside ++ Byte.quote :: c'.rest := by
  rw [readText] at h
  split at h
  · exact absurd h (by simp)
  rename_i bytes after hr
  split at h
  · rename_i t hd
    cases h
    obtain ⟨inside, spelled, hp, hb, hs⟩ := pieces_of_readTextFrom _ (Nat.le_refl _) hr
    have hsp : bytes = spelled := by simpa using hs
    exact ⟨inside, ⟨spelled, hp, hsp ▸ hd⟩, hb⟩
  · exact absurd h fail_ne_ok

/-! ## Stepping over a string -/

theorem skipTextFrom_plain {b : UInt8} (hq : b ≠ Byte.quote) (hb : b ≠ Byte.backslash)
    (hc : ¬ b < 0x20) (rest : List UInt8) (line column : Nat) :
    ∃ line' column', skipTextFrom .plain (b :: rest) line column =
      skipTextFrom .plain rest line' column' := by
  simp only [skipTextFrom, if_neg hq, if_neg hb, if_neg hc]
  exact ⟨_, _, rfl⟩

theorem skipTextFrom_short {e b : UInt8} (h : shortEscape? e = some b) (rest : List UInt8)
    (line column : Nat) :
    ∃ line' column', skipTextFrom .plain (Byte.backslash :: e :: rest) line column =
      skipTextFrom .plain rest line' column' := by
  have hu : e ≠ 0x75 := by
    rintro rfl
    rw [show shortEscape? 0x75 = none from rfl] at h
    exact absurd h (by simp)
  have hs : ∃ line' column', skipTextFrom .escape (e :: rest) line (column + 1) =
      skipTextFrom .plain rest line' column' := by
    rw [skipTextFrom]
    simp only [if_neg hu, h, Option.isSome_some, if_true]
    exact ⟨_, _, rfl⟩
  exact hs

theorem skipTextFrom_hex (count : Nat) {b : UInt8} {d : Nat} (hc : count < 3)
    (hb : Byte.hexDigit? b = some d) (rest : List UInt8) (line column : Nat) :
    ∃ line' column', skipTextFrom (.hex none count (some 0)) (b :: rest) line column =
      skipTextFrom (.hex none (count + 1) (some 0)) rest line' column' := by
  rw [skipTextFrom]
  simp only [hb, Option.isSome_some, if_true, if_pos hc]
  exact ⟨_, _, rfl⟩

theorem skipTextFrom_hex_last {b : UInt8} {d : Nat} (hb : Byte.hexDigit? b = some d)
    (rest : List UInt8) (line column : Nat) :
    ∃ line' column', skipTextFrom (.hex none 3 (some 0)) (b :: rest) line column =
      skipTextFrom .plain rest line' column' := by
  rw [skipTextFrom]
  simp only [hb, Option.isSome_some, if_true, if_neg (Nat.lt_irrefl 3)]
  exact ⟨_, _, rfl⟩

theorem skipTextFrom_unicode {ds : List UInt8} {v : Nat} (h : Hex4 ds v) (rest : List UInt8)
    (line column : Nat) :
    ∃ line' column', skipTextFrom .plain (Byte.backslash :: 0x75 :: (ds ++ rest)) line column =
      skipTextFrom .plain rest line' column' := by
  obtain @⟨a, b, c, d, w, x, y, z, ha, hb, hc, hd⟩ := h
  obtain ⟨l₁, k₁, h₁⟩ := skipTextFrom_hex 0 (by decide) ha (b :: c :: d :: rest) line
    (column + 1 + 1)
  obtain ⟨l₂, k₂, h₂⟩ := skipTextFrom_hex 1 (by decide) hb (c :: d :: rest) l₁ k₁
  obtain ⟨l₃, k₃, h₃⟩ := skipTextFrom_hex 2 (by decide) hc (d :: rest) l₂ k₂
  obtain ⟨l₄, k₄, h₄⟩ := skipTextFrom_hex_last hd rest l₃ k₃
  refine ⟨l₄, k₄, ?_⟩
  rw [← h₄, ← h₃, ← h₂, ← h₁]
  rfl

/-- A piece is stepped over; the halves of a pair are two escapes here. -/
theorem skipTextFrom_piece {text bytes : List UInt8} (h : Piece text bytes) (rest : List UInt8)
    (line column : Nat) :
    ∃ line' column', skipTextFrom .plain (text ++ rest) line column =
      skipTextFrom .plain rest line' column' := by
  cases h with
  | plain hq hb hc => exact skipTextFrom_plain hq hb hc rest line column
  | short he => exact skipTextFrom_short he rest line column
  | unicode hd _ => exact skipTextFrom_unicode hd rest line column
  | @pair ds es high low hd _ _ he _ _ =>
    obtain ⟨l₁, k₁, h₁⟩ := skipTextFrom_unicode hd (Byte.backslash :: 0x75 :: (es ++ rest)) line
      column
    obtain ⟨l₂, k₂, h₂⟩ := skipTextFrom_unicode he rest l₁ k₁
    refine ⟨l₂, k₂, ?_⟩
    rw [← h₂, ← h₁]
    simp

theorem skipTextFrom_pieces {text bytes : List UInt8} (h : Pieces text bytes) (rest : List UInt8)
    (line column : Nat) :
    ∃ c', skipTextFrom .plain (text ++ Byte.quote :: rest) line column = .ok ((), c') ∧
      c'.rest = rest := by
  induction h generalizing line column with
  | nil => exact ⟨⟨rest, line, column + 1⟩, rfl, rfl⟩
  | @cons text more bytes bytes' hp _ ih =>
    obtain ⟨l, k, hl⟩ := skipTextFrom_piece hp (more ++ Byte.quote :: rest) line column
    obtain ⟨c', hc, hr⟩ := ih l k
    exact ⟨c', by rw [List.append_assoc, hl, hc], hr⟩

/-- A string is stepped over in every text that it begins. -/
theorem skipText_append {c : Cursor} {inside rest : List UInt8} {s : String} (h : Inside inside s)
    (hc : c.rest = inside ++ Byte.quote :: rest) :
    ∃ c', skipText c = .ok ((), c') ∧ c'.rest = rest := by
  obtain ⟨bytes, hp, -⟩ := h
  obtain ⟨c', hs, hr⟩ := skipTextFrom_pieces hp rest c.line c.column
  exact ⟨c', by rw [skipText, hc, hs], hr⟩

end LoginService.Json
