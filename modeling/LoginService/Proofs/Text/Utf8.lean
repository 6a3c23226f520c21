import LoginService.Text.Utf8

/-!
# Writing and reading UTF-8

The reader takes back what was written (`decode_encode`). A character is written in one to four
bytes, and the machine goes through as many states; the first byte of three or four announces a
range for the second one, which the bits of the character always meet. Texts are ordered like the
bytes they are written in (`encode_lt_encode`).
-/

namespace LoginService.Text.Utf8

/-! ## Writing -/

theorem encode_cons (c : Char) (cs : List Char) :
    encode (c :: cs) = String.utf8EncodeChar c ++ encode cs := rfl

theorem encode_append (cs ds : List Char) : encode (cs ++ ds) = encode cs ++ encode ds :=
  List.flatMap_append

theorem utf8EncodeChar_ascii {c : Char} (h : c.toNat < 0x80) :
    String.utf8EncodeChar c = [UInt8.ofNat c.toNat] := by
  rw [String.utf8EncodeChar, show c.val.toNat = c.toNat from rfl, if_pos (by omega)]

/-- A character beyond ASCII is written in bytes beyond ASCII. -/
theorem le_of_mem_utf8EncodeChar {c : Char} (h : 0x80 ≤ c.toNat) {b : UInt8}
    (hb : b ∈ String.utf8EncodeChar c) : 0x80 ≤ b.toNat := by
  have hbyte : ∀ n k, 0x80 ≤ k → n + k < 256 → 0x80 ≤ (UInt8.ofNat (n + k)).toNat := by
    intro n k hk hn
    rw [UInt8.toNat_ofNat']
    omega
  rw [String.utf8EncodeChar, show c.val.toNat = c.toNat from rfl, if_neg (by omega)] at hb
  split at hb
  · simp only [List.mem_cons, List.not_mem_nil, or_false] at hb
    rcases hb with rfl | rfl <;> exact hbyte _ _ (by omega) (by omega)
  split at hb
  · simp only [List.mem_cons, List.not_mem_nil, or_false] at hb
    rcases hb with rfl | rfl | rfl <;> exact hbyte _ _ (by omega) (by omega)
  · simp only [List.mem_cons, List.not_mem_nil, or_false] at hb
    rcases hb with rfl | rfl | rfl | rfl <;> exact hbyte _ _ (by omega) (by omega)

/-! ## Reading what was written -/

theorem Lead.of_ofNat {n : Nat} (h : n < 256) :
    Lead.of (UInt8.ofNat n) =
      if n < 0x80 then .whole (Char.ofNat n)
      else if n < 0xC2 then .stray
      else if n < 0xE0 then .opens ⟨1, 0x80, 0xBF, n - 0xC0⟩
      else if n = 0xE0 then .opens ⟨2, 0xA0, 0xBF, 0⟩
      else if n = 0xED then .opens ⟨2, 0x80, 0x9F, 0xD⟩
      else if n < 0xF0 then .opens ⟨2, 0x80, 0xBF, n - 0xE0⟩
      else if n = 0xF0 then .opens ⟨3, 0x90, 0xBF, 0⟩
      else if n < 0xF4 then .opens ⟨3, 0x80, 0xBF, n - 0xF0⟩
      else if n = 0xF4 then .opens ⟨3, 0x80, 0x8F, 4⟩
      else .stray := by
  have hn : (UInt8.ofNat n).toNat = n := by
    rw [UInt8.toNat_ofNat']
    omega
  simp only [Lead.of, UInt8.lt_iff_toNat_lt, ← UInt8.toNat_inj, hn]
  rfl

theorem decodeFrom_continue {start pos owed code n : Nat} {low high : UInt8} {acc : List Char}
    {rest : List UInt8} (hl : low.toNat ≤ n) (hh : n ≤ high.toNat) :
    decodeFrom start pos (some ⟨owed + 2, low, high, code⟩) acc (UInt8.ofNat n :: rest) =
      decodeFrom start (pos + 1) (some ⟨owed + 1, 0x80, 0xBF, code * 64 + (n - 0x80)⟩) acc
        rest := by
  have hn : (UInt8.ofNat n).toNat = n := by
    rw [UInt8.toNat_ofNat']
    have := high.toNat_lt
    omega
  rw [decodeFrom, if_pos (by rw [UInt8.le_iff_toNat_le, UInt8.le_iff_toNat_le, hn]; exact ⟨hl, hh⟩)]
  simp only [hn]
  rw [if_neg (by omega)]
  rfl

theorem decodeFrom_last {start pos code n : Nat} {low high : UInt8} {acc : List Char}
    {rest : List UInt8} (hl : low.toNat ≤ n) (hh : n ≤ high.toNat) :
    decodeFrom start pos (some ⟨1, low, high, code⟩) acc (UInt8.ofNat n :: rest) =
      decodeFrom (pos + 1) (pos + 1) none (Char.ofNat (code * 64 + (n - 0x80)) :: acc) rest := by
  have hn : (UInt8.ofNat n).toNat = n := by
    rw [UInt8.toNat_ofNat']
    have := high.toNat_lt
    omega
  rw [decodeFrom, if_pos (by rw [UInt8.le_iff_toNat_le, UInt8.le_iff_toNat_le, hn]; exact ⟨hl, hh⟩)]
  simp only [hn]
  rw [if_pos (by omega)]

theorem decodeFrom_whole {start pos : Nat} {acc : List Char} {b : UInt8} {rest : List UInt8}
    {c : Char} (h : Lead.of b = .whole c) :
    decodeFrom start pos none acc (b :: rest) =
      decodeFrom (pos + 1) (pos + 1) none (c :: acc) rest := by
  rw [decodeFrom, h]

theorem decodeFrom_lead {start pos : Nat} {acc : List Char} {b : UInt8} {rest : List UInt8}
    {p : Pending} (h : Lead.of b = .opens p) :
    decodeFrom start pos none acc (b :: rest) = decodeFrom pos (pos + 1) (some p) acc rest := by
  rw [decodeFrom, h]

/-- The first of three bytes announces two more, the second of which is in the announced range. -/
theorem Lead.of_three {v : Nat} (h : 0x7FF < v) (h' : v ≤ 0xFFFF)
    (hs : v < 0xD800 ∨ 0xDFFF < v) :
    ∃ low high : UInt8,
      Lead.of (UInt8.ofNat (v / 4096 % 16 + 0xE0)) = .opens ⟨2, low, high, v / 4096⟩ ∧
      low.toNat ≤ v / 64 % 64 + 0x80 ∧ v / 64 % 64 + 0x80 ≤ high.toNat := by
  rw [Lead.of_ofNat (by omega), if_neg (by omega), if_neg (by omega), if_neg (by omega)]
  split
  · refine ⟨0xA0, 0xBF, ?_, by simp; omega, by simp; omega⟩
    rw [show v / 4096 = 0 by omega]
  rw [show v / 4096 % 16 + 0xE0 - 0xE0 = v / 4096 by omega]
  split
  · refine ⟨0x80, 0x9F, ?_, by simp, by simp; omega⟩
    rw [show v / 4096 = 0xD by omega]
  · rw [if_pos (by omega)]
    exact ⟨0x80, 0xBF, rfl, by simp, by simp; omega⟩

/-- The first of four bytes announces three more, the second of which is in the announced range. -/
theorem Lead.of_four {v : Nat} (h : 0xFFFF < v) (h' : v < 0x110000) :
    ∃ low high : UInt8,
      Lead.of (UInt8.ofNat (v / 262144 % 8 + 0xF0)) = .opens ⟨3, low, high, v / 262144⟩ ∧
      low.toNat ≤ v / 4096 % 64 + 0x80 ∧ v / 4096 % 64 + 0x80 ≤ high.toNat := by
  rw [Lead.of_ofNat (by omega), if_neg (by omega), if_neg (by omega), if_neg (by omega),
    if_neg (by omega), if_neg (by omega), if_neg (by omega)]
  split
  · refine ⟨0x90, 0xBF, ?_, by simp; omega, by simp; omega⟩
    rw [show v / 262144 = 0 by omega]
  rw [show v / 262144 % 8 + 0xF0 - 0xF0 = v / 262144 by omega]
  split
  · exact ⟨0x80, 0xBF, rfl, by simp, by simp; omega⟩
  · refine ⟨0x80, 0x8F, ?_, by simp, by simp; omega⟩
    rw [if_pos (by omega), show v / 262144 = 4 by omega]

theorem decodeFrom_utf8EncodeChar (c : Char) (start pos : Nat) (acc : List Char)
    (rest : List UInt8) :
    ∃ start' pos', decodeFrom start pos none acc (String.utf8EncodeChar c ++ rest) =
      decodeFrom start' pos' none (c :: acc) rest := by
  have hv : c.toNat < 0xD800 ∨ 0xDFFF < c.toNat ∧ c.toNat < 0x110000 := c.valid
  have hc : Char.ofNat c.toNat = c := Char.ofNat_toNat c
  rw [String.utf8EncodeChar, show c.val.toNat = c.toNat from rfl]
  generalize c.toNat = v at hv hc
  split
  · -- one byte
    refine ⟨pos + 1, pos + 1, ?_⟩
    rw [List.singleton_append,
      decodeFrom_whole (by rw [Lead.of_ofNat (by omega), if_pos (by omega)]), hc]
  split
  · -- two bytes
    refine ⟨pos + 1 + 1, pos + 1 + 1, ?_⟩
    simp only [List.cons_append, List.nil_append]
    rw [decodeFrom_lead (by
        rw [Lead.of_ofNat (by omega), if_neg (by omega), if_neg (by omega), if_pos (by omega)]),
      decodeFrom_last (by simp) (by simp; omega),
      show (v / 64 % 0x20 + 0xC0 - 0xC0) * 64 + (v % 0x40 + 0x80 - 0x80) = v by omega, hc]
  split
  · -- three bytes
    obtain ⟨low, high, hlead, hl, hh⟩ := Lead.of_three (v := v) (by omega) (by omega) (by omega)
    refine ⟨pos + 1 + 1 + 1, pos + 1 + 1 + 1, ?_⟩
    simp only [List.cons_append, List.nil_append]
    rw [decodeFrom_lead hlead, decodeFrom_continue hl hh,
      decodeFrom_last (by simp) (by simp; omega),
      show (v / 4096 * 64 + (v / 64 % 0x40 + 0x80 - 0x80)) * 64 + (v % 0x40 + 0x80 - 0x80) = v by
        omega, hc]
  · -- four bytes
    obtain ⟨low, high, hlead, hl, hh⟩ := Lead.of_four (v := v) (by omega) (by omega)
    refine ⟨pos + 1 + 1 + 1 + 1, pos + 1 + 1 + 1 + 1, ?_⟩
    simp only [List.cons_append, List.nil_append]
    rw [decodeFrom_lead hlead, decodeFrom_continue hl hh,
      decodeFrom_continue (by simp) (by simp; omega),
      decodeFrom_last (by simp) (by simp; omega),
      show ((v / 262144 * 64 + (v / 4096 % 0x40 + 0x80 - 0x80)) * 64 +
        (v / 64 % 0x40 + 0x80 - 0x80)) * 64 + (v % 0x40 + 0x80 - 0x80) = v by omega, hc]

theorem decodeFrom_encode (cs : List Char) (start pos : Nat) (acc : List Char) :
    decodeFrom start pos none acc (encode cs) = .ok (acc.reverse ++ cs) := by
  induction cs generalizing start pos acc with
  | nil => simp [encode, decodeFrom]
  | cons c cs ih =>
    obtain ⟨start', pos', h⟩ := decodeFrom_utf8EncodeChar c start pos acc (encode cs)
    rw [show encode (c :: cs) = String.utf8EncodeChar c ++ encode cs from rfl, h, ih,
      List.reverse_cons, List.append_assoc, List.singleton_append]

/-- What was written is read back. -/
theorem decode_encode (cs : List Char) : decode (encode cs) = .ok cs :=
  decodeFrom_encode cs 0 0 []

theorem decode?_encode (cs : List Char) : decode? (encode cs) = some (String.ofList cs) := by
  rw [decode?, decode_encode]

/-- Different texts have different bytes. -/
theorem encode_injective {cs cs' : List Char} (h : encode cs = encode cs') : cs = cs' := by
  have hdecode := decode_encode cs
  rw [h, decode_encode] at hdecode
  exact (Except.ok.inj hdecode).symm

/-! ## The order of texts -/

/-- Bytes in front are compared as numbers. -/
theorem ofNat_cons_lt {m n : Nat} (hm : m < 256) (hn : n < 256) {bytes rest : List UInt8} :
    UInt8.ofNat m :: bytes < UInt8.ofNat n :: rest ↔ m < n ∨ (m = n ∧ bytes < rest) := by
  rw [List.cons_lt_cons_iff, UInt8.lt_iff_toNat_lt, ← UInt8.toNat_inj, UInt8.toNat_ofNat',
    UInt8.toNat_ofNat', Nat.mod_eq_of_lt hm, Nat.mod_eq_of_lt hn]

/-- The smaller of two characters has the smaller bytes, whatever follows them. -/
theorem utf8EncodeChar_append_lt {c d : Char} (h : c.toNat < d.toNat) (bytes rest : List UInt8) :
    String.utf8EncodeChar c ++ bytes < String.utf8EncodeChar d ++ rest := by
  have hd : d.toNat < 0xD800 ∨ 0xDFFF < d.toNat ∧ d.toNat < 0x110000 := d.valid
  rw [String.utf8EncodeChar, String.utf8EncodeChar, show c.val.toNat = c.toNat from rfl,
    show d.val.toNat = d.toNat from rfl]
  generalize c.toNat = v at h
  generalize d.toNat = w at h hd
  rw [Nat.mod_eq_of_lt (show v / 262144 < 8 by omega),
    Nat.mod_eq_of_lt (show w / 262144 < 8 by omega)]
  -- a character of fewer bytes has the smaller first byte; of two of one length some byte decides
  repeat' split
  all_goals try (exfalso; omega)
  all_goals
    simp (disch := omega) only [List.cons_append, List.nil_append, ofNat_cons_lt]
    omega

theorem encode_lt_of_lt {cs ds : List Char} (h : cs < ds) : encode cs < encode ds := by
  induction cs generalizing ds with
  | nil =>
    cases ds with
    | nil => exact absurd h (List.not_lt_nil _)
    | cons d ds =>
      obtain ⟨b, rest, hb⟩ := List.exists_cons_of_ne_nil (String.utf8EncodeChar_ne_nil (c := d))
      rw [encode_cons, hb]
      exact List.nil_lt_cons _ _
  | cons c cs ih =>
    cases ds with
    | nil => exact absurd h (List.not_lt_nil _)
    | cons d ds =>
      rw [encode_cons, encode_cons]
      rcases List.cons_lt_cons_iff.1 h with hlt | ⟨rfl, hlt⟩
      · exact utf8EncodeChar_append_lt hlt _ _
      · exact List.append_left_lt (ih hlt)

/-- **Texts are ordered like their bytes.** -/
theorem encode_lt_encode {cs ds : List Char} : encode cs < encode ds ↔ cs < ds := by
  constructor
  · intro h
    apply Decidable.byContradiction
    intro hnot
    rcases List.le_iff_lt_or_eq.1 (List.not_lt.1 hnot) with hlt | rfl
    · exact List.lt_asymm h (encode_lt_of_lt hlt)
    · exact List.lt_irrefl _ h
  · exact encode_lt_of_lt

end LoginService.Text.Utf8
