import LoginService.Proofs.Text.Utf8

/-!
# Which bytes are text

Bytes are text if they are the writing of some characters. The machine that reads them accepts
exactly these (`decode_eq_ok_iff`). What it may still accept depends on nothing but the character it
has begun, so `next?` leaves out the characters and the positions that `decodeFrom` collects, and
`Completes` says what may follow. A character never starts inside another one
(`completes_utf8EncodeChar`): its first byte goes on no character that has been begun.
-/

namespace LoginService.Text.Utf8

/-! ## The machine without what it collects -/

/-- The character that is begun after one byte more, if one is; nothing where no text goes on with
this byte. -/
def next? : Option Pending → UInt8 → Option (Option Pending)
  | none, b =>
    match Lead.of b with
    | .whole _ => some none
    | .opens p => some (some p)
    | .stray => none
  | some p, b =>
    if p.low ≤ b ∧ b ≤ p.high then
      if p.owed ≤ 1 then some none
      else some (some ⟨p.owed - 1, 0x80, 0xBF, p.code * 64 + (b.toNat - 0x80)⟩)
    else none

/-- Bytes that complete the character that is begun, if one is, and then are whole characters. -/
def Completes (begun : Option Pending) (bytes : List UInt8) : Prop :=
  bytes.foldlM next? begun = some none

/-- Bytes that are whole characters. -/
abbrev Valid (bytes : List UInt8) : Prop := Completes none bytes

theorem completes_nil {begun : Option Pending} : Completes begun [] ↔ begun = none :=
  Option.some_inj

theorem completes_cons {begun : Option Pending} {b : UInt8} {bytes : List UInt8} :
    Completes begun (b :: bytes) ↔ ∃ begun', next? begun b = some begun' ∧ Completes begun' bytes :=
  Option.bind_eq_some_iff

/-- Whole characters may go on with whatever may follow them. -/
theorem completes_append {begun : Option Pending} {bytes rest : List UInt8}
    (h : Completes begun bytes) : Completes begun (bytes ++ rest) ↔ Valid rest := by
  unfold Valid Completes at *
  rw [List.foldlM_append, h]
  rfl

theorem valid_append {bytes rest : List UInt8} (h : Valid bytes) (hrest : Valid rest) :
    Valid (bytes ++ rest) :=
  (completes_append h).mpr hrest

/-- The machine goes by `next?`, whatever it has collected. -/
theorem completes_of_decodeFrom {start pos : Nat} {begun : Option Pending} {acc cs : List Char}
    {bytes : List UInt8} (h : decodeFrom start pos begun acc bytes = .ok cs) :
    Completes begun bytes := by
  induction bytes generalizing start pos begun acc with
  | nil =>
    cases begun with
    | none => rfl
    | some p => cases h
  | cons b bytes ih =>
    rw [completes_cons]
    unfold decodeFrom at h
    cases begun with
    | none =>
      cases hlead : Lead.of b with
      | whole c =>
        simp only [hlead] at h
        exact ⟨none, by simp only [next?, hlead], ih h⟩
      | opens p =>
        simp only [hlead] at h
        exact ⟨some p, by simp only [next?, hlead], ih h⟩
      | stray =>
        simp only [hlead] at h
        cases h
    | some p =>
      dsimp only at h
      by_cases hrange : p.low ≤ b ∧ b ≤ p.high
      · rw [if_pos hrange] at h
        by_cases howed : p.owed ≤ 1
        · rw [if_pos howed] at h
          exact ⟨none, by rw [next?, if_pos hrange, if_pos howed], ih h⟩
        · rw [if_neg howed] at h
          exact ⟨_, by rw [next?, if_pos hrange, if_neg howed], ih h⟩
      · rw [if_neg hrange] at h
        cases h

theorem valid_encode (cs : List Char) : Valid (encode cs) :=
  completes_of_decodeFrom (decode_encode cs)

theorem valid_utf8EncodeChar (c : Char) : Valid (String.utf8EncodeChar c) := by
  have h := valid_encode [c]
  rwa [encode_cons, encode, List.flatMap_nil, List.append_nil] at h

theorem valid_of_decode? {bytes : List UInt8} {s : String} (h : decode? bytes = some s) :
    Valid bytes := by
  unfold decode? at h
  split at h
  · next cs hdecode => exact completes_of_decodeFrom hdecode
  · cases h

/-! ## Characters that have been begun -/

/-- What may follow a character that has been begun: first of all a byte in the announced range. -/
theorem completes_some {p : Pending} {bytes : List UInt8} (h : Completes (some p) bytes) :
    ∃ b rest, bytes = b :: rest ∧ p.low.toNat ≤ b.toNat ∧ b.toNat ≤ p.high.toNat ∧
      Completes (if p.owed ≤ 1 then none
        else some ⟨p.owed - 1, 0x80, 0xBF, p.code * 64 + (b.toNat - 0x80)⟩) rest := by
  cases bytes with
  | nil => cases completes_nil.mp h
  | cons b rest =>
    obtain ⟨begun, hnext, hrest⟩ := completes_cons.mp h
    rw [next?] at hnext
    split at hnext
    · next hrange =>
      rw [UInt8.le_iff_toNat_le, UInt8.le_iff_toNat_le] at hrange
      refine ⟨b, rest, rfl, hrange.1, hrange.2, ?_⟩
      split at hnext
      · next howed =>
        cases hnext
        rw [if_pos howed]
        exact hrest
      · next howed =>
        cases hnext
        rw [if_neg howed]
        exact hrest
    · cases hnext

/-- The last byte of a character, and what follows it. -/
theorem completes_last {low high : UInt8} {code : Nat} {bytes : List UInt8}
    (h : Completes (some ⟨1, low, high, code⟩) bytes) :
    ∃ b rest, bytes = b :: rest ∧ low.toNat ≤ b.toNat ∧ b.toNat ≤ high.toNat ∧ Valid rest :=
  completes_some h

/-- A byte in the middle of a character, and what follows it. -/
theorem completes_more {owed code : Nat} {low high : UInt8} {bytes : List UInt8}
    (h : Completes (some ⟨owed + 2, low, high, code⟩) bytes) :
    ∃ b rest code', bytes = b :: rest ∧ low.toNat ≤ b.toNat ∧ b.toNat ≤ high.toNat ∧
      Completes (some ⟨owed + 1, 0x80, 0xBF, code'⟩) rest := by
  obtain ⟨b, rest, hbytes, hl, hh, hrest⟩ := completes_some h
  rw [if_neg (by simp)] at hrest
  exact ⟨b, rest, _, hbytes, hl, hh, hrest⟩

/-! ## Characters from their bytes -/

theorem toNat_char {v : Nat} (h : v < 0xD800 ∨ 0xDFFF < v ∧ v < 0x110000) :
    (Char.ofNat v).val.toNat = v := by
  rw [Char.ofNat, dif_pos h]
  rfl

theorem ofNat_of_toNat {b : UInt8} {n : Nat} (h : n = b.toNat) : UInt8.ofNat n = b := by
  rw [h, UInt8.ofNat_toNat]

/-- A character of one byte. -/
theorem utf8EncodeChar_one {a : UInt8} (ha : a.toNat < 0x80) :
    String.utf8EncodeChar (Char.ofNat a.toNat) = [a] := by
  rw [String.utf8EncodeChar, toNat_char (by omega), if_pos (by omega), UInt8.ofNat_toNat]

/-- A character of two bytes. -/
theorem utf8EncodeChar_two {a b : UInt8} (ha : 0xC2 ≤ a.toNat) (ha' : a.toNat < 0xE0)
    (hb : 0x80 ≤ b.toNat) (hb' : b.toNat ≤ 0xBF) :
    String.utf8EncodeChar (Char.ofNat ((a.toNat - 0xC0) * 64 + (b.toNat - 0x80))) = [a, b] := by
  rw [String.utf8EncodeChar, toNat_char (by omega), if_neg (by omega), if_pos (by omega),
    ofNat_of_toNat (b := a) (by omega), ofNat_of_toNat (b := b) (by omega)]

/-- A character of three bytes. -/
theorem utf8EncodeChar_three {a b c : UInt8} (ha : 0xE0 ≤ a.toNat) (ha' : a.toNat < 0xF0)
    (hb : 0x80 ≤ b.toNat) (hb' : b.toNat ≤ 0xBF) (hc : 0x80 ≤ c.toNat) (hc' : c.toNat ≤ 0xBF)
    (hlong : a.toNat = 0xE0 → 0xA0 ≤ b.toNat) (hsurrogate : a.toNat = 0xED → b.toNat ≤ 0x9F) :
    String.utf8EncodeChar (Char.ofNat
      (((a.toNat - 0xE0) * 64 + (b.toNat - 0x80)) * 64 + (c.toNat - 0x80))) = [a, b, c] := by
  rw [String.utf8EncodeChar, toNat_char (by omega), if_neg (by omega), if_neg (by omega),
    if_pos (by omega), ofNat_of_toNat (b := a) (by omega), ofNat_of_toNat (b := b) (by omega),
    ofNat_of_toNat (b := c) (by omega)]

/-- A character of four bytes. -/
theorem utf8EncodeChar_four {a b c d : UInt8} (ha : 0xF0 ≤ a.toNat) (ha' : a.toNat ≤ 0xF4)
    (hb : 0x80 ≤ b.toNat) (hb' : b.toNat ≤ 0xBF) (hc : 0x80 ≤ c.toNat) (hc' : c.toNat ≤ 0xBF)
    (hd : 0x80 ≤ d.toNat) (hd' : d.toNat ≤ 0xBF)
    (hlong : a.toNat = 0xF0 → 0x90 ≤ b.toNat) (hlast : a.toNat = 0xF4 → b.toNat ≤ 0x8F) :
    String.utf8EncodeChar (Char.ofNat
      ((((a.toNat - 0xF0) * 64 + (b.toNat - 0x80)) * 64 + (c.toNat - 0x80)) * 64 +
        (d.toNat - 0x80))) = [a, b, c, d] := by
  rw [String.utf8EncodeChar, toNat_char (by omega), if_neg (by omega), if_neg (by omega),
    if_neg (by omega), ofNat_of_toNat (b := a) (by omega), ofNat_of_toNat (b := b) (by omega),
    ofNat_of_toNat (b := c) (by omega), ofNat_of_toNat (b := d) (by omega)]

/-- A character starts with a byte that continues none. -/
theorem head_utf8EncodeChar (c : Char) :
    ∃ b rest, String.utf8EncodeChar c = b :: rest ∧ (b.toNat < 0x80 ∨ 0xBF < b.toNat) := by
  have hv : c.toNat < 0xD800 ∨ 0xDFFF < c.toNat ∧ c.toNat < 0x110000 := c.valid
  rw [String.utf8EncodeChar, show c.val.toNat = c.toNat from rfl]
  split
  · exact ⟨_, _, rfl, .inl (by rw [UInt8.toNat_ofNat']; omega)⟩
  split
  · exact ⟨_, _, rfl, .inr (by rw [UInt8.toNat_ofNat']; omega)⟩
  split
  · exact ⟨_, _, rfl, .inr (by rw [UInt8.toNat_ofNat']; omega)⟩
  · exact ⟨_, _, rfl, .inr (by rw [UInt8.toNat_ofNat']; omega)⟩

/-! ## What the first byte announces -/

theorem Lead.whole_iff {b : UInt8} {c : Char} :
    Lead.of b = .whole c ↔ b.toNat < 0x80 ∧ c = Char.ofNat b.toNat := by
  have hof := Lead.of_ofNat b.toNat_lt
  rw [UInt8.ofNat_toNat] at hof
  rw [hof]
  by_cases h : b.toNat < 0x80
  · rw [if_pos h]
    simp [h, eq_comm]
  · rw [if_neg h]
    constructor
    · intro hwhole
      repeat' split at hwhole
      all_goals cases hwhole
    · exact fun hwhole => absurd hwhole.1 h

/-- The first byte of a character of several bytes, and what it announces: the bytes to come, and
which the next one may be. The ranges keep out long forms, surrogates and what lies beyond the last
character. -/
inductive Announces (b : UInt8) : Pending → Prop
  | two : 0xC2 ≤ b.toNat → b.toNat < 0xE0 → Announces b ⟨1, 0x80, 0xBF, b.toNat - 0xC0⟩
  | three {low high : UInt8} : 0xE0 ≤ b.toNat → b.toNat < 0xF0 → 0x80 ≤ low.toNat →
      high.toNat ≤ 0xBF → (b.toNat = 0xE0 → 0xA0 ≤ low.toNat) →
      (b.toNat = 0xED → high.toNat ≤ 0x9F) → Announces b ⟨2, low, high, b.toNat - 0xE0⟩
  | four {low high : UInt8} : 0xF0 ≤ b.toNat → b.toNat ≤ 0xF4 → 0x80 ≤ low.toNat →
      high.toNat ≤ 0xBF → (b.toNat = 0xF0 → 0x90 ≤ low.toNat) →
      (b.toNat = 0xF4 → high.toNat ≤ 0x8F) → Announces b ⟨3, low, high, b.toNat - 0xF0⟩

theorem announces_of_opens {b : UInt8} {p : Pending} (h : Lead.of b = .opens p) :
    Announces b p := by
  have hof := Lead.of_ofNat b.toNat_lt
  rw [UInt8.ofNat_toNat, h] at hof
  split at hof
  · cases hof
  split at hof
  · cases hof
  split at hof
  · cases hof
    exact .two (by omega) (by omega)
  split at hof
  · next hb =>
    cases hof
    rw [show 0 = b.toNat - 0xE0 by omega]
    exact .three (by omega) (by omega) (by simp) (by simp) (by simp) (by omega)
  split at hof
  · next hb =>
    cases hof
    rw [show 0xD = b.toNat - 0xE0 by omega]
    exact .three (by omega) (by omega) (by simp) (by simp) (by omega) (by simp)
  split at hof
  · cases hof
    exact .three (by omega) (by omega) (by simp) (by simp) (by omega) (by omega)
  split at hof
  · next hb =>
    cases hof
    rw [show 0 = b.toNat - 0xF0 by omega]
    exact .four (by omega) (by omega) (by simp) (by simp) (by simp) (by omega)
  split at hof
  · cases hof
    exact .four (by omega) (by omega) (by simp) (by simp) (by omega) (by omega)
  split at hof
  · next hb =>
    cases hof
    rw [show 4 = b.toNat - 0xF0 by omega]
    exact .four (by omega) (by omega) (by simp) (by simp) (by omega) (by simp)
  · cases hof

/-! ## Text and only text -/

/-- Bytes that start with a character are its bytes and bytes that follow it. -/
theorem exists_char_of_valid {b : UInt8} {bytes : List UInt8} (h : Valid (b :: bytes)) :
    ∃ c rest, b :: bytes = String.utf8EncodeChar c ++ rest ∧ Valid rest := by
  obtain ⟨begun, hnext, hrest⟩ := completes_cons.mp h
  rw [next?] at hnext
  cases hlead : Lead.of b with
  | whole c =>
    rw [hlead] at hnext
    cases hnext
    obtain ⟨hb, rfl⟩ := Lead.whole_iff.mp hlead
    exact ⟨_, bytes, by rw [utf8EncodeChar_one hb]; rfl, hrest⟩
  | stray =>
    rw [hlead] at hnext
    cases hnext
  | opens p =>
    rw [hlead] at hnext
    cases hnext
    cases announces_of_opens hlead with
    | two ha ha' =>
      obtain ⟨x, rest, rfl, hx, hx', hrest⟩ := completes_last hrest
      exact ⟨_, rest, by rw [utf8EncodeChar_two ha ha' hx hx']; rfl, hrest⟩
    | three ha ha' hl hh hlong hsurrogate =>
      obtain ⟨x, rest, _, rfl, hx, hx', hrest⟩ := completes_more hrest
      obtain ⟨y, rest, rfl, hy, hy', hrest⟩ := completes_last hrest
      have hchar := utf8EncodeChar_three ha ha' (Nat.le_trans hl hx) (Nat.le_trans hx' hh) hy hy'
        (fun he => Nat.le_trans (hlong he) hx) (fun he => Nat.le_trans hx' (hsurrogate he))
      exact ⟨_, rest, by rw [hchar]; rfl, hrest⟩
    | four ha ha' hl hh hlong hlast =>
      obtain ⟨x, rest, _, rfl, hx, hx', hrest⟩ := completes_more hrest
      obtain ⟨y, rest, _, rfl, hy, hy', hrest⟩ := completes_more hrest
      obtain ⟨z, rest, rfl, hz, hz', hrest⟩ := completes_last hrest
      have hchar := utf8EncodeChar_four ha ha' (Nat.le_trans hl hx) (Nat.le_trans hx' hh) hy hy' hz
        hz' (fun he => Nat.le_trans (hlong he) hx) (fun he => Nat.le_trans hx' (hlast he))
      exact ⟨_, rest, by rw [hchar]; rfl, hrest⟩

/-- **Bytes are whole characters exactly if they are the writing of a text.** -/
theorem valid_iff {bytes : List UInt8} : Valid bytes ↔ ∃ cs, bytes = encode cs := by
  constructor
  · intro h
    induction hn : bytes.length using Nat.strongRecOn generalizing bytes with
    | ind n ih =>
      cases bytes with
      | nil => exact ⟨[], rfl⟩
      | cons b rest =>
        obtain ⟨c, more, hbytes, hmore⟩ := exists_char_of_valid h
        have hlength := congrArg List.length hbytes
        obtain ⟨lead, tail, hc, -⟩ := head_utf8EncodeChar c
        rw [List.length_append, hc] at hlength
        simp only [List.length_cons] at hlength hn
        obtain ⟨cs, rfl⟩ := ih more.length (by omega) hmore rfl
        exact ⟨c :: cs, hbytes⟩
  · rintro ⟨cs, rfl⟩
    exact valid_encode cs

/-- The reader takes the writings of texts, each for its text, and nothing else. -/
theorem decode_eq_ok_iff {bytes : List UInt8} {cs : List Char} :
    decode bytes = .ok cs ↔ bytes = encode cs := by
  constructor
  · intro h
    obtain ⟨cs', rfl⟩ := valid_iff.mp (completes_of_decodeFrom h)
    rw [decode_encode] at h
    cases h
    rfl
  · rintro rfl
    exact decode_encode cs

theorem eq_encode_of_decode? {bytes : List UInt8} {s : String} (h : decode? bytes = some s) :
    bytes = encode s.toList := by
  rw [decode?] at h
  split at h
  · rename_i cs hcs
    cases h
    rw [String.toList_ofList]
    exact decode_eq_ok_iff.mp hcs
  · exact absurd h (by simp)

/-! ## Where a character may start -/

/-- A character that has been begun goes on with continuation bytes only. -/
def Owes : Option Pending → Prop
  | none => True
  | some p => 0x80 ≤ p.low.toNat ∧ p.high.toNat ≤ 0xBF

theorem owes_of_announces {b : UInt8} {p : Pending} (h : Announces b p) : Owes (some p) := by
  cases h with
  | two => exact ⟨by simp, by simp⟩
  | three _ _ hl hh => exact ⟨hl, hh⟩
  | four _ _ hl hh => exact ⟨hl, hh⟩

theorem owes_next {begun begun' : Option Pending} {b : UInt8}
    (h : next? begun b = some begun') : Owes begun' := by
  cases begun with
  | none =>
    rw [next?] at h
    split at h
    · cases h
      trivial
    · next p hlead =>
      cases h
      exact owes_of_announces (announces_of_opens hlead)
    · cases h
  | some p =>
    rw [next?] at h
    split at h
    · split at h
      · cases h
        trivial
      · cases h
        exact ⟨by simp, by simp⟩
    · cases h

/-- A character never starts inside another one: what has been begun before it is nothing. -/
theorem completes_utf8EncodeChar {begun : Option Pending} {c : Char} {rest : List UInt8}
    (ho : Owes begun) (h : Completes begun (String.utf8EncodeChar c ++ rest)) :
    begun = none ∧ Valid rest := by
  have hnone : begun = none := by
    obtain ⟨b, more, hc, hb⟩ := head_utf8EncodeChar c
    cases begun with
    | none => rfl
    | some p =>
      rw [hc] at h
      obtain ⟨b', rest', heq, hl, hh, -⟩ := completes_some h
      cases heq
      have := ho.1
      have := ho.2
      omega
  subst hnone
  exact ⟨rfl, (completes_append (valid_utf8EncodeChar c)).mp h⟩

/-! ## Bytes of one character each -/

/-- Bytes that are ASCII characters. -/
def Ascii (bytes : List UInt8) : Prop := ∀ b ∈ bytes, b.toNat < 0x80

-- byte by byte, where search may come upon an instance that goes through all bytes there are
instance : DecidablePred Ascii := List.decidableBAll _

theorem ascii_nil : Ascii [] := by
  intro b hb
  cases hb

theorem ascii_cons {b : UInt8} {bytes : List UInt8} (hb : b.toNat < 0x80) (h : Ascii bytes) :
    Ascii (b :: bytes) := by
  intro x hx
  rcases List.mem_cons.1 hx with rfl | hx
  · exact hb
  · exact h x hx

theorem ascii_append {u v : List UInt8} (hu : Ascii u) (hv : Ascii v) : Ascii (u ++ v) := by
  intro b hb
  rcases List.mem_append.1 hb with h | h
  · exact hu b h
  · exact hv b h

theorem valid_of_ascii {bytes : List UInt8} (h : Ascii bytes) : Valid bytes := by
  induction bytes with
  | nil => rfl
  | cons b bytes ih =>
    refine completes_cons.mpr ⟨none, ?_, ih fun x hx => h x (List.mem_cons_of_mem b hx)⟩
    rw [next?, Lead.whole_iff.mpr ⟨h b List.mem_cons_self, rfl⟩]

theorem valid_cons {b : UInt8} {bytes : List UInt8} (hb : b.toNat < 0x80) (h : Valid bytes) :
    Valid (b :: bytes) :=
  valid_append (valid_of_ascii (ascii_cons hb ascii_nil)) h

end LoginService.Text.Utf8
