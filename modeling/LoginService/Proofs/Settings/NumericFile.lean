import LoginService.Proofs.Settings.Decimal
import LoginService.Proofs.Settings.Numeric
import LoginService.Proofs.Text.Utf8

/-!
# A file with one numeric setting

A file of two lines sets one numeric setting to a number in decimal. Up to the number the scanner
goes the same way whatever the number is; the number is one plain scalar, however long, because none
of its characters ends a word or begins anything else.
-/

namespace LoginService.Settings

open Json (printInt)
open Yaml

/-! ## A number at the end of a block mapping -/

namespace InNumber

variable {c : Char} (h : InNumber c)
include h

theorem isBlank : Yaml.isBlank c = false := by
  simp only [Yaml.isBlank, Bool.or_eq_false_iff, beq_eq_false_iff_ne]
  exact ⟨h.ne (by decide), h.ne (by decide)⟩

theorem isBreak : Yaml.isBreak c = false := by
  simp only [Yaml.isBreak, Bool.or_eq_false_iff, beq_eq_false_iff_ne]
  refine ⟨⟨⟨⟨?_, ?_⟩, ?_⟩, ?_⟩, ?_⟩ <;> exact h.ne (by decide)

theorem isAllowed : Yaml.isAllowed c = true := by
  rcases h with h | rfl
  · have hrange : 48 ≤ c.toNat ∧ c.toNat ≤ 57 := Char.isDigit_iff_toNat.1 h
    simp only [Yaml.isAllowed, Bool.or_eq_true, Bool.and_eq_true, decide_eq_true_eq, beq_iff_eq]
    omega
  · rfl

end InNumber

/-- A number is one word. -/
theorem takeWord?_number {ds : List Char} (h : ∀ d ∈ ds, InNumber d) :
    takeWord? false (ds ++ ['\n']) = some (ds, ['\n']) := by
  induction ds with
  | nil => rfl
  | cons d ds ih =>
    have hd := h d List.mem_cons_self
    rw [List.cons_append, takeWord?, hd.isBlank, hd.isBreak,
      ih fun c hc => h c (List.mem_cons_of_mem d hc)]
    simp [hd.ne (d := ':') (by decide)]

/-- A number before the last line end is a plain scalar, after which no line is indented. -/
theorem readPlain_number {c : Char} {cs : List Char} (h : ∀ d ∈ c :: cs, InNumber d) {margin : Nat}
    (hmargin : 0 < margin) {index line column : Nat} (hcolumn : column ≠ 0) :
    readPlain false margin ⟨c :: cs ++ ['\n'], index, line, column⟩
      = some ⟨c :: cs, ⟨[], index + (cs.length + 1) + 1, line + 1, 0⟩, true⟩ := by
  have hc := h c List.mem_cons_self
  have hmarker : ∀ sign, Cursor.atMarker ⟨c :: cs ++ ['\n'], index, line, column⟩ sign = false := by
    intro sign
    simp [Cursor.atMarker, hcolumn]
  have hhash : Cursor.looksAt ⟨c :: cs ++ ['\n'], index, line, column⟩ '#' = false := by
    simp [Cursor.looksAt, hc.ne (d := '#') (by decide)]
  rw [readPlain, readPlainFrom, Cursor.atDocumentMarker, hmarker, hmarker, hhash]
  dsimp only
  rw [takeWord?_number h]
  simp [endsWord, Yaml.isBlank, Yaml.isBreak, Cursor.past, readGap, readGapFrom, Cursor.skipBreak,
    Cursor.breakText, Gap.addBreak, Gap.text, hmargin, lineSeparator, paragraphSeparator]

/-- The scanner after the colon of a member of a mapping that is indented by two in another one. -/
def atValue (tokens : List Token) (column : Nat) (rest : List Char) (index line : Nat) :
    Scanner where
  cursor := ⟨rest, index, line, column⟩
  tokens := tokens
  margin := 3
  margins := [1, 0]
  keyAllowed := false

theorem skipToToken_number {c : Char} (hc : InNumber c) (tokens : List Token)
    (column : Nat) (cs : List Char) (index line : Nat) :
    (atValue tokens column (' ' :: c :: cs) index line).skipToToken
      = atValue tokens (column + 1) (c :: cs) (index + 1) line := by
  have hspace : c ≠ ' ' := hc.ne (by decide)
  have htab : c ≠ '\t' := hc.ne (by decide)
  have hhash : c ≠ '#' := hc.ne (by decide)
  simp [Scanner.skipToToken, Scanner.skipToTokenFrom, atValue, Cursor.looksAt, Cursor.skipWhile,
    Cursor.takeWhile, Cursor.past, Cursor.skipComment, Cursor.atEnd, endsLine, Scanner.inFlow,
    hspace, htab, hhash, hc.isBreak]

theorem scanToken?_number {c : Char} {cs : List Char} (h : ∀ d ∈ c :: cs, InNumber d)
    (hsign : c = '-' → cs ≠ []) (tokens : List Token) {column : Nat} (hcolumn : column ≠ 0)
    (index line : Nat) :
    (atValue tokens column (c :: cs ++ ['\n']) index line).scanToken? c (cs ++ ['\n'])
      = (atValue tokens column (c :: cs ++ ['\n']) index line).scanPlain? := by
  have hc := h c List.mem_cons_self
  have hother : c ≠ '%' ∧ c ≠ '[' ∧ c ≠ ']' ∧ c ≠ '\x7b' ∧ c ≠ '\x7d' ∧ c ≠ ',' ∧ c ≠ '?' ∧
      c ≠ ':' ∧ c ≠ '*' ∧ c ≠ '&' ∧ c ≠ '!' ∧ c ≠ '|' ∧ c ≠ '>' ∧ c ≠ '\'' ∧ c ≠ '"' ∧ c ≠ '#' ∧
      c ≠ '@' ∧ c ≠ '`' := by
    and_intros <;> exact hc.ne (by decide)
  -- a minus sign is part of the number, because a digit comes after it
  have hminus : c = '-' → ∃ d ds, cs = d :: ds ∧ InNumber d := by
    intro hc
    obtain ⟨d, ds, rfl⟩ := List.exists_cons_of_ne_nil (hsign hc)
    exact ⟨d, ds, rfl, h d (by simp)⟩
  have hentry : (c == '-' && endsWord (cs ++ ['\n'])) = false := by
    rw [Bool.and_eq_false_imp]
    intro hc
    obtain ⟨d, ds, rfl, hd⟩ := hminus (by simpa using hc)
    simp [endsWord, hd.isBlank, hd.isBreak]
  have hstart : Scanner.startsPlain false c (cs ++ ['\n']) = true := by
    unfold Scanner.startsPlain
    by_cases hcm : c = '-'
    · obtain ⟨d, ds, rfl, hd⟩ := hminus hcm
      simp [hcm, hd.isBlank]
    · simp [hcm, hother, hc.isBlank, hc.isBreak, isFlowIndicator]
  have hmarker : ∀ sign, Cursor.atMarker ⟨c :: cs ++ ['\n'], index, line, column⟩ sign = false := by
    intro sign
    simp [Cursor.atMarker, hcolumn]
  simp only [Scanner.scanToken?, atValue, hmarker, hentry, Scanner.inFlow]
  simp [hother, hstart, hcolumn]

/-- A number at the end of the text is the value of the member, and all mappings end after it. -/
theorem run_number {c : Char} {cs : List Char} (h : ∀ d ∈ c :: cs, InNumber d)
    (hsign : c = '-' → cs ≠ []) (fuel : Nat) (tokens : List Token) {column : Nat}
    (hcolumn : 1 ≤ column) (index line : Nat) :
    (Scanner.run (fuel + 2) (atValue tokens column (' ' :: c :: cs ++ ['\n']) index line)).map
        (·.tokens)
      = some (.blockEnd :: .blockEnd :: .scalar true (String.ofList (c :: cs)) :: tokens) := by
  have hcolumn' : column + 1 ≠ 0 := Nat.succ_ne_zero _
  have hdeep : ¬ column + 1 + 1 < 3 := by omega
  have hplain : (atValue tokens (column + 1) (c :: cs ++ ['\n']) (index + 1) line).scanPlain?
      = some { atValue (.scalar true (String.ofList (c :: cs)) :: tokens) 0 []
          (index + 1 + (cs.length + 1) + 1) (line + 1) with keyAllowed := true } := by
    change (readPlain false 3 ⟨c :: cs ++ ['\n'], index + 1, line, column + 1⟩).bind _ = _
    rw [readPlain_number h (by decide) hcolumn']
    rfl
  have hstep : (atValue tokens column (' ' :: c :: cs ++ ['\n']) index line).skipToToken
      = atValue tokens (column + 1) (c :: cs ++ ['\n']) (index + 1) line :=
    skipToToken_number (h c List.mem_cons_self) ..
  have hstays : (atValue tokens (column + 1) (c :: cs ++ ['\n']) (index + 1) line).closeBlocksTo
        (column + 1 + 1)
      = atValue tokens (column + 1) (c :: cs ++ ['\n']) (index + 1) line := by
    simp [atValue, Scanner.closeBlocksTo, Scanner.closeBlocks, Scanner.inFlow, hdeep]
  rw [Scanner.run, hstep]
  change (((atValue tokens (column + 1) (c :: cs ++ ['\n']) (index + 1) line).closeBlocksTo
    (column + 1 + 1)).scanToken? c (cs ++ ['\n']) >>= Scanner.run (fuel + 1)).map (·.tokens) = _
  rw [hstays, scanToken?_number h hsign tokens hcolumn', hplain]
  rfl

/-- A sign alone is not the text of a number. -/
theorem printInt_ne_minus (n : Int) : printInt n ≠ ['-'] := by
  by_cases hn : 0 ≤ n
  · rw [Json.printInt_of_nonneg hn]
    intro h
    have hdigit := Json.isDigit_toDigits n.toNat '-' (by simp [h])
    cases hdigit
  · rw [Json.printInt_of_neg (by omega)]
    intro h
    exact Nat.toDigits_ne_nil (List.cons.inj h).2

/-! ## The names before the number -/

end LoginService.Settings

namespace LoginService.NumericSetting

open Json (printInt)
open Settings Yaml

/-- A file up to the number: the name of the section on a line, and the name of the setting. -/
def names (setting : NumericSetting) : List Char :=
  (setting.keys.1 ++ ":\n  " ++ setting.keys.2 ++ ":").toList

/-- The tokens up to the number, last one first. -/
def nameTokens (setting : NumericSetting) : List Token :=
  [.value, .scalar true setting.keys.2, .key, .blockMappingStart,
   .value, .scalar true setting.keys.1, .key, .blockMappingStart]

/-- What a file means in which a scalar stands for the number. -/
def document (setting : NumericSetting) (text : String) : Document :=
  ⟨some (.mapping none [(.scalar none true setting.keys.1,
    .mapping none [(.scalar none true setting.keys.2, .scalar none true text)])]), []⟩

/-- Up to the number the scanner goes the same way whatever comes then. -/
theorem run_names (setting : NumericSetting) : ∃ column index, 1 ≤ column ∧
    ∀ fuel rest, Scanner.run (fuel + 4) { cursor := { rest := setting.names ++ ' ' :: rest } }
      = Scanner.run fuel (atValue setting.nameTokens column (' ' :: rest) index 1) := by
  cases setting with
  | port => exact ⟨7, 15, by decide, fun fuel rest => by cbv⟩
  | shutdownTimeout => exact ⟨24, 32, by decide, fun fuel rest => by cbv⟩
  | maxConnections => exact ⟨18, 28, by decide, fun fuel rest => by cbv⟩
  | acquireTimeout => exact ⟨23, 33, by decide, fun fuel rest => by cbv⟩

theorem ofTokens?_nameTokens (setting : NumericSetting) (text : String) :
    Document.ofTokens?
      (.blockEnd :: .blockEnd :: .scalar true text :: setting.nameTokens).reverse
      = some (setting.document text) := by
  cases setting <;> cbv

/-! ## The file -/

/-- The text of a file that sets one setting to a number in decimal, and nothing else. -/
def fileText (setting : NumericSetting) (n : Int) : List Char :=
  setting.names ++ ' ' :: printInt n ++ ['\n']

theorem parse?_fileText (setting : NumericSetting) (n : Int) :
    Document.parse? (setting.fileText n) = some (setting.document (toString n)) := by
  obtain ⟨c, cs, hcs, -⟩ := head_printInt n
  have hnumber : ∀ d ∈ c :: cs, InNumber d := fun d hd => inNumber_of_mem_printInt (hcs ▸ hd)
  have hsign : c = '-' → cs ≠ [] := by
    rintro rfl rfl
    exact printInt_ne_minus n hcs
  have hnames : setting.names.all isAllowed = true := by
    cases setting <;> decide
  have hallowed : (setting.fileText n).all isAllowed = true := by
    have hdigits : (c :: cs).all isAllowed = true :=
      List.all_eq_true.mpr fun d hd => (hnumber d hd).isAllowed
    rw [fileText, hcs, List.append_assoc, List.all_append, hnames, List.cons_append, List.all_cons,
      List.all_append, hdigits]
    rfl
  obtain ⟨column, index, hcolumn, hrun⟩ := setting.run_names
  have hlength : 2 ≤ setting.names.length := by
    cases setting <;> decide
  obtain ⟨fuel, hfuel⟩ : ∃ fuel, (setting.fileText n).length + 1 = fuel + 2 + 4 := by
    refine ⟨setting.names.length + cs.length - 2, ?_⟩
    simp only [fileText, hcs, List.length_append, List.length_cons, List.length_nil]
    omega
  have hscan : scan? (setting.fileText n) = some
      (.blockEnd :: .blockEnd :: .scalar true (toString n) :: setting.nameTokens).reverse := by
    have hend := run_number hnumber hsign fuel setting.nameTokens hcolumn index 1
    have htext : String.ofList (c :: cs) = toString n := by
      rw [← hcs]
      exact String.ofList_toList
    rw [scan?, hallowed, hfuel, fileText, hcs, List.append_assoc, List.cons_append, hrun]
    rw [htext] at hend
    have hreverse := congrArg (Option.map List.reverse) hend
    rw [Option.map_map] at hreverse
    exact hreverse
  rw [Document.parse?, hscan]
  exact setting.ofTokens?_nameTokens (toString n)

theorem fileTree?_fileText (setting : NumericSetting) (name : String) (n : Int) :
    fileTree? (some ⟨name, Text.Utf8.encode (setting.fileText n)⟩)
      = some (.nested (.file name) (.scalar (.file name) (.ofPlain (toString n)))
          [setting.keys.1, setting.keys.2]) := by
  rw [fileTree?, fileMembers?, Text.Utf8.decode_encode]
  show ((Document.parse? (setting.fileText n)).bind (documentMembers? (.file name))).map _ = _
  rw [parse?_fileText]
  rfl

end LoginService.NumericSetting
