import LoginService.Proofs.Json.Position
import LoginService.Proofs.Json.StandsFor

/-!
# The reader of documents with embedded documents

The reader goes over a text once and puts the value of an embedded document in its place as soon as
it has read it, so its grammar is the composition of the grammar and of what values stand for
(`parseWithin_ok_iff`). As an embedded document is shorter than the one around it, the bound on how
deep documents are embedded is never met (`parse_eq_ok_iff`). What is wrong with a document, or with
one that it embeds, is refused at a place in it (`exists_position_of_parse`).
-/

namespace LoginService.Json

open Relation (Comp)
open Text.Utf8 (encode)

/-! ## The reader of objects -/

section
variable {c c' : Cursor}

/-- A member at the beginning of an object, and the cursor after its key. -/
theorem firstKey?_of_member {R : Spelling Value} {bytes rest : List UInt8} {m : String × Value}
    (h : Member R bytes m) (hc : c.rest = bytes ++ rest) :
    ∃ c₁ middle value, firstKey? c = some (m.1, c₁) ∧ Blank middle ∧ Padded R value m.2 ∧
      c₁.rest = middle ++ Byte.colon :: (value ++ rest) := by
  obtain ⟨before, inside, middle, blanks, text, after, hb, hi, hm, hbl, ht, ha, rfl⟩ :=
    exists_of_member h
  have hq : c.skipBlanks.rest = Byte.quote :: (inside ++ Byte.quote :: (middle ++
      Byte.colon :: (blanks ++ text ++ after ++ rest))) := by
    refine skipBlanks_rest ?_ hb (noBlank_cons.2 (by decide))
    rw [hc]
    simp
  obtain ⟨c₁, hc₁, hr⟩ := readText_append hi (advance_rest hq)
  refine ⟨c₁, middle, blanks ++ text ++ after, ?_, hm, ⟨blanks, text, after, hbl, ht, ha, rfl⟩, hr⟩
  rw [firstKey?, nextKey_first hq]
  dsimp only
  rw [hc₁]
  rfl

/-- The key that the reader looks at is that of the first member. -/
theorem firstKey?_of_listed {R : Spelling Value} {body rest : List UInt8}
    {members : List (String × Value)} (h : Listed (Member R) body members)
    (hc : c.rest = body ++ Byte.closeBrace :: rest) :
    (firstKey? c).map Prod.fst = firstKey members := by
  rcases h with ⟨rfl, hw⟩ | h
  · rw [firstKey?, nextKey_close (skipBlanks_rest hc hw (noBlank_cons.2 (by decide)))]
    rfl
  cases h with
  | one hm =>
    obtain ⟨c₁, -, -, hk, -⟩ := firstKey?_of_member hm hc
    rw [hk]
    rfl
  | more hm _ =>
    rw [List.append_assoc] at hc
    obtain ⟨c₁, -, -, hk, -⟩ := firstKey?_of_member hm hc
    rw [hk]
    rfl

theorem firstKey?_some {key : String} (h : firstKey? c = some (key, c')) :
    ∃ c₁, nextKey true c = .ok (true, c₁) ∧ readText c₁ = .ok (key, c') := by
  unfold firstKey? at h
  split at h
  · rename_i c₁ hk
    refine ⟨c₁, hk, ?_⟩
    cases hread : readText c₁ with
    | error e =>
      rw [hread] at h
      exact absurd h (by simp [Except.toOption])
    | ok p =>
      rw [hread] at h
      cases h
      rfl
  · exact absurd h (by simp)

/-- The first key stands after blanks and a quote. -/
theorem quote_of_nextKey (h : nextKey true c = .ok (true, c')) :
    ∃ ws, Blank ws ∧ c.rest = ws ++ Byte.quote :: c'.rest := by
  obtain ⟨ws, hw, hc, -⟩ := exists_skipBlanks c
  obtain ⟨hf, -⟩ | ⟨-, -, t, ht, hr⟩ | ⟨-, hf, -⟩ := nextKey_cases h
  · exact absurd hf (by simp)
  · exact ⟨ws, hw, by rw [hc, ht, hr]⟩
  · exact absurd hf (by simp)

theorem endObject_append {ws rest : List UInt8} (hw : Blank ws)
    (hc : c.rest = ws ++ Byte.closeBrace :: rest) :
    ∃ c', endObject c = .ok ((), c') ∧ c'.rest = rest := by
  have hs : c.skipBlanks.rest = Byte.closeBrace :: rest :=
    skipBlanks_rest hc hw (noBlank_cons.2 (by decide))
  refine ⟨c.skipBlanks.advance, ?_, advance_rest hs⟩
  rw [endObject]
  simp only [hs, if_true]

theorem brace_of_endObject (h : endObject c = .ok ((), c')) :
    ∃ ws, Blank ws ∧ c.rest = ws ++ Byte.closeBrace :: c'.rest := by
  obtain ⟨ws, hw, hc, -⟩ := exists_skipBlanks c
  rw [endObject] at h
  split at h
  · exact absurd h fail_ne_ok
  rename_i b t hr
  split at h
  · rename_i hb
    cases h
    exact ⟨ws, hw, by rw [hc, hr, hb, advance_rest hr]⟩
  · exact absurd h failAhead_ne_ok

/-- What is read as a string is a value. -/
theorem finds_readStringAs (expected : String) (depth : Nat) :
    Finds (fun c => Read.map .text (readStringAs expected c)) (Spells depth) := by
  intro c c' v h
  obtain ⟨s, hs, rfl⟩ := Read.map_ok h
  obtain ⟨ws, hw, hc, -⟩ := exists_skipBlanks c
  rw [readStringAs, atValue] at hs
  split at hs
  · exact absurd hs fail_ne_ok
  rename_i b t hr
  split at hs
  · rename_i hb
    obtain ⟨inside, hi, hrest⟩ := inside_of_readText hs
    refine ⟨ws, _, hw, spells_of_scalar (Scalar.text ⟨inside, hi, rfl⟩) depth, ?_⟩
    rw [hc, hr, hb, ← advance_rest hr, hrest]
    simp
  · have hends : Ends (refuseType expected c.skipBlanks : Read String) [] none :=
      ends_refuseType _ _
    obtain ⟨e, he⟩ := hends
    rw [he] at hs
    exact absurd hs (by simp)

theorem readEmbedded_ok {parse : List UInt8 → Except Error Value} {v : Value}
    (h : readEmbedded parse c = .ok (v, c')) :
    ∃ s c₁ c₂, readColon c = .ok ((), c₁) ∧ readStringAs "raw value" c₁ = .ok (s, c₂) ∧
      parse (encode s.toList) = .ok v ∧ endObject c₂ = .ok ((), c') := by
  unfold readEmbedded at h
  split at h
  · exact absurd h (by simp)
  rename_i c₁ hcolon
  split at h
  · exact absurd h (by simp)
  rename_i s c₂ hs
  split at h
  · exact absurd h (by simp)
  rename_i w hw
  obtain ⟨⟨⟩, hend, rfl⟩ := Read.map_ok h
  exact ⟨s, c₁, c₂, hcolon, hs, hw, hend⟩

end

section
variable {parse : List UInt8 → Except Error Value} {fuel : Nat} {item : Cursor → Read Value}
  {c c' : Cursor}

theorem resolveObject_embedded (h : firstKey? c = some (embeddingKey, c')) :
    resolveObject parse fuel item c = readEmbedded parse c' := by
  rw [resolveObject, h]
  dsimp only
  rw [if_pos rfl]

theorem resolveObject_plain (h : (firstKey? c).map Prod.fst ≠ some embeddingKey) :
    resolveObject parse fuel item c = readObject fuel item c := by
  unfold resolveObject
  split
  · rename_i key c' hk
    rw [hk] at h
    exact if_neg fun hkey => h (congrArg some hkey)
  · rfl

/-- The reader of embedded documents finds what objects stand for. -/
theorem findsObjects_resolveObject (parse : List UInt8 → Except Error Value) (fuel : Nat) :
    FindsObjects (resolveObject parse fuel) (Denotes (parse · = .ok ·))
      (DenotesMembers (parse · = .ok ·)) := by
  intro depth item c c' v hf h
  by_cases hkey : (firstKey? c).map Prod.fst = some embeddingKey
  · obtain ⟨⟨_, c₁⟩, hk, rfl⟩ := Option.map_eq_some_iff.mp hkey
    rw [resolveObject_embedded hk] at h
    obtain ⟨c₀, hnext, htext⟩ := firstKey?_some hk
    obtain ⟨ws, hw, hc⟩ := quote_of_nextKey hnext
    obtain ⟨s, c₂, c₃, hcolon, hs, hv, hend⟩ := readEmbedded_ok h
    obtain ⟨us, hus, hrest⟩ := brace_of_endObject hend
    -- the key and the string are a list of one member, with the brace after it
    have hitem : Read.map Value.text (readStringAs "raw value" c₂) = .ok (.text s, c₃) := by
      rw [hs]
      rfl
    obtain ⟨body, hbody, hsep⟩ := separated_of_readMember (finds_readStringAs "raw value" depth)
      hw htext hcolon hitem hrest (Or.inl ⟨rfl, hus⟩)
    exact ⟨body, ⟨_, ⟨_, Or.inr hsep, rfl⟩, StandsFor.embedded hv⟩, by rw [hc, hbody]⟩
  · rw [resolveObject_plain hkey] at h
    obtain ⟨body, values, hl, rfl, hc⟩ := listed_of_readObject hf h
    obtain ⟨members, hm, hall⟩ := listed_denotes.mp hl
    rw [firstKey?_of_listed hm hc] at hkey
    exact ⟨body, ⟨_, ⟨members, hm, rfl⟩, StandsFor.object hkey hall⟩, hc⟩

/-- The reader of embedded documents takes what objects stand for. -/
theorem acceptsObjects_resolveObject (parse : List UInt8 → Except Error Value) (fuel : Nat) :
    AcceptsObjects (resolveObject parse fuel) (Denotes (parse · = .ok ·))
      (DenotesMembers (parse · = .ok ·)) fuel := by
  rintro depth item body v c rest ha ⟨_, ⟨members, hm, rfl⟩, hv⟩ hlen hc
  have hkey := firstKey?_of_listed hm hc
  cases hv with
  | object hplain hall =>
    rw [resolveObject_plain (hkey ▸ hplain)]
    exact readObject_append ha (listed_denotes.mpr ⟨members, hm, hall⟩) hlen hc
  | @embedded s _ hv =>
    obtain ⟨c₁, middle, value, hk, hmiddle, ⟨before, text, after, hb, ht, haf, rfl⟩, hr⟩ :=
      firstKey?_of_member (of_listed_singleton hm) hc
    obtain ⟨c₂, hcolon, hr₂⟩ := readColon_append hmiddle hr
    have hread : Ends (readStringAs "raw value" c₂) (after ++ Byte.closeBrace :: rest) (some s) :=
      follows_readStringAs "raw value" depth _ before text _ hb ht (Nat.lt_succ_self _) c₂ _
        (by rw [hr₂]; simp) (stops_blank_cons haf (by decide))
    obtain ⟨c₃, hs, hr₃⟩ := hread
    obtain ⟨c₄, hend, hr₄⟩ := endObject_append haf hr₃
    refine ⟨c₄, ?_, hr₄⟩
    rw [resolveObject_embedded hk, readEmbedded, hcolon]
    dsimp only
    rw [hs]
    dsimp only
    rw [hv]
    dsimp only
    rw [hend]
    rfl

end

/-! ## Documents -/

/-- A document is read as what its value stands for, its embedded documents with one turn less. -/
theorem parseWithin_ok_iff {turns : Nat} {bytes : List UInt8} {v : Value} :
    Value.parseWithin (turns + 1) bytes = .ok v ↔
      ∃ p, Document bytes p ∧ StandsFor (Value.parseWithin turns · = .ok ·) p v := by
  rw [Value.parseWithin, readWhole_ok_iff (layered_denotes _) (findsObjects_resolveObject _ _)
    (acceptsObjects_resolveObject _ _)]
  exact padded_comp

/-- How deep documents may be embedded does not matter as soon as it is more than the length. -/
theorem parseWithin_of_parseWithin {m n : Nat} {bytes : List UInt8} {v : Value}
    (hm : bytes.length < m) (hn : bytes.length < n) (h : Value.parseWithin m bytes = .ok v) :
    Value.parseWithin n bytes = .ok v := by
  induction m generalizing n bytes v with
  | zero => exact absurd hm (Nat.not_lt_zero _)
  | succ m ih =>
    obtain ⟨n, rfl⟩ : ∃ k, n = k + 1 := ⟨n - 1, by omega⟩
    -- what is embedded is shorter than `text`, and takes one turn less
    obtain ⟨p, ⟨before, text, after, hb, ht, ha, rfl⟩, hv⟩ := parseWithin_ok_iff.mp h
    refine parseWithin_ok_iff.mpr ⟨p, ⟨before, text, after, hb, ht, ha, rfl⟩, ?_⟩
    refine StandsFor.of_shorter ht (fun inner w hi hw => ?_) hv
    rw [List.length_append, List.length_append] at hm hn
    exact ih (by omega) (by omega) hw

/-- What a text stands for. -/
def Parses : Spelling Value := fun bytes v => Value.parse bytes = .ok v

/-- **The reader accepts the documents whose embedded documents it accepts**, and gives what they
stand for. -/
theorem parse_eq_ok_iff {bytes : List UInt8} {v : Value} :
    Value.parse bytes = .ok v ↔ ∃ p, Document bytes p ∧ StandsFor Parses p v := by
  rw [Value.parse, parseWithin_ok_iff]
  refine exists_congr fun p => and_congr_right fun hdoc => ?_
  obtain ⟨before, text, after, -, ht, -, rfl⟩ := hdoc
  constructor
  · refine StandsFor.of_shorter ht fun inner w hi hw => ?_
    rw [List.length_append, List.length_append] at hw
    exact parseWithin_of_parseWithin (by omega) (Nat.lt_succ_self _) hw
  · refine StandsFor.of_shorter ht fun inner w hi hw => ?_
    rw [List.length_append, List.length_append]
    exact parseWithin_of_parseWithin (Nat.lt_succ_self _) (by omega) hw

/-- A document whose value stands for itself is read as that value. -/
theorem parse_of_document {bytes : List UInt8} {v : Value} (h : Document bytes v)
    (hself : StandsFor Parses v v) : Value.parse bytes = .ok v :=
  parse_eq_ok_iff.mpr ⟨v, h, hself⟩

/-- An object that embeds a document and holds something else beside it is refused. -/
theorem parse_error_of_embeds {bytes : List UInt8} {members : List (String × Value)}
    (h : Document bytes (.object members)) (hkey : firstKey members = some embeddingKey)
    (hmore : members.length ≠ 1) : ∃ e, Value.parse bytes = .error e := by
  cases hv : Value.parse bytes with
  | error e => exact ⟨e, rfl⟩
  | ok v =>
    obtain ⟨p, hp, hstands⟩ := parse_eq_ok_iff.mp hv
    cases document_unique h hp
    cases hstands with
    | object hplain _ => exact absurd hkey hplain
    | embedded _ => exact absurd rfl hmore

/-! ## Where a document is refused -/

section
variable {parse : List UInt8 → Except Error Value} {c : Cursor}

theorem placed_refuseType {α : Type} (expected : String) (h : 1 ≤ c.line) :
    Placed (refuseType expected c : Read α) := by
  unfold refuseType
  split
  · exact placed_failAhead h _
  split
  · rename_i e he
    exact placed_readScalar? h he
  · rename_i v c' hc
    have hs := placed_readScalar? h hc
    exact placed_fail hs _
  split
  · exact placed_fail h _
  split
  · exact placed_fail h _
  · exact placed_failAhead h _

theorem placed_readStringAs (expected : String) (h : 1 ≤ c.line) :
    Placed (readStringAs expected c) := by
  have hs := one_le_skipBlanks h
  rw [readStringAs, atValue]
  split
  · exact placed_fail hs _
  split
  · exact placed_readText (one_le_advance hs)
  · exact placed_refuseType expected hs

theorem placed_endObject (h : 1 ≤ c.line) : Placed (endObject c) := by
  have hs := one_le_skipBlanks h
  unfold endObject
  dsimp only
  split
  · exact placed_fail hs _
  split
  · exact one_le_advance hs
  · exact placed_failAhead hs _

theorem placed_readEmbedded
    (hparse : ∀ bytes e, parse bytes = .error e → ∃ p, e.position = some p ∧ 1 ≤ p.line)
    (h : 1 ≤ c.line) : Placed (readEmbedded parse c) := by
  have hcolon := placed_readColon h
  unfold readEmbedded
  split
  · rename_i e he
    rwa [he] at hcolon
  rename_i c₁ hc₁
  rw [hc₁] at hcolon
  have hs := placed_readStringAs "raw value" hcolon
  split
  · rename_i e he
    rwa [he] at hs
  rename_i s c₂ hc₂
  rw [hc₂] at hs
  split
  · rename_i e he
    show ∃ p, e.position = some p ∧ 1 ≤ p.line
    exact hparse _ _ he
  · exact placed_map (placed_endObject hs)

theorem placed_firstKey? {key : String} {c' : Cursor} (h : 1 ≤ c.line)
    (hk : firstKey? c = some (key, c')) : 1 ≤ c'.line := by
  obtain ⟨c₁, hnext, htext⟩ := firstKey?_some hk
  have hn := placed_nextKey true h
  rw [hnext] at hn
  have ht := placed_readText hn
  rw [htext] at ht
  exact ht

theorem placesObjects_resolveObject
    (hparse : ∀ bytes e, parse bytes = .error e → ∃ p, e.position = some p ∧ 1 ≤ p.line)
    (fuel : Nat) : PlacesObjects (resolveObject parse fuel) := by
  intro item c hi h
  unfold resolveObject
  split
  · rename_i key c' hk
    split
    · exact placed_readEmbedded hparse (placed_firstKey? h hk)
    · exact placesObjects_readObject fuel hi h
  · exact placesObjects_readObject fuel hi h

end

theorem exists_position_of_parseWithin (turns : Nat) (bytes : List UInt8) (e : Error)
    (h : Value.parseWithin turns bytes = .error e) : ∃ p, e.position = some p ∧ 1 ≤ p.line := by
  induction turns generalizing bytes e with
  | zero =>
    cases h
    exact ⟨_, rfl, Nat.le_refl 1⟩
  | succ turns ih =>
    rw [Value.parseWithin] at h
    refine exists_position_of_readWhole ?_ h
    exact placed_readValue (placesObjects_resolveObject ih _) maxDepth (Nat.le_refl 1)

/-- A text that is refused is refused at a place in it or in a document that it embeds. -/
theorem exists_position_of_parse {bytes : List UInt8} {e : Error}
    (h : Value.parse bytes = .error e) : ∃ p, e.position = some p ∧ 1 ≤ p.line :=
  exists_position_of_parseWithin _ _ _ h

end LoginService.Json
