import LoginService.Yaml.Cursor

/-!
# Plain scalars

A plain scalar is written without quotes: words with gaps between them, up to a colon before a
blank, a comment, the start or end of a document, or a line that is not indented deeply enough.
Inside brackets and braces it also ends at these and at commas.
-/

namespace LoginService.Yaml

/-- Whether a character separates the entries of a bracketed collection. -/
def isFlowIndicator (c : Char) : Bool :=
  c == ',' || c == '[' || c == ']' || c == '\x7b' || c == '\x7d'

/-- The next word of a plain scalar and what follows it; nothing if a colon inside brackets is
followed by a character that cannot follow it. -/
def takeWord? (inFlow : Bool) : List Char → Option (List Char × List Char)
  | [] => some ([], [])
  | c :: rest =>
    if isBlank c || isBreak c then some ([], c :: rest)
    else if c = ':' && inFlow && rest.head?.any (fun d => d == '?' || isFlowIndicator d) then none
    else if c = ':' && endsWord rest then some ([], c :: rest)
    else if inFlow && isFlowIndicator c then some ([], c :: rest)
    else (takeWord? inFlow rest).map fun (word, after) => (c :: word, after)

/-- A plain scalar that has been read. -/
structure PlainText where
  text : List Char
  after : Cursor
  /-- Whether a line end follows it. -/
  broken : Bool

/-- The rest of a plain scalar. `indent` is the least column that its lines may begin at, `gap`
comes before the next word, `acc` is the text so far, and the fuel bounds the number of words. -/
def readPlainFrom (inFlow : Bool) (indent : Nat) :
    Nat → List Char → Gap → Cursor → Option PlainText
  | 0, _, _, _ => none
  | fuel + 1, acc, gap, c =>
    let stop : PlainText := ⟨acc, c, !gap.breaks.isEmpty⟩
    if c.atDocumentMarker || c.looksAt '#' then some stop
    else
      match takeWord? inFlow c.rest with
      | none => none
      | some ([], _) => some stop
      | some (word, rest) =>
        let acc := acc ++ gap.text ++ word
        let c := c.past word.length rest
        if endsWord rest && !rest.isEmpty then
          let (gap, c) := readGap c
          if gap.leastTab.any (· < indent) then none
          else if !inFlow && c.column < indent then some ⟨acc, c, !gap.breaks.isEmpty⟩
          else readPlainFrom inFlow indent fuel acc gap c
        else some ⟨acc, c, false⟩

/-- A plain scalar. -/
def readPlain (inFlow : Bool) (indent : Nat) (c : Cursor) : Option PlainText :=
  readPlainFrom inFlow indent (c.rest.length + 1) [] {} c

end LoginService.Yaml
