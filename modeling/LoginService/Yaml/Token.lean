import LoginService.Yaml.Block
import LoginService.Yaml.Plain
import LoginService.Yaml.Quoted
import LoginService.Yaml.Tag

/-!
# Tokens of a YAML text

A text is cut into tokens, among them the starts and ends of block collections, which no character
stands for: a block collection starts where a line is indented more deeply than the one around it
and ends where a line is indented less.

Whether a node is the key of a mapping shows only at the colon after it. So the place of every node
that may be a key is kept, one for each level of brackets, and at the colon the tokens that mark it
as a key are put in before it. A key is on one line and at most 1024 characters long.
-/

namespace LoginService.Yaml

/-- A token. -/
inductive Token where
  | directive (d : Directive)
  | documentStart
  | documentEnd
  | blockSequenceStart
  | blockMappingStart
  | blockEnd
  | flowSequenceStart
  | flowSequenceEnd
  | flowMappingStart
  | flowMappingEnd
  | blockEntry
  | flowEntry
  | key
  | value
  | alias (name : String)
  | anchor (name : String)
  | tag (t : TagText)
  /-- A scalar, written plainly or not. -/
  | scalar (plain : Bool) (text : String)
  deriving DecidableEq, Repr

/-- The place of a node that may turn out to be a key. -/
structure KeyPlace where
  /-- How many tokens come before it. -/
  tokens : Nat
  index : Nat
  line : Nat
  column : Nat
  /-- Whether it must be a key, because it begins a line of a block mapping. -/
  required : Bool
  deriving Repr

/-- A text that is being cut into tokens. -/
structure Scanner where
  cursor : Cursor
  /-- The tokens so far, last one first. -/
  tokens : List Token := []
  /-- The least column of a block nested in the innermost block collection. -/
  margin : Nat := 0
  /-- The margins of the collections around it, innermost first. -/
  margins : List Nat := []
  /-- Whether a node that starts here may be a key. -/
  keyAllowed : Bool := true
  /-- The place of a possible key outside all brackets, or within the innermost ones. -/
  keyPlace : Option KeyPlace := none
  /-- The places within the brackets around, innermost first. -/
  outerKeyPlaces : List (Option KeyPlace) := []

namespace Scanner

/-- Whether the scanner is within brackets. -/
def inFlow (s : Scanner) : Bool := !s.outerKeyPlaces.isEmpty

/-- Add a token. -/
def push (s : Scanner) (t : Token) : Scanner := { s with tokens := t :: s.tokens }

/-- Put a token in where only `count` tokens come before it. -/
def insertAt (s : Scanner) (count : Nat) (t : Token) : Scanner :=
  let later := s.tokens.length - count
  { s with tokens := s.tokens.take later ++ t :: s.tokens.drop later }

/-- Step over characters of a line. -/
def skip (s : Scanner) (count : Nat) : Scanner :=
  { s with cursor := s.cursor.past count (s.cursor.rest.drop count) }

/-- Allow or forbid a key to start here. -/
def allowKey (s : Scanner) (allowed : Bool) : Scanner := { s with keyAllowed := allowed }

/-! ## Blanks and comments -/

/-- Step over blanks, comments and line ends before a token. A tab may not stand where a key may
start outside brackets, and outside brackets a key may start on every new line. The fuel bounds the
number of lines. -/
def skipToTokenFrom : Nat → Scanner → Scanner
  | 0, s => s
  | fuel + 1, s =>
    let c := s.cursor
    let c := if c.index = 0 ∧ c.looksAt '\ufeff' then c.skip else c
    let tabs := s.inFlow || !s.keyAllowed
    let c := (c.skipWhile fun ch => ch == ' ' || (tabs && ch == '\t')).skipComment
    if !c.atEnd && endsLine c.rest then
      skipToTokenFrom fuel { s with cursor := c.skipBreak, keyAllowed := s.keyAllowed || !s.inFlow }
    else { s with cursor := c }

/-- Step over blanks, comments and line ends before a token. -/
def skipToToken (s : Scanner) : Scanner := skipToTokenFrom (s.cursor.rest.length + 1) s

/-! ## Keys -/

/-- How many characters a key may have. -/
def maxKeyLength : Nat := 1024

/-- A place that can no longer be that of a key at the cursor. -/
def isStale (c : Cursor) (k : KeyPlace) : Bool :=
  k.line < c.line || k.index + maxKeyLength < c.index

/-- Forget a place that can no longer be that of a key; nothing if it had to be one. -/
def dropStale? (c : Cursor) : Option KeyPlace → Option (Option KeyPlace)
  | none => some none
  | some k => if isStale c k then (if k.required then none else some none) else some (some k)

/-- Forget all places that can no longer be those of keys. -/
def dropStaleKeys? (s : Scanner) : Option Scanner := do
  let keyPlace ← dropStale? s.cursor s.keyPlace
  let outerKeyPlaces ← s.outerKeyPlaces.mapM (dropStale? s.cursor)
  return { s with keyPlace, outerKeyPlaces }

/-- Forget the innermost place; nothing if it had to be that of a key. -/
def forgetKey? (s : Scanner) : Option Scanner :=
  if s.keyPlace.any (·.required) then none else some { s with keyPlace := none }

/-- Keep the place of a node that starts here, if it may be a key. -/
def keepKey? (s : Scanner) : Option Scanner :=
  if s.keyAllowed then
    let c := s.cursor
    let required := !s.inFlow && s.margin == c.column + 1
    (s.forgetKey?).map fun s =>
      { s with keyPlace := some ⟨s.tokens.length, c.index, c.line, c.column, required⟩ }
  else some s

/-- Enter brackets. -/
def enterFlow (s : Scanner) : Scanner :=
  { s with keyPlace := none, outerKeyPlaces := s.keyPlace :: s.outerKeyPlaces }

/-- Leave brackets. -/
def leaveFlow (s : Scanner) : Scanner :=
  match s.outerKeyPlaces with
  | [] => s
  | place :: places => { s with keyPlace := place, outerKeyPlaces := places }

/-! ## Indentation -/

/-- Start a block collection at a column that is deeper than the innermost one, with its token put
in after `count` tokens. -/
def openBlock (s : Scanner) (column count : Nat) (start : Token) : Scanner :=
  if s.inFlow || column < s.margin then s
  else { s.insertAt count start with margin := column + 1, margins := s.margin :: s.margins }

/-- End block collections, innermost first, until the margin is at most `margin`. -/
def closeBlocks (s : Scanner) (margin : Nat) : List Nat → Scanner
  | [] => { s with margins := [] }
  | outer :: margins =>
    if margin < s.margin then
      closeBlocks { s.push .blockEnd with margin := outer } margin margins
    else { s with margins := outer :: margins }

/-- End the block collections that a line at this column ends. -/
def closeBlocksTo (s : Scanner) (margin : Nat) : Scanner :=
  if s.inFlow then s else s.closeBlocks margin s.margins

/-! ## Tokens -/

/-- The end of the text. -/
def scanEnd? (s : Scanner) : Option Scanner :=
  (s.closeBlocksTo 0).forgetKey?

/-- A directive, at its percent sign. -/
def scanDirective? (s : Scanner) : Option Scanner := do
  let s ← (s.closeBlocksTo 0).forgetKey?
  let (directive, cursor) ← readDirective? s.cursor.skip
  return { s.push (.directive directive) with cursor, keyAllowed := false }

/-- The start or the end of a document. -/
def scanMarker? (s : Scanner) (t : Token) : Option Scanner := do
  let s ← (s.closeBlocksTo 0).forgetKey?
  return ((s.skip 3).push t).allowKey false

/-- An opening bracket or brace. -/
def scanFlowStart? (s : Scanner) (t : Token) : Option Scanner := do
  let s ← s.keepKey?
  return ((s.enterFlow.skip 1).push t).allowKey true

/-- A closing bracket or brace. -/
def scanFlowEnd? (s : Scanner) (t : Token) : Option Scanner := do
  let s ← s.forgetKey?
  return ((s.leaveFlow.skip 1).push t).allowKey false

/-- A comma within brackets. -/
def scanFlowEntry? (s : Scanner) : Option Scanner := do
  let s ← s.forgetKey?
  return ((s.skip 1).push .flowEntry).allowKey true

/-- A dash before an entry. -/
def scanBlockEntry? (s : Scanner) : Option Scanner := do
  if !s.inFlow && !s.keyAllowed then none
  let s := s.openBlock s.cursor.column s.tokens.length .blockSequenceStart
  let s ← s.forgetKey?
  return ((s.skip 1).push .blockEntry).allowKey true

/-- A question mark before a key. -/
def scanKey? (s : Scanner) : Option Scanner := do
  if !s.inFlow && !s.keyAllowed then none
  let s := s.openBlock s.cursor.column s.tokens.length .blockMappingStart
  let s ← s.forgetKey?
  return ((s.skip 1).push .key).allowKey (!s.inFlow)

/-- A colon before a value. If a possible key comes before it, that is the key. -/
def scanValue? (s : Scanner) : Option Scanner :=
  match s.keyPlace with
  | some k =>
    let s := (s.insertAt k.tokens .key).openBlock k.column k.tokens .blockMappingStart
    let s := { s with keyPlace := none }
    some (((s.skip 1).push .value).allowKey false)
  | none =>
    if !s.inFlow && !s.keyAllowed then none
    else
      let s := s.openBlock s.cursor.column s.tokens.length .blockMappingStart
      some (((s.skip 1).push .value).allowKey (!s.inFlow))

/-- A token that is read by `read` and may be part of a key. -/
def scanNode? {α : Type} (s : Scanner) (read : Cursor → Option (α × Cursor)) (token : α → Token) :
    Option Scanner := do
  let s ← s.keepKey?
  let (a, cursor) ← read s.cursor
  return { s.push (token a) with cursor, keyAllowed := false }

/-- A block scalar, at the sign that begins it. -/
def scanBlock? (s : Scanner) (folded : Bool) : Option Scanner := do
  let s ← s.forgetKey?
  let (text, cursor) ← readBlock folded s.margin s.cursor.skip
  return { s.push (.scalar false (String.ofList text)) with cursor, keyAllowed := true }

/-- A plain scalar. After a line end a key may start. -/
def scanPlain? (s : Scanner) : Option Scanner := do
  let s ← s.keepKey?
  let p ← readPlain s.inFlow s.margin s.cursor
  return { s.push (.scalar true (String.ofList p.text)) with
    cursor := p.after, keyAllowed := p.broken }

/-- Whether a plain scalar may begin with this character, before `rest`. -/
def startsPlain (inFlow : Bool) (c : Char) (rest : List Char) : Bool :=
  if c == '-' then !rest.head?.any isBlank
  else if c == '?' || c == ':' then !inFlow && !endsWord rest
  else !(isBlank c || isBreak c || isFlowIndicator c || "#&*!|>'\"%@`".toList.contains c)

/-- The token that begins with this character, before `rest`. -/
def scanToken? (s : Scanner) (c : Char) (rest : List Char) : Option Scanner :=
  let inFlow := s.inFlow
  if s.cursor.column == 0 && c == '%' then s.scanDirective?
  else if s.cursor.atMarker '-' then s.scanMarker? .documentStart
  else if s.cursor.atMarker '.' then s.scanMarker? .documentEnd
  else if c == '[' then s.scanFlowStart? .flowSequenceStart
  else if c == '\x7b' then s.scanFlowStart? .flowMappingStart
  else if c == ']' then s.scanFlowEnd? .flowSequenceEnd
  else if c == '\x7d' then s.scanFlowEnd? .flowMappingEnd
  else if c == ',' then s.scanFlowEntry?
  else if c == '-' && endsWord rest then s.scanBlockEntry?
  else if c == '?' && (inFlow || endsWord rest) then s.scanKey?
  else if c == ':' && (inFlow || endsWord rest) then s.scanValue?
  else if c == '*' then s.scanNode? (fun c => readAnchor? c.skip) .alias
  else if c == '&' then s.scanNode? (fun c => readAnchor? c.skip) .anchor
  else if c == '!' then s.scanNode? (readTag? inFlow) .tag
  else if c == '|' && !inFlow then s.scanBlock? false
  else if c == '>' && !inFlow then s.scanBlock? true
  else if c == '\'' then
    s.scanNode? (fun c => readSingleQuoted c.skip) (fun text => .scalar false (String.ofList text))
  else if c == '"' then
    s.scanNode? (fun c => readDoubleQuoted c.skip) (fun text => .scalar false (String.ofList text))
  else if startsPlain inFlow c rest then s.scanPlain?
  else none

/-- Cut the rest of a text into tokens. The fuel bounds their number. -/
def run : Nat → Scanner → Option Scanner
  | 0, _ => none
  | fuel + 1, s => do
    let s ← s.skipToToken.dropStaleKeys?
    match s.cursor.rest with
    | [] => s.scanEnd?
    | c :: rest => run fuel (← (s.closeBlocksTo (s.cursor.column + 1)).scanToken? c rest)

end Scanner

/-- The tokens of a text, if it can be cut into tokens. -/
def scan? (text : List Char) : Option (List Token) :=
  if !text.all isAllowed then none
  else (Scanner.run (text.length + 1) { cursor := { rest := text } }).map (·.tokens.reverse)

end LoginService.Yaml
