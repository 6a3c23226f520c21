import LoginService.Yaml.Cursor

/-!
# Block scalars

A block scalar is a header and indented lines. Literal text keeps its line ends; folded text joins
lines that do not begin with a blank. The header tells what becomes of the line ends after the last
line, and may give the indentation, which otherwise is that of the first line that is not empty.
-/

namespace LoginService.Yaml

/-- What becomes of the line ends after the last line. -/
inductive Chomping where
  /-- The first one is kept. -/
  | clip
  | strip
  | keep
  deriving DecidableEq, Repr

/-- The header of a block scalar. -/
structure BlockHeader where
  chomping : Chomping := .clip
  /-- How much deeper than its surroundings the text is, if that is given. -/
  increment : Option Nat := none

/-- A sign that tells what becomes of the last line ends. -/
def chompingOf? (c : Char) : Option Chomping :=
  if c = '+' then some .keep else if c = '-' then some .strip else none

/-- The value of a digit that gives an indentation. -/
def incrementOf? (c : Char) : Option Nat :=
  if '0' ≤ c ∧ c ≤ '9' then some (c.toNat - 48) else none

/-- The signs of a header, in either order. An indentation of zero is refused. -/
def readHeader? (c : Cursor) : Option (BlockHeader × Cursor) :=
  let first := c.rest.head?
  let (header, after) : BlockHeader × Cursor :=
    match first.bind chompingOf? with
    | some chomping =>
      match c.skip.rest.head?.bind incrementOf? with
      | some n => (⟨chomping, some n⟩, c.skip.skip)
      | none => (⟨chomping, none⟩, c.skip)
    | none =>
      match first.bind incrementOf? with
      | some n =>
        match c.skip.rest.head?.bind chompingOf? with
        | some chomping => (⟨chomping, some n⟩, c.skip.skip)
        | none => (⟨.clip, some n⟩, c.skip)
      | none => ({}, c)
  if header.increment = some 0 then none else some (header, after)

/-- Empty lines and the indentation of the line after them. -/
structure Indentation where
  breaks : List Char := []
  /-- The greatest column that spaces led to. -/
  widest : Nat := 0

/-- Step over empty lines and indentation. The indentation is `indent` deep, or as deep as it goes
if that is not known. The fuel bounds the number of lines. -/
def readIndentationFrom (indent : Option Nat) :
    Nat → Indentation → Cursor → Option (Indentation × Cursor)
  | 0, i, c => some (i, c)
  | fuel + 1, i, c =>
    let spaces := c.rest.takeWhile (· == ' ')
    let count := match indent with
      | none => spaces.length
      | some n => min spaces.length (n - c.column)
    let c := c.past count (c.rest.drop count)
    let i := { i with widest := max i.widest c.column }
    let shallow := match indent with
      | none => true
      | some n => c.column < n
    if shallow && c.looksAt '\t' then none
    else if !c.atEnd && endsLine c.rest then
      readIndentationFrom indent fuel { i with breaks := i.breaks ++ c.breakText } c.skipBreak
    else some (i, c)

/-- Step over empty lines and indentation. -/
def readIndentation (indent : Option Nat) (c : Cursor) : Option (Indentation × Cursor) :=
  readIndentationFrom indent (c.rest.length + 1) {} c

/-- What has been read of a block scalar. -/
structure BlockText where
  text : List Char := []
  /-- The end of the last line. -/
  lineEnd : List Char := []
  /-- The ends of empty lines after it. -/
  emptyLines : List Char := []
  /-- Whether the last line begins with a blank. -/
  indented : Bool := false

/-- The text before one more line, which begins with a blank or does not. -/
def BlockText.joined (b : BlockText) (folded indented : Bool) : List Char :=
  if folded && b.lineEnd == ['\n'] && !b.indented && !indented then
    b.text ++ (if b.emptyLines.isEmpty then [' '] else b.emptyLines)
  else b.text ++ b.lineEnd ++ b.emptyLines

/-- The lines of a block scalar. -/
def readBlockLines (folded : Bool) (indent : Nat) :
    Nat → BlockText → Cursor → Option (BlockText × Cursor)
  | 0, b, c => some (b, c)
  | fuel + 1, b, c =>
    if c.column ≠ indent || c.atEnd then some (b, c)
    else
      let indented := c.rest.head?.any isBlank
      let (line, c) := c.takeWhile (fun ch => !isBreak ch)
      match readIndentation (some indent) c.skipBreak with
      | none => none
      | some (i, next) =>
        readBlockLines folded indent fuel
          ⟨b.joined folded indented ++ line, c.breakText, i.breaks, indented⟩ next

/-- The text of a block scalar, with its last line ends treated as the header says. -/
def BlockText.finish (b : BlockText) : Chomping → List Char
  | .strip => b.text
  | .clip => b.text ++ b.lineEnd
  | .keep => b.text ++ b.lineEnd ++ b.emptyLines

/-- A block scalar, after the sign that begins it. `margin` is the least column that a nested block
may begin at. -/
def readBlock (folded : Bool) (margin : Nat) (c : Cursor) : Option (List Char × Cursor) := do
  let (header, c) ← readHeader? c
  let c := c.skipBlanks.skipComment
  if !endsLine c.rest then none
  let c := c.skipBreak
  let given := header.increment.map (· + (margin - 1))
  let (i, c) ← readIndentation given c
  let indent := given.getD (max i.widest (max margin 1))
  let (b, c) ← readBlockLines folded indent (c.rest.length + 1) { emptyLines := i.breaks } c
  return (b.finish header.chomping, c)

end LoginService.Yaml
