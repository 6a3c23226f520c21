/-!
# Reading position in a YAML text

The layout of a YAML text carries meaning, so a cursor knows how many characters it has passed, on
which line it stands and at which column. Lines are ended by carriage returns and line feeds, alone
or as a pair, and by the separators of Unicode.
-/

namespace LoginService.Yaml

/-! ## Characters -/

/-- The next-line control. -/
def nextLine : Char := '\u0085'

/-- The line separator. -/
def lineSeparator : Char := '\u2028'

/-- The paragraph separator. -/
def paragraphSeparator : Char := '\u2029'

/-- Whether a character ends a line. -/
def isBreak (c : Char) : Bool :=
  c == '\n' || c == '\r' || c == nextLine || c == lineSeparator || c == paragraphSeparator

/-- Whether a character is a space or a tab. -/
def isBlank (c : Char) : Bool := c == ' ' || c == '\t'

/-- Whether a character may stand in the name of an anchor, a directive or a tag handle. -/
def isNameChar (c : Char) : Bool :=
  ('0' ≤ c && c ≤ '9') || ('a' ≤ c && c ≤ 'z') || ('A' ≤ c && c ≤ 'Z') || c == '_' || c == '-'

/-- Whether a character may stand in a text at all: controls may not, but for tabs and line ends. -/
def isAllowed (c : Char) : Bool :=
  let n := c.toNat
  n == 0x09 || n == 0x0A || n == 0x0D || (0x20 ≤ n && n ≤ 0x7E) || n == 0x85 ||
    (0xA0 ≤ n && n ≤ 0xFFFD) || 0x10000 ≤ n

/-- Whether what comes next is a blank, the end of a line or the end of the text. -/
def endsWord : List Char → Bool
  | [] => true
  | c :: _ => isBlank c || isBreak c

/-- Whether what comes next is the end of a line or of the text. -/
def endsLine : List Char → Bool
  | [] => true
  | c :: _ => isBreak c

/-! ## Cursors -/

/-- The unread part of a text and where it begins. -/
structure Cursor where
  rest : List Char
  /-- How many characters come before. -/
  index : Nat := 0
  line : Nat := 0
  column : Nat := 0
  deriving Repr

namespace Cursor

/-- Whether the text is at its end. -/
def atEnd (c : Cursor) : Bool := c.rest.isEmpty

/-- Whether the next character is this one. -/
def looksAt (c : Cursor) (ch : Char) : Bool := c.rest.head? == some ch

/-- Step over one character of a line. -/
def skip (c : Cursor) : Cursor :=
  match c.rest with
  | [] => c
  | _ :: rest => ⟨rest, c.index + 1, c.line, c.column + 1⟩

/-- Step over `count` characters of a line, leaving `rest`. -/
def past (c : Cursor) (count : Nat) (rest : List Char) : Cursor :=
  ⟨rest, c.index + count, c.line, c.column + count⟩

/-- Step over the end of a line. -/
def skipBreak (c : Cursor) : Cursor :=
  match c.rest with
  | [] => c
  | '\r' :: '\n' :: rest => ⟨rest, c.index + 2, c.line + 1, 0⟩
  | _ :: rest => ⟨rest, c.index + 1, c.line + 1, 0⟩

/-- What the end of a line stands for in a text: a line feed, but separators are kept. -/
def breakText (c : Cursor) : List Char :=
  match c.rest with
  | [] => []
  | ch :: _ => if ch = lineSeparator ∨ ch = paragraphSeparator then [ch] else ['\n']

/-- Step over characters of a line while a condition holds; give them, too. -/
def takeWhile (p : Char → Bool) (c : Cursor) : List Char × Cursor :=
  let taken := c.rest.takeWhile p
  (taken, c.past taken.length (c.rest.drop taken.length))

/-- Step over characters of a line while a condition holds. -/
def skipWhile (p : Char → Bool) (c : Cursor) : Cursor := (c.takeWhile p).2

/-- Step over blanks. -/
def skipBlanks (c : Cursor) : Cursor := c.skipWhile isBlank

/-- Step over a comment, if there is one, up to the end of the line. -/
def skipComment (c : Cursor) : Cursor :=
  if c.looksAt '#' then c.skipWhile (fun ch => !isBreak ch) else c

/-- Whether three signs that mark the start or the end of a document begin the line. -/
def atMarker (c : Cursor) (sign : Char) : Bool :=
  c.column == 0 &&
    match c.rest with
    | x :: y :: z :: rest => x == sign && y == sign && z == sign && endsWord rest
    | _ => false

/-- Whether a document starts or ends here. -/
def atDocumentMarker (c : Cursor) : Bool := c.atMarker '-' || c.atMarker '.'

end Cursor

/-! ## Gaps -/

/-- Blanks and line ends between two words of a scalar. -/
structure Gap where
  /-- The blanks before the first line end. -/
  blanks : List Char := []
  /-- What the line ends stand for. -/
  breaks : List Char := []
  /-- The least column of a tab after a line end. -/
  leastTab : Option Nat := none
  deriving Repr

/-- The text of a gap: a single line end becomes a space, and of several line ends the first one is
dropped. A separator is never dropped. -/
def Gap.text (g : Gap) : List Char :=
  match g.breaks with
  | [] => g.blanks
  | ['\n'] => [' ']
  | '\n' :: more => more
  | breaks => breaks

/-- A gap with one more blank. -/
def Gap.addBlank (g : Gap) (ch : Char) (column : Nat) : Gap :=
  if g.breaks.isEmpty then { g with blanks := g.blanks ++ [ch] }
  else if ch = '\t' then { g with leastTab := some (min column (g.leastTab.getD column)) }
  else g

/-- A gap with one more line end. -/
def Gap.addBreak (g : Gap) (text : List Char) : Gap :=
  { g with breaks := g.breaks ++ text }

/-- Step over blanks and line ends; the fuel bounds their number. -/
def readGapFrom : Nat → Gap → Cursor → Gap × Cursor
  | 0, g, c => (g, c)
  | fuel + 1, g, c =>
    match c.rest with
    | [] => (g, c)
    | ch :: _ =>
      if isBlank ch then readGapFrom fuel (g.addBlank ch c.column) c.skip
      else if isBreak ch then readGapFrom fuel (g.addBreak c.breakText) c.skipBreak
      else (g, c)

/-- Step over blanks and line ends. -/
def readGap (c : Cursor) : Gap × Cursor := readGapFrom c.rest.length {} c

end LoginService.Yaml
