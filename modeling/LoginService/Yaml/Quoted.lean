import LoginService.Text.Ascii
import LoginService.Yaml.Cursor

/-!
# Quoted scalars

Between single quotes a quote is written twice and nothing else is special. Between double quotes a
backslash begins an escape, and one at the end of a line joins the lines. In both, gaps that hold a
line end are folded.
-/

namespace LoginService.Yaml

/-- What one letter after a backslash stands for. -/
def shortEscape? : Char → Option Char
  | '0' => some '\x00'
  | 'a' => some '\x07'
  | 'b' => some '\x08'
  | 't' => some '\t'
  | '\t' => some '\t'
  | 'n' => some '\n'
  | 'v' => some '\x0b'
  | 'f' => some '\x0c'
  | 'r' => some '\r'
  | 'e' => some '\x1b'
  | ' ' => some ' '
  | '"' => some '"'
  | '/' => some '/'
  | '\\' => some '\\'
  | 'N' => some nextLine
  | '_' => some '\u00a0'
  | 'L' => some lineSeparator
  | 'P' => some paragraphSeparator
  | _ => none

/-- How many hexadecimal digits follow a letter after a backslash. -/
def escapeLength? : Char → Option Nat
  | 'x' => some 2
  | 'u' => some 4
  | 'U' => some 8
  | _ => none

/-- The value of hexadecimal digits. -/
def hexValue? (digits : List Char) : Option Nat :=
  digits.foldlM (fun value d => (Text.hexDigit? d).map (value * 16 + ·)) 0

/-- The character of a code point; surrogates are none. -/
def charOfCode? (code : Nat) : Option Char :=
  if (0xD800 ≤ code ∧ code ≤ 0xDFFF) ∨ 0x10FFFF < code then none else some (Char.ofNat code)

/-- An escape, after its backslash. -/
def readEscape? (c : Cursor) : Option (Char × Cursor) :=
  match c.rest with
  | [] => none
  | letter :: rest =>
    match shortEscape? letter with
    | some ch => some (ch, c.skip)
    | none =>
      match escapeLength? letter with
      | none => none
      | some n =>
        let digits := rest.take n
        if digits.length < n then none
        else
          match (hexValue? digits).bind charOfCode? with
          | some ch => some (ch, c.past (n + 1) (rest.drop n))
          | none => none

/-- What a quoted scalar goes on with. -/
inductive QuotedStep where
  | close (after : Cursor)
  | more (text : List Char) (after : Cursor)

/-- The next part of a scalar between single quotes. -/
def singleStep? (c : Cursor) : List Char → Option QuotedStep
  | [] => none
  | '\'' :: '\'' :: _ => some (.more ['\''] c.skip.skip)
  | '\'' :: _ => some (.close c.skip)
  | ch :: _ =>
    if isBlank ch || isBreak ch then
      let (gap, after) := readGap c
      some (.more gap.text after)
    else some (.more [ch] c.skip)

/-- The next part of a scalar between double quotes. -/
def doubleStep? (c : Cursor) : List Char → Option QuotedStep
  | [] => none
  | '"' :: _ => some (.close c.skip)
  | '\\' :: rest =>
    if !rest.isEmpty && endsLine rest then
      let (gap, after) := readGap c.skip.skipBreak
      some (.more gap.breaks after)
    else (readEscape? c.skip).map fun (ch, after) => .more [ch] after
  | ch :: _ =>
    if isBlank ch || isBreak ch then
      let (gap, after) := readGap c
      some (.more gap.text after)
    else some (.more [ch] c.skip)

/-- The rest of a quoted scalar. No document may start or end inside. The fuel bounds the number of
parts, and `acc` holds the text so far, last character first. -/
def readQuotedFrom (step? : Cursor → List Char → Option QuotedStep) :
    Nat → List Char → Cursor → Option (List Char × Cursor)
  | 0, _, _ => none
  | fuel + 1, acc, c =>
    if c.atDocumentMarker then none
    else
      match step? c c.rest with
      | none => none
      | some (.close after) => some (acc.reverse, after)
      | some (.more text after) => readQuotedFrom step? fuel (text.reverse ++ acc) after

/-- A scalar between single quotes, after the first of them. -/
def readSingleQuoted (c : Cursor) : Option (List Char × Cursor) :=
  readQuotedFrom singleStep? (c.rest.length + 1) [] c

/-- A scalar between double quotes, after the first of them. -/
def readDoubleQuoted (c : Cursor) : Option (List Char × Cursor) :=
  readQuotedFrom doubleStep? (c.rest.length + 1) [] c

end LoginService.Yaml
