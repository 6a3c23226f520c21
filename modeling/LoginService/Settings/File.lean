import LoginService.Settings.Tree
import LoginService.Text.Utf8
import LoginService.Yaml.Node

/-!
# Settings in a YAML file

A file gives a dictionary. What a scalar means is decided by how it is written: a plain one may
spell nothing, a truth value, a whole number in one of four bases or a number with a fraction, and
is text otherwise; a quoted one is text. A tag may ask for one of these types. A tag of any other
kind makes a dictionary whose only key is the tag.
-/

namespace LoginService.Settings

open Yaml

/-! ## Numbers -/

/-- The value of one or more digits in a base. -/
def digitsValue? (base : Nat) (cs : List Char) : Option Nat :=
  if cs.isEmpty then none
  else cs.foldlM (fun value c =>
    match Text.hexDigit? c with
    | some d => if d < base then some (value * base + d) else none
    | none => none) 0

/-- The digits after a sign that tells their base. -/
def basedDigits? : List Char → Option (Nat × List Char)
  | '0' :: 'x' :: digits => some (16, digits)
  | '0' :: 'o' :: digits => some (8, digits)
  | '0' :: 'b' :: digits => some (2, digits)
  | _ => none

/-- A text without a sign at its start. -/
def dropSign : List Char → List Char
  | '-' :: rest => rest
  | '+' :: rest => rest
  | cs => cs

/-- Whether a text has digits only but begins with a zero that means nothing; it is no number. -/
def hasIdleZero (cs : List Char) : Bool :=
  match dropSign cs with
  | '0' :: d :: rest => (d :: rest).all Text.isDigit
  | _ => false

/-- The whole number that digits spell, in the base that they tell or in base ten. -/
def magnitude? (cs : List Char) : Option Nat :=
  match basedDigits? cs with
  | some (base, digits) => digitsValue? base digits
  | none => if hasIdleZero cs then none else digitsValue? 10 cs

/-- A whole number that is not written as a negative one. -/
def unsignedOf? (cs : List Char) : Option Nat :=
  match cs with
  | '+' :: digits => magnitude? digits
  | _ => magnitude? cs

/-- A whole number that is written as a negative one. -/
def negativeOf? (cs : List Char) : Option Int :=
  match cs with
  | '-' :: digits => (magnitude? digits).map fun n => -(n : Int)
  | _ => none

/-- The greatest whole number of 128 bits without a sign. -/
def greatestUnsigned : Nat := 340282366920938463463374607431768211455

/-- The least whole number of 128 bits with a sign. -/
def leastSigned : Int := -170141183460469231731687303715884105728

/-- A whole number of at most 128 bits. -/
def integerOf? (cs : List Char) : Option Scalar :=
  match unsignedOf? cs with
  | some n => if n ≤ greatestUnsigned then some (.unsigned n) else none
  | none =>
    match negativeOf? cs with
    | some i => if leastSigned ≤ i then some (.signed i) else none
    | none => none

/-- A number with a fraction or an exponent, or one that is not finite. -/
def floatOf? (cs : List Char) : Option Decimal.Binary64 :=
  let unsigned := if cs.head? = some '+' then cs.drop 1 else cs
  let doubled := cs.head? = some '+' && unsigned.head?.any (fun c => c == '+' || c == '-')
  if doubled then none
  else if [".inf", ".Inf", ".INF"].contains (String.ofList unsigned) then some (.infinite false)
  else if ["-.inf", "-.Inf", "-.INF"].contains (String.ofList cs) then some (.infinite true)
  else if [".nan", ".NaN", ".NAN"].contains (String.ofList cs) then some .nan
  else
    match Decimal.Binary64.ofText? (String.ofList unsigned) with
    | some x => if x.isFinite then some x else none
    | none => none

/-! ## Scalars -/

/-- Whether a text spells nothing. -/
def isNull (s : String) : Bool := ["null", "Null", "NULL", "~"].contains s

/-- The truth value that a text spells. -/
def boolOf? (s : String) : Option Bool :=
  if ["true", "True", "TRUE"].contains s then some true
  else if ["false", "False", "FALSE"].contains s then some false
  else none

/-- What a plain scalar means. -/
def Scalar.ofPlain (s : String) : Scalar :=
  if s = "" || isNull s then .unit
  else
    match boolOf? s with
    | some b => .bool b
    | none =>
      let cs := s.toList
      match integerOf? cs with
      | some n => n
      | none =>
        match (if hasIdleZero cs then none else floatOf? cs) with
        | some x => .float x
        | none => .text s

/-- The beginning of the names of the built-in tags. -/
def builtInTag (name : String) : String := "tag:yaml.org,2002:" ++ name

/-- What a scalar means that may have a tag; nothing if it is not of the type that the tag names. -/
def Scalar.ofTagged? (tag : Option String) (plain : Bool) (s : String) : Option Scalar :=
  match tag with
  | none => some (if plain then .ofPlain s else .text s)
  | some tag =>
    if tag = builtInTag "bool" then (boolOf? s).map .bool
    else if tag = builtInTag "int" then integerOf? s.toList
    else if tag = builtInTag "float" then (floatOf? s.toList).map .float
    else if tag = builtInTag "null" then (if isNull s then some .unit else none)
    else some (.text s)

/-- The name that a tag of another kind gives. -/
def tagName? (tag : Option String) : Option String :=
  match tag.map String.toList with
  | some ['!'] => some "!"
  | some ('!' :: name) => some (String.ofList name)
  | _ => none

/-! ## Trees -/

/-- How deep containers may be nested. -/
def maxDepth : Nat := 128

mutual

/-- How many events a node is made of. -/
def eventCount : Node → Nat
  | .scalar .. | .alias _ => 1
  | .sequence _ items => 2 + itemEventCount items
  | .mapping _ members => 2 + memberEventCount members

/-- How many events items are made of. -/
def itemEventCount : List Node → Nat
  | [] => 0
  | node :: rest => eventCount node + itemEventCount rest

/-- How many events members are made of. -/
def memberEventCount : List (Node × Node) → Nat
  | [] => 0
  | (key, value) :: rest => eventCount key + eventCount value + memberEventCount rest

end

/-- The node that a node refers to, and how many aliases may still be followed. -/
def followAlias? (anchored : List (Nat × Node)) (jumps : Nat) : Node → Option (Node × Nat)
  | .alias n =>
    match jumps with
    | 0 => none
    | jumps + 1 => (anchored.lookup n).map fun node => (node, jumps)
  | node => some (node, jumps)

/-- The text of a key. -/
def keyText? (anchored : List (Nat × Node)) (jumps : Nat) (node : Node) : Option (String × Nat) :=
  match followAlias? anchored jumps node with
  | some (.scalar _ _ text, jumps) => some (text, jumps)
  | _ => none

/-- Apply a reader that counts jumps to all elements of a list. -/
def readAll {α β : Type} (read : α → Nat → Option (β × Nat)) :
    List α → Nat → Option (List β × Nat)
  | [], jumps => some ([], jumps)
  | a :: rest, jumps => do
    let (b, jumps) ← read a jumps
    let (bs, jumps) ← readAll read rest jumps
    return (b :: bs, jumps)

/-- A member of a dictionary, read by its key and its value. -/
def readMember (anchored : List (Nat × Node)) (read : Node → Nat → Option (Tree × Nat))
    (member : Node × Node) (jumps : Nat) : Option ((String × Tree) × Nat) := do
  let (key, jumps) ← keyText? anchored jumps member.1
  let (value, jumps) ← read member.2 jumps
  return ((key, value), jumps)

/-- The dictionary that a tag of another kind makes of a value. -/
def wrapTag (source : Source) (tag : Option String) (t : Tree) : Tree :=
  match tagName? tag with
  | some name => .dict source [(name, t)]
  | none => t

/-- A scalar as a tree. -/
def scalarTree? (source : Source) (tag : Option String) (plain : Bool) (text : String) :
    Option Tree :=
  let type := if (tagName? tag).isSome then none else tag
  (Scalar.ofTagged? type plain text).map fun s => wrapTag source tag (.scalar source s)

/-- The tree that a node stands for, with at most `depth` containers around any part of it. -/
def treeOf? (source : Source) (anchored : List (Nat × Node)) :
    Nat → Node → Nat → Option (Tree × Nat)
  | depth, node, jumps =>
    match followAlias? anchored jumps node with
    | none => none
    | some (.alias _, _) => none
    | some (.scalar tag plain text, jumps) =>
      (scalarTree? source tag plain text).map fun t => (t, jumps)
    | some (.sequence tag items, jumps) =>
      match depth with
      | 0 => none
      | depth + 1 =>
        (readAll (treeOf? source anchored depth) items jumps).map fun (items, jumps) =>
          (wrapTag source tag (.list source items), jumps)
    | some (.mapping tag members, jumps) =>
      match depth with
      | 0 => none
      | depth + 1 =>
        (readAll (readMember anchored (treeOf? source anchored depth)) members jumps).map
          fun (members, jumps) =>
            (wrapTag source tag (.dict source (Members.ofList members)), jumps)

/-- The members of the dictionary that a document is. A document without content is an empty one. -/
def documentMembers? (source : Source) (d : Document) : Option Members :=
  match d.root with
  | none => some []
  | some (.scalar _ true "") => some []
  | some (.mapping _ members) =>
    let jumps := 100 * eventCount (.mapping none members)
    (readAll (readMember d.anchored (treeOf? source d.anchored (maxDepth - 1))) members jumps).map
      fun (members, _) => Members.ofList members
  | some _ => none

/-- The members that the bytes of a file spell. -/
def fileMembers? (path : String) (bytes : List UInt8) : Option Members := do
  let text ← (Text.Utf8.decode bytes).toOption
  documentMembers? (.file path) (← Document.parse? text)

end LoginService.Settings
