import LoginService.Yaml.Token

/-!
# Nodes of a YAML document

The tokens of a text are put together to a tree of scalars, sequences and mappings. A node may be
anchored; an alias refers to the node anchored last under its name. Tags are completed with what
their handles stand for. A text holds at most one document.
-/

namespace LoginService.Yaml

/-- A node. -/
inductive Node where
  | scalar (tag : Option String) (plain : Bool) (text : String)
  | sequence (tag : Option String) (items : List Node)
  | mapping (tag : Option String) (members : List (Node × Node))
  /-- The node that was anchored as the one of this number. -/
  | alias (anchor : Nat)
  deriving Repr

/-- A missing node. -/
def Node.empty : Node := .scalar none true ""

/-- A document: its root, if it has one, and its anchored nodes by number. -/
structure Document where
  root : Option Node
  anchored : List (Nat × Node)
  deriving Repr

/-- What the reader of a document knows. -/
structure ReaderState where
  tokens : List Token
  /-- What handles stand for. -/
  handles : List (String × String)
  /-- Names of anchors, the last one first, with their numbers. -/
  anchors : List (String × Nat) := []
  /-- The anchored nodes that have been read. -/
  anchored : List (Nat × Node) := []

namespace ReaderState

/-- The state after one token more. -/
def next (s : ReaderState) : ReaderState := { s with tokens := s.tokens.drop 1 }

/-- Whether the next token is one of these. -/
def looksAt (s : ReaderState) (ts : List Token) : Bool :=
  s.tokens.head?.any ts.contains

/-- Name the node that is read next. -/
def name (s : ReaderState) (anchor : String) : ReaderState :=
  { s with anchors := (anchor, s.anchors.length) :: s.anchors }

end ReaderState

/-- What is written before a node. -/
structure Properties where
  anchor : Option String := none
  tag : Option TagText := none

/-- An anchor and a tag, in either order. -/
def readProperties (s : ReaderState) : Properties × ReaderState :=
  match s.tokens with
  | .anchor a :: .tag t :: _ => (⟨some a, some t⟩, s.next.next)
  | .tag t :: .anchor a :: _ => (⟨some a, some t⟩, s.next.next)
  | .anchor a :: _ => (⟨some a, none⟩, s.next)
  | .tag t :: _ => (⟨none, some t⟩, s.next)
  | _ => ({}, s)

/-- The full name of a tag; nothing if its handle is unknown. -/
def fullTag? (handles : List (String × String)) (t : TagText) : Option String :=
  if t.handle = "" then some t.suffix else (handles.lookup t.handle).map (· ++ t.suffix)

/-- A node read with its properties. -/
abbrev NodeRead := Option (Node × ReaderState)

mutual

/-- A node. Within brackets there are no block collections, and only as the value or the key of a
block mapping may a sequence stand without indentation of its own. -/
def readNode (inBlock unindented : Bool) : Nat → ReaderState → NodeRead
  | 0, _ => none
  | fuel + 1, s =>
    match s.tokens with
    | .alias name :: _ => (s.anchors.lookup name).map fun n => (.alias n, s.next)
    | _ => do
      let (properties, s) := readProperties s
      let tag ← match properties.tag with
        | none => some none
        | some t => (fullTag? s.handles t).map some
      match properties.anchor with
      | none => readContent inBlock unindented fuel tag properties.tag.isSome s
      | some anchor =>
        let number := s.anchors.length
        let (node, s) ← readContent inBlock unindented fuel tag true (s.name anchor)
        return (node, { s with anchored := (number, node) :: s.anchored })

/-- What a node is, after its anchor and its tag. Where these stand, the node itself may be
missing. -/
def readContent (inBlock unindented : Bool) :
    Nat → Option String → Bool → ReaderState → NodeRead
  | 0, _, _, _ => none
  | fuel + 1, tag, mayMiss, s =>
    match s.tokens with
    | .scalar plain text :: _ =>
      some (.scalar (if tag = some "!" then none else tag) plain text, s.next)
    | .flowSequenceStart :: _ => do
      let (items, s) ← readFlowItems fuel true s.next
      return (.sequence tag items, s)
    | .flowMappingStart :: _ => do
      let (members, s) ← readFlowMembers fuel true s.next
      return (.mapping tag members, s)
    | t :: _ =>
      if unindented && t == .blockEntry then do
        let (items, s) ← readUnindentedItems fuel s
        return (.sequence tag items, s)
      else if inBlock && t == .blockSequenceStart then do
        let (items, s) ← readBlockItems fuel s.next
        return (.sequence tag items, s)
      else if inBlock && t == .blockMappingStart then do
        let (members, s) ← readBlockMembers fuel s.next
        return (.mapping tag members, s)
      else if mayMiss then some (.scalar tag true "", s)
      else none
    | [] => if mayMiss then some (.scalar tag true "", s) else none

/-- The entries of a block sequence and its end. -/
def readBlockItems : Nat → ReaderState → Option (List Node × ReaderState)
  | 0, _ => none
  | fuel + 1, s =>
    match s.tokens with
    | .blockEnd :: _ => some ([], s.next)
    | .blockEntry :: _ => do
      let s := s.next
      let (item, s) ←
        if s.looksAt [.blockEntry, .blockEnd] then some (Node.empty, s)
        else readNode true false fuel s
      let (items, s) ← readBlockItems fuel s
      return (item :: items, s)
    | _ => none

/-- The entries of a sequence without indentation of its own. -/
def readUnindentedItems : Nat → ReaderState → Option (List Node × ReaderState)
  | 0, _ => none
  | fuel + 1, s =>
    match s.tokens with
    | .blockEntry :: _ => do
      let s := s.next
      let (item, s) ←
        if s.looksAt [.blockEntry, .key, .value, .blockEnd] then some (Node.empty, s)
        else readNode true false fuel s
      let (items, s) ← readUnindentedItems fuel s
      return (item :: items, s)
    | _ => some ([], s)

/-- The members of a block mapping and its end. -/
def readBlockMembers : Nat → ReaderState → Option (List (Node × Node) × ReaderState)
  | 0, _ => none
  | fuel + 1, s =>
    match s.tokens with
    | .blockEnd :: _ => some ([], s.next)
    | .key :: _ => do
      let s := s.next
      let (key, s) ←
        if s.looksAt [.key, .value, .blockEnd] then some (Node.empty, s)
        else readNode true true fuel s
      let (value, s) ← readBlockValue fuel s
      let (members, s) ← readBlockMembers fuel s
      return ((key, value) :: members, s)
    | _ => none

/-- The value of a member of a block mapping. -/
def readBlockValue : Nat → ReaderState → NodeRead
  | 0, _ => none
  | fuel + 1, s =>
    match s.tokens with
    | .value :: _ =>
      let s := s.next
      if s.looksAt [.key, .value, .blockEnd] then some (Node.empty, s)
      else readNode true true fuel s
    | _ => some (Node.empty, s)

/-- The items of a sequence in brackets and its end. An item may be a mapping of one member. -/
def readFlowItems : Nat → Bool → ReaderState → Option (List Node × ReaderState)
  | 0, _, _ => none
  | fuel + 1, first, s =>
    match s.tokens with
    | .flowSequenceEnd :: _ => some ([], s.next)
    | t :: _ => do
      if !first && t != .flowEntry then none
      let s := if first then s else s.next
      match s.tokens with
      | .flowSequenceEnd :: _ => some ([], s.next)
      | .key :: _ =>
        let (item, s) ← readFlowPair fuel s.next
        let (items, s) ← readFlowItems fuel false s
        return (item :: items, s)
      | _ =>
        let (item, s) ← readNode false false fuel s
        let (items, s) ← readFlowItems fuel false s
        return (item :: items, s)
    | [] => none

/-- A mapping of one member in brackets. A key that is missing takes the token after it along. -/
def readFlowPair : Nat → ReaderState → NodeRead
  | 0, _ => none
  | fuel + 1, s => do
    let (key, s) ←
      if s.looksAt [.value, .flowEntry, .flowSequenceEnd] then some (Node.empty, s.next)
      else readNode false false fuel s
    let (value, s) ← readFlowValue .flowSequenceEnd fuel s
    return (.mapping none [(key, value)], s)

/-- The value of a member in brackets or braces, which `close` may end. -/
def readFlowValue (close : Token) : Nat → ReaderState → NodeRead
  | 0, _ => none
  | fuel + 1, s =>
    match s.tokens with
    | .value :: _ =>
      let s := s.next
      if s.looksAt [.flowEntry, close] then some (Node.empty, s)
      else readNode false false fuel s
    | _ => some (Node.empty, s)

/-- The members of a mapping in braces and its end. A node that is no key has no value. -/
def readFlowMembers : Nat → Bool → ReaderState → Option (List (Node × Node) × ReaderState)
  | 0, _, _ => none
  | fuel + 1, first, s =>
    match s.tokens with
    | .flowMappingEnd :: _ => some ([], s.next)
    | t :: _ => do
      if !first && t != .flowEntry then none
      let s := if first then s else s.next
      match s.tokens with
      | .flowMappingEnd :: _ => some ([], s.next)
      | .key :: _ =>
        let s := s.next
        let (key, s) ←
          if s.looksAt [.value, .flowEntry, .flowMappingEnd] then some (Node.empty, s)
          else readNode false false fuel s
        let (value, s) ← readFlowValue .flowMappingEnd fuel s
        let (members, s) ← readFlowMembers fuel false s
        return ((key, value) :: members, s)
      | _ =>
        let (key, s) ← readNode false false fuel s
        let (members, s) ← readFlowMembers fuel false s
        return ((key, Node.empty) :: members, s)
    | [] => none

end

/-! ## Documents -/

/-- What the handles stand for that need no directive. -/
def builtInHandles : List (String × String) := [("!", "!"), ("!!", "tag:yaml.org,2002:")]

/-- The directives before a document: at most one version, which must be known, and no handle
twice. -/
def readDirectives? (versioned : Bool) (handles : List (String × String)) :
    List Token → Option (List (String × String) × List Token)
  | .directive (.version major minor) :: rest =>
    if versioned || major ≠ 1 || (minor ≠ 1 && minor ≠ 2) then none
    else readDirectives? true handles rest
  | .directive (.handle name start) :: rest =>
    if (handles.lookup name).isSome then none
    else readDirectives? versioned (handles ++ [(name, start)]) rest
  | rest => some (handles, rest)

/-- The root of a document that was started explicitly. It may be missing. -/
def readRoot? (fuel : Nat) (s : ReaderState) : NodeRead :=
  match s.tokens with
  | [] | .documentStart :: _ | .documentEnd :: _ | .directive _ :: _ => some (Node.empty, s)
  | _ => readNode true false fuel s

/-- Whether nothing but marks of the end follows a document. -/
def endsStream (tokens : List Token) : Bool := tokens.all (· == .documentEnd)

/-- The document that some tokens make up. -/
def Document.ofTokens? (tokens : List Token) : Option Document := do
  let fuel := 4 * tokens.length + 8
  let start ← match tokens with
    | [] => return ⟨none, []⟩
    | .directive _ :: _ | .documentStart :: _ =>
      let (handles, rest) ← readDirectives? false [] tokens
      match rest with
      | .documentStart :: rest =>
        readRoot? fuel { tokens := rest, handles := handles ++ builtInHandles }
      | _ => none
    | _ => readNode true false fuel { tokens, handles := builtInHandles }
  let (root, s) := start
  if endsStream s.tokens then return ⟨some root, s.anchored⟩ else none

/-- The document that a text spells. -/
def Document.parse? (text : List Char) : Option Document := do
  Document.ofTokens? (← scan? text)

end LoginService.Yaml
