import LoginService.Settings.Basic
import LoginService.Settings.Tree
import LoginService.Text.Ascii

/-!
# Settings out of a tree

A section is read from a dictionary, whose keys may come in any number, or from a list of its
settings in the order of declaration. Dictionaries are read in the order of their keys, and the
first setting that cannot be read decides the error, which names the path to it and the source it
came from.
-/

namespace LoginService.Settings

/-! ## Errors -/

/-- What stood where something else was wanted. -/
inductive Found where
  | scalar (s : Scalar)
  | list
  | dict
  deriving DecidableEq, Repr

/-- Why a part of a tree is refused. -/
inductive Cause where
  | wrongType (found : Found) (expected : String)
  | wrongValue (found : Found) (expected : String)
  | wrongLength (length : Nat) (expected : String)
  | missingField (name : String)
  deriving DecidableEq, Repr

/-- A part of a tree that is refused. -/
structure Refusal where
  cause : Cause
  /-- The keys that lead to the part. -/
  path : List String
  source : Source
  deriving DecidableEq, Repr

/-- The wording of what stood there. -/
def Found.message : Found → String
  | .scalar .unit => "unit"
  | .scalar (.bool b) => s!"bool {b}"
  | .scalar (.unsigned n) =>
    if Json.IntRange.u64.holds n then s!"unsigned int `{n}`" else s!"integer `{n}` as u128"
  | .scalar (.signed i) =>
    if Json.IntRange.i64.holds i then s!"signed int `{i}`" else s!"integer `{i}` as i128"
  | .scalar (.float x) => s!"float `{Decimal.positional x}`"
  | .scalar (.text s) => "string " ++ Text.quoted s
  | .list => "sequence"
  | .dict => "map"

/-- The wording of a cause. -/
def Cause.message : Cause → String
  | .wrongType found expected => s!"invalid type: found {found.message}, expected {expected}"
  | .wrongValue found expected => s!"invalid value {found.message}, expected {expected}"
  | .wrongLength length expected => s!"invalid length {length}, expected {expected}"
  | .missingField name => s!"missing field `{name}`"

/-- How a source writes the keys that lead to a setting. -/
def Source.key (path : List String) : Source → String
  | .environment => Text.upper (Text.joinWith "." path)
  | .builtIn | .file _ => Text.joinWith "." ("default" :: path)

/-- How a source is named. -/
def Source.name : Source → String
  | .builtIn => "built-in settings"
  | .file path => path ++ " YAML file"
  | .environment => "`APP_` environment variable(s)"

/-- The wording of a refusal. -/
def Refusal.message (r : Refusal) : String :=
  let key := if r.path.isEmpty then "" else " for key " ++ Text.quoted (r.source.key r.path)
  r.cause.message ++ key ++ " in " ++ r.source.name

/-- The same refusal, seen from one key further up. -/
def Refusal.under (key : String) (r : Refusal) : Refusal :=
  { r with path := key :: r.path }

/-! ## Values -/

/-- What a tree looks like in a message. -/
def Tree.found : Tree → Found
  | .scalar _ s => .scalar s
  | .list .. => .list
  | .dict .. => .dict

/-- Refuse a tree. -/
def Tree.refuse {α : Type} (t : Tree) (cause : Cause) : Except Refusal α :=
  .error ⟨cause, [], t.source⟩

/-- Refuse a tree because something else is expected. -/
def Tree.refuseType {α : Type} (t : Tree) (expected : String) : Except Refusal α :=
  t.refuse (.wrongType t.found expected)

/-- The text that a tree is. -/
def Tree.toText : Tree → Except Refusal String
  | .scalar _ (.text s) => .ok s
  | t => t.refuseType "a string"

/-- The truth value that a tree is. -/
def Tree.toBool : Tree → Except Refusal Bool
  | .scalar _ (.bool b) => .ok b
  | t => t.refuseType "a boolean"

/-- The whole number in a range that a tree is. A number of more than 64 bits is of no type that is
wanted anywhere; a smaller one may still be out of the range. -/
def Tree.toInt (range : Json.IntRange) (t : Tree) : Except Refusal Int :=
  let check (i : Int) : Except Refusal Int :=
    if range.holds i then .ok i else t.refuse (.wrongValue t.found range.name)
  match t with
  | .scalar _ (.unsigned n) =>
    if Json.IntRange.u64.holds n then check n else t.refuseType range.name
  | .scalar _ (.signed i) =>
    if Json.IntRange.i64.holds i then check i else t.refuseType range.name
  | _ => t.refuseType range.name

/-! ## Sections -/

/-- A setting of a section whose settings are collected in `σ`. -/
structure Setting (σ : Type) where
  name : String
  /-- Read the value of the setting into the state. -/
  read : Tree → Except Refusal (σ → σ)

/-- A section. -/
structure Section (σ α : Type) where
  name : String
  /-- The settings in the order of declaration. -/
  settings : List (Setting σ)
  /-- The state with every setting absent. -/
  empty : σ
  /-- The section, or the name of the first setting that is missing. -/
  build : σ → Except String α

namespace Setting

variable {σ : Type}

/-- A setting that holds text. -/
def text (name : String) (put : String → σ → σ) : Setting σ :=
  ⟨name, fun t => (t.toText).map put⟩

/-- A setting that holds a whole number. -/
def int (name : String) (range : Json.IntRange) (put : Int → σ → σ) : Setting σ :=
  ⟨name, fun t => (t.toInt range).map put⟩

/-- A setting that holds a truth value. -/
def bool (name : String) (put : Bool → σ → σ) : Setting σ :=
  ⟨name, fun t => (t.toBool).map put⟩

end Setting

namespace Section

variable {σ α : Type}

/-- How a section describes itself. -/
def title (s : Section σ α) : String := "struct " ++ s.name

/-- How a section describes its length as a list. -/
def lengthTitle (s : Section σ α) : String :=
  let noun := if s.settings.length = 1 then "element" else "elements"
  s!"{s.title} with {s.settings.length} {noun}"

/-- The settings among members, in the order of the keys. A key that names none is passed over. -/
def readMembers (settings : List (Setting σ)) : Members → σ → Except Refusal σ
  | [], state => .ok state
  | (key, value) :: rest, state =>
    match settings.find? (fun s => s.name == key) with
    | none => readMembers settings rest state
    | some setting =>
      match setting.read value with
      | .error r => .error (r.under key)
      | .ok put => readMembers settings rest (put state)

/-- The settings as the items of a list; `none` where there are too few. -/
def readItems : List (Setting σ) → Nat → List Tree → σ → Except Refusal (Option σ)
  | [], _, _, state => .ok (some state)
  | _ :: _, _, [], _ => .ok none
  | setting :: settings, count, item :: items, state =>
    match setting.read item with
    | .error r => .error (r.under (toString count))
    | .ok put => readItems settings (count + 1) items (put state)

/-- The section of a complete state that was read from a tree. -/
def finish (s : Section σ α) (t : Tree) (state : σ) : Except Refusal α :=
  match s.build state with
  | .ok a => .ok a
  | .error name => t.refuse (.missingField name)

/-- The section that a tree is. -/
def read (s : Section σ α) (t : Tree) : Except Refusal α :=
  match t with
  | .dict _ members => readMembers s.settings members s.empty >>= s.finish t
  | .list _ items =>
    readItems s.settings 0 items s.empty >>= fun
      | some state => s.finish t state
      | none => t.refuse (.wrongLength items.length s.lengthTitle)
  | .scalar .. => t.refuseType s.title

/-- A section as a setting of a larger one. -/
def setting {τ : Type} (s : Section σ α) (name : String) (put : α → τ → τ) : Setting τ :=
  ⟨name, fun t => (s.read t).map put⟩

end Section

end LoginService.Settings

/-! ## The sections of the service -/

namespace LoginService

open Settings

/-- The section with the name and the version. -/
def AppSettings.fields : Section AppSettings.Draft AppSettings where
  name := "AppSettings"
  settings := [
    .text "name" (fun x d => { d with name := some x }),
    .text "version" (fun x d => { d with version := some x })]
  empty := {}
  build := AppSettings.ofDraft

/-- The section about listening. -/
def ServerSettings.fields : Section ServerSettings.Draft ServerSettings where
  name := "ServerConfig"
  settings := [
    .text "host" (fun x d => { d with host := some x }),
    .int "port" .u16 (fun x d => { d with port := some x }),
    .int "shutdown_timeout_secs" .u64 (fun x d => { d with shutdownTimeoutSecs := some x })]
  empty := {}
  build := ServerSettings.ofDraft

/-- The section about the account table. -/
def DatabaseSettings.fields : Section DatabaseSettings.Draft DatabaseSettings where
  name := "DatabaseConfig"
  settings := [
    .text "dsn" (fun x d => { d with dsn := some x }),
    .int "max_connections" .u32 (fun x d => { d with maxConnections := some x }),
    .int "acquire_timeout_secs" .u64 (fun x d => { d with acquireTimeoutSecs := some x })]
  empty := {}
  build := DatabaseSettings.ofDraft

/-- The section about mismatches. -/
def AuthSettings.fields : Section AuthSettings.Draft AuthSettings where
  name := "AuthConfig"
  settings := [
    .bool "reject_with_unauthorized" (fun x d => { d with rejectWithUnauthorized := some x })]
  empty := {}
  build := AuthSettings.ofDraft

namespace Settings

/-- All sections. -/
def fields : Section Draft Settings where
  name := "AppConfig"
  settings := [
    AppSettings.fields.setting "app" (fun x d => { d with app := some x }),
    ServerSettings.fields.setting "server" (fun x d => { d with server := some x }),
    DatabaseSettings.fields.setting "database" (fun x d => { d with database := some x }),
    AuthSettings.fields.setting "auth" (fun x d => { d with auth := some x })]
  empty := {}
  build := ofDraft

/-- The settings that a tree holds. -/
def ofTree (t : Tree) : Except Refusal Settings := fields.read t

/-! ## Settings as a tree -/

/-- A text that is built in. -/
def builtInText (s : String) : Tree := .scalar .builtIn (.text s)

/-- A whole number that is built in. -/
def builtInNumber (n : Nat) : Tree := .scalar .builtIn (.unsigned n)

/-- Settings as a tree of built-in values. -/
def toTree (s : Settings) : Tree :=
  .dict .builtIn [
    ("app", .dict .builtIn [
      ("name", builtInText s.app.name),
      ("version", builtInText s.app.version)]),
    ("auth", .dict .builtIn [
      ("reject_with_unauthorized", .scalar .builtIn (.bool s.auth.rejectWithUnauthorized))]),
    ("database", .dict .builtIn [
      ("acquire_timeout_secs", builtInNumber s.database.acquireTimeoutSecs.toNat),
      ("dsn", builtInText s.database.dsn),
      ("max_connections", builtInNumber s.database.maxConnections.toNat)]),
    ("server", .dict .builtIn [
      ("host", builtInText s.server.host),
      ("port", builtInNumber s.server.port.toNat),
      ("shutdown_timeout_secs", builtInNumber s.server.shutdownTimeoutSecs.toNat)])]

end Settings

end LoginService
