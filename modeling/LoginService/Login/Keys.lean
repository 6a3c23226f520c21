import LoginService.Json.Value
import LoginService.Text.Ascii
import Std.Data.TreeMap

/-!
# Folding the keys of a login request

A client may spell the two field names of a request in any letter case. The members of an object
are first put into a map, which keeps the last of equal keys and orders keys by their bytes; then
every spelling of a field name is renamed to the field name itself. The exact spelling wins over
all others, and among the others the one that is visited last wins.
-/

namespace LoginService.Login

open Json

/-- The members of an object, ordered by key. -/
abbrev Members := Std.TreeMap String Value

/-- The members of an object as a map: the last of equal keys is kept. -/
def Members.ofList (members : List (String × Value)) : Members :=
  members.foldl (fun m member => m.insert member.1 member.2) ∅

/-- The field names of a login request. -/
def fieldNames : List String := ["loginname", "password"]

/-- The field name that a key spells, up to letter case. -/
def fieldName? (key : String) : Option String :=
  fieldNames.find? (fun name => Text.sameIgnoringCase key name)

/-- Members sorted into those whose key is exactly a field name and all others, the latter with
their keys folded. -/
structure Folding where
  exact : Members := ∅
  folded : Members := ∅

/-- Visit one member. -/
def Folding.visit (f : Folding) (key : String) (value : Value) : Folding :=
  match fieldName? key with
  | some name =>
    if key = name then { f with exact := f.exact.insert key value }
    else { f with folded := f.folded.insert name value }
  | none => { f with folded := f.folded.insert key value }

/-- All members, those with an exact key over the others. -/
def Folding.join (f : Folding) : Members :=
  f.exact.foldl (fun m key value => m.insert key value) f.folded

/-- Fold the keys of members that are visited in the given order. -/
def foldVisited (members : List (String × Value)) : Members :=
  (members.foldl (fun (f : Folding) member => f.visit member.1 member.2) {}).join

/-- Fold the keys of a map, visiting them in order. -/
def foldKeys (members : Members) : Members :=
  foldVisited members.toList

end LoginService.Login
