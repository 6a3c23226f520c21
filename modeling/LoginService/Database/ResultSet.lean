import LoginService.Account
import LoginService.Database.Error

/-!
# Result sets

What a database server sends for a query, and how a row of it becomes an account. Columns are
found by name and read in a fixed order; the first column that cannot be read decides the error,
and the first row that cannot be read decides that of the whole result set. A result set is taken
as a whole or not at all: one that ends early gives none of the rows that arrived.
-/

namespace LoginService

/-- The type of a column. -/
inductive ColumnType where
  | bigint
  | int
  | double
  | varchar
  deriving DecidableEq, Repr

/-- The name of a column type in messages. -/
def ColumnType.name : ColumnType → String
  | .bigint => "BIGINT"
  | .int => "INT"
  | .double => "DOUBLE"
  | .varchar => "VARCHAR"

/-- A value in a row. -/
inductive Cell where
  | null
  | integer (i : Int)
  | bytes (b : List UInt8)
  /-- A floating point number; no column of an account holds one, so its value is not kept. -/
  | real
  deriving DecidableEq, Repr

/-- The types of the columns, and the rows, as they are sent. -/
structure ResultSet where
  types : List ColumnType
  rows : List (List Cell)
  deriving DecidableEq, Repr

/-- The detail of a NULL where a value is wanted. -/
def unexpectedNull : String := "unexpected null; try decoding as an `Option`"

/-- The detail of a column type that cannot hold the wanted value. -/
def mismatchedTypes (wanted sqlType : String) (actual : ColumnType) : String :=
  s!"mismatched types; Rust type `{wanted}` (as SQL type `{sqlType}`) is not compatible with " ++
    s!"SQL type `{actual.name}`"

/-- The integer that a cell of an integer column holds. -/
def Cell.toInt : Cell → Int
  | .integer i => i
  | _ => 0

/-- The bytes that a cell of a text column holds. -/
def Cell.toBytes : Cell → List UInt8
  | .bytes b => b
  | .integer i => Text.Utf8.bytesOf (toString i)
  | _ => []

/-- The place of a column. Of columns with one name the last counts. -/
def columnIndex? (name : String) : List String → Option Nat
  | [] => none
  | n :: rest =>
    match columnIndex? name rest with
    | some i => some (i + 1)
    | none => if n = name then some 0 else none

/-- The column of a name: its type and the cell of a row. -/
def findColumn (names : List String) (types : List ColumnType) (row : List Cell)
    (name : String) : Except DatabaseError (ColumnType × Cell) :=
  match columnIndex? name names with
  | none => .error (.columnNotFound name)
  | some i => .ok ((types[i]?).getD .varchar, (row[i]?).getD .null)

/-- Read a column that holds an integer. -/
def readIntColumn (names : List String) (types : List ColumnType) (row : List Cell)
    (name : String) : Except DatabaseError Int64 := do
  let (type, cell) ← findColumn names types row name
  if cell = .null then .error (.columnDecode name unexpectedNull)
  else if type = .bigint ∨ type = .int then return Int64.ofInt cell.toInt
  else .error (.columnDecode name (mismatchedTypes "i64" "BIGINT" type))

/-- Read a column that holds text. -/
def readTextColumn (names : List String) (types : List ColumnType) (row : List Cell)
    (name : String) : Except DatabaseError String := do
  let (type, cell) ← findColumn names types row name
  if cell = .null then .error (.columnDecode name unexpectedNull)
  else if type = .varchar then
    match Text.Utf8.decode cell.toBytes with
    | .ok cs => return String.ofList cs
    | .error fault => .error (.columnDecode name fault.message)
  else .error (.columnDecode name (mismatchedTypes "alloc::string::String" "VARCHAR" type))

/-- Read a row as an account. -/
def readRow (names : List String) (types : List ColumnType) (row : List Cell) :
    Except DatabaseError LoginUser := do
  let id ← readIntColumn names types row "id"
  let department ← readTextColumn names types row "department"
  let purview ← readTextColumn names types row "purview"
  let logname ← readTextColumn names types row "logname"
  return ⟨id, department, purview, logname⟩

/-- Read all rows, or fail with the first one that cannot be read. -/
def readRows (names : List String) (types : List ColumnType) :
    List (List Cell) → Except DatabaseError (List LoginUser)
  | [] => .ok []
  | row :: rows => do
    let user ← readRow names types row
    let users ← readRows names types rows
    return user :: users

/-- The accounts of a result set whose columns have the given names. -/
def ResultSet.users (names : List String) (r : ResultSet) :
    Except DatabaseError (List LoginUser) :=
  readRows names r.types r.rows

/-- What is read of a result set that ends with an error after so many rows. -/
def ResultSet.usersUntil (names : List String) (r : ResultSet) (rows : Nat) (e : DatabaseError) :
    Except DatabaseError (List LoginUser) :=
  match readRows names r.types (r.rows.take rows) with
  | .ok _ => .error e
  | .error e' => .error e'

end LoginService
