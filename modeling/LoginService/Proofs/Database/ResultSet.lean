import LoginService.Database.ResultSet
import LoginService.Proofs.Except
import LoginService.Proofs.Text.Validity
import Mathlib.Data.List.Forall2

/-!
# What a result set shows

An account is read from a row column by column, and accounts are read from the rows one after
another. `Shows` says which account a row shows without saying how it is read, and the reading gives
the accounts that the rows show, one for each row and in their order, or none at all
(`readRows_ok_iff`).
-/

namespace LoginService

variable {names : List String} {types : List ColumnType} {row : List Cell} {name : String}

/-! ## Columns -/

/-- The column of a name has a type, and in a row it has a cell. Of columns with one name the last
counts. A row in which the column is missing has no value there. -/
def Column (names : List String) (types : List ColumnType) (row : List Cell) (name : String)
    (type : ColumnType) (cell : Cell) : Prop :=
  ∃ before after, names = before ++ name :: after ∧ name ∉ after ∧
    types[before.length]?.getD .varchar = type ∧ row[before.length]?.getD .null = cell

theorem columnIndex?_eq_none : columnIndex? name names = none ↔ name ∉ names := by
  induction names with
  | nil => exact iff_of_true rfl List.not_mem_nil
  | cons n rest ih =>
    rw [columnIndex?, List.mem_cons, not_or, ← ih]
    cases columnIndex? name rest with
    | some i => simp
    | none => simp [eq_comm]

theorem columnIndex?_eq_some {i : Nat} :
    columnIndex? name names = some i ↔
      ∃ before after, names = before ++ name :: after ∧ name ∉ after ∧ before.length = i := by
  induction names generalizing i with
  | nil => exact iff_of_false nofun (by simp)
  | cons n rest ih =>
    rw [columnIndex?]
    constructor
    · intro h
      cases hrest : columnIndex? name rest with
      | some i' =>
        obtain ⟨before, after, hsplit, hlast, rfl⟩ := ih.mp hrest
        rw [hrest] at h
        cases h
        exact ⟨n :: before, after, congrArg (n :: ·) hsplit, hlast, rfl⟩
      | none =>
        simp only [hrest] at h
        split at h
        · next hn =>
          cases h
          exact ⟨[], rest, congrArg (· :: rest) hn, columnIndex?_eq_none.mp hrest, rfl⟩
        · cases h
    · rintro ⟨before, after, hsplit, hlast, rfl⟩
      cases before with
      | nil =>
        cases hsplit
        rw [columnIndex?_eq_none.mpr hlast]
        exact if_pos rfl
      | cons _ before =>
        cases hsplit
        rw [ih.mpr ⟨before, after, rfl, hlast, rfl⟩]
        rfl

theorem findColumn_ok_iff {type : ColumnType} {cell : Cell} :
    findColumn names types row name = .ok (type, cell) ↔ Column names types row name type cell := by
  unfold findColumn
  constructor
  · intro h
    cases hi : columnIndex? name names with
    | none =>
      rw [hi] at h
      cases h
    | some i =>
      rw [hi] at h
      cases h
      obtain ⟨before, after, hsplit, hlast, rfl⟩ := columnIndex?_eq_some.mp hi
      exact ⟨before, after, hsplit, hlast, rfl, rfl⟩
  · rintro ⟨before, after, hsplit, hlast, rfl, rfl⟩
    rw [columnIndex?_eq_some.mpr ⟨before, after, hsplit, hlast, rfl⟩]

/-- A cell of an integer column that holds a number. -/
inductive HoldsInt : ColumnType → Cell → Int64 → Prop
  | mk {type : ColumnType} {cell : Cell} : cell ≠ .null → type = .bigint ∨ type = .int →
      HoldsInt type cell (Int64.ofInt cell.toInt)

/-- A cell of a text column that holds a text. -/
inductive HoldsText : ColumnType → Cell → String → Prop
  | mk {cell : Cell} {s : String} : cell ≠ .null → cell.toBytes = Text.Utf8.encode s.toList →
      HoldsText .varchar cell s

/-- What is read of a column depends on its type and the cell alone. -/
theorem exists_column_iff {P : ColumnType → Cell → Prop} :
    (∃ type cell, Column names types row name type cell ∧ P type cell) ↔
      ∃ column, findColumn names types row name = .ok column ∧ P column.1 column.2 := by
  constructor
  · rintro ⟨type, cell, hcolumn, hp⟩
    exact ⟨(type, cell), findColumn_ok_iff.mpr hcolumn, hp⟩
  · rintro ⟨⟨type, cell⟩, hcolumn, hp⟩
    exact ⟨type, cell, findColumn_ok_iff.mp hcolumn, hp⟩

theorem readIntColumn_ok_iff {i : Int64} :
    readIntColumn names types row name = .ok i ↔
      ∃ type cell, Column names types row name type cell ∧ HoldsInt type cell i := by
  rw [exists_column_iff, readIntColumn, bind_ok_iff]
  refine exists_congr fun ⟨type, cell⟩ => and_congr_right fun _ => ?_
  dsimp only
  constructor
  · intro h
    split at h
    · cases h
    · next hcell =>
      split at h
      · next htype =>
        cases h
        exact .mk hcell htype
      · cases h
  · rintro ⟨hcell, htype⟩
    rw [if_neg hcell, if_pos htype]
    rfl

theorem readTextColumn_ok_iff {s : String} :
    readTextColumn names types row name = .ok s ↔
      ∃ type cell, Column names types row name type cell ∧ HoldsText type cell s := by
  rw [exists_column_iff, readTextColumn, bind_ok_iff]
  refine exists_congr fun ⟨type, cell⟩ => and_congr_right fun _ => ?_
  dsimp only
  constructor
  · intro h
    split at h
    · cases h
    · next hcell =>
      split at h
      · next htype =>
        subst htype
        split at h
        · next cs hcs =>
          cases h
          rw [Text.Utf8.decode_eq_ok_iff] at hcs
          exact .mk hcell (by rw [hcs, String.toList_ofList])
        · cases h
      · cases h
  · rintro ⟨hcell, htext⟩
    rw [if_neg hcell, if_pos rfl, Text.Utf8.decode_eq_ok_iff.mpr htext]
    exact congrArg Except.ok String.ofList_toList

/-! ## Rows -/

/-- The account that a row shows: its four columns hold what the account has. -/
structure Shows (names : List String) (types : List ColumnType) (row : List Cell)
    (u : LoginUser) : Prop where
  id : ∃ type cell, Column names types row "id" type cell ∧ HoldsInt type cell u.id
  department : ∃ type cell, Column names types row "department" type cell ∧
    HoldsText type cell u.department
  purview : ∃ type cell, Column names types row "purview" type cell ∧
    HoldsText type cell u.purview
  logname : ∃ type cell, Column names types row "logname" type cell ∧
    HoldsText type cell u.logname

theorem readRow_ok_iff {u : LoginUser} :
    readRow names types row = .ok u ↔ Shows names types row u := by
  unfold readRow
  simp only [bind_ok_iff, readIntColumn_ok_iff, readTextColumn_ok_iff]
  constructor
  · rintro ⟨i, hid, d, hdepartment, p, hpurview, l, hlogname, ⟨⟩⟩
    exact ⟨hid, hdepartment, hpurview, hlogname⟩
  · rintro ⟨hid, hdepartment, hpurview, hlogname⟩
    exact ⟨u.id, hid, u.department, hdepartment, u.purview, hpurview, u.logname, hlogname, rfl⟩

/-- **Rows are read all or none**: what is read is one account for each row, in their order, that
the row shows. -/
theorem readRows_ok_iff {rows : List (List Cell)} {users : List LoginUser} :
    readRows names types rows = .ok users ↔ List.Forall₂ (Shows names types) rows users := by
  induction rows generalizing users with
  | nil =>
    rw [readRows, List.forall₂_nil_left_iff, Except.ok.injEq, eq_comm]
  | cons row rows ih =>
    rw [readRows, List.forall₂_cons_left_iff]
    simp only [bind_ok_iff, readRow_ok_iff, ih]
    constructor
    · rintro ⟨u, hu, us, hus, ⟨⟩⟩
      exact ⟨u, us, hu, hus, rfl⟩
    · rintro ⟨u, us, hu, hus, rfl⟩
      exact ⟨u, hu, us, hus, rfl⟩

/-- A result set that ends with an error shows nothing, however many rows have arrived. -/
theorem usersUntil_ne_ok {r : ResultSet} {rows : Nat} {e : DatabaseError} {users : List LoginUser} :
    r.usersUntil names rows e ≠ .ok users := by
  unfold ResultSet.usersUntil
  split <;> exact nofun

end LoginService
