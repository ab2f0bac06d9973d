import CashLedger.Json.Form

/-!
# Cells and rows

The values that go to the database as parameters and come back in the columns of a row. A
row is read by column name; the order of its columns and surplus ones do not matter.
-/

namespace CashLedger.Sql

inductive Cell where
  | null
  | uuid (uuid : Uuid)
  | int (n : Int64)
  | text (text : String)
  /-- A moment as microseconds from the start of 2000. -/
  | moment (micros : Int)
  | json (json : Json)
  /-- A value of a type that the ledger reads nowhere. -/
  | alien

instance : Inhabited Cell := ⟨.null⟩

/-- Values that a column can hold. -/
class Column (α : Type) where
  toCell : α → Cell
  ofCell? : Cell → Option α

namespace Column

instance {kind : IdKind} : Column (Id kind) where
  toCell id := .uuid id.uuid
  ofCell?
    | .uuid uuid => some ⟨uuid⟩
    | _ => none

instance : Column Int64 where
  toCell := .int
  ofCell?
    | .int n => some n
    | _ => none

instance : Column String where
  toCell := .text
  ofCell?
    | .text text => some text
    | _ => none

/-- A moment is kept to the microsecond. -/
instance : Column Timestamp where
  toCell moment := .moment moment.toMicros
  ofCell?
    | .moment micros => some (.ofMicros micros)
    | _ => none

instance {α : Type} [Column α] : Column (Option α) where
  toCell
    | some value => toCell value
    | none => .null
  ofCell?
    | .null => some none
    | cell => (ofCell? cell).map some

/-- Lists of money are kept as JSON. -/
instance : Column (List Money) where
  toCell monies := .json (Form.write monies)
  ofCell?
    | .json json => Form.read? json
    | _ => none

end Column

abbrev Row := List (String × Cell)

namespace Row

def fault (name : String) : LedgerError :=
  .database (.foreign ("no readable value in column " ++ name))

/-- The value in a column, which has to be there and to have the right type. -/
def read {α : Type} [Column α] (row : Row) (name : String) : Except LedgerError α :=
  match (row.lookup name).bind Column.ofCell? with
  | some value => .ok value
  | none => .error (fault name)

/-- A code from the database is tidied like one from a user. -/
def readCurrency (row : Row) (name : String) : Except LedgerError Currency :=
  (row.read name).map Currency.ofText

end Row

end CashLedger.Sql
